import Hybro.Delivery.EventBus

/-! # What the subscription tasks keep

A room that is in the tables of the bus has a task that has not ended: either nobody has
been told yet whether its subscription opens, or it has been open before.
-/

namespace Hybro.Delivery

open OrderedMap

/-! ## The invariant -/

/-- How the task of a room in the tables stands. -/
inductive Wanted (loses : Bool) (bus : CrossInstanceEventBus) (room : String) (generation : Nat)
    (subscription : RoomSubscription) : Prop
  | opening (hpending : subscription.readiness = .pending)
      (hpoint : subscription.loop = .starting ∨ subscription.loop = .subscribing)
  | streaming (hready : subscription.readiness = .ready) (hpoint : subscription.loop = .streaming)
      (hactive : get bus.activeGenerations room = some generation)
  | reconnecting (hready : subscription.readiness = .ready) (hloses : loses = true)
      (hpoint : subscription.loop = .subscribing ∨ subscription.loop = .pausing)

structure BusInv (loses : Bool) (bus : CrossInstanceEventBus) : Prop where
  fresh : ∀ generation, bus.nextGeneration ≤ generation → bus.generations generation = none
  wanted : ∀ room generation, get bus.roomTasks room = some generation →
    ∃ subscription, bus.generations generation = some subscription ∧
      subscription.conversationId = room ∧ Wanted loses bus room generation subscription
  active : ∀ room generation, get bus.activeGenerations room = some generation →
    get bus.roomTasks room = some generation

def Subscribed (bus : CrossInstanceEventBus) (room : String) : Prop :=
  ∃ generation, get bus.roomTasks room = some generation ∧
    bus.readinessOf generation = some .ready

/-- What somebody who awaits the future of a generation may rely on. -/
def Awaited (bus : CrossInstanceEventBus) (room : String) (generation : Nat) : Prop :=
  get bus.roomTasks room = some generation ∨ bus.readinessOf generation = some .failed ∨
    bus.readinessOf generation = some .cancelled

variable {loses : Bool} {bus bus' bus'' : CrossInstanceEventBus} {room other : String}
  {generation : Nat} {subscription next : RoomSubscription}

theorem CrossInstanceEventBus.readinessOf_eq
    (h : bus.generations generation = some subscription) :
    bus.readinessOf generation = some subscription.readiness := by
  unfold CrossInstanceEventBus.readinessOf
  rw [h]
  rfl

theorem Wanted.of_active (h : Wanted loses bus room generation subscription)
    (hactive : get bus.activeGenerations room = some generation →
      get bus'.activeGenerations room = some generation) :
    Wanted loses bus' room generation subscription := by
  cases h with
  | opening hpending hpoint => exact .opening hpending hpoint
  | streaming hready hpoint hmine => exact .streaming hready hpoint (hactive hmine)
  | reconnecting hready hloses hpoint => exact .reconnecting hready hloses hpoint

theorem BusInv.told (h : BusInv loses bus) (hroom : get bus.roomTasks room = some generation) :
    bus.readinessOf generation = some .pending ∨ bus.readinessOf generation = some .ready := by
  obtain ⟨subscription, hfound, -, hwanted⟩ := h.wanted room generation hroom
  rw [CrossInstanceEventBus.readinessOf_eq hfound]
  cases hwanted with
  | opening hpending hpoint => exact .inl (congrArg some hpending)
  | streaming hready hpoint hactive => exact .inr (congrArg some hready)
  | reconnecting hready hloses hpoint => exact .inr (congrArg some hready)

theorem BusInv.room_eq (h : BusInv loses bus) (hroom : get bus.roomTasks room = some generation)
    (hfound : bus.generations generation = some subscription) :
    subscription.conversationId = room := by
  obtain ⟨same, hsame, hconversation, -⟩ := h.wanted room generation hroom
  rw [hfound] at hsame
  cases hsame
  exact hconversation

theorem BusInv.wanted_of (h : BusInv loses bus)
    (hfound : bus.generations generation = some subscription)
    (hroom : get bus.roomTasks subscription.conversationId = some generation) :
    Wanted loses bus subscription.conversationId generation subscription := by
  obtain ⟨same, hsame, -, hwanted⟩ := h.wanted _ _ hroom
  rw [hfound] at hsame
  cases hsame
  exact hwanted

/-! ## Changing one generation -/

/-- A step that changes one generation and, at most, whether it is the active one. -/
structure Moves (bus bus' : CrossInstanceEventBus) (generation : Nat)
    (subscription next : RoomSubscription) : Prop where
  rooms : bus'.roomTasks = bus.roomTasks
  count : bus'.nextGeneration = bus.nextGeneration
  generations : bus'.generations = Function.update bus.generations generation (some next)
  room : next.conversationId = subscription.conversationId
  active : ∀ room active, get bus.roomTasks room = some active → active ≠ generation →
    get bus.activeGenerations room = some active → get bus'.activeGenerations room = some active
  onlyActive : ∀ room active, get bus'.activeGenerations room = some active →
    get bus.activeGenerations room = some active ∨ get bus.roomTasks room = some active

theorem BusInv.moves (h : BusInv loses bus)
    (hfound : bus.generations generation = some subscription)
    (hmoves : Moves bus bus' generation subscription next)
    (hwanted : get bus.roomTasks subscription.conversationId = some generation →
      Wanted loses bus' subscription.conversationId generation next) : BusInv loses bus' where
  fresh := by
    intro g hg
    rw [hmoves.count] at hg
    have hold := h.fresh g hg
    have hne : g ≠ generation := by
      rintro rfl
      rw [hfound] at hold
      cases hold
    rw [hmoves.generations, Function.update_of_ne hne]
    exact hold
  wanted := by
    intro room g hroom
    rw [hmoves.rooms] at hroom
    obtain ⟨current, hcurrent, hconversation, hpoint⟩ := h.wanted room g hroom
    by_cases hsame : g = generation
    · subst hsame
      rw [hfound] at hcurrent
      cases hcurrent
      refine ⟨next, ?_, hmoves.room.trans hconversation, ?_⟩
      · rw [hmoves.generations, Function.update_self]
      · rw [← hconversation] at hroom ⊢
        exact hwanted hroom
    · refine ⟨current, ?_, hconversation, ?_⟩
      · rw [hmoves.generations, Function.update_of_ne hsame]
        exact hcurrent
      · exact hpoint.of_active (hmoves.active room g hroom hsame)
  active := by
    intro room g hactive
    rw [hmoves.rooms]
    exact (hmoves.onlyActive room g hactive).elim (h.active room g) id

structure LoopKeeps (loses : Bool) (bus bus' : CrossInstanceEventBus) : Prop where
  inv : BusInv loses bus'
  subscribed : ∀ room, Subscribed bus room → Subscribed bus' room
  awaited : ∀ room generation, Awaited bus room generation → Awaited bus' room generation
  gone : ∀ room, get bus.roomTasks room = none → get bus'.roomTasks room = none

theorem Moves.readinessOf_of_ne (h : Moves bus bus' generation subscription next) {g : Nat}
    (hother : g ≠ generation) : bus'.readinessOf g = bus.readinessOf g := by
  unfold CrossInstanceEventBus.readinessOf
  rw [h.generations, Function.update_of_ne hother]

theorem Moves.readinessOf_self (h : Moves bus bus' generation subscription next) :
    bus'.readinessOf generation = some next.readiness := by
  unfold CrossInstanceEventBus.readinessOf
  rw [h.generations, Function.update_self]
  rfl

theorem BusInv.keeps (h : BusInv loses bus)
    (hfound : bus.generations generation = some subscription)
    (hmoves : Moves bus bus' generation subscription next)
    (hwanted : get bus.roomTasks subscription.conversationId = some generation →
      Wanted loses bus' subscription.conversationId generation next)
    (htold : subscription.readiness = .pending ∨ next.readiness = subscription.readiness) :
    LoopKeeps loses bus bus' where
  inv := h.moves hfound hmoves hwanted
  subscribed := by
    rintro room ⟨g, hroom, hready⟩
    refine ⟨g, by rw [hmoves.rooms]; exact hroom, ?_⟩
    by_cases hsame : g = generation
    · subst hsame
      rw [CrossInstanceEventBus.readinessOf_eq hfound] at hready
      rw [hmoves.readinessOf_self]
      rcases htold with hpending | htold
      · rw [hpending] at hready
        cases hready
      · rw [htold]
        exact hready
    · rw [hmoves.readinessOf_of_ne hsame]
      exact hready
  awaited := by
    intro room g hawaited
    unfold Awaited at hawaited ⊢
    rw [hmoves.rooms]
    by_cases hsame : g = generation
    · subst hsame
      rw [CrossInstanceEventBus.readinessOf_eq hfound] at hawaited
      rw [hmoves.readinessOf_self]
      rcases htold with hpending | htold
      · rw [hpending] at hawaited
        exact .inl (by simpa using hawaited)
      · rw [htold]
        exact hawaited
    · rw [hmoves.readinessOf_of_ne hsame]
      exact hawaited
  gone := by
    intro room hnone
    rw [hmoves.rooms]
    exact hnone

/-! ## The tables -/

theorem cleanup_of_ne (h : get bus.roomTasks room ≠ some generation) :
    bus.cleanupRoomSubscription room (some generation) = bus := by
  unfold CrossInstanceEventBus.cleanupRoomSubscription
  cases hroom : get bus.roomTasks room with
  | none => rfl
  | some current =>
      have hother : some generation ≠ some current := fun heq => h (hroom.trans heq.symm)
      exact if_pos ⟨rfl, hother⟩

theorem markChannelInactive_rooms :
    (bus.markChannelInactive room generation).roomTasks = bus.roomTasks := by
  unfold CrossInstanceEventBus.markChannelInactive
  split <;> rfl

theorem markChannelInactive_generations :
    (bus.markChannelInactive room generation).generations = bus.generations := by
  unfold CrossInstanceEventBus.markChannelInactive
  split <;> rfl

theorem markChannelInactive_count :
    (bus.markChannelInactive room generation).nextGeneration = bus.nextGeneration := by
  unfold CrossInstanceEventBus.markChannelInactive
  split <;> rfl

theorem markChannelInactive_active {active : Nat}
    (h : get bus.activeGenerations other = some active) (hne : active ≠ generation) :
    get (bus.markChannelInactive room generation).activeGenerations other = some active := by
  unfold CrossInstanceEventBus.markChannelInactive
  split
  · next hmine =>
      have hother : other ≠ room := by
        rintro rfl
        rw [hmine] at h
        cases h
        exact hne rfl
      exact (get_erase_of_ne hother).trans h
  · exact h

theorem markChannelInactive_only {active : Nat}
    (h : get (bus.markChannelInactive room generation).activeGenerations other = some active) :
    get bus.activeGenerations other = some active ∧ (other = room → active ≠ generation) := by
  unfold CrossInstanceEventBus.markChannelInactive at h
  split at h
  · by_cases hother : other = room
    · subst hother
      rw [show get (erase bus.activeGenerations other) other = none from get_erase_self _ _] at h
      cases h
    · rw [show get (erase bus.activeGenerations room) other = _ from get_erase_of_ne hother] at h
      exact ⟨h, fun hsame => absurd hsame hother⟩
  · next hmine =>
      refine ⟨h, ?_⟩
      rintro rfl rfl
      exact hmine h

theorem moves_inactive (hroom : next.conversationId = subscription.conversationId) :
    Moves bus ((bus.markChannelInactive subscription.conversationId generation).setSubscription
      generation next) generation subscription next where
  rooms := markChannelInactive_rooms
  count := markChannelInactive_count
  generations := by
    unfold CrossInstanceEventBus.setSubscription
    rw [markChannelInactive_generations]
  room := hroom
  active := fun _ _ _ hne hactive => markChannelInactive_active hactive hne
  onlyActive := fun _ _ hactive => .inl (markChannelInactive_only hactive).1

theorem moves_set (hroom : next.conversationId = subscription.conversationId) :
    Moves bus (bus.setSubscription generation next) generation subscription next where
  rooms := rfl
  count := rfl
  generations := rfl
  room := hroom
  active := fun _ _ _ _ hactive => hactive
  onlyActive := fun _ _ hactive => .inl hactive

theorem moves_opened : Moves bus (bus.opened generation subscription) generation subscription
    { subscription with
      readiness := if subscription.readiness = .pending then .ready else subscription.readiness
      loop := .streaming } := by
  unfold CrossInstanceEventBus.opened CrossInstanceEventBus.markChannelActive
  split
  · next hmine =>
      refine ⟨rfl, rfl, rfl, rfl, ?_, ?_⟩
      · intro room active hroom hne hactive
        have hother : room ≠ subscription.conversationId := by
          rintro rfl
          rw [hmine] at hroom
          cases hroom
          exact hne rfl
        exact (get_put_of_ne generation hother).trans hactive
      · intro room active hactive
        by_cases hother : room = subscription.conversationId
        · subst hother
          have hset := (get_put_self _ _ _).symm.trans hactive
          exact .inr (hmine.trans hset)
        · exact .inl ((get_put_of_ne generation hother).symm.trans hactive)
  · exact moves_set rfl

theorem opened_active (h : get bus.roomTasks subscription.conversationId = some generation) :
    get (bus.opened generation subscription).activeGenerations subscription.conversationId =
      some generation := by
  unfold CrossInstanceEventBus.opened CrossInstanceEventBus.markChannelActive
  rw [if_pos h]
  exact get_put_self _ _ _

/-! ## Leaving the tables -/

/-- A step that takes a room and its generation out of the tables. -/
structure Pops (bus bus' : CrossInstanceEventBus) (room : String) (generation : Nat) : Prop where
  rooms : bus'.roomTasks = erase bus.roomTasks room
  count : bus'.nextGeneration = bus.nextGeneration
  known : (bus'.generations generation).isSome = true
  generations : ∀ g, g ≠ generation → bus'.generations g = bus.generations g
  active : ∀ other active, active ≠ generation → get bus.activeGenerations other = some active →
    get bus'.activeGenerations other = some active
  onlyActive : ∀ other active, get bus'.activeGenerations other = some active →
    get bus.activeGenerations other = some active ∧ (other = room → active ≠ generation)

theorem Pops.get_of_ne (h : Pops bus bus' room generation) (hother : other ≠ room) :
    get bus'.roomTasks other = get bus.roomTasks other := by
  rw [h.rooms]
  exact get_erase_of_ne hother

theorem Pops.get_self (h : Pops bus bus' room generation) : get bus'.roomTasks room = none := by
  rw [h.rooms]
  exact get_erase_self _ _

theorem BusInv.generation_ne (h : BusInv loses bus)
    (hroom : get bus.roomTasks room = some generation) {g : Nat}
    (hg : get bus.roomTasks other = some g) (hother : other ≠ room) : g ≠ generation := by
  rintro rfl
  obtain ⟨subscription, hfound, hconversation, -⟩ := h.wanted other g hg
  exact hother (hconversation.symm.trans (h.room_eq hroom hfound))

theorem BusInv.pops (h : BusInv loses bus) (hroom : get bus.roomTasks room = some generation)
    (hpops : Pops bus bus' room generation) : BusInv loses bus' where
  fresh := by
    intro g hg
    rw [hpops.count] at hg
    have hold := h.fresh g hg
    by_cases hsame : g = generation
    · subst hsame
      obtain ⟨subscription, hfound, -⟩ := h.wanted room g hroom
      rw [hfound] at hold
      cases hold
    · rw [hpops.generations g hsame]
      exact hold
  wanted := by
    intro other g hg
    have hother : other ≠ room := by
      rintro rfl
      rw [hpops.get_self] at hg
      cases hg
    rw [hpops.get_of_ne hother] at hg
    have hne := h.generation_ne hroom hg hother
    obtain ⟨subscription, hfound, hconversation, hwanted⟩ := h.wanted other g hg
    exact ⟨subscription, (hpops.generations g hne).trans hfound, hconversation,
      hwanted.of_active (hpops.active other g hne)⟩
  active := by
    intro other active hactive
    obtain ⟨hold, hnot⟩ := hpops.onlyActive other active hactive
    have hget := h.active other active hold
    have hother : other ≠ room := by
      rintro rfl
      rw [hroom] at hget
      exact hnot rfl (Option.some.inj hget).symm
    exact (hpops.get_of_ne hother).trans hget

theorem Pops.readinessOf_of_ne (h : Pops bus bus' room generation) {g : Nat}
    (hother : g ≠ generation) : bus'.readinessOf g = bus.readinessOf g := by
  unfold CrossInstanceEventBus.readinessOf
  rw [h.generations g hother]

theorem BusInv.subscribed_of_pops (h : BusInv loses bus)
    (hroom : get bus.roomTasks room = some generation) (hpops : Pops bus bus' room generation)
    (hother : other ≠ room) (hsubscribed : Subscribed bus other) : Subscribed bus' other := by
  obtain ⟨g, hg, hready⟩ := hsubscribed
  have hne := h.generation_ne hroom hg hother
  exact ⟨g, (hpops.get_of_ne hother).trans hg, (hpops.readinessOf_of_ne hne).trans hready⟩

theorem Pops.gone (h : Pops bus bus' room generation) (hnone : get bus.roomTasks other = none) :
    get bus'.roomTasks other = none := by
  by_cases hother : other = room
  · rw [hother]
    exact h.get_self
  · rw [h.get_of_ne hother]
    exact hnone

theorem readinessOf_cancelReadiness (hfound : bus.generations generation = some subscription) :
    (bus.cancelReadiness generation).readinessOf generation =
      some (if subscription.readiness = .pending then .cancelled else subscription.readiness) := by
  unfold CrossInstanceEventBus.cancelReadiness
  rw [hfound]
  dsimp only
  split
  · simp [CrossInstanceEventBus.readinessOf, CrossInstanceEventBus.setSubscription]
  · exact CrossInstanceEventBus.readinessOf_eq hfound

theorem cancelReadiness_generations {g : Nat} (hother : g ≠ generation) :
    (bus.cancelReadiness generation).generations g = bus.generations g := by
  unfold CrossInstanceEventBus.cancelReadiness
  split
  · split
    · exact Function.update_of_ne hother _ _
    · rfl
  · rfl

theorem cancelReadiness_tables :
    (bus.cancelReadiness generation).roomTasks = bus.roomTasks ∧
      (bus.cancelReadiness generation).nextGeneration = bus.nextGeneration ∧
      (bus.cancelReadiness generation).activeGenerations = bus.activeGenerations := by
  unfold CrossInstanceEventBus.cancelReadiness
  split
  · split <;> exact ⟨rfl, rfl, rfl⟩
  · exact ⟨rfl, rfl, rfl⟩

theorem cleanup_of_eq (hroom : get bus.roomTasks room = some generation) :
    bus.cleanupRoomSubscription room (some generation) =
      { bus.cancelReadiness generation with
        roomTasks := erase (bus.cancelReadiness generation).roomTasks room
        }.markChannelInactive room generation := by
  unfold CrossInstanceEventBus.cleanupRoomSubscription
  rw [hroom]
  simp

theorem readinessOf_cleanup (hfound : bus.generations generation = some subscription)
    (hroom : get bus.roomTasks room = some generation) :
    (bus.cleanupRoomSubscription room (some generation)).readinessOf generation =
      some (if subscription.readiness = .pending then .cancelled else subscription.readiness) := by
  rw [← readinessOf_cancelReadiness hfound, cleanup_of_eq hroom]
  unfold CrossInstanceEventBus.readinessOf
  rw [markChannelInactive_generations]

theorem pops_cleanup (hfound : bus.generations generation = some subscription)
    (hroom : get bus.roomTasks room = some generation) :
    Pops bus (bus.cleanupRoomSubscription room (some generation)) room generation := by
  have htold := readinessOf_cleanup hfound hroom
  obtain ⟨hrooms, hcount, hactive⟩ := @cancelReadiness_tables bus generation
  rw [cleanup_of_eq hroom] at htold ⊢
  refine ⟨?_, ?_, ?_, ?_, ?_, ?_⟩
  · rw [markChannelInactive_rooms, hrooms]
  · rw [markChannelInactive_count]
    exact hcount
  · unfold CrossInstanceEventBus.readinessOf at htold
    obtain ⟨now, hnow, -⟩ := Option.map_eq_some_iff.mp htold
    rw [hnow]
    rfl
  · intro g hg
    rw [markChannelInactive_generations]
    exact cancelReadiness_generations hg
  · intro other active hne hget
    refine markChannelInactive_active ?_ hne
    exact hactive ▸ hget
  · intro other active hget
    obtain ⟨hold, hnot⟩ := markChannelInactive_only hget
    exact ⟨hactive ▸ hold, hnot⟩

/-! ## The operations -/

/-- What an operation on one room leaves to the others. -/
structure SparesOthers (bus bus' : CrossInstanceEventBus) (room : String) : Prop where
  subscribed : ∀ other, other ≠ room → Subscribed bus other → Subscribed bus' other
  awaited : ∀ other generation, other ≠ room → Awaited bus other generation →
    Awaited bus' other generation
  gone : ∀ other, other ≠ room → get bus.roomTasks other = none → get bus'.roomTasks other = none

theorem SparesOthers.refl (bus : CrossInstanceEventBus) (room : String) :
    SparesOthers bus bus room :=
  ⟨fun _ _ h => h, fun _ _ _ h => h, fun _ _ h => h⟩

theorem unsubscribeRoom_spec (h : BusInv loses bus) (room : String) :
    BusInv loses (bus.unsubscribeRoom room) ∧ SparesOthers bus (bus.unsubscribeRoom room) room ∧
      get (bus.unsubscribeRoom room).roomTasks room = none := by
  unfold CrossInstanceEventBus.unsubscribeRoom
  cases hroom : get bus.roomTasks room with
  | none =>
      have hsame : bus.cleanupRoomSubscription room none = bus := by
        unfold CrossInstanceEventBus.cleanupRoomSubscription
        rw [hroom]
      rw [hsame]
      exact ⟨h, .refl bus room, hroom⟩
  | some generation =>
      obtain ⟨subscription, hfound, -⟩ := h.wanted room generation hroom
      have hpops := pops_cleanup hfound hroom
      refine ⟨h.pops hroom hpops, ⟨?_, ?_, ?_⟩, hpops.get_self⟩
      · exact fun other hother => h.subscribed_of_pops hroom hpops hother
      · intro other g hother hawaited
        have hne : g ≠ generation := by
          rintro rfl
          rcases hawaited with hg | hended
          · exact h.generation_ne hroom hg hother rfl
          · rcases h.told hroom with htold | htold <;> simp [htold] at hended
        unfold Awaited at hawaited ⊢
        rw [hpops.readinessOf_of_ne hne, hpops.get_of_ne hother]
        exact hawaited
      · exact fun other _ hnone => hpops.gone hnone

theorem subscribeRoom_spec (h : BusInv loses bus)
    (hsubscribe : bus.subscribeRoom room = some (bus', generation)) :
    BusInv loses bus' ∧ SparesOthers bus bus' room ∧ get bus'.roomTasks room = some generation := by
  unfold CrossInstanceEventBus.subscribeRoom at hsubscribe
  cases hroom : get bus.roomTasks room with
  | some current =>
      rw [hroom] at hsubscribe
      cases hsubscribe
      exact ⟨h, .refl bus room, hroom⟩
  | none =>
      rw [hroom] at hsubscribe
      dsimp only at hsubscribe
      split at hsubscribe
      · cases hsubscribe
      · cases hsubscribe
        have hfresh := h.fresh bus.nextGeneration (Nat.le_refl _)
        have hold : ∀ g subscription, bus.generations g = some subscription →
            Function.update bus.generations bus.nextGeneration
              (some { conversationId := room }) g = some subscription := by
          intro g subscription hfound
          refine (Function.update_of_ne ?_ _ _).trans hfound
          rintro rfl
          rw [hfresh] at hfound
          cases hfound
        refine ⟨⟨?_, ?_, ?_⟩, ⟨?_, ?_, ?_⟩, get_put_self _ _ _⟩
        · intro g hg
          have hne : g ≠ bus.nextGeneration := Nat.ne_of_gt hg
          exact (Function.update_of_ne hne _ _).trans (h.fresh g (Nat.le_of_succ_le hg))
        · intro other g hg
          by_cases hother : other = room
          · subst hother
            cases (get_put_self _ _ _).symm.trans hg
            exact ⟨_, Function.update_self _ _ _, rfl, .opening rfl (.inl rfl)⟩
          · have hbefore := (get_put_of_ne _ hother).symm.trans hg
            obtain ⟨subscription, hfound, hconversation, hwanted⟩ := h.wanted other g hbefore
            exact ⟨subscription, hold g subscription hfound, hconversation,
              hwanted.of_active id⟩
        · intro other g hactive
          have hbefore := h.active other g hactive
          refine (get_put_of_ne _ ?_).trans hbefore
          rintro rfl
          rw [hroom] at hbefore
          cases hbefore
        · rintro other hother ⟨g, hg, hready⟩
          obtain ⟨subscription, hfound, hreadiness⟩ := Option.map_eq_some_iff.mp hready
          refine ⟨g, (get_put_of_ne _ hother).trans hg, ?_⟩
          exact Option.map_eq_some_iff.mpr ⟨subscription, hold g subscription hfound, hreadiness⟩
        · intro other g hother hawaited
          rcases hawaited with hg | hended
          · exact .inl ((get_put_of_ne _ hother).trans hg)
          · refine .inr (hended.imp ?_ ?_) <;>
            · intro htold
              obtain ⟨subscription, hfound, hreadiness⟩ := Option.map_eq_some_iff.mp htold
              exact Option.map_eq_some_iff.mpr
                ⟨subscription, hold g subscription hfound, hreadiness⟩
        · exact fun other hother hnone => (get_put_of_ne _ hother).trans hnone

/-! ## The tasks -/

theorem pops_notOpened (hpending : subscription.readiness = .pending)
    (hroom : get bus.roomTasks subscription.conversationId = some generation) :
    Pops bus (bus.notOpened generation subscription) subscription.conversationId generation ∧
      (bus.notOpened generation subscription).readinessOf generation = some .failed := by
  unfold CrossInstanceEventBus.notOpened
  simp only [if_pos hpending]
  have hmoves : Moves bus _ generation subscription
      { subscription with readiness := .failed, loop := .ended } := moves_inactive rfl
  have hfailed := congrFun hmoves.generations generation
  rw [Function.update_self] at hfailed
  rw [← hmoves.rooms] at hroom
  have hpops := pops_cleanup hfailed hroom
  refine ⟨⟨?_, ?_, hpops.known, ?_, ?_, ?_⟩, readinessOf_cleanup hfailed hroom⟩
  · rw [hpops.rooms, hmoves.rooms]
  · rw [hpops.count, hmoves.count]
  · intro g hg
    rw [hpops.generations g hg, hmoves.generations, Function.update_of_ne hg]
  · intro other active hne hget
    exact hpops.active other active hne (markChannelInactive_active hget hne)
  · intro other active hget
    obtain ⟨hold, hnot⟩ := hpops.onlyActive other active hget
    exact ⟨(markChannelInactive_only hold).1, hnot⟩

theorem BusInv.loopPops (h : BusInv loses bus)
    (hfound : bus.generations generation = some subscription)
    (hpending : subscription.readiness = .pending)
    (hroom : get bus.roomTasks room = some generation) (hpops : Pops bus bus' room generation)
    (htold : bus'.readinessOf generation = some .failed ∨
      bus'.readinessOf generation = some .cancelled) : LoopKeeps loses bus bus' where
  inv := h.pops hroom hpops
  subscribed := by
    intro other hsubscribed
    refine h.subscribed_of_pops hroom hpops ?_ hsubscribed
    rintro rfl
    obtain ⟨g, hg, hready⟩ := hsubscribed
    rw [hroom] at hg
    cases hg
    rw [CrossInstanceEventBus.readinessOf_eq hfound, hpending] at hready
    cases hready
  awaited := by
    intro other g hawaited
    by_cases hsame : g = generation
    · subst hsame
      exact .inr htold
    · have hkept := hpops.readinessOf_of_ne hsame
      unfold Awaited at hawaited ⊢
      rw [hkept]
      refine hawaited.imp_left fun hg => ?_
      have hother : other ≠ room := by
        rintro rfl
        rw [hroom] at hg
        exact hsame (Option.some.inj hg).symm
      exact (hpops.get_of_ne hother).trans hg
  gone := fun _ hnone => hpops.gone hnone

theorem LoopStep.keeps (hstep : LoopStep loses bus bus') (h : BusInv loses bus) :
    LoopKeeps loses bus bus' := by
  cases hstep with
  | nextAttempt generation subscription hfound hpoint =>
      unfold CrossInstanceEventBus.nextAttempt
      split
      · refine h.keeps hfound (moves_set rfl) ?_ (.inr rfl)
        intro hroom
        cases h.wanted_of hfound hroom with
        | opening hpending => exact .opening hpending (.inr rfl)
        | streaming hready hstreaming => simp [hstreaming] at hpoint
        | reconnecting hready hloses => exact .reconnecting hready hloses (.inl rfl)
      · next hgone =>
          split
          · next hpending =>
              have hfailed : get (bus.setSubscription generation
                  { subscription with readiness := .failed, loop := .ended }).roomTasks
                    subscription.conversationId ≠ some generation := hgone
              rw [cleanup_of_ne hfailed]
              exact h.keeps hfound (moves_set rfl) (fun hroom => absurd hroom hgone) (.inl hpending)
          · exact h.keeps hfound (moves_set rfl) (fun hroom => absurd hroom hgone) (.inr rfl)
  | opened generation subscription hfound hpoint =>
      refine h.keeps hfound moves_opened ?_ ?_
      · intro hroom
        refine .streaming ?_ rfl (opened_active hroom)
        cases h.wanted_of hfound hroom with
        | opening hpending => exact if_pos hpending
        | streaming hready => simp [hready]
        | reconnecting hready => simp [hready]
      · by_cases hpending : subscription.readiness = .pending
        · exact .inl hpending
        · exact .inr (if_neg hpending)
  | notOpened generation subscription hfound hpoint =>
      by_cases hpending : subscription.readiness = .pending
      · by_cases hroom : get bus.roomTasks subscription.conversationId = some generation
        · obtain ⟨hpops, hfailed⟩ := pops_notOpened hpending hroom
          exact h.loopPops hfound hpending hroom hpops (.inl hfailed)
        · unfold CrossInstanceEventBus.notOpened
          simp only [if_pos hpending]
          have hfailed : get ((bus.markChannelInactive subscription.conversationId
              generation).setSubscription generation
                { subscription with readiness := .failed, loop := .ended }).roomTasks
                  subscription.conversationId ≠ some generation := by
            change get (bus.markChannelInactive _ _).roomTasks _ ≠ _
            rw [markChannelInactive_rooms]
            exact hroom
          rw [cleanup_of_ne hfailed]
          exact h.keeps hfound (moves_inactive rfl) (fun hwanted => absurd hwanted hroom)
            (.inl hpending)
      · unfold CrossInstanceEventBus.notOpened
        simp only [if_neg hpending]
        refine h.keeps hfound (moves_inactive rfl) ?_ (.inr rfl)
        intro hroom
        cases h.wanted_of hfound hroom with
        | opening hpending' => exact absurd hpending' hpending
        | streaming hready hstreaming => simp [hpoint] at hstreaming
        | reconnecting hready hloses => exact .reconnecting hready hloses (.inr rfl)
  | streamLost generation subscription hfound hpoint hloses =>
      refine h.keeps hfound (moves_inactive rfl) ?_ (.inr rfl)
      intro hroom
      cases h.wanted_of hfound hroom with
      | opening hpending hopening => simp [hpoint] at hopening
      | streaming hready => exact .reconnecting hready hloses (.inr rfl)
      | reconnecting hready => exact .reconnecting hready hloses (.inr rfl)
  | cancelled generation subscription hfound hgone =>
      exact h.keeps hfound (moves_inactive rfl) (fun hroom => absurd hroom hgone) (.inr rfl)

end Hybro.Delivery
