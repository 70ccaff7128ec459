import Hybro.Delivery.AdmissionLocks
import Hybro.Delivery.EventBusRules

/-! # What the tasks of the transport keep

A room without connections that is still in the tables of the bus is some task's
business: a cleanup that has not unsubscribed yet, or a first admission. Cleanups are
coalesced, so one that has unsubscribed already must never stand for a later one.
-/

namespace Hybro.Delivery

open OrderedMap

variable {loses : Bool} {s s' : SSETransport} {task other : Nat} {room connectionId : String}
  {lock : Nat} {now : TransportTask} {spared : Option String}

/-- The task will unsubscribe the room if it stays empty, or see to it that another does. -/
def TransportTask.covers (room : String) : TransportTask → Prop
  | .admission conversationId _ (.subscribing _ _) => conversationId = room
  | .cleanup _ (.unsubscribing _) => False
  | .cleanup conversationId _ => conversationId = room
  | _ => False

/-- `spared` is a room that a step has not finished with. -/
structure RoomInv (loses : Bool) (spared : Option String) (s : SSETransport) : Prop where
  locks : LockInv s
  bus : BusInv loses s.bus
  connected : ∀ room, s.roomConnections room ≠ [] → Subscribed s.bus room
  covered : ∀ room, spared ≠ some room → get s.bus.roomTasks room ≠ none →
    s.roomConnections room = [] → ∃ task, (s.tasks task).covers room
  emptied : ∀ task room lock, s.tasks task = .cleanup room (.unsubscribing lock) →
    s.roomConnections room = []
  awaiting : ∀ task room connectionId lock generation,
    s.tasks task = .admission room connectionId (.subscribing lock generation) →
      Awaited s.bus room generation
  known : ∀ room task, s.roomCleanupTasks room = some task →
    (∃ point, s.tasks task = .cleanup room point) ∨ s.tasks task = .done
  unborn : ∀ task, s.nextTask ≤ task → s.tasks task = .unborn

theorem RoomInv.spare (h : RoomInv loses none s) (room : String) :
    RoomInv loses (some room) s :=
  { h with covered := fun other _ => h.covered other nofun }

theorem RoomInv.cover (h : RoomInv loses (some room) s)
    (hcover : get s.bus.roomTasks room ≠ none → s.roomConnections room = [] →
      ∃ task, (s.tasks task).covers room) : RoomInv loses none s := by
  refine { h with covered := ?_ }
  intro other _ hget hempty
  by_cases hother : other = room
  · subst hother
    exact hcover hget hempty
  · exact h.covered other (fun hsame => hother (Option.some.inj hsame).symm) hget hempty

/-! ## What changes at once -/

theorem RoomInv.retask (h : RoomInv loses spared s) (hlocks : LockInv s')
    (hbus : s'.bus = s.bus) (hrooms : s'.roomConnections = s.roomConnections)
    (hcleanups : s'.roomCleanupTasks = s.roomCleanupTasks)
    (htasks : s'.tasks = Function.update s.tasks task now)
    (hborn : ∀ other, s'.nextTask ≤ other → s.nextTask ≤ other ∧ other ≠ task)
    (hcovers : ∀ room, spared ≠ some room → (s.tasks task).covers room → now.covers room)
    (hemptied : ∀ room lock, now = .cleanup room (.unsubscribing lock) →
      s.roomConnections room = [])
    (hawaiting : ∀ room connectionId lock generation,
      now = .admission room connectionId (.subscribing lock generation) →
        Awaited s.bus room generation)
    (hknown : ∀ room, s.roomCleanupTasks room = some task →
      (∃ point, now = .cleanup room point) ∨ now = .done) : RoomInv loses spared s' := by
  have hself : s'.tasks task = now := by rw [htasks, Function.update_self]
  have hothers : ∀ other, other ≠ task → s'.tasks other = s.tasks other := by
    intro other hother
    rw [htasks, Function.update_of_ne hother]
  refine ⟨hlocks, ?_, ?_, ?_, ?_, ?_, ?_, ?_⟩
  · rw [hbus]
    exact h.bus
  · rw [hbus, hrooms]
    exact h.connected
  · intro room hspared hget hempty
    rw [hbus] at hget
    rw [hrooms] at hempty
    obtain ⟨other, hother⟩ := h.covered room hspared hget hempty
    by_cases hsame : other = task
    · subst hsame
      exact ⟨other, hself.symm ▸ hcovers room hspared hother⟩
    · exact ⟨other, (hothers other hsame).symm ▸ hother⟩
  · intro other room lock htask
    rw [hrooms]
    by_cases hsame : other = task
    · rw [hsame, hself] at htask
      exact hemptied room lock htask
    · rw [hothers other hsame] at htask
      exact h.emptied other room lock htask
  · intro other room connectionId lock generation htask
    rw [hbus]
    by_cases hsame : other = task
    · rw [hsame, hself] at htask
      exact hawaiting room connectionId lock generation htask
    · rw [hothers other hsame] at htask
      exact h.awaiting other room connectionId lock generation htask
  · intro room other hother
    rw [hcleanups] at hother
    by_cases hsame : other = task
    · subst hsame
      rw [hself]
      exact hknown room hother
    · rw [hothers other hsame]
      exact h.known room other hother
  · intro other hother
    obtain ⟨hold, hne⟩ := hborn other hother
    rw [hothers other hne]
    exact h.unborn other hold

theorem RoomInv.onBus (h : RoomInv loses (some room) s) {bus : CrossInstanceEventBus}
    (hbus : BusInv loses bus) (hspares : SparesOthers s.bus bus room)
    (hempty : s.roomConnections room = [])
    (halone : ∀ task connectionId lock generation,
      s.tasks task ≠ .admission room connectionId (.subscribing lock generation)) :
    RoomInv loses (some room) { s with bus := bus } where
  locks := h.locks.congr rfl rfl rfl rfl
  bus := hbus
  connected := by
    intro other hconnected
    refine hspares.subscribed other ?_ (h.connected other hconnected)
    rintro rfl
    exact hconnected hempty
  covered := by
    intro other hspared hget
    refine h.covered other hspared fun hnone => hget ?_
    exact hspares.gone other (fun hsame => hspared (congrArg some hsame.symm)) hnone
  emptied := h.emptied
  awaiting := by
    intro task other connectionId lock generation htask
    refine hspares.awaited other generation ?_ (h.awaiting task other _ lock generation htask)
    rintro rfl
    exact halone task connectionId lock generation htask
  known := h.known
  unborn := h.unborn

theorem RoomInv.onLoop (h : RoomInv loses none s) {bus : CrossInstanceEventBus}
    (hkeeps : LoopKeeps loses s.bus bus) : RoomInv loses none { s with bus := bus } where
  locks := h.locks.congr rfl rfl rfl rfl
  bus := hkeeps.inv
  connected := fun room hconnected => hkeeps.subscribed room (h.connected room hconnected)
  covered := fun room hspared hget =>
    h.covered room hspared fun hnone => hget (hkeeps.gone room hnone)
  emptied := h.emptied
  awaiting := fun task room connectionId lock generation htask =>
    hkeeps.awaited room generation (h.awaiting task room connectionId lock generation htask)
  known := h.known
  unborn := h.unborn

theorem RoomInv.connect (h : RoomInv loses (some room) s) {connections : List String}
    {rooms : String → Option String} (hsubscribed : connections ≠ [] → Subscribed s.bus room)
    (halone : connections ≠ [] → ∀ task lock,
      s.tasks task ≠ .cleanup room (.unsubscribing lock)) :
    RoomInv loses (some room) { s with
      roomConnections := Function.update s.roomConnections room connections
      connectionRooms := rooms } := by
  have hself : Function.update s.roomConnections room connections room = connections :=
    Function.update_self _ _ _
  have hothers : ∀ other, other ≠ room →
      Function.update s.roomConnections room connections other = s.roomConnections other :=
    fun other hother => Function.update_of_ne hother _ _
  refine ⟨h.locks.congr rfl rfl rfl rfl, h.bus, ?_, ?_, ?_, h.awaiting, h.known, h.unborn⟩
  · intro other hconnected
    by_cases hother : other = room
    · subst hother
      exact hsubscribed (hself ▸ hconnected)
    · exact h.connected other (hothers other hother ▸ hconnected)
  · intro other hspared hget hempty
    have hother : other ≠ room := fun hsame => hspared (congrArg some hsame.symm)
    exact h.covered other hspared hget (hothers other hother ▸ hempty)
  · intro task other lock htask
    by_cases hother : other = room
    · subst hother
      refine hself.trans ?_
      by_contra hconnected
      exact halone hconnected task lock htask
    · exact (hothers other hother).trans (h.emptied task other lock htask)

/-! ## The end of a task -/

theorem leaveAdmission_frame {left : FairLock} :
    (s.leaveAdmission task room lock left).bus = s.bus ∧
      (s.leaveAdmission task room lock left).roomConnections = s.roomConnections ∧
      (s.leaveAdmission task room lock left).roomCleanupTasks = s.roomCleanupTasks ∧
      (s.leaveAdmission task room lock left).tasks = s.tasks ∧
      (s.leaveAdmission task room lock left).nextTask = s.nextTask := by
  unfold SSETransport.leaveAdmission
  dsimp only
  split <;> exact ⟨rfl, rfl, rfl, rfl, rfl⟩

theorem RoomInv.born (h : RoomInv loses spared s) (htask : s.tasks task ≠ .unborn) :
    task < s.nextTask := by
  by_contra hlate
  exact htask (h.unborn task (Nat.le_of_not_lt hlate))

theorem RoomInv.ends (h : RoomInv loses spared s) {left : FairLock}
    (hlocks : LockInv ((s.leaveAdmission task room lock left).setTask task .done))
    (htask : s.tasks task ≠ .unborn)
    (hcovers : ∀ room, spared ≠ some room → ¬(s.tasks task).covers room) :
    RoomInv loses spared ((s.leaveAdmission task room lock left).setTask task .done) := by
  obtain ⟨hbus, hrooms, hcleanups, htasks, hnext⟩ :=
    @leaveAdmission_frame s task room lock left
  refine @RoomInv.retask _ _ _ task .done _ h hlocks hbus hrooms hcleanups ?_ ?_ ?_ nofun nofun
    (fun _ _ => .inr rfl)
  · exact congrArg (Function.update · task _) htasks
  · intro other hother
    change (s.leaveAdmission task room lock left).nextTask ≤ other at hother
    rw [hnext] at hother
    exact ⟨hother, Nat.ne_of_gt (Nat.lt_of_lt_of_le (h.born htask) hother)⟩
  · exact fun other hspared hcover => absurd hcover (hcovers other hspared)

theorem TransportTask.place_ne_unborn {holds : Bool}
    (h : now.place = some (room, lock, holds)) : now ≠ .unborn := by
  rintro rfl
  cases h

theorem TransportTask.covers_place {room' : String} {holds : Bool}
    (h : now.place = some (room, lock, holds)) (hcovers : now.covers room') : room' = room := by
  cases now with
  | unborn => cases h
  | done => cases h
  | admission conversationId connectionId point =>
      cases point with
      | waiting lock => cases hcovers
      | admitted lock => cases hcovers
      | subscribing lock generation =>
          cases h
          exact hcovers.symm
  | cleanup conversationId point =>
      cases point with
      | scheduled => cases h
      | unsubscribing lock => cases hcovers
      | waiting lock =>
          cases h
          exact hcovers.symm
      | admitted lock =>
          cases h
          exact hcovers.symm

theorem RoomInv.finishHolder (h : RoomInv loses (some room) s)
    (htask : (s.tasks task).place = some (room, lock, true)) :
    RoomInv loses (some room) (s.finishHolder task room lock) :=
  h.ends (h.locks.finishHolder htask) (TransportTask.place_ne_unborn htask)
    fun _ hspared hcovers => hspared (congrArg some (TransportTask.covers_place htask hcovers).symm)

theorem finishHolder_frame :
    (s.finishHolder task room lock).bus = s.bus ∧
      (s.finishHolder task room lock).roomConnections = s.roomConnections ∧
      (s.finishHolder task room lock).tasks = Function.update s.tasks task .done := by
  obtain ⟨hbus, hrooms, -, htasks, -⟩ :=
    @leaveAdmission_frame s task room lock (s.lockStates lock).lock.release
  exact ⟨hbus, hrooms, congrArg (Function.update · task _) htasks⟩

/-! ## Scheduling a cleanup -/

theorem RoomInv.schedule (h : RoomInv loses (some room) s)
    (halone : ∀ task lock, s.tasks task ≠ .cleanup room (.unsubscribing lock)) :
    RoomInv loses none (s.scheduleRoomCleanup room) := by
  unfold SSETransport.scheduleRoomCleanup
  cases hactive : s.activeCleanup room with
  | some task =>
      obtain ⟨hknown, hpending⟩ := Option.filter_eq_some_iff.mp hactive
      refine h.cover fun _ _ => ⟨task, ?_⟩
      rcases h.known room task hknown with ⟨point, htask⟩ | hdone
      · rw [htask]
        cases point with
        | unsubscribing lock => exact absurd htask (halone task lock)
        | scheduled => exact rfl
        | waiting lock => exact rfl
        | admitted lock => exact rfl
      · rw [hdone] at hpending
        cases hpending
  | none =>
      have hunborn := h.unborn s.nextTask (Nat.le_refl _)
      have hold : RoomInv loses (some room) { s.setTask s.nextTask (.cleanup room .scheduled) with
          nextTask := s.nextTask + 1 } := by
        refine @RoomInv.retask _ _ _ s.nextTask (.cleanup room .scheduled) _ h ?_ rfl rfl rfl rfl
          ?_ ?_ nofun nofun ?_
        · refine LockInv.congr (@LockInv.setTask _ s.nextTask (.cleanup room .scheduled) h.locks ?_)
            rfl rfl rfl rfl
          rw [hunborn]
          rfl
        · exact fun other hother => ⟨Nat.le_of_succ_le hother, Nat.ne_of_gt hother⟩
        · intro other _ hcovers
          rw [hunborn] at hcovers
          cases hcovers
        · intro other hother
          rcases h.known other s.nextTask hother with ⟨point, htask⟩ | hdone
          · rw [hunborn] at htask
            cases htask
          · rw [hunborn] at hdone
            cases hdone
      refine @RoomInv.cover _ _ room ?_ fun _ _ => ⟨s.nextTask, ?_⟩
      · refine { hold with locks := hold.locks.congr rfl rfl rfl rfl, known := ?_ }
        intro other task hother
        by_cases hsame : other = room
        · subst hsame
          cases (Function.update_self _ _ _).symm.trans hother
          exact .inl ⟨.scheduled, setTask_self⟩
        · exact hold.known other task ((Function.update_of_ne hsame _ _).symm.trans hother)
      · change ((s.setTask s.nextTask _).tasks s.nextTask).covers room
        rw [setTask_self]
        rfl

/-! ## Under the lock -/

section

variable {point : AdmissionPoint}

theorem RoomInv.no_cleanup (h : RoomInv loses spared s)
    (htask : s.tasks task = .admission room connectionId point)
    (hplace : (s.tasks task).place = some (room, lock, true)) (other other' : Nat) :
    s.tasks other ≠ .cleanup room (.unsubscribing other') := by
  intro hother
  have hsame := h.locks.alone hplace (congrArg TransportTask.place hother)
  subst hsame
  rw [htask] at hother
  cases hother

theorem RoomInv.register (h : RoomInv loses (some room) s)
    (htask : s.tasks task = .admission room connectionId point)
    (hplace : (s.tasks task).place = some (room, lock, true))
    (hsubscribed : Subscribed s.bus room) (newcomer : String) :
    RoomInv loses none (s.register task room newcomer lock) := by
  unfold SSETransport.register
  refine @RoomInv.cover _ _ room (RoomInv.finishHolder ?_ hplace) ?_
  · exact h.connect (fun _ => hsubscribed) fun _ => h.no_cleanup htask hplace
  · intro _ hempty
    rw [finishHolder_frame.2.1] at hempty
    have hempty := (Function.update_self _ _ _).symm.trans hempty
    split at hempty
    · next hmem =>
        rw [hempty] at hmem
        cases hmem
    · simp at hempty

theorem RoomInv.refuse (h : RoomInv loses (some room) s)
    (htask : s.tasks task = .admission room connectionId point)
    (hplace : (s.tasks task).place = some (room, lock, true)) :
    RoomInv loses none (s.refuse task room lock) := by
  refine (h.finishHolder hplace).schedule ?_
  intro other otherLock hother
  rw [finishHolder_frame.2.2] at hother
  by_cases hsame : other = task
  · subst hsame
    cases (Function.update_self _ _ _).symm.trans hother
  · exact h.no_cleanup htask hplace other otherLock
      ((Function.update_of_ne hsame _ _).symm.trans hother)

theorem RoomInv.admitUnderLock (h : RoomInv loses none s)
    (htask : s.tasks task = .admission room connectionId (.admitted lock)) :
    RoomInv loses none (s.admitUnderLock task room connectionId lock) := by
  have hplace : (s.tasks task).place = some (room, lock, true) := congrArg _ htask
  have hborn := TransportTask.place_ne_unborn hplace
  unfold SSETransport.admitUnderLock
  split
  · refine h.ends (h.locks.finishHolder hplace) hborn ?_
    intro other _ hcovers
    rw [htask] at hcovers
    cases hcovers
  · split
    · next hconnected =>
        exact (h.spare room).register htask hplace (h.connected room hconnected) connectionId
    · next hempty =>
        have hempty := not_not.mp hempty
        cases hsubscribe : s.bus.subscribeRoom room with
        | none => exact (h.spare room).refuse htask hplace
        | some subscribed =>
            obtain ⟨bus, generation⟩ := subscribed
            obtain ⟨hbus, hspares, hroom⟩ := subscribeRoom_spec h.bus hsubscribe
            have hinv := (h.spare room).onBus hbus hspares hempty ?_
            · dsimp only
              split
              · next hready => exact hinv.register htask hplace ⟨generation, hroom, hready⟩ _
              · refine @RoomInv.cover _ _ room ?_ fun _ _ => ⟨task, ?_⟩
                · refine @RoomInv.retask _ _ _ task _ _ hinv ?_ rfl rfl rfl rfl ?_ ?_ nofun ?_ ?_
                  · exact hinv.locks.setTask hplace.symm
                  · exact fun other hother =>
                      ⟨hother, Nat.ne_of_gt (Nat.lt_of_lt_of_le (h.born hborn) hother)⟩
                  · intro other _ hcovers
                    rw [show s.tasks task = _ from htask] at hcovers
                    cases hcovers
                  · intro other _ _ _ hnow
                    cases hnow
                    exact .inl hroom
                  · intro other hother
                    rcases h.known other task hother with ⟨point, hcleanup⟩ | hdone
                    · rw [htask] at hcleanup
                      cases hcleanup
                    · rw [htask] at hdone
                      cases hdone
                · rw [setTask_self]
                  rfl
            · intro other otherId otherLock g hother
              have hsame := h.locks.alone hplace (congrArg TransportTask.place hother)
              subst hsame
              rw [htask] at hother
              cases hother

end

theorem RoomInv.unsubscribeIfEmpty (h : RoomInv loses none s)
    (htask : s.tasks task = .cleanup room (.admitted lock)) :
    RoomInv loses none (s.unsubscribeIfEmpty task room lock) := by
  have hplace : (s.tasks task).place = some (room, lock, true) := congrArg _ htask
  have hborn := TransportTask.place_ne_unborn hplace
  unfold SSETransport.unsubscribeIfEmpty
  split
  · next hconnected =>
      refine ((h.spare room).finishHolder hplace).cover fun _ hempty => ?_
      rw [finishHolder_frame.2.1] at hempty
      exact absurd hempty hconnected
  · next hempty =>
      have hempty := not_not.mp hempty
      obtain ⟨hbus, hspares, hgone⟩ := unsubscribeRoom_spec h.bus room
      have hinv := (h.spare room).onBus hbus hspares hempty ?_
      · dsimp only
        split
        · refine @RoomInv.cover _ _ room ?_ fun hget => absurd hgone hget
          refine @RoomInv.retask _ _ _ task _ _ hinv ?_ rfl rfl rfl rfl ?_ ?_ ?_ ?_ ?_
          · exact hinv.locks.setTask hplace.symm
          · exact fun other hother =>
              ⟨hother, Nat.ne_of_gt (Nat.lt_of_lt_of_le (h.born hborn) hother)⟩
          · intro other hspared hcovers
            rw [TransportTask.covers_place hplace hcovers] at hspared
            exact absurd rfl hspared
          · intro other _ hnow
            cases hnow
            exact hempty
          · intro _ _ _ _ hnow
            cases hnow
          · intro other hother
            rcases h.known other task hother with ⟨point, hcleanup⟩ | hdone
            · rw [htask] at hcleanup
              cases hcleanup
              exact .inl ⟨_, rfl⟩
            · rw [htask] at hdone
              cases hdone
        · refine (hinv.finishHolder hplace).cover fun hget => absurd ?_ hget
          rw [finishHolder_frame.1]
          exact hgone
      · intro other otherId otherLock g hother
        have hsame := h.locks.alone hplace (congrArg TransportTask.place hother)
        subst hsame
        rw [htask] at hother
        cases hother

end Hybro.Delivery
