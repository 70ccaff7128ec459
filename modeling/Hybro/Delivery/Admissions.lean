import Hybro.Delivery.SSERules

/-! # Connected rooms are subscribed

Every step of the event loop keeps the invariant of the rooms. So a room with a
registered connection has an open subscription at any time, and once no task is pending
the subscribed rooms are the connected ones.
-/

namespace Hybro.Delivery

open OrderedMap

variable {loses : Bool} {s s' : SSETransport} {task : Nat} {room connectionId : String}
  {lock : Nat} {now : TransportTask}

/-! ## Tasks that ask for a lock or get it -/

theorem enterAdmission_frame :
    (s.enterAdmission task room).1.bus = s.bus ∧
      (s.enterAdmission task room).1.roomConnections = s.roomConnections ∧
      (s.enterAdmission task room).1.roomCleanupTasks = s.roomCleanupTasks ∧
      (s.enterAdmission task room).1.tasks = s.tasks ∧
      (s.enterAdmission task room).1.nextTask = s.nextTask := by
  unfold SSETransport.enterAdmission SSETransport.admissionLock
  cases s.admissionLocks room <;> exact ⟨rfl, rfl, rfl, rfl, rfl⟩

theorem RoomInv.cleanup (h : RoomInv loses none s) {point : CleanupPoint}
    (htask : s.tasks task = .cleanup room point)
    (hnow : now = .cleanup room (.waiting lock) ∨ now = .cleanup room (.admitted lock))
    (hlocks : LockInv s') (hbus : s'.bus = s.bus)
    (hrooms : s'.roomConnections = s.roomConnections)
    (hcleanups : s'.roomCleanupTasks = s.roomCleanupTasks)
    (htasks : s'.tasks = Function.update s.tasks task now) (hnext : s'.nextTask = s.nextTask) :
    RoomInv loses none s' := by
  have hborn : task < s.nextTask := h.born (by rw [htask]; nofun)
  refine h.retask hlocks hbus hrooms hcleanups htasks ?_ ?_ ?_ ?_ ?_
  · intro other hother
    rw [hnext] at hother
    exact ⟨hother, Nat.ne_of_gt (Nat.lt_of_lt_of_le hborn hother)⟩
  · intro other _ hcovers
    rw [htask] at hcovers
    have hroom : room = other := by
      cases point with
      | unsubscribing lock => cases hcovers
      | scheduled => exact hcovers
      | waiting lock => exact hcovers
      | admitted lock => exact hcovers
    rcases hnow with rfl | rfl
    · exact hroom
    · exact hroom
  · intro other _ heq
    rcases hnow with rfl | rfl <;> cases heq
  · intro _ _ _ _ heq
    rcases hnow with rfl | rfl <;> cases heq
  · intro other hother
    rcases h.known other task hother with ⟨old, hcleanup⟩ | hdone
    · rw [htask] at hcleanup
      cases hcleanup
      exact .inl (hnow.elim (fun heq => ⟨_, heq⟩) (fun heq => ⟨_, heq⟩))
    · rw [htask] at hdone
      cases hdone

theorem RoomInv.admission (h : RoomInv loses none s)
    (htask : s.tasks task = .unborn ∨
      ∃ lock, s.tasks task = .admission room connectionId (.waiting lock))
    (hnow : now = .admission room connectionId (.waiting lock) ∨
      now = .admission room connectionId (.admitted lock) ∨ now = .done)
    (hlocks : LockInv s') (hbus : s'.bus = s.bus)
    (hrooms : s'.roomConnections = s.roomConnections)
    (hcleanups : s'.roomCleanupTasks = s.roomCleanupTasks)
    (htasks : s'.tasks = Function.update s.tasks task now)
    (hnext : s.nextTask ≤ s'.nextTask) (hborn : task < s'.nextTask) : RoomInv loses none s' := by
  refine h.retask hlocks hbus hrooms hcleanups htasks ?_ ?_ ?_ ?_ ?_
  · exact fun other hother =>
      ⟨Nat.le_trans hnext hother, Nat.ne_of_gt (Nat.lt_of_lt_of_le hborn hother)⟩
  · intro other _ hcovers
    rcases htask with hunborn | ⟨lock, hwaiting⟩
    · rw [hunborn] at hcovers
      cases hcovers
    · rw [hwaiting] at hcovers
      cases hcovers
  · intro other _ heq
    rcases hnow with rfl | rfl | rfl <;> cases heq
  · intro _ _ _ _ heq
    rcases hnow with rfl | rfl | rfl <;> cases heq
  · intro other hother
    rcases h.known other task hother with ⟨point, hcleanup⟩ | hdone
    · rcases htask with hunborn | ⟨lock, hwaiting⟩
      · rw [hunborn] at hcleanup
        cases hcleanup
      · rw [hwaiting] at hcleanup
        cases hcleanup
    · rcases htask with hunborn | ⟨lock, hwaiting⟩
      · rw [hunborn] at hdone
        cases hdone
      · rw [hwaiting] at hdone
        cases hdone

theorem RoomInv.startCleanup (h : RoomInv loses none s)
    (htask : s.tasks task = .cleanup room .scheduled) :
    RoomInv loses none (s.startCleanup task room) := by
  obtain ⟨hbus, hrooms, hcleanups, htasks, hnext⟩ :=
    @enterAdmission_frame s task room
  unfold SSETransport.startCleanup
  dsimp only
  split
  · next htaken =>
      refine RoomInv.unsubscribeIfEmpty ?_ setTask_self
      refine h.cleanup htask (.inr rfl) (h.locks.enter ?_) hbus hrooms hcleanups
        (congrArg (Function.update · task _) htasks) hnext
      rw [htaken]
      rfl
  · next hqueued =>
      refine h.cleanup htask (.inl rfl) (h.locks.enter ?_) hbus hrooms hcleanups
        (congrArg (Function.update · task _) htasks) hnext
      rw [Bool.not_eq_true] at hqueued
      rw [hqueued]
      rfl

theorem RoomInv.admitConnection (h : RoomInv loses none s) (room connectionId : String) :
    RoomInv loses none (s.admitConnection room connectionId) := by
  have hunborn := h.unborn s.nextTask (Nat.le_refl _)
  have hlocks : LockInv { s with nextTask := s.nextTask + 1 } := h.locks.congr rfl rfl rfl rfl
  obtain ⟨hbus, hrooms, hcleanups, htasks, hnext⟩ :=
    @enterAdmission_frame { s with nextTask := s.nextTask + 1 } s.nextTask room
  have hlast : s.nextTask + 1 =
      ({ s with nextTask := s.nextTask + 1 }.enterAdmission s.nextTask room).1.nextTask :=
    hnext.symm
  unfold SSETransport.admitConnection
  dsimp only
  split
  · refine @RoomInv.admission _ _ _ _ room connectionId 0 _ h (.inl hunborn)
      (.inr (.inr rfl)) (hlocks.setTask ?_) rfl rfl rfl rfl (Nat.le_succ _) (Nat.lt_succ_self _)
    exact (congrArg TransportTask.place hunborn).symm
  · split
    · next htaken =>
        refine RoomInv.admitUnderLock ?_ setTask_self
        refine h.admission (.inl hunborn) (.inr (.inl rfl)) (hlocks.enter ?_) hbus hrooms hcleanups
          (congrArg (Function.update · s.nextTask _) htasks) ?_ ?_
        · rw [htaken]
          rfl
        · exact hlast ▸ Nat.le_succ _
        · exact hlast ▸ Nat.lt_succ_self _
    · next hqueued =>
        refine h.admission (.inl hunborn) (.inl rfl) (hlocks.enter ?_) hbus hrooms hcleanups
          (congrArg (Function.update · s.nextTask _) htasks) ?_ ?_
        · rw [Bool.not_eq_true] at hqueued
          rw [hqueued]
          rfl
        · exact hlast ▸ Nat.le_succ _
        · exact hlast ▸ Nat.lt_succ_self _

theorem RoomInv.wakeWaiter (h : RoomInv loses none s)
    (hwaiting : (∃ room connectionId, s.tasks task = .admission room connectionId (.waiting lock)) ∨
      ∃ room, s.tasks task = .cleanup room (.waiting lock))
    (hwake : (s.lockStates lock).lock.mayWake task) : RoomInv loses none (s.wakeWaiter task) := by
  unfold SSETransport.wakeWaiter
  rcases hwaiting with ⟨room, connectionId, htask⟩ | ⟨room, htask⟩
  · have hplace : (s.tasks task).place = some (room, lock, false) := congrArg _ htask
    simp only [htask]
    refine RoomInv.admitUnderLock ?_ setTask_self
    exact h.admission (.inr ⟨lock, htask⟩) (.inr (.inl rfl)) (h.locks.wake hplace hwake rfl) rfl
      rfl rfl rfl (Nat.le_refl _) (h.born (TransportTask.place_ne_unborn hplace))
  · have hplace : (s.tasks task).place = some (room, lock, false) := congrArg _ htask
    simp only [htask]
    refine RoomInv.unsubscribeIfEmpty ?_ setTask_self
    exact h.cleanup htask (.inr rfl) (h.locks.wake hplace hwake rfl) rfl rfl rfl rfl rfl

/-! ## Connections that go away -/

theorem RoomInv.removeConnections (h : RoomInv loses none s) (room : String)
    (connectionIds : List String) : RoomInv loses none (s.removeConnections room connectionIds) := by
  unfold SSETransport.removeConnections SSETransport.removeConnectionsLocal
  by_cases hconnected : s.roomConnections room = []
  · simp only [if_pos hconnected]
    exact h
  · simp only [if_neg hconnected]
    have halone : ∀ task lock, s.tasks task ≠ .cleanup room (.unsubscribing lock) :=
      fun task lock hother => hconnected (h.emptied task room lock hother)
    have hinv : ∀ left rooms, RoomInv loses (some room) { s with
        roomConnections := Function.update s.roomConnections room left
        connectionRooms := rooms } := fun left rooms =>
      (h.spare room).connect (fun _ => h.connected room hconnected) fun _ => halone
    split
    · exact (hinv _ _).schedule halone
    · next hleft =>
        refine (hinv _ _).cover fun _ hempty => ?_
        have hempty := (Function.update_self _ _ _).symm.trans hempty
        exact absurd (decide_eq_true hempty) hleft

theorem RoomInv.disconnect (h : RoomInv loses none s) (connectionId : String) :
    RoomInv loses none (s.disconnect connectionId) := by
  unfold SSETransport.disconnect
  split
  · exact h
  · exact h.removeConnections _ _

/-! ## Runs -/

theorem TransportStep.keeps (hs : TransportStep loses s s') (h : RoomInv loses none s) :
    RoomInv loses none s' := by
  cases hs with
  | admission room connectionId => exact h.admitConnection room connectionId
  | wake task lock hwaiting hwake => exact h.wakeWaiter hwaiting hwake
  | cancelWaiting task room connectionId lock hwaiting =>
      have hplace : (s.tasks task).place = some (room, lock, false) := congrArg _ hwaiting
      refine h.ends (h.locks.abandonWait hplace) (TransportTask.place_ne_unborn hplace) ?_
      intro other _ hcovers
      rw [hwaiting] at hcovers
      cases hcovers
  | subscribed task room connectionId lock generation hsubscribing hready =>
      have hroom : get s.bus.roomTasks room = some generation := by
        rcases h.awaiting task room connectionId lock generation hsubscribing with
          hroom | hfailed | hcancelled
        · exact hroom
        · rw [hready] at hfailed
          cases hfailed
        · rw [hready] at hcancelled
          cases hcancelled
      exact (h.spare room).register hsubscribing (congrArg TransportTask.place hsubscribing)
        ⟨generation, hroom, hready⟩ connectionId
  | notSubscribed task room connectionId lock generation hsubscribing =>
      exact (h.spare room).refuse hsubscribing (congrArg TransportTask.place hsubscribing)
  | removeConnections room connectionIds => exact h.removeConnections room connectionIds
  | disconnect connectionId => exact h.disconnect connectionId
  | startCleanup task room hscheduled => exact h.startCleanup hscheduled
  | unsubscribed task room lock hunsubscribing =>
      have hplace : (s.tasks task).place = some (room, lock, true) := congrArg _ hunsubscribing
      refine h.ends (h.locks.finishHolder hplace) (TransportTask.place_ne_unborn hplace) ?_
      intro other _ hcovers
      rw [hunsubscribing] at hcovers
      cases hcovers
  | finishRoomCleanup task room hdone =>
      unfold SSETransport.finishRoomCleanup
      split
      · refine { h with locks := h.locks.congr rfl rfl rfl rfl, known := ?_ }
        intro other cleanup hother
        by_cases hsame : other = room
        · subst hsame
          cases (Function.update_self _ _ _).symm.trans hother
        · exact h.known other cleanup ((Function.update_of_ne hsame _ _).symm.trans hother)
      · exact h
  | setDraining draining => exact { h with locks := h.locks.congr rfl rfl rfl rfl }
  | loop bus hloop => exact h.onLoop (hloop.keeps h.bus)

theorem ReachableTransport.inv (h : ReachableTransport loses s) : RoomInv loses none s := by
  induction h with
  | start limit =>
      exact
        { locks := ⟨nofun, nofun, fun _ => rfl, nofun, nofun, nofun⟩
          bus := ⟨fun _ _ => rfl, nofun, nofun⟩
          connected := fun _ hconnected => absurd rfl hconnected
          covered := fun _ _ hget => absurd rfl hget
          emptied := nofun
          awaiting := nofun
          known := nofun
          unborn := fun _ _ => rfl }
  | step _ hs ih => exact hs.keeps ih

/-- At any time every room with a registered connection has an open subscription, which is
active unless its stream was lost and the task is connecting anew. When no task is pending,
the rooms with a subscription, active or not, are the rooms with a connection. -/
theorem connected_rooms_subscribed (h : ReachableTransport loses s) :
    (∀ room, s.roomConnections room ≠ [] → ∃ generation subscription,
      get s.bus.roomTasks room = some generation ∧
      s.bus.generations generation = some subscription ∧
      subscription.conversationId = room ∧ subscription.readiness = .ready ∧
      (get s.bus.activeGenerations room = some generation ∧ subscription.loop = .streaming ∨
        loses = true ∧ (subscription.loop = .subscribing ∨ subscription.loop = .pausing))) ∧
    ((∀ task, (s.tasks task).isPending = false) → ∀ room,
      ((get s.bus.roomTasks room).isSome ↔ s.roomConnections room ≠ []) ∧
      ((get s.bus.activeGenerations room).isSome → s.roomConnections room ≠ []) ∧
      (loses = false → s.roomConnections room ≠ [] →
        (get s.bus.activeGenerations room).isSome)) := by
  have hinv := h.inv
  have hconnected : ∀ room, s.roomConnections room ≠ [] → ∃ generation subscription,
      get s.bus.roomTasks room = some generation ∧
      s.bus.generations generation = some subscription ∧
      subscription.conversationId = room ∧ subscription.readiness = .ready ∧
      (get s.bus.activeGenerations room = some generation ∧ subscription.loop = .streaming ∨
        loses = true ∧ (subscription.loop = .subscribing ∨ subscription.loop = .pausing)) := by
    intro room hroom
    obtain ⟨generation, hget, hready⟩ := hinv.connected room hroom
    obtain ⟨subscription, hfound, hconversation, hwanted⟩ := hinv.bus.wanted room generation hget
    rw [CrossInstanceEventBus.readinessOf_eq hfound] at hready
    have hready := Option.some.inj hready
    refine ⟨generation, subscription, hget, hfound, hconversation, hready, ?_⟩
    cases hwanted with
    | opening hpending hpoint =>
        rw [hready] at hpending
        cases hpending
    | streaming _ hpoint hactive => exact .inl ⟨hactive, hpoint⟩
    | reconnecting _ hloses hpoint => exact .inr ⟨hloses, hpoint⟩
  refine ⟨hconnected, ?_⟩
  intro hquiet room
  have htables : (get s.bus.roomTasks room).isSome → s.roomConnections room ≠ [] := by
    intro hsome hempty
    obtain ⟨task, hcovers⟩ := hinv.covered room nofun (Option.isSome_iff_ne_none.mp hsome) hempty
    have hidle := hquiet task
    cases htask : s.tasks task with
    | unborn =>
        rw [htask] at hcovers
        cases hcovers
    | done =>
        rw [htask] at hcovers
        cases hcovers
    | admission conversationId connectionId point =>
        rw [htask] at hidle
        cases hidle
    | cleanup conversationId point =>
        rw [htask] at hidle
        cases hidle
  refine ⟨⟨htables, ?_⟩, ?_, ?_⟩
  · intro hroom
    obtain ⟨generation, -, hget, -⟩ := hconnected room hroom
    rw [hget]
    rfl
  · intro hactive
    obtain ⟨generation, hget⟩ := Option.isSome_iff_exists.mp hactive
    exact htables (by rw [hinv.bus.active room generation hget]; rfl)
  · intro hkept hroom
    obtain ⟨generation, subscription, -, -, -, -, hactive | ⟨hlost, -⟩⟩ := hconnected room hroom
    · rw [hactive.1]
      rfl
    · rw [hkept] at hlost
      cases hlost

/-- The first connection of a room, admitted once its subscription is open. -/
theorem admitted_room_subscribed : ∃ s, ReachableTransport false s ∧
    s.roomConnections "room" = ["tab"] ∧ (∀ task, (s.tasks task).isPending = false) ∧
    (get s.bus.activeGenerations "room").isSome := by
  have hstart := @ReachableTransport.start false 1
  have hadmitted := hstart.step (.admission "room" "tab")
  have hattempt := hadmitted.step (.loop _ (.nextAttempt 0 { conversationId := "room" } rfl
    (.inl rfl)))
  have hopened := hattempt.step (.loop _ (.opened 0
    { conversationId := "room", loop := .subscribing } rfl rfl))
  have hrun := hopened.step (.subscribed 0 "room" "tab" 0 0 rfl rfl)
  refine ⟨_, hrun, rfl, ?_, ?_⟩
  · intro task
    cases task with
    | zero => rfl
    | succ n => rfl
  · refine ((connected_rooms_subscribed hrun).2 ?_ "room").2.2 rfl (by decide)
    intro task
    cases task with
    | zero => rfl
    | succ n => rfl

end Hybro.Delivery
