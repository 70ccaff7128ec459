import Hybro.Delivery.SSEManager

/-! # The admission locks

At any time each room has at most one lock object that tasks use, although lock objects
are dropped when they are idle. So the tasks of one room exclude each other.
-/

namespace Hybro.Delivery

variable {s : SSETransport} {task other : Nat} {room connectionId : String} {lock : Nat}
  {now : TransportTask}

/-- The room and the lock that a task uses, and whether it holds the lock. -/
def TransportTask.place : TransportTask → Option (String × Nat × Bool)
  | .admission room _ (.waiting lock) => some (room, lock, false)
  | .admission room _ (.admitted lock) => some (room, lock, true)
  | .admission room _ (.subscribing lock _) => some (room, lock, true)
  | .cleanup room (.waiting lock) => some (room, lock, false)
  | .cleanup room (.admitted lock) => some (room, lock, true)
  | .cleanup room (.unsubscribing lock) => some (room, lock, true)
  | _ => none

structure LockInv (s : SSETransport) : Prop where
  fresh : ∀ room lock, s.admissionLocks room = some lock → lock < s.nextLock
  distinct : ∀ room other lock, s.admissionLocks room = some lock →
    s.admissionLocks other = some lock → room = other
  users : ∀ lock, (s.lockStates lock).users = (s.lockStates lock).lock.size
  current : ∀ task room lock holds, (s.tasks task).place = some (room, lock, holds) →
    s.admissionLocks room = some lock
  holds : ∀ task room lock, (s.tasks task).place = some (room, lock, true) →
    (s.lockStates lock).lock.holder = some task
  waits : ∀ task room lock, (s.tasks task).place = some (room, lock, false) →
    task ∈ (s.lockStates lock).lock.waiters

theorem LockInv.alone (h : LockInv s) {lock' : Nat}
    (htask : (s.tasks task).place = some (room, lock, true))
    (hother : (s.tasks other).place = some (room, lock', true)) : other = task := by
  have hlock := (h.current task room lock true htask).symm.trans (h.current other _ _ _ hother)
  cases hlock
  have hsame := (h.holds task room lock htask).symm.trans (h.holds other room lock hother)
  exact (Option.some.inj hsame).symm

theorem LockInv.congr (h : LockInv s) {s' : SSETransport} (hlocks : s'.lockStates = s.lockStates)
    (hnext : s'.nextLock = s.nextLock) (hadmission : s'.admissionLocks = s.admissionLocks)
    (htasks : s'.tasks = s.tasks) : LockInv s' := by
  obtain ⟨hfresh, hdistinct, husers, hcurrent, hholds, hwaits⟩ := h
  constructor <;> simp only [hadmission, hlocks, hnext, htasks] <;> assumption

@[simp] theorem setTask_self : (s.setTask task now).tasks task = now :=
  Function.update_self _ _ _

theorem setTask_of_ne (hother : other ≠ task) :
    (s.setTask task now).tasks other = s.tasks other :=
  Function.update_of_ne hother _ _

theorem LockInv.setTask (h : LockInv s) (hplace : now.place = (s.tasks task).place) :
    LockInv (s.setTask task now) := by
  have hsame : ∀ other, ((s.setTask task now).tasks other).place = (s.tasks other).place := by
    intro other
    by_cases hother : other = task
    · rw [hother, setTask_self, hplace]
    · rw [setTask_of_ne hother]
  refine ⟨h.fresh, h.distinct, h.users, ?_, ?_, ?_⟩
  · intro other room lock holds
    rw [hsame]
    exact h.current other room lock holds
  · intro other room lock
    rw [hsame]
    exact h.holds other room lock
  · intro other room lock
    rw [hsame]
    exact h.waits other room lock

/-! ## One lock changes -/

theorem LockInv.setLock (h : LockInv s) {state : AdmissionLockState}
    (husers : state.users = state.lock.size)
    (hplace : ∀ room other holds, now.place = some (room, other, holds) →
      other = lock ∧ s.admissionLocks room = some lock ∧
        (if holds then state.lock.holder = some task else task ∈ state.lock.waiters))
    (hholder : ∀ other, other ≠ task → (s.lockStates lock).lock.holder = some other →
      state.lock.holder = some other)
    (hwaiters : ∀ other, other ≠ task → other ∈ (s.lockStates lock).lock.waiters →
      other ∈ state.lock.waiters) : LockInv ((s.setLock lock state).setTask task now) := by
  have hlocks : ∀ other, other ≠ lock →
      ((s.setLock lock state).setTask task now).lockStates other = s.lockStates other :=
    fun other hother => Function.update_of_ne hother _ _
  have hself : ((s.setLock lock state).setTask task now).lockStates lock = state :=
    Function.update_self _ _ _
  have htasks : ∀ other, other ≠ task →
      ((s.setLock lock state).setTask task now).tasks other = s.tasks other :=
    fun other hother => setTask_of_ne hother
  refine ⟨h.fresh, h.distinct, ?_, ?_, ?_, ?_⟩
  · intro other
    by_cases hother : other = lock
    · rw [hother, hself, husers]
    · rw [hlocks other hother, h.users]
  · intro other room used holds hused
    by_cases hother : other = task
    · subst hother
      rw [setTask_self] at hused
      obtain ⟨rfl, hroom, -⟩ := hplace room used holds hused
      exact hroom
    · rw [htasks other hother] at hused
      exact h.current other room used holds hused
  · intro other room used hused
    by_cases hother : other = task
    · subst hother
      rw [setTask_self] at hused
      obtain ⟨rfl, -, hheld⟩ := hplace room used true hused
      rw [hself]
      exact hheld
    · rw [htasks other hother] at hused
      have hheld := h.holds other room used hused
      by_cases hlock : used = lock
      · subst hlock
        rw [hself]
        exact hholder other hother hheld
      · rw [hlocks used hlock]
        exact hheld
  · intro other room used hused
    by_cases hother : other = task
    · subst hother
      rw [setTask_self] at hused
      obtain ⟨rfl, -, hqueued⟩ := hplace room used false hused
      rw [hself]
      exact hqueued
    · rw [htasks other hother] at hused
      have hqueued := h.waits other room used hused
      by_cases hlock : used = lock
      · subst hlock
        rw [hself]
        exact hwaiters other hother hqueued
      · rw [hlocks used hlock]
        exact hqueued

/-! ## Entering -/

theorem LockInv.admissionLock (h : LockInv s) (room : String) :
    LockInv (s.admissionLock room).1 ∧
      (s.admissionLock room).1.admissionLocks room = some (s.admissionLock room).2 ∧
      (s.admissionLock room).1.tasks = s.tasks := by
  unfold SSETransport.admissionLock
  cases hroom : s.admissionLocks room with
  | some lock => exact ⟨h, hroom, rfl⟩
  | none =>
      dsimp only
      have hnew : ∀ room lock, s.admissionLocks room = some lock → lock ≠ s.nextLock :=
        fun room lock hlock => Nat.ne_of_lt (h.fresh room lock hlock)
      have hlocks : ∀ lock, lock ≠ s.nextLock →
          (s.setLock s.nextLock {}).lockStates lock = s.lockStates lock :=
        fun lock hlock => Function.update_of_ne hlock _ _
      refine ⟨⟨?_, ?_, ?_, ?_, ?_, ?_⟩, Function.update_self _ _ _, rfl⟩
      · intro other lock hlock
        by_cases hother : other = room
        · subst hother
          cases (Function.update_self _ _ _).symm.trans hlock
          exact Nat.lt_succ_self _
        · have hold := (Function.update_of_ne hother _ _).symm.trans hlock
          exact Nat.lt_succ_of_lt (h.fresh other lock hold)
      · intro first second lock hfirst hsecond
        by_cases hone : first = room <;> by_cases htwo : second = room
        · rw [hone, htwo]
        · subst hone
          cases (Function.update_self _ _ _).symm.trans hfirst
          exact absurd rfl (hnew second _ ((Function.update_of_ne htwo _ _).symm.trans hsecond))
        · subst htwo
          cases (Function.update_self _ _ _).symm.trans hsecond
          exact absurd rfl (hnew first _ ((Function.update_of_ne hone _ _).symm.trans hfirst))
        · exact h.distinct first second lock ((Function.update_of_ne hone _ _).symm.trans hfirst)
            ((Function.update_of_ne htwo _ _).symm.trans hsecond)
      · intro lock
        by_cases hlock : lock = s.nextLock
        · subst hlock
          simp [SSETransport.setLock, FairLock.size]
        · change ((s.setLock s.nextLock {}).lockStates lock).users = _
          rw [hlocks lock hlock]
          exact h.users lock
      · intro task other lock holds hplace
        have hold := h.current task other lock holds hplace
        refine (Function.update_of_ne ?_ _ _).trans hold
        rintro rfl
        rw [hroom] at hold
        cases hold
      · intro task other lock hplace
        have hne := hnew other lock (h.current task other lock true hplace)
        change ((s.setLock s.nextLock {}).lockStates lock).lock.holder = some task
        rw [hlocks lock hne]
        exact h.holds task other lock hplace
      · intro task other lock hplace
        have hne := hnew other lock (h.current task other lock false hplace)
        change task ∈ ((s.setLock s.nextLock {}).lockStates lock).lock.waiters
        rw [hlocks lock hne]
        exact h.waits task other lock hplace

theorem LockInv.enter (h : LockInv s)
    (hplace : now.place = some (room, (s.enterAdmission task room).2.1,
      (s.enterAdmission task room).2.2)) :
    LockInv ((s.enterAdmission task room).1.setTask task now) := by
  obtain ⟨hinv, hroom, -⟩ := h.admissionLock room
  unfold SSETransport.enterAdmission at hplace ⊢
  dsimp only at hplace ⊢
  refine hinv.setLock ?_ ?_ ?_ ?_
  · rw [FairLock.size_acquire]
    exact congrArg (· + 1) (hinv.users _)
  · intro used lock holds hused
    rw [hplace] at hused
    cases hused
    refine ⟨rfl, hroom, ?_⟩
    split
    · next htaken => exact FairLock.holder_acquire htaken
    · next hqueued => exact FairLock.mem_waiters_acquire (Bool.not_eq_true _ ▸ hqueued)
  · exact fun _ _ => FairLock.holder_acquire_of_held
  · exact fun _ _ => FairLock.mem_waiters_acquire_of_mem

theorem LockInv.wake (h : LockInv s) (htask : (s.tasks task).place = some (room, lock, false))
    (hwake : (s.lockStates lock).lock.mayWake task) (hnow : now.place = some (room, lock, true)) :
    LockInv ((s.setLock lock { s.lockStates lock with
      lock := (s.lockStates lock).lock.wake task }).setTask task now) := by
  refine h.setLock ?_ ?_ ?_ ?_
  · exact (h.users lock).trans (FairLock.size_wake hwake).symm
  · intro used other holds hused
    rw [hnow] at hused
    cases hused
    exact ⟨rfl, h.current task _ _ _ htask, rfl⟩
  · intro other _ hheld
    rw [hwake.1] at hheld
    cases hheld
  · exact fun other hother hmem => FairLock.mem_waiters_wake hwake hmem hother

/-! ## Leaving -/

theorem LockInv.leave (h : LockInv s) {holds : Bool} {left : FairLock}
    (htask : (s.tasks task).place = some (room, lock, holds))
    (hsize : left.size + 1 = (s.lockStates lock).lock.size)
    (hholder : ∀ other, other ≠ task → (s.lockStates lock).lock.holder = some other →
      left.holder = some other)
    (hwaiters : ∀ other, other ≠ task → other ∈ (s.lockStates lock).lock.waiters →
      other ∈ left.waiters) (hnow : now.place = none) :
    LockInv ((s.leaveAdmission task room lock left).setTask task now) := by
  have husers := h.users lock
  have hinv : LockInv ((s.setLock lock
      { lock := left, users := (s.lockStates lock).users - 1 }).setTask task now) := by
    refine h.setLock ?_ ?_ hholder hwaiters
    · change (s.lockStates lock).users - 1 = left.size
      omega
    · intro used other holds hused
      rw [hnow] at hused
      cases hused
  unfold SSETransport.leaveAdmission
  dsimp only
  split
  · next hidle =>
      have hfree : left.size = 0 := by omega
      refine ⟨?_, ?_, hinv.users, ?_, hinv.holds, hinv.waits⟩
      · intro other used hused
        by_cases hother : other = room
        · subst hother
          cases (Function.update_self _ _ _).symm.trans hused
        · exact h.fresh other used ((Function.update_of_ne hother _ _).symm.trans hused)
      · intro first second used hfirst hsecond
        by_cases hone : first = room
        · subst hone
          cases (Function.update_self _ _ _).symm.trans hfirst
        · by_cases htwo : second = room
          · subst htwo
            cases (Function.update_self _ _ _).symm.trans hsecond
          · exact h.distinct first second used
              ((Function.update_of_ne hone _ _).symm.trans hfirst)
              ((Function.update_of_ne htwo _ _).symm.trans hsecond)
      · intro other used usedLock holds hused
        have hcurrent := hinv.current other used usedLock holds hused
        refine (Function.update_of_ne ?_ _ _).trans hcurrent
        rintro rfl
        have hsame : usedLock = lock :=
          Option.some.inj (hcurrent.symm.trans (h.current task _ _ _ htask))
        subst hsame
        cases holds with
        | true =>
            have hheld := hinv.holds other _ _ hused
            rw [show ((s.setLock usedLock _).setTask task now).lockStates usedLock = _ from
              Function.update_self _ _ _, FairLock.holder_of_size hfree] at hheld
            cases hheld
        | false =>
            have hqueued := hinv.waits other _ _ hused
            rw [show ((s.setLock usedLock _).setTask task now).lockStates usedLock = _ from
              Function.update_self _ _ _, FairLock.waiters_of_size hfree] at hqueued
            cases hqueued
  · exact hinv

theorem LockInv.finishHolder (h : LockInv s)
    (htask : (s.tasks task).place = some (room, lock, true)) :
    LockInv (s.finishHolder task room lock) := by
  have hheld := h.holds task room lock htask
  refine h.leave htask (FairLock.size_release hheld) ?_ ?_ rfl
  · intro other hother hholder
    rw [hheld] at hholder
    exact absurd (Option.some.inj hholder).symm hother
  · exact fun _ _ hmem => hmem

theorem LockInv.abandonWait (h : LockInv s)
    (htask : (s.tasks task).place = some (room, lock, false)) :
    LockInv (s.abandonWait task room lock) := by
  refine h.leave htask (FairLock.size_abandon (h.waits task room lock htask)) ?_ ?_ rfl
  · exact fun _ _ hheld => hheld
  · exact fun other hother hmem => FairLock.mem_waiters_abandon hmem hother

end Hybro.Delivery
