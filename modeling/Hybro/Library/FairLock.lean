import Mathlib.Data.List.Basic

/-! # A lock that is handed on in order

The lock of a cooperative scheduler: a task that finds it free takes it without waiting,
every other task queues, and a lock that is given up goes to the first in the queue. A
task that waits may give up its place.
-/

namespace Hybro

structure FairLock where
  holder : Option Nat := none
  waiters : List Nat := []
  deriving DecidableEq

namespace FairLock

variable {lock : FairLock} {task other : Nat}

/-- The lock after the task has asked for it, and whether it has it at once. -/
def acquire (lock : FairLock) (task : Nat) : FairLock × Bool :=
  if lock.holder = none ∧ lock.waiters = [] then ({ lock with holder := some task }, true)
  else ({ lock with waiters := lock.waiters ++ [task] }, false)

def mayWake (lock : FairLock) (task : Nat) : Prop :=
  lock.holder = none ∧ lock.waiters.head? = some task

instance (lock : FairLock) (task : Nat) : Decidable (lock.mayWake task) :=
  inferInstanceAs (Decidable (_ ∧ _))

def wake (lock : FairLock) (task : Nat) : FairLock where
  holder := some task
  waiters := lock.waiters.tail

def release (lock : FairLock) : FairLock :=
  { lock with holder := none }

def abandon (lock : FairLock) (task : Nat) : FairLock :=
  { lock with waiters := lock.waiters.erase task }

/-- The tasks that hold the lock or wait for it. -/
def size (lock : FairLock) : Nat :=
  lock.waiters.length + if lock.holder.isSome then 1 else 0

theorem size_acquire (lock : FairLock) (task : Nat) :
    (lock.acquire task).1.size = lock.size + 1 := by
  unfold acquire size
  split
  · next hfree => simp [hfree.1, hfree.2]
  · simp
    omega

theorem size_wake (h : lock.mayWake task) : (lock.wake task).size = lock.size := by
  obtain ⟨hfree, hfirst⟩ := h
  cases hwaiters : lock.waiters with
  | nil =>
      rw [hwaiters] at hfirst
      cases hfirst
  | cons first rest => simp [size, wake, hfree, hwaiters]

theorem size_release (h : lock.holder = some task) : lock.release.size + 1 = lock.size := by
  simp [size, release, h]

theorem size_abandon (h : task ∈ lock.waiters) : (lock.abandon task).size + 1 = lock.size := by
  have hpositive := List.length_pos_of_mem h
  have hshorter := List.length_erase_of_mem h
  unfold size abandon
  dsimp only
  omega

theorem holder_acquire (h : (lock.acquire task).2 = true) :
    (lock.acquire task).1.holder = some task := by
  unfold acquire at h ⊢
  split
  · rfl
  · next hbusy =>
      rw [if_neg hbusy] at h
      cases h

theorem mem_waiters_acquire (h : (lock.acquire task).2 = false) :
    task ∈ (lock.acquire task).1.waiters := by
  unfold acquire at h ⊢
  split
  · next hfree =>
      rw [if_pos hfree] at h
      cases h
  · simp

/-- Nobody loses the lock or a place in the queue to a newcomer. -/
theorem holder_acquire_of_held (h : lock.holder = some other) :
    (lock.acquire task).1.holder = some other := by
  unfold acquire
  split
  · next hfree =>
      rw [h] at hfree
      cases hfree.1
  · exact h

theorem mem_waiters_acquire_of_mem (h : other ∈ lock.waiters) :
    other ∈ (lock.acquire task).1.waiters := by
  unfold acquire
  split
  · exact h
  · exact List.mem_append_left _ h

theorem mem_waiters_wake (h : lock.mayWake task) (hmem : other ∈ lock.waiters)
    (hother : other ≠ task) : other ∈ (lock.wake task).waiters := by
  obtain ⟨-, hfirst⟩ := h
  cases hwaiters : lock.waiters with
  | nil =>
      rw [hwaiters] at hmem
      cases hmem
  | cons first rest =>
      rw [hwaiters] at hfirst hmem
      cases hfirst
      have htail : other ∈ rest := by simpa [hother] using hmem
      simpa [wake, hwaiters] using htail

theorem mem_waiters_abandon (h : other ∈ lock.waiters) (hother : other ≠ task) :
    other ∈ (lock.abandon task).waiters :=
  (List.mem_erase_of_ne hother).mpr h

theorem holder_of_size (h : lock.size = 0) : lock.holder = none := by
  unfold size at h
  cases hholder : lock.holder with
  | none => rfl
  | some task => simp [hholder] at h

theorem waiters_of_size (h : lock.size = 0) : lock.waiters = [] := by
  unfold size at h
  exact List.length_eq_zero_iff.mp (by omega)

end FairLock

end Hybro
