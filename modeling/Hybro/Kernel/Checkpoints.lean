import Hybro.Kernel.Runtime
import Hybro.Orchestrator.BudgetLedger
import Hybro.RunStore.StoreRules

/-! # Runs of checkpoints

The checkpoints of one Run one after the other. A caller hands in the Run as it loaded it,
possibly long ago; the store accepts the checkpoint, answers it from the Run that is there,
or refuses it.
-/

namespace Hybro.Kernel

open Orchestrator RunStore

/-! ## One checkpoint -/

/-- The arguments of `_checkpoint`: `budget` is the entry of that name in the updates, as
the policy computes it from the Run in hand, and `updates` the other entries. -/
structure Checkpoint where
  held : OrchestratorRunState
  now : Timestamp
  budget : List BudgetUpdate := []
  updates : OrchestratorRunState → OrchestratorRunState
  commandId : CommandId

namespace Checkpoint

variable (c : Checkpoint)

def suppliedBudget : Except String BudgetState :=
  c.budget.foldlM (fun budget update => update.apply c.held.profile budget) c.held.budget

def candidate (budget : BudgetState) : OrchestratorRunState :=
  checkpointCandidate c.held (fun run => { c.updates run with budget := budget }) c.now

def reply (current : OrchestratorRunState) : Except String MongoRunStoreResult :=
  match c.suppliedBudget with
  | .error reason => .error reason
  | .ok budget => casMutateAlone current (c.candidate budget) c.held.stateVersion c.commandId

def stored (current : OrchestratorRunState) : OrchestratorRunState :=
  storedAfter current (c.reply current)

end Checkpoint

@[simp] theorem budget_withCommand (run : OrchestratorRunState) (commandId : CommandId) :
    (withCommand run commandId).budget = run.budget := by
  unfold withCommand
  split <;> rfl

@[simp] theorem status_withCommand (run : OrchestratorRunState) (commandId : CommandId) :
    (withCommand run commandId).status = run.status := by
  unfold withCommand
  split <;> rfl

theorem casMutateAlone_accepted {current candidate : OrchestratorRunState} {expected : Nat}
    {commandId : CommandId} {run : Option OrchestratorRunState}
    (h : casMutateAlone current candidate expected commandId = .ok ⟨.accepted, run⟩) :
    commandId ∉ current.processedCommandIds ∧ current.stateVersion = expected ∧
      candidate.stateVersion = expected + 1 ∧
      modelValidate (withCommand candidate commandId) = .ok () ∧
      run = some (withCommand candidate commandId) := by
  unfold casMutateAlone at h
  split at h
  · simp at h
  · next hfresh =>
      split at h
      · simp at h
      · next hversions =>
          simp only [not_or, not_not] at hversions
          split at h
          · cases h
          · next hvalid =>
              split at h
              · have hrun := congrArg MongoRunStoreResult.run (Except.ok.inj h)
                exact ⟨hfresh, hversions.1, hversions.2, hvalid, hrun.symm⟩
              · simp at h

theorem storedAfter_cases (current : OrchestratorRunState)
    (reply : Except String MongoRunStoreResult) :
    (∃ run, reply = .ok ⟨.accepted, some run⟩ ∧ storedAfter current reply = run) ∨
      (∀ run, reply ≠ .ok ⟨.accepted, some run⟩) ∧ storedAfter current reply = current := by
  unfold storedAfter
  split
  · next run => exact Or.inl ⟨run, rfl, rfl⟩
  · next hother => exact Or.inr ⟨fun run heq => hother run heq, rfl⟩

namespace Checkpoint

variable {c : Checkpoint} {current : OrchestratorRunState}

theorem accepted_cases {run : OrchestratorRunState}
    (h : c.reply current = .ok ⟨.accepted, some run⟩) :
    c.commandId ∉ current.processedCommandIds ∧ current.stateVersion = c.held.stateVersion ∧
      ∃ budget, c.suppliedBudget = .ok budget ∧
        run = withCommand (c.candidate budget) c.commandId := by
  unfold reply at h
  cases hbudget : c.suppliedBudget with
  | error reason => simp [hbudget] at h
  | ok budget =>
      simp only [hbudget] at h
      obtain ⟨hfresh, hversion, -, -, hrun⟩ := casMutateAlone_accepted h
      exact ⟨hfresh, hversion, budget, rfl, Option.some.inj hrun⟩

theorem accepted_stateVersion {run : OrchestratorRunState}
    (h : c.reply current = .ok ⟨.accepted, some run⟩) :
    run.stateVersion = current.stateVersion + 1 := by
  obtain ⟨-, hversion, budget, -, rfl⟩ := accepted_cases h
  rw [withCommand_stateVersion, candidate, checkpointCandidate, hversion]

theorem suppliedBudget_clock {budget : BudgetState} (h : c.suppliedBudget = .ok budget) :
    budget.deadlineAt = c.held.budget.deadlineAt ∧
      budget.suspendedAt = c.held.budget.suspendedAt := by
  have hfold : ∀ (updates : List BudgetUpdate) (first : BudgetState),
      updates.foldlM (fun budget update => update.apply c.held.profile budget) first = .ok budget →
      budget.deadlineAt = first.deadlineAt ∧ budget.suspendedAt = first.suspendedAt := by
    intro updates
    induction updates with
    | nil =>
        intro first hfirst
        rw [← Except.ok.inj hfirst]
        exact ⟨rfl, rfl⟩
    | cons update rest ih =>
        intro first hfirst
        rw [List.foldlM_cons] at hfirst
        cases happly : update.apply c.held.profile first with
        | error reason =>
            rw [happly] at hfirst
            cases hfirst
        | ok second =>
            rw [happly] at hfirst
            have hrest := ih second hfirst
            have hclock := BudgetUpdate.apply_clock happly
            exact ⟨hrest.1.trans hclock.1, hrest.2.trans hclock.2⟩
  exact hfold c.budget c.held.budget h

theorem accepted_budget {run : OrchestratorRunState} (hheld : c.held = current)
    (h : c.reply current = .ok ⟨.accepted, some run⟩) :
    ∃ budget, budget.deadlineAt = current.budget.deadlineAt ∧
      budget.suspendedAt = current.budget.suspendedAt ∧
      run.budget = applySuspensionClock budget run.status.isSuspended c.now := by
  obtain ⟨-, -, budget, hbudget, rfl⟩ := accepted_cases h
  obtain ⟨hdeadline, hsuspended⟩ := suppliedBudget_clock hbudget
  rw [hheld] at hdeadline hsuspended
  exact ⟨budget, hdeadline, hsuspended, by simp [candidate, checkpointCandidate]⟩

end Checkpoint

/-! ## Sequences -/

/-- Checkpoints on the Run `start` from time `began` on: the accepted ones with the Run
that each stored, the clock, and the Run in the store. -/
inductive Checkpointed (start : OrchestratorRunState) (began : Timestamp) :
    List (Timestamp × OrchestratorRunState) → Timestamp → OrchestratorRunState → Prop
  | start : Checkpointed start began [] began start
  | accepted {history : List (Timestamp × OrchestratorRunState)} {clock : Timestamp}
      {current run : OrchestratorRunState} (c : Checkpoint)
      (h : Checkpointed start began history clock current)
      (hheld : c.held ∈ start :: history.map (·.2)) (hclock : clock ≤ c.now)
      (hreply : c.reply current = .ok ⟨.accepted, some run⟩) :
      Checkpointed start began (history ++ [(c.now, run)]) c.now run
  | unchanged {history : List (Timestamp × OrchestratorRunState)} {clock : Timestamp}
      {current : OrchestratorRunState} (c : Checkpoint)
      (h : Checkpointed start began history clock current)
      (hheld : c.held ∈ start :: history.map (·.2)) (hclock : clock ≤ c.now)
      (hreply : ∀ run, c.reply current ≠ .ok ⟨.accepted, some run⟩) :
      Checkpointed start began history c.now current

section Sequences

variable {start current : OrchestratorRunState} {began clock : Timestamp}
  {history : List (Timestamp × OrchestratorRunState)}

theorem Checkpointed.newest (h : Checkpointed start began history clock current) :
    ∀ run ∈ start :: history.map (·.2), run = current ∨ run.stateVersion < current.stateVersion := by
  induction h with
  | start => simp
  | accepted c _ hheld hclock hreply ih =>
      intro run hrun
      have hversion := Checkpoint.accepted_stateVersion hreply
      simp only [List.map_append, List.map_cons, List.map_nil] at hrun
      rw [← List.cons_append, List.mem_append, List.mem_singleton] at hrun
      cases hrun with
      | inr heq => exact Or.inl heq
      | inl hold =>
          refine Or.inr ?_
          cases ih run hold with
          | inl heq =>
              rw [heq]
              omega
          | inr hlt => omega
  | unchanged c _ hheld hclock hreply ih => exact ih

theorem Checkpointed.held_eq {c : Checkpoint} {run : OrchestratorRunState}
    (h : Checkpointed start began history clock current)
    (hheld : c.held ∈ start :: history.map (·.2))
    (hreply : c.reply current = .ok ⟨.accepted, some run⟩) : c.held = current := by
  have hversion := (Checkpoint.accepted_cases hreply).2.1
  cases h.newest c.held hheld with
  | inl heq => exact heq
  | inr hlt => omega

/-! ## The deadline clock -/

/-- The finished maximal suspended intervals of a history of checkpoints, each with its
time and whether it left the Run suspended; `since` is where an open interval began. -/
def finishedPauses (since : Option Timestamp) : List (Timestamp × Bool) →
    List (Timestamp × Timestamp)
  | [] => []
  | (now, suspended) :: rest =>
      match since, suspended with
      | none, true => finishedPauses (some now) rest
      | some began, false => (began, now) :: finishedPauses none rest
      | since, _ => finishedPauses since rest

/-- Where the interval began that is still open after the history. -/
def openPause (since : Option Timestamp) : List (Timestamp × Bool) → Option Timestamp
  | [] => since
  | (now, suspended) :: rest =>
      openPause (if suspended then some (since.getD now) else none) rest

def pausedTime (pauses : List (Timestamp × Timestamp)) : Nat :=
  (pauses.map fun (began, ended) => ended - began).sum

def suspensions (history : List (Timestamp × OrchestratorRunState)) : List (Timestamp × Bool) :=
  history.map fun (now, run) => (now, run.status.isSuspended)

theorem openPause_append (entry : Timestamp × Bool) (entries : List (Timestamp × Bool)) :
    ∀ since, openPause since (entries ++ [entry]) =
      if entry.2 then some ((openPause since entries).getD entry.1) else none := by
  induction entries with
  | nil => exact fun since => rfl
  | cons first rest ih => exact fun since => ih _

theorem finishedPauses_append (entry : Timestamp × Bool) (entries : List (Timestamp × Bool)) :
    ∀ since, finishedPauses since (entries ++ [entry]) = finishedPauses since entries ++
      if entry.2 then [] else ((openPause since entries).map (·, entry.1)).toList := by
  obtain ⟨now, suspended⟩ := entry
  induction entries with
  | nil =>
      intro since
      cases since <;> cases suspended <;> rfl
  | cons first rest ih =>
      intro since
      obtain ⟨time, paused⟩ := first
      cases since with
      | none =>
          cases paused with
          | true => exact ih (some time)
          | false => exact ih none
      | some began =>
          cases paused with
          | true => exact ih (some began)
          | false => exact congrArg (List.cons (began, time)) (ih none)

/-- The active time that is left at a moment: it stands still while suspended. -/
def activeTime (budget : BudgetState) (now : Timestamp) : Int :=
  match budget.suspendedAt with
  | none => (budget.deadlineAt : Int) - now
  | some suspendedAt => (budget.deadlineAt : Int) - suspendedAt

/-- The clock is stopped exactly while the status is a suspended one, and was stopped
before now. -/
structure ClockSet (run : OrchestratorRunState) (now : Timestamp) : Prop where
  stopped : run.budget.suspendedAt.isSome = run.status.isSuspended
  before : ∀ suspendedAt, run.budget.suspendedAt = some suspendedAt → suspendedAt ≤ now

theorem ClockSet.later {run : OrchestratorRunState} {now later : Timestamp}
    (h : ClockSet run now) (hlater : now ≤ later) : ClockSet run later :=
  ⟨h.stopped, fun suspendedAt hsuspended => Nat.le_trans (h.before suspendedAt hsuspended) hlater⟩

/-- What a budget owes to the history: where its open interval began, and the time of the
finished ones. -/
structure ClockKept (start current : OrchestratorRunState)
    (history : List (Timestamp × OrchestratorRunState)) (clock : Timestamp) : Prop where
  set : ClockSet current clock
  opened : current.budget.suspendedAt = openPause start.budget.suspendedAt (suspensions history)
  deadline : current.budget.deadlineAt = start.budget.deadlineAt +
    pausedTime (finishedPauses start.budget.suspendedAt (suspensions history))

theorem pausedTime_append (pauses more : List (Timestamp × Timestamp)) :
    pausedTime (pauses ++ more) = pausedTime pauses + pausedTime more := by
  simp [pausedTime]

theorem activeTime_accepted {c : Checkpoint} {run : OrchestratorRunState}
    (hset : ClockSet current c.now) (hheld : c.held = current)
    (hreply : c.reply current = .ok ⟨.accepted, some run⟩) :
    activeTime run.budget c.now = activeTime current.budget c.now := by
  obtain ⟨budget, hdeadline, hsuspended, hbudget⟩ := Checkpoint.accepted_budget hheld hreply
  rw [hbudget]
  unfold activeTime applySuspensionClock
  rw [← hdeadline, ← hsuspended]
  cases hopen : budget.suspendedAt with
  | none =>
      cases run.status.isSuspended with
      | true => simp
      | false => simp [hopen]
  | some suspendedAt =>
      have hbefore : suspendedAt ≤ c.now := hset.before suspendedAt (by rw [← hsuspended, hopen])
      cases run.status.isSuspended with
      | true => simp [hopen]
      | false =>
          simp only [Bool.false_eq_true, if_false, Option.isNone_some, resumedDeadlineAt, hopen]
          have hsum : ∀ deadline now since : Nat, since ≤ now →
              ((deadline + (now - since) : Nat) : Int) - now = (deadline : Int) - since := by
            omega
          exact hsum budget.deadlineAt c.now suspendedAt hbefore

theorem ClockKept.step {c : Checkpoint} {run : OrchestratorRunState}
    (h : ClockKept start current history clock) (hclock : clock ≤ c.now) (hheld : c.held = current)
    (hreply : c.reply current = .ok ⟨.accepted, some run⟩) :
    ClockKept start run (history ++ [(c.now, run)]) c.now := by
  obtain ⟨budget, hdeadline, hsuspended, hbudget⟩ := Checkpoint.accepted_budget hheld hreply
  have hset := h.set.later hclock
  have hstopped : run.budget.suspendedAt.isSome = run.status.isSuspended := by
    rw [hbudget]
    exact applySuspensionClock_suspendedAt budget run.status.isSuspended c.now
  have hhistory : suspensions (history ++ [(c.now, run)]) =
      suspensions history ++ [(c.now, run.status.isSuspended)] := by
    simp [suspensions]
  cases hpaused : run.status.isSuspended with
  | true =>
      have hopened : run.budget.suspendedAt = some (current.budget.suspendedAt.getD c.now) := by
        rw [hbudget, hpaused, applySuspensionClock, if_pos rfl, ← hsuspended]
        cases hopen : budget.suspendedAt with
        | none => simp
        | some suspendedAt => simp [hopen]
      have hsame : run.budget.deadlineAt = current.budget.deadlineAt := by
        rw [hbudget, hpaused, applySuspensionClock, if_pos rfl]
        split <;> exact hdeadline
      refine ⟨⟨hstopped, ?_⟩, ?_, ?_⟩
      · intro suspendedAt hsuspendedAt
        rw [hopened] at hsuspendedAt
        cases hopen : current.budget.suspendedAt with
        | none => simp_all
        | some began =>
            have hbefore := hset.before began hopen
            simp_all
      · rw [hhistory, openPause_append, hpaused, if_pos rfl, hopened, h.opened]
      · rw [hhistory, finishedPauses_append, hpaused, if_pos rfl, List.append_nil, hsame,
          h.deadline]
  | false =>
      have hclosed : run.budget.suspendedAt = none := by
        rw [hpaused] at hstopped
        simpa using hstopped
      refine ⟨⟨hstopped, ?_⟩, ?_, ?_⟩
      · intro suspendedAt hsuspendedAt
        rw [hclosed] at hsuspendedAt
        cases hsuspendedAt
      · rw [hhistory, openPause_append, hpaused, hclosed]
        rfl
      · rw [hhistory, finishedPauses_append, hpaused, if_neg Bool.false_ne_true,
          pausedTime_append, ← h.opened, hbudget, hpaused, applySuspensionClock,
          if_neg Bool.false_ne_true, ← Nat.add_assoc, ← h.deadline]
        cases hopen : current.budget.suspendedAt with
        | none =>
            rw [hopen] at hsuspended
            simp [hsuspended, hdeadline, pausedTime]
        | some began =>
            rw [hopen] at hsuspended
            simp [hsuspended, hdeadline, resumedDeadlineAt, pausedTime]

theorem Checkpointed.clockKept (hstart : ClockSet start began)
    (h : Checkpointed start began history clock current) :
    ClockKept start current history clock := by
  induction h with
  | start => exact ⟨hstart, rfl, rfl⟩
  | accepted c h hheld hclock hreply ih =>
      exact ih.step hclock (h.held_eq hheld hreply) hreply
  | unchanged c h hheld hclock hreply ih => exact ⟨ih.set.later hclock, ih.opened, ih.deadline⟩

theorem activeTime_running {budget : BudgetState} (h : budget.suspendedAt.isSome = false)
    {now later : Timestamp} (hlater : now ≤ later) :
    activeTime budget later ≤ activeTime budget now := by
  have hnone : budget.suspendedAt = none := by simpa using h
  have hfalls : ∀ deadline now later : Nat, now ≤ later →
      (deadline : Int) - later ≤ (deadline : Int) - now := by
    omega
  simp only [activeTime, hnone]
  exact hfalls budget.deadlineAt now later hlater

theorem activeTime_suspended {budget : BudgetState} (h : budget.suspendedAt.isSome = true)
    (now later : Timestamp) : activeTime budget later = activeTime budget now := by
  obtain ⟨suspendedAt, hsome⟩ := Option.isSome_iff_exists.mp h
  simp [activeTime, hsome]

end Sequences

/-! ## A wait -/

def statusCheckpoint (held : OrchestratorRunState) (now : Timestamp) (status : RunStatus)
    (command : String) : Checkpoint where
  held := held
  now := now
  budget := [.toolCalls 1]
  updates := fun run => { run with status := status }
  commandId := ⟨command, []⟩

def waitingCheckpoint : Checkpoint := statusCheckpoint sampleRun 5 .waitingExternal "to-waiting"

def waitingRun : OrchestratorRunState := waitingCheckpoint.stored sampleRun

def awaitingCheckpoint : Checkpoint := statusCheckpoint waitingRun 10 .awaitingUser "to-awaiting"

def awaitingRun : OrchestratorRunState := awaitingCheckpoint.stored waitingRun

def resumingCheckpoint : Checkpoint := statusCheckpoint awaitingRun 30 .running "to-running"

def resumedRun : OrchestratorRunState := resumingCheckpoint.stored awaitingRun

end Hybro.Kernel
