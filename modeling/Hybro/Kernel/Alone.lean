import Hybro.Kernel.Declarations

/-! # The kernel running alone

A process that has the Run to itself: the store answers from the stored Run, every
other port from a table of answers and the number of exchanges before.
-/

namespace Hybro.Kernel

open Orchestrator Interleaving

/-! ## The machine -/

/-- The stored Run and the number of exchanges with the other ports. -/
structure Process where
  run : OrchestratorRunState
  exchanges : Nat

def Process.tick (s : Process) : Process := { s with exchanges := s.exchanges + 1 }

@[simp] theorem Process.tick_run (s : Process) : s.tick.run = s.run := rfl

abbrev Answers := (op : KernelOp) → Nat → op.Res

def machine (answers : Answers) : Machine KernelOp KernelOp.Res Process
  | .load, s => (s.run, s)
  | .casMutate candidate expectedStateVersion commandId, s =>
      let reply := casMutateAlone s.run candidate expectedStateVersion commandId
      (reply, { s with run := storedAfter s.run reply })
  | op, s => (answers op s.exchanges, s.tick)

abbrev exec {α : Type} (answers : Answers) (p : KernelM α) (s : Process) :
    Except KernelError α × Process :=
  p.run.eval (machine answers) s

variable {α β : Type} {answers : Answers}

variable {J : OrchestratorRunState → Prop}

/-- What a kernel program returns when it does not raise; the Run keeps `J` all the way. -/
abbrev Yields (answers : Answers) (J : OrchestratorRunState → Prop) (p : KernelM α) (s : Process)
    (Q : α → Process → Prop) : Prop :=
  Returns (machine answers) (fun t => J t.run) p s Q

theorem yields_load {s : Process} {Q : OrchestratorRunState → Process → Prop} (h : Q s.run s) :
    Yields answers J load s Q :=
  Returns.perform id h

theorem yields_port {op : KernelOp} {s : Process} {Q : op.Res → Process → Prop}
    (hport : machine answers op s = (answers op s.exchanges, s.tick))
    (h : Q (answers op s.exchanges) s.tick) : Yields answers J (perform op) s Q := by
  refine Returns.perform ?_ ?_
  · rw [hport]
    exact id
  · rw [hport]
    exact h

theorem exec_bind_ok {p : KernelM α} {f : α → KernelM β} {a : α} {s t : Process}
    (h : exec answers p s = (.ok a, t)) : exec answers (p >>= f) s = exec answers (f a) t := by
  show Prog.eval _ _ _ = _
  rw [eval_run_bind]
  simp only [exec] at h
  rw [h]
  rfl

theorem exec_perform (op : KernelOp) (s : Process) :
    exec answers (perform op) s = (.ok (machine answers op s).1, (machine answers op s).2) := rfl

theorem exec_clockNow_bind (f : Timestamp → KernelM β) (s : Process) :
    exec answers (clockNow >>= f) s = exec answers (f (answers .now s.exchanges)) s.tick := rfl

/-! ## Checkpoints of the loop -/

/-- What a checkpoint of the loop changes: one entry and the two counters. -/
structure LocalChange where
  batchIndex : Nat
  entryIndex : Nat
  entry : ToolBatchEntry
  agentCallsUsed : Nat
  joins : Nat

def LocalChange.apply (change : LocalChange) (run : OrchestratorRunState) : OrchestratorRunState :=
  { withEntry change.batchIndex change.entryIndex change.entry run with
    budget := { run.budget with agentCallsUsed := change.agentCallsUsed }
    consecutiveModelJoins := change.joins }

structure Live (run : OrchestratorRunState) : Prop where
  running : run.status.isSuspended = false
  clock : run.budget.suspendedAt = none

def committed (change : LocalChange) (run : OrchestratorRunState) (now : Timestamp)
    (commandId : CommandId) : OrchestratorRunState :=
  { change.apply run with
    processedCommandIds := run.processedCommandIds ++ [commandId]
    stateVersion := run.stateVersion + 1
    updatedAt := now }

/-- A checkpoint of the Run in `s` that makes a local change. -/
structure LocalCheckpoint (change : LocalChange)
    (updates : OrchestratorRunState → OrchestratorRunState) (s : Process) : Prop where
  live : Live s.run
  updates : updates s.run = change.apply s.run

variable {change : LocalChange} {updates : OrchestratorRunState → OrchestratorRunState}
  {commandId : CommandId} {s : Process}

theorem withCommand_candidate (h : LocalCheckpoint change updates s) (now : Timestamp)
    (hnew : commandId ∉ s.run.processedCommandIds) :
    RunStore.withCommand (checkpointCandidate s.run updates now) commandId =
      committed change s.run now commandId := by
  have hclock : applySuspensionClock (change.apply s.run).budget
      (change.apply s.run).status.isSuspended now = (change.apply s.run).budget := by
    rw [show (change.apply s.run).status.isSuspended = false from h.live.running]
    exact applySuspensionClock_running
      (show (change.apply s.run).budget.suspendedAt = none from h.live.clock) now
  unfold checkpointCandidate RunStore.withCommand
  simp only [h.updates, hclock]
  rw [if_neg (show commandId ∉ (change.apply s.run).processedCommandIds from hnew)]
  rfl

theorem cancellationTransitionAllowed_committed (now : Timestamp) :
    RunStore.cancellationTransitionAllowed s.run (committed change s.run now commandId) = true := by
  unfold RunStore.cancellationTransitionAllowed
  simp only [committed, LocalChange.apply, withEntry, and_self, not_true, and_false, if_false]
  split <;> simp_all

/-- The command is known, the committed Run is invalid, or it is stored. -/
theorem casMutateAlone_local (commandId : CommandId) (h : LocalCheckpoint change updates s)
    (now : Timestamp) {reply : Except String RunStore.MongoRunStoreResult}
    (hreply : casMutateAlone s.run (checkpointCandidate s.run updates now) s.run.stateVersion
      commandId = reply) :
    (commandId ∈ s.run.processedCommandIds ∧ reply = .ok ⟨.replayed, some s.run⟩) ∨
      commandId ∉ s.run.processedCommandIds ∧ ((∃ message, reply = .error message) ∨
        reply = .ok ⟨.accepted, some (committed change s.run now commandId)⟩) := by
  unfold casMutateAlone at hreply
  by_cases hold : commandId ∈ s.run.processedCommandIds
  · rw [if_pos hold] at hreply
    exact .inl ⟨hold, hreply.symm⟩
  · rw [if_neg hold, withCommand_candidate h now hold, if_neg (by simp [checkpointCandidate])]
      at hreply
    refine .inr ⟨hold, ?_⟩
    cases hvalid : modelValidate (committed change s.run now commandId) with
    | error message =>
        rw [hvalid] at hreply
        exact .inl ⟨message, hreply.symm⟩
    | ok _ =>
        simp only [hvalid, cancellationTransitionAllowed_committed, if_true] at hreply
        exact .inr hreply.symm

theorem checkpoint_not_refused (answers : Answers) (commandId : CommandId)
    (h : LocalCheckpoint change updates s) :
    (∃ stored, (exec answers (checkpoint s.run updates commandId) s).1 = .ok stored) ∨
      ∃ message, (exec answers (checkpoint s.run updates commandId) s).1 =
        .error (.invalidValue message) := by
  unfold checkpoint
  rw [exec_clockNow_bind, exec_bind_ok (exec_perform _ _)]
  rcases casMutateAlone_local commandId h (answers .now s.exchanges) rfl with
    ⟨-, hreply⟩ | ⟨-, ⟨message, hreply⟩ | hreply⟩
  all_goals simp only [machine, Process.tick_run, hreply]
  · exact Or.inl ⟨_, rfl⟩
  · exact Or.inr ⟨message, rfl⟩
  · exact Or.inl ⟨_, rfl⟩

/-! ## Entry updates of the loop -/

/-- The change that `_update_entry` makes. -/
def entryChange (run : OrchestratorRunState) (batchIndex entryIndex : Nat)
    (entry : ToolBatchEntry) : LocalChange :=
  ⟨batchIndex, entryIndex, entry, run.budget.agentCallsUsed, run.consecutiveModelJoins⟩

theorem entryChange_checkpoint (hlive : Live s.run) (batchIndex entryIndex : Nat)
    (entry : ToolBatchEntry) :
    LocalCheckpoint (entryChange s.run batchIndex entryIndex entry)
      (withEntry batchIndex entryIndex entry) s :=
  ⟨hlive, rfl⟩

structure Written (change : LocalChange) (commandId : CommandId) (s : Process)
    (run : OrchestratorRunState) (t : Process) : Prop where
  stored : t.run = run
  replayed : commandId ∈ s.run.processedCommandIds → run = s.run
  accepted : commandId ∉ s.run.processedCommandIds →
    ∃ now, run = committed change s.run now commandId

theorem yields_checkpoint (h : LocalCheckpoint change updates s)
    (hkeeps : ∀ now, commandId ∉ s.run.processedCommandIds →
      J (committed change s.run now commandId)) :
    Yields answers J (checkpoint s.run updates commandId) s (Written change commandId s) := by
  unfold checkpoint
  refine Returns.bind (yields_port rfl ?_)
  refine Returns.bind ?_
  rcases casMutateAlone_local commandId h (answers .now s.exchanges) rfl with
    ⟨hold, hreply⟩ | ⟨hnew, ⟨message, hreply⟩ | hreply⟩
  all_goals refine Returns.perform ?_ ?_ <;> simp only [machine, Process.tick_run, hreply]
  · exact id
  · exact .pure ⟨rfl, fun _ => rfl, fun hnew => absurd hold hnew⟩
  · exact id
  · exact .throw _ _ _
  · exact fun _ => hkeeps _ hnew
  · exact .pure ⟨rfl, fun hold => absurd hold hnew, fun _ => ⟨_, rfl⟩⟩

variable {batchIndex entryIndex : Nat} {entry : ToolBatchEntry} {update : EntryUpdate}

theorem yields_entryAt {Q : ToolBatchEntry → Process → Prop}
    (hentry : entryAt? s.run batchIndex entryIndex = some entry) (h : Q entry s) :
    Yields answers J (entryAt s.run batchIndex entryIndex) s Q := by
  unfold entryAt
  rw [hentry]
  exact .pure h

theorem yields_updateEntry (hlive : Live s.run)
    (hentry : entryAt? s.run batchIndex entryIndex = some entry)
    (hkeeps : ∀ now, commandId ∉ s.run.processedCommandIds →
      J (committed (entryChange s.run batchIndex entryIndex (update.apply entry)) s.run now
        commandId)) :
    Yields answers J (updateEntry s.run batchIndex entryIndex update commandId) s
      (Written (entryChange s.run batchIndex entryIndex (update.apply entry)) commandId s) := by
  have hlocal := entryChange_checkpoint hlive batchIndex entryIndex (update.apply entry)
  unfold updateEntry
  refine Returns.bind (yields_entryAt hentry ?_)
  refine Returns.tryCatch (yields_checkpoint hlocal hkeeps) ?_
  intro error t hraised
  change exec answers _ s = _ at hraised
  rcases checkpoint_not_refused answers commandId hlocal with
    ⟨stored, hstored⟩ | ⟨message, hmessage⟩
  · rw [hraised] at hstored
    cases hstored
  · rw [hraised] at hmessage
    cases hmessage
    exact .throw _ _ _

end Hybro.Kernel
