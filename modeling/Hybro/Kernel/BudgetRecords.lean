import Hybro.Kernel.Checkpoints

/-! # What the kernel records in a budget

Provider attempts, kernel retries, usage snapshots, Assistant turns and compactions of one
Run, each through a checkpoint of its own. A checkpoint whose command was processed before
changes nothing.
-/

namespace Hybro.Kernel

open Orchestrator RunStore

/-! ## Events -/

inductive BudgetEvent
  | turnStarted (turnId messageId : String) (continuation : Bool)
  | attemptStarted (turnId : String) (messageId : Option String) (attempt : Option Nat)
  | usage (turnId : String) (messageId : Option String) (attempt : Option Nat)
      (usage : UsageRecord)
  | retryReserved (invocationKey : String)
  | assistantTurn (turnId messageId : String) (grace continuation : Bool)
  | contextOverflow (turnId messageId : String) (notice : SessionNotice) (baseline : Nat)
  | compacted (summary : String) (baseline : Nat)

/-- `event.attempt or 1` -/
def attemptNumber (attempt : Option Nat) : Nat :=
  match attempt with
  | none | some 0 => 1
  | some attempt => attempt

def attemptKey (turnId : String) (messageId : Option String) (attempt : Nat) : String :=
  match messageId with
  | some messageId => s!"{turnId}:{messageId}:{attempt}"
  | none => s!"{turnId}:{attempt}"

namespace BudgetEvent

def attempt? : BudgetEvent → Option (String × Bool)
  | turnStarted turnId messageId _ => some (attemptKey turnId (some messageId) 1, false)
  | attemptStarted turnId messageId attempt =>
      some (attemptKey turnId messageId (attemptNumber attempt), 1 < attemptNumber attempt)
  | retryReserved invocationKey => some ("kernel-retry:" ++ invocationKey, true)
  | _ => none

def update : BudgetEvent → BudgetUpdate
  | turnStarted turnId messageId _ =>
      .providerAttempt (attemptKey turnId (some messageId) 1) false
  | attemptStarted turnId messageId attempt =>
      .providerAttempt (attemptKey turnId messageId (attemptNumber attempt))
        (1 < attemptNumber attempt)
  | usage turnId messageId attempt spent =>
      .usageSnapshot (attemptKey turnId messageId (attemptNumber attempt)) spent
  | retryReserved invocationKey => .providerAttempt ("kernel-retry:" ++ invocationKey) true
  | assistantTurn _ _ grace _ => .assistantTurn grace
  | contextOverflow .. | compacted .. => .compaction

def updates : BudgetEvent → OrchestratorRunState → OrchestratorRunState
  | turnStarted turnId messageId _, run =>
      { run with
        activeInternalTurnId := some turnId
        activeAssistantMessageId := some messageId
        activeAttempt := some 1
        greatestPublicTextOffset := 0
        activePublicText := "" }
  | contextOverflow _ _ notice baseline, run =>
      { run with
        transcript := run.transcript ++ [.sessionNotice notice]
        compactionBaselineTokens := some baseline }
  | compacted summary baseline, run =>
      { run with
        compactionSummary := some summary
        compactionBaselineTokens := some baseline }
  | _, run => run

def usageCommand (attemptKey : String) (usage : UsageRecord) : CommandId :=
  ⟨"provider-usage", [attemptKey, usage.inputTokens, usage.outputTokens,
    usage.cacheReadTokens, usage.cacheWriteTokens]⟩

def commandId (run : OrchestratorRunState) : BudgetEvent → CommandId
  | turnStarted turnId messageId continuation =>
      ⟨"public-turn-start", if continuation then [turnId, messageId] else [turnId]⟩
  | attemptStarted turnId messageId attempt =>
      ⟨"provider-attempt", [attemptKey turnId messageId (attemptNumber attempt)]⟩
  | usage turnId messageId attempt spent =>
      usageCommand (attemptKey turnId messageId (attemptNumber attempt)) spent
  | retryReserved invocationKey => ⟨"provider-attempt", ["kernel-retry:" ++ invocationKey]⟩
  | assistantTurn turnId messageId _ continuation =>
      ⟨"assistant-turn", if continuation then [turnId, messageId] else [turnId]⟩
  | contextOverflow turnId messageId _ _ =>
      ⟨"context-overflow", [turnId, messageId, .number (run.budget.compactionsUsed + 1)]⟩
  | compacted _ _ => ⟨"compaction", [run.runId, .number (run.budget.compactionsUsed + 1)]⟩

def checkpoint (run : OrchestratorRunState) (now : Timestamp) (event : BudgetEvent) :
    Checkpoint where
  held := run
  now := now
  budget := [event.update]
  updates := event.updates
  commandId := event.commandId run

def reserved (run : OrchestratorRunState) : BudgetEvent → Bool
  | retryReserved invocationKey =>
      "kernel-retry:" ++ invocationKey ∈ run.budget.providerAttemptKeys
  | _ => false

def record (run : OrchestratorRunState) (now : Timestamp) (event : BudgetEvent) :
    OrchestratorRunState :=
  if event.reserved run then run else (event.checkpoint run now).stored run

end BudgetEvent

def recordAll (run : OrchestratorRunState) (events : List (Timestamp × BudgetEvent)) :
    OrchestratorRunState :=
  events.foldl (fun run (now, event) => event.record run now) run

/-- The attempt that an event recorded anew, with its retry flag. -/
def recording (run : OrchestratorRunState) (now : Timestamp) (event : BudgetEvent) :
    List (String × Bool) :=
  event.attempt?.toList.filter fun (attemptKey, _) =>
    attemptKey ∉ run.budget.providerAttemptKeys ∧
      attemptKey ∈ (event.record run now).budget.providerAttemptKeys

def recordings (run : OrchestratorRunState) : List (Timestamp × BudgetEvent) → List (String × Bool)
  | [] => []
  | (now, event) :: rest => recording run now event ++ recordings (event.record run now) rest

/-! ## What an event does to the budget -/

@[simp] theorem profile_withCommand (run : OrchestratorRunState) (commandId : CommandId) :
    (withCommand run commandId).profile = run.profile := by
  unfold withCommand
  split <;> rfl

theorem Accounted.clocked {profile : OrchestratorProfile} {budget : BudgetState}
    (h : Accounted profile budget) (suspended : Bool) (now : Timestamp) :
    Accounted profile (applySuspensionClock budget suspended now) := by
  refine h.of_same ?_ ?_ ?_ ?_ ?_ <;>
    (unfold applySuspensionClock; split <;> split <;> rfl)

inductive Recorded (run : OrchestratorRunState) (event : BudgetEvent) :
    OrchestratorRunState → Prop
  | unchanged : Recorded run event run
  | updated (after : OrchestratorRunState) (budget : BudgetState) (suspended : Bool)
      (now : Timestamp) (hupdate : event.update.apply run.profile run.budget = .ok budget)
      (hbudget : after.budget = applySuspensionClock budget suspended now)
      (hprofile : after.profile = run.profile) : Recorded run event after

theorem BudgetEvent.updates_profile (event : BudgetEvent) (run : OrchestratorRunState) :
    (event.updates run).profile = run.profile := by
  cases event <;> rfl

theorem suppliedBudget_checkpoint {run : OrchestratorRunState} {now : Timestamp}
    {event : BudgetEvent} {budget : BudgetState}
    (h : (event.checkpoint run now).suppliedBudget = .ok budget) :
    event.update.apply run.profile run.budget = .ok budget := by
  simp only [Checkpoint.suppliedBudget, BudgetEvent.checkpoint, List.foldlM_cons,
    List.foldlM_nil] at h
  cases happly : event.update.apply run.profile run.budget with
  | error reason =>
      rw [happly] at h
      cases h
  | ok updated =>
      rw [happly] at h
      exact h

theorem record_recorded (run : OrchestratorRunState) (now : Timestamp) (event : BudgetEvent) :
    Recorded run event (event.record run now) := by
  unfold BudgetEvent.record
  split
  · exact .unchanged
  · cases storedAfter_cases run ((event.checkpoint run now).reply run) with
    | inr hsame =>
        rw [Checkpoint.stored, hsame.2]
        exact .unchanged
    | inl haccepted =>
        obtain ⟨after, hreply, hstored⟩ := haccepted
        rw [Checkpoint.stored, hstored]
        obtain ⟨-, -, budget, hbudget, rfl⟩ := Checkpoint.accepted_cases hreply
        refine .updated _ budget (event.updates run).status.isSuspended now
          (suppliedBudget_checkpoint hbudget) ?_ ?_
        · simp only [budget_withCommand]
          rfl
        · simp only [profile_withCommand]
          exact event.updates_profile run

theorem Recorded.accounted {run after : OrchestratorRunState} {event : BudgetEvent}
    (h : Recorded run event after) (hrun : Accounted run.profile run.budget) :
    Accounted after.profile after.budget := by
  cases h with
  | unchanged => exact hrun
  | updated after budget suspended now hupdate hbudget hprofile =>
      rw [hbudget, hprofile]
      exact Accounted.clocked (hrun.apply hupdate) suspended now

/-! ## Whole runs -/

structure FreshBudget (budget : BudgetState) : Prop where
  attempts : budget.providerAttemptKeys = []
  ledger : budget.usageByAttempt = []
  retries : budget.providerRetriesUsed = 0
  inputTokens : budget.inputTokens = 0
  outputTokens : budget.outputTokens = 0

theorem FreshBudget.accounted {budget : BudgetState} (h : FreshBudget budget)
    (profile : OrchestratorProfile) : Accounted profile budget := by
  refine ⟨?_, ?_, ?_, ?_, ?_, ?_⟩
  · simp [h.attempts]
  · simp [h.ledger]
  · simp [h.ledger]
  · simp [h.retries]
  · simp [h.inputTokens, ledgerTotal, h.ledger]
  · simp [h.outputTokens, ledgerTotal, h.ledger]

theorem recordAll_accounted (events : List (Timestamp × BudgetEvent)) :
    ∀ {run : OrchestratorRunState}, Accounted run.profile run.budget →
      Accounted (recordAll run events).profile (recordAll run events).budget := by
  induction events with
  | nil => exact fun {run} h => h
  | cons event rest ih =>
      intro run h
      exact ih ((record_recorded run event.1 event.2).accounted h)

/-! ## Attempts and retries -/

theorem clocked_attempts (budget : BudgetState) (suspended : Bool) (now : Timestamp) :
    (applySuspensionClock budget suspended now).providerAttemptKeys = budget.providerAttemptKeys ∧
      (applySuspensionClock budget suspended now).providerRetriesUsed =
        budget.providerRetriesUsed := by
  unfold applySuspensionClock
  split <;> split <;> exact ⟨rfl, rfl⟩

theorem apply_attempts_same {profile : OrchestratorProfile} {budget budget' : BudgetState}
    {event : BudgetEvent} (hnone : event.attempt? = none)
    (h : event.update.apply profile budget = .ok budget') :
    budget'.providerAttemptKeys = budget.providerAttemptKeys ∧
      budget'.providerRetriesUsed = budget.providerRetriesUsed := by
  cases event with
  | turnStarted | attemptStarted | retryReserved => cases hnone
  | usage turnId messageId attempt spent => simp [(recordUsageSnapshot_cases h).2]
  | assistantTurn turnId messageId grace continuation =>
      rw [← Except.ok.inj h, BudgetPolicy.recordAssistantTurn]
      split <;> exact ⟨rfl, rfl⟩
  | contextOverflow | compacted => simp [recordCompaction_cases h]

theorem update_of_attempt {event : BudgetEvent} {key : String} {retry : Bool}
    (h : event.attempt? = some (key, retry)) : event.update = .providerAttempt key retry := by
  cases event with
  | usage | assistantTurn | contextOverflow | compacted => cases h
  | turnStarted | attemptStarted | retryReserved =>
      cases h
      rfl

def retryCount (recorded : List (String × Bool)) : Nat := (recorded.filter (·.2)).length

theorem Recorded.attempts {run after : OrchestratorRunState} {event : BudgetEvent}
    (h : Recorded run event after) :
    (after.budget.providerAttemptKeys = run.budget.providerAttemptKeys ∧
      after.budget.providerRetriesUsed = run.budget.providerRetriesUsed) ∨
    ∃ key retry, event.attempt? = some (key, retry) ∧ key ∉ run.budget.providerAttemptKeys ∧
      after.budget.providerAttemptKeys = run.budget.providerAttemptKeys ++ [key] ∧
      after.budget.providerRetriesUsed =
        run.budget.providerRetriesUsed + if retry then 1 else 0 := by
  cases h with
  | unchanged => exact Or.inl ⟨rfl, rfl⟩
  | updated after budget suspended now hupdate hbudget hprofile =>
      obtain ⟨hkeys, hretries⟩ := clocked_attempts budget suspended now
      rw [hbudget, hkeys, hretries]
      cases hattempt : event.attempt? with
      | none => exact Or.inl (apply_attempts_same hattempt hupdate)
      | some attempt =>
          obtain ⟨key, retry⟩ := attempt
          rw [update_of_attempt hattempt] at hupdate
          cases recordProviderAttempt_cases hupdate with
          | inl hknown =>
              rw [hknown.2]
              exact Or.inl ⟨rfl, rfl⟩
          | inr hnew =>
              obtain ⟨hfresh, -, rfl⟩ := hnew
              exact Or.inr ⟨key, retry, rfl, hfresh, rfl, rfl⟩

theorem recording_attempts (run : OrchestratorRunState) (now : Timestamp) (event : BudgetEvent) :
    (event.record run now).budget.providerAttemptKeys =
        run.budget.providerAttemptKeys ++ (recording run now event).map (·.1) ∧
      (event.record run now).budget.providerRetriesUsed =
        run.budget.providerRetriesUsed + retryCount (recording run now event) := by
  cases (record_recorded run now event).attempts with
  | inl hsame =>
      have hnothing : recording run now event = [] := by
        unfold recording
        rw [hsame.1, List.filter_eq_nil_iff]
        intro attempt _
        by_cases hknown : attempt.1 ∈ run.budget.providerAttemptKeys <;> simp [hknown]
      rw [hsame.1, hsame.2, hnothing]
      exact ⟨by simp, rfl⟩
  | inr hnew =>
      obtain ⟨key, retry, hattempt, hfresh, hkeys, hretries⟩ := hnew
      have hone : recording run now event = [(key, retry)] := by
        unfold recording
        rw [hattempt, hkeys]
        simp [hfresh]
      rw [hkeys, hretries, hone]
      cases retry <;> exact ⟨rfl, rfl⟩

theorem recordAll_attempts (events : List (Timestamp × BudgetEvent)) :
    ∀ run : OrchestratorRunState,
      (recordAll run events).budget.providerAttemptKeys =
        run.budget.providerAttemptKeys ++ (recordings run events).map (·.1) ∧
      (recordAll run events).budget.providerRetriesUsed =
        run.budget.providerRetriesUsed + retryCount (recordings run events) := by
  induction events with
  | nil => exact fun run => ⟨by simp [recordAll, recordings], rfl⟩
  | cons event rest ih =>
      intro run
      obtain ⟨hkeys, hretries⟩ := ih (event.2.record run event.1)
      obtain ⟨hfirst, hcount⟩ := recording_attempts run event.1 event.2
      have hstep : recordAll run (event :: rest) = recordAll (event.2.record run event.1) rest := rfl
      have hparts : recordings run (event :: rest) =
          recording run event.1 event.2 ++ recordings (event.2.record run event.1) rest := rfl
      rw [hstep, hparts]
      refine ⟨?_, ?_⟩
      · rw [hkeys, hfirst, List.map_append, List.append_assoc]
      · rw [hretries, hcount, retryCount, retryCount, retryCount, List.filter_append,
          List.length_append, Nat.add_assoc]

/-! ## Snapshots -/

def Writable (run : OrchestratorRunState) : Prop := modelValidate run = .ok ()

theorem writable_iff {run : OrchestratorRunState} :
    Writable run ↔ quarantineFieldsArePaired run.recoveryClaim = .ok () ∧ run.Valid := by
  unfold Writable modelValidate
  cases hpaired : quarantineFieldsArePaired run.recoveryClaim with
  | error message => simp
  | ok value => simp [aggregateIdentityAndUniqueness_eq_ok]

theorem writable_candidate {run : OrchestratorRunState} {now : Timestamp} {budget : BudgetState}
    {event : BudgetEvent} (hrun : Writable run) (hupdates : event.updates run = run)
    (hfresh : event.commandId run ∉ run.processedCommandIds) :
    Writable (withCommand ((event.checkpoint run now).candidate budget) (event.commandId run)) := by
  obtain ⟨hpaired, hvalid⟩ := writable_iff.mp hrun
  have hcommand : withCommand ((event.checkpoint run now).candidate budget) (event.commandId run) =
      { run with
        budget := applySuspensionClock budget run.status.isSuspended now
        stateVersion := run.stateVersion + 1
        updatedAt := now
        processedCommandIds := run.processedCommandIds ++ [event.commandId run] } := by
    have hcandidate : (event.checkpoint run now).candidate budget =
        { run with
          budget := applySuspensionClock budget run.status.isSuspended now
          stateVersion := run.stateVersion + 1
          updatedAt := now } := by
      simp only [Checkpoint.candidate, BudgetEvent.checkpoint, checkpointCandidate, hupdates]
    rw [hcandidate, withCommand, if_neg hfresh]
  rw [hcommand]
  refine writable_iff.mpr ⟨hpaired, ⟨⟨hvalid.batchMessageIdsUnique, hvalid.callIdsUnique,
    hvalid.artifactRefsUnique, ?_, hvalid.intentIdsUnique, hvalid.publicCallIdsUnique,
    hvalid.cancellation, hvalid.acceptedArePublic, hvalid.offsetMatchesText⟩, ?_⟩⟩
  · simpa [List.nodup_append] using
      ⟨hvalid.commandIdsUnique, fun command hcommand heq => hfresh (heq ▸ hcommand)⟩
  · intro hterminal
    have hclosed := hvalid.terminalClosed hterminal
    exact ⟨hclosed.inactive, hclosed.entriesTerminal, hclosed.batchesFlushed⟩

theorem cancellationTransitionAllowed_same {current candidate : OrchestratorRunState}
    (hstatus : candidate.status = current.status)
    (hcommand : candidate.cancellationCommandId = current.cancellationCommandId)
    (hrequested : candidate.cancellationRequestedAt = current.cancellationRequestedAt)
    (hcause : candidate.cancellationCause = current.cancellationCause) :
    cancellationTransitionAllowed current candidate = true := by
  unfold cancellationTransitionAllowed
  rw [hstatus, hcommand, hrequested, hcause]
  by_cases h : current.status = .canceling <;> simp [h]

structure Snapshot where
  turnId : String
  messageId : Option String
  attempt : Option Nat
  usage : UsageRecord
  deriving DecidableEq

namespace Snapshot

def event (snapshot : Snapshot) : BudgetEvent :=
  .usage snapshot.turnId snapshot.messageId snapshot.attempt snapshot.usage

def key (snapshot : Snapshot) : String :=
  attemptKey snapshot.turnId snapshot.messageId (attemptNumber snapshot.attempt)

def command (snapshot : Snapshot) : CommandId :=
  BudgetEvent.usageCommand snapshot.key snapshot.usage

end Snapshot

/-- A snapshot of an attempt that is not recorded is refused, one that was seen before
is answered without an update, and any other replaces the usage of its attempt. -/
inductive SnapshotRecorded (run : OrchestratorRunState) (snapshot : Snapshot) :
    OrchestratorRunState → Prop
  | refused (hkey : snapshot.key ∉ run.budget.providerAttemptKeys) : SnapshotRecorded run snapshot run
  | seen (hseen : snapshot.command ∈ run.processedCommandIds) : SnapshotRecorded run snapshot run
  | replaced (after : OrchestratorRunState)
      (hkey : snapshot.key ∈ run.budget.providerAttemptKeys)
      (hnew : snapshot.command ∉ run.processedCommandIds)
      (hkeys : after.budget.providerAttemptKeys = run.budget.providerAttemptKeys)
      (hledger : after.budget.usageByAttempt =
        setKey snapshot.key snapshot.usage run.budget.usageByAttempt)
      (hprocessed : after.processedCommandIds = run.processedCommandIds ++ [snapshot.command])
      (hwritable : Writable after) : SnapshotRecorded run snapshot after

theorem clocked_ledger (budget : BudgetState) (suspended : Bool) (now : Timestamp) :
    (applySuspensionClock budget suspended now).usageByAttempt = budget.usageByAttempt := by
  unfold applySuspensionClock
  split <;> split <;> rfl

theorem suppliedBudget_snapshot (run : OrchestratorRunState) (now : Timestamp)
    (snapshot : Snapshot) : (snapshot.event.checkpoint run now).suppliedBudget =
      BudgetPolicy.recordUsageSnapshot run.budget snapshot.key snapshot.usage := by
  simp only [Checkpoint.suppliedBudget, BudgetEvent.checkpoint, List.foldlM_cons,
    List.foldlM_nil]
  exact bind_pure _

theorem record_snapshot_eq {run : OrchestratorRunState} {now : Timestamp} {snapshot : Snapshot}
    {budget : BudgetState}
    (h : BudgetPolicy.recordUsageSnapshot run.budget snapshot.key snapshot.usage = .ok budget) :
    snapshot.event.record run now = storedAfter run (casMutateAlone run
      ((snapshot.event.checkpoint run now).candidate budget) run.stateVersion
      snapshot.command) := by
  have hrecord : snapshot.event.record run now =
      storedAfter run ((snapshot.event.checkpoint run now).reply run) := rfl
  rw [hrecord, Checkpoint.reply, suppliedBudget_snapshot, h]
  rfl

theorem record_snapshot {run : OrchestratorRunState} (hrun : Writable run) (now : Timestamp)
    (snapshot : Snapshot) : SnapshotRecorded run snapshot (snapshot.event.record run now) := by
  cases hbudget : BudgetPolicy.recordUsageSnapshot run.budget snapshot.key snapshot.usage with
  | error reason =>
      have hrecord : snapshot.event.record run now =
          storedAfter run ((snapshot.event.checkpoint run now).reply run) := rfl
      rw [hrecord, Checkpoint.reply, suppliedBudget_snapshot, hbudget]
      refine .refused fun hkey => ?_
      rw [BudgetPolicy.recordUsageSnapshot, if_neg (not_not.mpr hkey)] at hbudget
      cases hbudget
  | ok budget =>
      obtain ⟨hkey, hafter⟩ := recordUsageSnapshot_cases hbudget
      rw [record_snapshot_eq hbudget]
      by_cases hseen : snapshot.command ∈ run.processedCommandIds
      · rw [casMutateAlone, if_pos hseen]
        exact .seen hseen
      · have hvalid : Writable (withCommand ((snapshot.event.checkpoint run now).candidate budget)
            snapshot.command) := writable_candidate hrun rfl hseen
        have hclock : ((snapshot.event.checkpoint run now).candidate budget).budget =
            applySuspensionClock budget run.status.isSuspended now := rfl
        have hversion : ((snapshot.event.checkpoint run now).candidate budget).stateVersion =
            run.stateVersion + 1 := rfl
        have hstored : withCommand ((snapshot.event.checkpoint run now).candidate budget)
            snapshot.command = { (snapshot.event.checkpoint run now).candidate budget with
              processedCommandIds := run.processedCommandIds ++ [snapshot.command] } :=
          if_neg hseen
        rw [casMutateAlone, if_neg hseen, if_neg (by simp [hversion]),
          show modelValidate _ = .ok () from hvalid]
        have hallowed : cancellationTransitionAllowed run
            (withCommand ((snapshot.event.checkpoint run now).candidate budget)
              snapshot.command) = true := by
          rw [hstored]
          exact cancellationTransitionAllowed_same rfl rfl rfl rfl
        simp only [hallowed, if_true]
        refine .replaced _ hkey hseen ?_ ?_ ?_ hvalid
        · show (withCommand _ _).budget.providerAttemptKeys = _
          rw [budget_withCommand, hclock, (clocked_attempts _ _ _).1, hafter]
        · show (withCommand _ _).budget.usageByAttempt = _
          rw [budget_withCommand, hclock, clocked_ledger, hafter]
        · show (withCommand _ _).processedCommandIds = _
          rw [hstored]

theorem record_writable {run : OrchestratorRunState} (h : Writable run) (now : Timestamp)
    (event : BudgetEvent) : Writable (event.record run now) := by
  unfold BudgetEvent.record
  split
  · exact h
  · cases storedAfter_cases run ((event.checkpoint run now).reply run) with
    | inr hsame =>
        rw [Checkpoint.stored, hsame.2]
        exact h
    | inl haccepted =>
        obtain ⟨after, hreply, hstored⟩ := haccepted
        rw [Checkpoint.stored, hstored]
        unfold Checkpoint.reply at hreply
        split at hreply
        · cases hreply
        · obtain ⟨-, -, -, hvalid, hafter⟩ := casMutateAlone_accepted hreply
          rw [Option.some.inj hafter]
          exact hvalid

theorem recordAll_writable (events : List (Timestamp × BudgetEvent)) :
    ∀ {run : OrchestratorRunState}, Writable run → Writable (recordAll run events) := by
  induction events with
  | nil => exact fun {run} h => h
  | cons event rest ih => exact fun {run} h => ih (record_writable h event.1 event.2)

/-! ## The order of snapshots -/

theorem usageCommand_inj {key other : String} {usage spent : UsageRecord}
    (h : BudgetEvent.usageCommand key usage = BudgetEvent.usageCommand other spent) :
    key = other ∧ usage = spent := by
  cases usage
  cases spent
  simpa [BudgetEvent.usageCommand] using h

/-- Two Runs that know the same of one attempt. -/
structure AgreeOn (key : String) (run run' : OrchestratorRunState) : Prop where
  writable : Writable run
  writable' : Writable run'
  recorded : key ∈ run.budget.providerAttemptKeys ↔ key ∈ run'.budget.providerAttemptKeys
  ledger : run.budget.usageByAttempt.lookup key = run'.budget.usageByAttempt.lookup key
  seen : ∀ usage, BudgetEvent.usageCommand key usage ∈ run.processedCommandIds ↔
    BudgetEvent.usageCommand key usage ∈ run'.processedCommandIds

theorem AgreeOn.refl {run : OrchestratorRunState} (h : Writable run) (key : String) :
    AgreeOn key run run :=
  ⟨h, h, Iff.rfl, rfl, fun _ => Iff.rfl⟩

theorem AgreeOn.symm {key : String} {run run' : OrchestratorRunState} (h : AgreeOn key run run') :
    AgreeOn key run' run :=
  ⟨h.writable', h.writable, h.recorded.symm, h.ledger.symm, fun usage => (h.seen usage).symm⟩

theorem AgreeOn.trans {key : String} {run run' run'' : OrchestratorRunState}
    (h : AgreeOn key run run') (h' : AgreeOn key run' run'') : AgreeOn key run run'' :=
  ⟨h.writable, h'.writable', h.recorded.trans h'.recorded, h.ledger.trans h'.ledger,
    fun usage => (h.seen usage).trans (h'.seen usage)⟩

theorem agreeOn_other {key : String} {run : OrchestratorRunState} (hrun : Writable run)
    (now : Timestamp) {snapshot : Snapshot} (hne : snapshot.key ≠ key) :
    AgreeOn key (snapshot.event.record run now) run := by
  have hrecorded := record_snapshot hrun now snapshot
  generalize snapshot.event.record run now = after at hrecorded
  cases hrecorded with
  | refused hkey => exact AgreeOn.refl hrun key
  | seen hseen => exact AgreeOn.refl hrun key
  | replaced after hkey hnew hkeys hledger hprocessed hwritable =>
      refine ⟨hwritable, hrun, by rw [hkeys], ?_, ?_⟩
      · rw [hledger, lookup_setKey_of_ne (Ne.symm hne)]
      · intro usage
        rw [hprocessed, List.mem_append, List.mem_singleton]
        constructor
        · intro hmem
          cases hmem with
          | inl hold => exact hold
          | inr heq => exact absurd (usageCommand_inj heq).1.symm hne
        · exact Or.inl

theorem AgreeOn.record {run run' : OrchestratorRunState} {snapshot : Snapshot}
    (h : AgreeOn snapshot.key run run') (now now' : Timestamp) :
    AgreeOn snapshot.key (snapshot.event.record run now) (snapshot.event.record run' now') := by
  have hrecorded := record_snapshot h.writable now snapshot
  have hrecorded' := record_snapshot h.writable' now' snapshot
  generalize snapshot.event.record run now = after at hrecorded
  generalize snapshot.event.record run' now' = after' at hrecorded'
  cases hrecorded with
  | refused hkey =>
      cases hrecorded' with
      | refused | seen => exact h
      | replaced after' hkey' => exact absurd (h.recorded.mpr hkey') hkey
  | seen hseen =>
      cases hrecorded' with
      | refused | seen => exact h
      | replaced after' hkey' hnew' => exact absurd ((h.seen snapshot.usage).mp hseen) hnew'
  | replaced after hkey hnew hkeys hledger hprocessed hwritable =>
      cases hrecorded' with
      | refused hkey' => exact absurd (h.recorded.mp hkey) hkey'
      | seen hseen' => exact absurd ((h.seen snapshot.usage).mpr hseen') hnew
      | replaced after' hkey' hnew' hkeys' hledger' hprocessed' hwritable' =>
          refine ⟨hwritable, hwritable', ?_, ?_, ?_⟩
          · rw [hkeys, hkeys']
            exact h.recorded
          · rw [hledger, hledger', lookup_setKey_self, lookup_setKey_self]
          · intro usage
            rw [hprocessed, hprocessed', List.mem_append, List.mem_append, h.seen usage]

def recordSnapshots (run : OrchestratorRunState) (snapshots : List (Timestamp × Snapshot)) :
    OrchestratorRunState :=
  recordAll run (snapshots.map fun (now, snapshot) => (now, snapshot.event))

def ofAttempt (key : String) (snapshots : List (Timestamp × Snapshot)) : List Snapshot :=
  (snapshots.map (·.2)).filter (·.key = key)

theorem agreeOn_ofAttempt (key : String) (snapshots : List (Timestamp × Snapshot)) :
    ∀ {run run' : OrchestratorRunState}, AgreeOn key run run' →
      AgreeOn key (recordSnapshots run snapshots)
        (recordSnapshots run' ((ofAttempt key snapshots).map ((0, ·)))) := by
  induction snapshots with
  | nil => exact fun {run run'} h => h
  | cons first rest ih =>
      intro run run' h
      by_cases hkey : first.2.key = key
      · subst hkey
        have hattempt : ofAttempt first.2.key (first :: rest) =
            first.2 :: ofAttempt first.2.key rest := by
          simp [ofAttempt]
        rw [hattempt]
        exact ih (h.record first.1 0)
      · have hattempt : ofAttempt key (first :: rest) = ofAttempt key rest := by
          simp [ofAttempt, hkey]
        rw [hattempt]
        exact ih ((agreeOn_other h.writable first.1 hkey).trans h)

/-! ## Totals -/

structure Totals where
  providerRetriesUsed : Nat
  inputTokens : Nat
  outputTokens : Nat
  deriving DecidableEq

def totals (run : OrchestratorRunState) : Totals :=
  ⟨run.budget.providerRetriesUsed, run.budget.inputTokens, run.budget.outputTokens⟩

theorem totals_eq {run run' : OrchestratorRunState} (h : Accounted run.profile run.budget)
    (h' : Accounted run'.profile run'.budget)
    (hretries : run.budget.providerRetriesUsed = run'.budget.providerRetriesUsed)
    (hlookup : ∀ key, run.budget.usageByAttempt.lookup key =
      run'.budget.usageByAttempt.lookup key) : totals run = totals run' := by
  have hsum : ∀ measure, ledgerTotal run.budget measure = ledgerTotal run'.budget measure :=
    fun measure => sum_eq_of_lookup measure h.ledgerUnique h'.ledgerUnique hlookup
  unfold totals
  rw [hretries, h.inputTokens, h'.inputTokens, h.outputTokens, h'.outputTokens, hsum, hsum]

theorem recordSnapshots_retries (run : OrchestratorRunState)
    (snapshots : List (Timestamp × Snapshot)) :
    (recordSnapshots run snapshots).budget.providerRetriesUsed =
      run.budget.providerRetriesUsed := by
  induction snapshots generalizing run with
  | nil => rfl
  | cons first rest ih =>
      have hfirst : (first.2.event.record run first.1).budget.providerRetriesUsed =
          run.budget.providerRetriesUsed := by
        cases (record_recorded run first.1 first.2.event).attempts with
        | inl hsame => exact hsame.2
        | inr hnew =>
            obtain ⟨key, retry, hattempt, -⟩ := hnew
            cases hattempt
      exact (ih _).trans hfirst

/-- The totals depend on the snapshots of each attempt, not on how they are interleaved. -/
theorem totals_order {run : OrchestratorRunState} (haccounted : Accounted run.profile run.budget)
    (hwritable : Writable run) {snapshots others : List (Timestamp × Snapshot)}
    (hsame : ∀ key, ofAttempt key snapshots = ofAttempt key others) :
    totals (recordSnapshots run snapshots) = totals (recordSnapshots run others) := by
  refine totals_eq (recordAll_accounted _ haccounted) (recordAll_accounted _ haccounted) ?_ ?_
  · rw [recordSnapshots_retries, recordSnapshots_retries]
  · intro key
    have hfirst := agreeOn_ofAttempt key snapshots (AgreeOn.refl hwritable key)
    have hsecond := agreeOn_ofAttempt key others (AgreeOn.refl hwritable key)
    rw [hsame key] at hfirst
    exact (hfirst.trans hsecond.symm).ledger

/-- The event repeats an attempt that is recorded, or the latest usage of one. -/
def Repeats (run : OrchestratorRunState) (event : BudgetEvent) : Prop :=
  (∃ key retry, event.attempt? = some (key, retry) ∧ key ∈ run.budget.providerAttemptKeys) ∨
    ∃ snapshot : Snapshot, event = snapshot.event ∧
      run.budget.usageByAttempt.lookup snapshot.key = some snapshot.usage

theorem clocked_tokens (budget : BudgetState) (suspended : Bool) (now : Timestamp) :
    (applySuspensionClock budget suspended now).inputTokens = budget.inputTokens ∧
      (applySuspensionClock budget suspended now).outputTokens = budget.outputTokens := by
  unfold applySuspensionClock
  split <;> split <;> exact ⟨rfl, rfl⟩

theorem totals_repeats {run : OrchestratorRunState} (haccounted : Accounted run.profile run.budget)
    (hwritable : Writable run) (now : Timestamp) {event : BudgetEvent} (h : Repeats run event) :
    totals (event.record run now) = totals run := by
  cases h with
  | inl hattempt =>
      obtain ⟨key, retry, hattempt, hknown⟩ := hattempt
      have hrecorded := record_recorded run now event
      generalize event.record run now = after at hrecorded
      cases hrecorded with
      | unchanged => rfl
      | updated after budget suspended time hupdate hbudget hprofile =>
          rw [update_of_attempt hattempt] at hupdate
          cases recordProviderAttempt_cases hupdate with
          | inr hnew => exact absurd hknown hnew.1
          | inl hsame =>
              unfold totals
              rw [hbudget, hsame.2, (clocked_attempts _ _ _).2, (clocked_tokens _ _ _).1,
                (clocked_tokens _ _ _).2]
  | inr husage =>
      obtain ⟨snapshot, rfl, hlatest⟩ := husage
      have haccounted' := (record_recorded run now snapshot.event).accounted haccounted
      refine totals_eq haccounted' haccounted ?_ ?_
      · exact recordSnapshots_retries run [(now, snapshot)]
      · have hrecorded := record_snapshot hwritable now snapshot
        generalize snapshot.event.record run now = after at hrecorded
        intro key
        cases hrecorded with
        | refused | seen => rfl
        | replaced after hkey hnew hkeys hledger hprocessed hafter =>
            rw [hledger]
            by_cases hsame : key = snapshot.key
            · rw [hsame, lookup_setKey_self, hlatest]
            · exact lookup_setKey_of_ne hsame _ _

/-- After any events of a Run, the retries used are the attempts recorded as retries and
within the limit, and the tokens are the sums over the ledger. The totals depend neither on
the order in which the snapshots of different attempts arrive nor on repeated attempts or
latest snapshots. What a snapshot takes off a total is never more than the total. -/
theorem budget_totals {start : OrchestratorRunState} (hfresh : FreshBudget start.budget)
    (hwritable : Writable start) (events : List (Timestamp × BudgetEvent)) :
    let run := recordAll start events
    run.budget.providerRetriesUsed = retryCount (recordings start events) ∧
    ((recordings start events).map (·.1)).Nodup ∧
    run.budget.providerRetriesUsed ≤ run.profile.maxProviderRetriesTotal ∧
    run.budget.inputTokens = ledgerTotal run.budget (·.inputTokens) ∧
    run.budget.outputTokens = ledgerTotal run.budget (·.outputTokens) ∧
    (∀ attemptKey, ((run.budget.usageByAttempt.lookup attemptKey).getD {}).inputTokens ≤
        run.budget.inputTokens ∧
      ((run.budget.usageByAttempt.lookup attemptKey).getD {}).outputTokens ≤
        run.budget.outputTokens) ∧
    (∀ snapshots others, (∀ key, ofAttempt key snapshots = ofAttempt key others) →
      totals (recordSnapshots run snapshots) = totals (recordSnapshots run others)) ∧
    (∀ now event, Repeats run event → totals (event.record run now) = totals run) := by
  have haccounted := recordAll_accounted events (hfresh.accounted start.profile)
  have hstored := recordAll_writable events hwritable
  obtain ⟨hkeys, hretries⟩ := recordAll_attempts events start
  rw [hfresh.attempts, List.nil_append] at hkeys
  rw [hfresh.retries, Nat.zero_add] at hretries
  refine ⟨hretries, ?_, haccounted.retries, haccounted.inputTokens, haccounted.outputTokens, ?_,
    fun snapshots others hsame => totals_order haccounted hstored hsame,
    fun now event hrepeats => totals_repeats haccounted hstored now hrepeats⟩
  · rw [← hkeys]
    exact haccounted.attemptsUnique
  · intro attemptKey
    rw [haccounted.inputTokens, haccounted.outputTokens]
    exact ⟨previous_le_ledgerTotal _ attemptKey (·.inputTokens) rfl,
      previous_le_ledgerTotal _ attemptKey (·.outputTokens) rfl⟩

/-- Two attempts of one turn, with two snapshots of the first around one of the second. -/
def sampleEvents : List (Timestamp × BudgetEvent) :=
  [(1, .turnStarted "turn" "message" false), (2, .usage "turn" "message" none ⟨3, 1, 0, 0⟩),
    (3, .attemptStarted "turn" "message" (some 2)),
    (4, .usage "turn" "message" (some 2) ⟨4, 2, 0, 0⟩),
    (5, .usage "turn" "message" none ⟨8, 2, 0, 0⟩)]

theorem budget_totals_sample :
    (recordAll sampleRun sampleEvents).budget.inputTokens =
        ledgerTotal (recordAll sampleRun sampleEvents).budget (·.inputTokens) ∧
      (recordAll sampleRun sampleEvents).budget.inputTokens = 12 ∧
      (recordAll sampleRun sampleEvents).budget.providerRetriesUsed = 1 := by
  have hfresh : FreshBudget sampleRun.budget := ⟨rfl, rfl, rfl, rfl, rfl⟩
  have hwritable : Writable sampleRun := by
    unfold Writable
    decide +kernel
  obtain ⟨hretries, -, -, hinput, -⟩ := budget_totals hfresh hwritable sampleEvents
  refine ⟨hinput, ?_, hretries.trans ?_⟩ <;> decide +kernel

end Hybro.Kernel
