import Hybro.A2ARuntime.Ingress
import Hybro.Kernel.ObservationRules

/-! # The ledger and the Run after each observation

What one processing can do to the call, to the Run and to the row, and the
agreement of the two that every run of processings keeps.
-/

namespace Hybro.A2ARuntime

open Orchestrator Kernel PythonList

variable {env : ProcessorEnv} {answers : PortAnswers} {call call' : AgentCallLedgerRecord}
  {run run' : OrchestratorRunState} {row row' : A2AObservationInboxRecord}
  {observation : NormalizedA2AObservation}

/-! ## The call -/

/-- The state of a Tool entry whose call waits with a question. -/
def entryStateOf : AgentCallState → Option ToolBatchEntryState
  | .inputRequired => some .inputRequired
  | .authRequired => some .authRequired
  | _ => none

theorem entryStateOf_terminal {state : AgentCallState} (h : state.isTerminal = true) :
    entryStateOf state = none := by
  cases state <;> first | rfl | cases h

def ResultWhenEnded (call : AgentCallLedgerRecord) : Prop :=
  call.terminalResult.isSome = call.state.isTerminal

/-- What the ledger makes of an observation before it is delivered. -/
structure LedgerMoved (call : AgentCallLedgerRecord) (observation : NormalizedA2AObservation)
    (call' : AgentCallLedgerRecord) : Prop where
  invocation : call'.invocationId = call.invocationId
  results : ResultWhenEnded call → ResultWhenEnded call'
  ended : call.state.isTerminal = true → call' = call
  /-- An observation that is no question finds the question there. -/
  parked : observation.eventKind.isInteraction = false → (entryStateOf call'.state).isSome →
    call'.state = call.state ∧ (observation.eventKind.isProgress = true ∨
      observation.observationId ∈ call.recentObservationIds)

theorem LedgerMoved.refl_of_interaction (call : AgentCallLedgerRecord)
    (h : observation.eventKind.isInteraction = true) :
    LedgerMoved call observation call where
  invocation := rfl
  results := id
  ended _ := rfl
  parked hplain := by
    rw [h] at hplain
    exact absurd hplain Bool.true_eq_false.mp

theorem LedgerMoved.refl_of_ended (h : call.state.isTerminal = true) :
    LedgerMoved call observation call where
  invocation := rfl
  results := id
  ended _ := rfl
  parked _ hparked := by
    rw [entryStateOf_terminal h] at hparked
    cases hparked

theorem transitionCall_live {toState : AgentCallState} {updatedAt : Timestamp}
    {updates : CallUpdates} (h : transitionCall call toState updatedAt updates = .ok call') :
    call.state.isTerminal = false := by
  obtain ⟨hlegal, -⟩ := transitionCall_eq_ok.mp h
  cases hterminal : call.state.isTerminal with
  | false => rfl
  | true => exact absurd hlegal (not_legal_of_terminal hterminal)

theorem resultWhenEnded_of_transition {toState : AgentCallState} {updatedAt : Timestamp}
    {updates : CallUpdates} (h : transitionCall call toState updatedAt updates = .ok call')
    (hlive : toState.isTerminal = false) (hupdates : updates.terminalResult = none)
    (hcall : ResultWhenEnded call) : ResultWhenEnded call' := by
  unfold ResultWhenEnded at *
  rw [transitionCall_terminalResult h, transitionCall_state h, hlive, CallUpdates.overlay]
  rw [hupdates, Option.getD_none, hcall, transitionCall_live h]

theorem observeOpen_ending {recentLimit : Nat} (hkind : observation.eventKind = .terminal)
    (h : observeOpen env.resultDigest call observation recentLimit = .ok call') :
    call'.state.isTerminal = true := by
  unfold observeOpen at h
  cases haliases : bindAuthoritativeAliases call observation.taskId observation.contextId with
  | error error =>
      rw [haliases] at h
      cases h
  | ok aliases =>
      rw [haliases, hkind] at h
      simp only [bind, Except.bind, ObservationKind.isInteraction, ObservationKind.isProgress,
        Bool.false_eq_true, if_false] at h
      cases hstatus : observation.status with
      | none =>
          rw [hstatus] at h
          cases h
      | some status =>
          rw [hstatus] at h
          rw [transitionCall_state h]
          exact isTerminal_callStateOf status

theorem applyObservation_ending {recentLimit : Nat} (hkind : observation.eventKind = .terminal)
    (hfresh : observation.observationId ∉ call.recentObservationIds)
    (hcancel : call.state ≠ .cancelPending)
    (h : applyObservation env.resultDigest call observation recentLimit = .ok call') :
    call'.state.isTerminal = true := by
  unfold applyObservation at h
  rw [if_neg hfresh] at h
  cases hterminal : call.state.isTerminal with
  | true =>
      rw [hterminal, if_pos rfl] at h
      rw [observeTerminal_ok h]
      exact hterminal
  | false =>
      rw [hterminal, if_neg Bool.false_ne_true, if_neg (fun hpending => hcancel hpending.1), hkind,
        if_neg (fun hprogress => by cases hprogress.1)] at h
      exact observeOpen_ending hkind h

theorem ledgerMoved_of_apply {recentLimit : Nat}
    (h : applyObservation env.resultDigest call observation recentLimit = .ok call') :
    LedgerMoved call observation call' := by
  cases applyObservation_applied h with
  | ignored =>
      refine ⟨rfl, id, fun _ => rfl, ?_⟩
      intro hplain hparked
      refine ⟨rfl, ?_⟩
      cases hprogress : observation.eventKind.isProgress with
      | true => exact .inl rfl
      | false =>
          right
          by_contra hfresh
          have hcancel : call.state ≠ .cancelPending := by
            intro hpending
            rw [hpending] at hparked
            cases hparked
          have hended := applyObservation_ending (ObservationKind.eq_terminal hplain hprogress)
            hfresh hcancel h
          rw [entryStateOf_terminal hended] at hparked
          cases hparked
  | asked hnoted hkind hmove =>
      refine ⟨(transitionCall_names hmove).1, ?_, ?_, ?_⟩
      · intro hcall
        exact resultWhenEnded_of_transition hmove rfl rfl hcall
      · intro hended
        rw [hnoted.live] at hended
        cases hended
      · intro hplain
        rw [hkind] at hplain
        exact absurd hplain Bool.true_eq_false.mp
  | started hnoted hkind hmove =>
      refine ⟨(transitionCall_names hmove).1, ?_, ?_, ?_⟩
      · intro hcall
        exact resultWhenEnded_of_transition hmove rfl rfl hcall
      · intro hended
        rw [hnoted.live] at hended
        cases hended
      · intro _ hparked
        rw [transitionCall_state hmove] at hparked
        cases hparked
  | progressed hnoted hcancel hkind =>
      refine ⟨rfl, id, ?_, ?_⟩
      · intro hended
        rw [hnoted.live] at hended
        cases hended
      · intro _ _
        exact ⟨rfl, .inl hkind⟩
  | ended hnoted hkind hstatus hmove =>
      refine ⟨(transitionCall_names hmove).1, ?_, ?_, ?_⟩
      · intro _
        unfold ResultWhenEnded
        rw [transitionCall_terminalResult hmove, transitionCall_state hmove]
        simp [CallUpdates.overlay, terminalUpdates]
      · intro hended
        rw [hnoted.live] at hended
        cases hended
      · intro _ hparked
        rw [transitionCall_state hmove, entryStateOf_terminal (isTerminal_callStateOf _)] at hparked
        cases hparked

/-! ## A ledger that is not moved -/

/-- The result and the question of the call are left as they are. -/
structure Stays (call call' : AgentCallLedgerRecord) : Prop where
  ended : call'.state.isTerminal = true → call' = call
  parked : ∀ state, entryStateOf call'.state = some state →
    entryStateOf call.state = some state ∧ call'.pendingInteractionId = call.pendingInteractionId ∧
      call'.interactionFingerprint = call.interactionFingerprint

theorem Stays.refl (call : AgentCallLedgerRecord) : Stays call call where
  ended _ := rfl
  parked _ hparked := ⟨hparked, rfl, rfl⟩

theorem ObservationKind.plain_of_progress {kind : ObservationKind} (h : kind.isProgress = true) :
    kind.isInteraction = false := by
  cases kind <;> first | rfl | cases h

/-- The ledger ignores the observation, or notes progress. -/
inductive Unmoving (call : AgentCallLedgerRecord) (observation : NormalizedA2AObservation) : Prop
  | ended (h : call.state.isTerminal = true)
  | recorded (h : observation.observationId ∈ call.recentObservationIds)
  | progress (h : observation.eventKind.isProgress = true)
  | canceling (hstate : call.state = .cancelPending) (hkind : observation.eventKind = .terminal)
      (hstatus : observation.status ≠ some .canceled)

theorem applyObservation_canceling {recentLimit : Nat} (hstate : call.state = .cancelPending)
    (hstatus : observation.status ≠ some .canceled)
    (h : applyObservation env.resultDigest call observation recentLimit = .ok call') :
    call' = call := by
  unfold applyObservation at h
  have hlive : call.state.isTerminal = false := by
    rw [hstate]
    rfl
  split at h
  · exact (Except.ok.inj h).symm
  · rw [hlive, if_neg Bool.false_ne_true,
      if_pos ⟨hstate, fun hcanceled => hstatus hcanceled.2⟩] at h
    exact (Except.ok.inj h).symm

theorem applyObservation_recorded {recentLimit : Nat}
    (hknown : observation.observationId ∈ call.recentObservationIds)
    (h : applyObservation env.resultDigest call observation recentLimit = .ok call') :
    call' = call := by
  unfold applyObservation at h
  rw [if_pos hknown] at h
  exact (Except.ok.inj h).symm

theorem stays_of_unmoving {recentLimit : Nat} (hunmoving : Unmoving call observation)
    (h : applyObservation env.resultDigest call observation recentLimit = .ok call') :
    Stays call call' := by
  cases hunmoving with
  | ended hended =>
      rw [(ledgerMoved_of_apply h).ended hended]
      exact Stays.refl call
  | recorded hknown =>
      rw [applyObservation_recorded hknown h]
      exact Stays.refl call
  | canceling hstate _ hstatus =>
      rw [applyObservation_canceling hstate hstatus h]
      exact Stays.refl call
  | progress hprogress =>
      cases applyObservation_applied h with
      | ignored => exact Stays.refl call
      | asked hnoted hkind hmove =>
          rw [ObservationKind.plain_of_progress hprogress] at hkind
          cases hkind
      | started hnoted hkind hmove =>
          constructor
          · intro hended
            rw [transitionCall_state hmove] at hended
            cases hended
          · intro state hparked
            rw [transitionCall_state hmove] at hparked
            cases hparked
      | progressed hnoted hcancel hkind =>
          constructor
          · intro hended
            have hlive := hnoted.live
            rw [show call.state.isTerminal = true from hended] at hlive
            cases hlive
          · exact fun state hparked => ⟨hparked, rfl, rfl⟩
      | ended hnoted hkind hstatus hmove =>
          rw [hkind] at hprogress
          cases hprogress

theorem transitionCall_error {toState : AgentCallState} {updatedAt : Timestamp}
    {updates : CallUpdates} {error : LedgerError}
    (h : transitionCall call toState updatedAt updates = .error error) :
    error = .illegalTransition call.state toState := by
  unfold transitionCall validateAgentCallTransition at h
  split at h <;> cases h
  rfl

theorem bindAlias_error {scope : String} {kind : AliasKind} {value : Option String}
    {aliases : List A2AOwnershipAlias} {error : LedgerError}
    (h : bindAlias scope kind value aliases = .error error) : error = .aliasAlreadyBound kind := by
  unfold bindAlias at h
  split at h
  · cases h
  split at h
  · cases h
  split at h
  · cases h
  dsimp only at h
  split at h
  · cases h
  · cases h
    rfl

theorem bindAuthoritativeAliases_error {error : LedgerError} {taskId contextId : Option String}
    (h : bindAuthoritativeAliases call taskId contextId = .error error) :
    ∃ kind, error = .aliasAlreadyBound kind := by
  unfold bindAuthoritativeAliases at h
  cases htask : bindAlias call.endpointScopeDigest .task taskId call.ownershipAliases with
  | error first =>
      rw [htask] at h
      cases h
      exact ⟨_, bindAlias_error htask⟩
  | ok aliases =>
      rw [htask] at h
      exact ⟨_, bindAlias_error h⟩

theorem observeOpen_no_conflict {recentLimit : Nat} {persisted conflicting : String} :
    observeOpen env.resultDigest call observation recentLimit ≠
      .error (.conflictingTerminal persisted conflicting) := by
  intro h
  unfold observeOpen at h
  cases haliases : bindAuthoritativeAliases call observation.taskId observation.contextId with
  | error error =>
      obtain ⟨kind, rfl⟩ := bindAuthoritativeAliases_error haliases
      rw [haliases] at h
      cases h
  | ok aliases =>
      rw [haliases] at h
      simp only [bind, Except.bind] at h
      split at h
      · cases transitionCall_error h
      split at h
      · split at h
        · cases transitionCall_error h
        · cases h
      split at h
      · cases h
      · cases transitionCall_error h

theorem applyObservation_conflict {recentLimit : Nat} {persisted conflicting : String}
    (h : applyObservation env.resultDigest call observation recentLimit =
      .error (.conflictingTerminal persisted conflicting)) :
    call.state.isTerminal = true ∧ observation.observationId ∉ call.recentObservationIds ∧
      observation.eventKind = .terminal ∧ ∃ status, observation.status = some status ∧
        some (env.resultDigest (observationResult call observation status)) ≠
          call.terminalResultDigest := by
  unfold applyObservation at h
  split at h
  · cases h
  rename_i hfresh
  split at h
  · rename_i hended
    unfold observeTerminal at h
    split at h
    · cases h
    rename_i hkind
    split at h
    · cases h
    · rename_i status hstatus
      dsimp only at h
      split at h
      · cases h
      · rename_i hdigest
        exact ⟨hended, hfresh, not_not.mp hkind, status, hstatus, hdigest⟩
  split at h
  · cases h
  split at h
  · cases h
  · exact absurd h observeOpen_no_conflict

theorem applyObservation_agreeing {recentLimit : Nat} {status : ToolResultStatus}
    (hended : call.state.isTerminal = true)
    (hfresh : observation.observationId ∉ call.recentObservationIds)
    (hkind : observation.eventKind = .terminal) (hstatus : observation.status = some status)
    (h : applyObservation env.resultDigest call observation recentLimit = .ok call') :
    some (env.resultDigest (observationResult call observation status)) =
      call.terminalResultDigest := by
  unfold applyObservation at h
  rw [if_neg hfresh, hended, if_pos rfl] at h
  unfold observeTerminal at h
  rw [if_neg (fun hother => hother hkind), hstatus] at h
  dsimp only at h
  split at h
  · assumption
  · cases h

/-! ## Which rows the kernel hears of -/

structure Correlates (call : AgentCallLedgerRecord) (row : A2AObservationInboxRecord) : Prop where
  callRecordId : row.callRecordId = some call.callRecordId
  bindingScope : call.endpointScopeDigest = row.bindingScope
  conversationId : row.conversationId = call.conversationId
  roomEpoch : row.roomEpoch = call.roomEpoch

def Accounted (row : A2AObservationInboxRecord) : Prop :=
  row.deliveryRoute = .executor ∧ row.outcomeDigest.isSome = true

/-- The row is one that the processor closes without a word to the kernel. -/
inductive Closes (env : ProcessorEnv) (answers : PortAnswers) (call : AgentCallLedgerRecord)
    (row : A2AObservationInboxRecord) : Prop
  /-- The call has resumed since, or asks another question. -/
  | superseded (hquestion : (typedObservation env row.observation).2.isSome = true)
      (hlive : call.state.isTerminal = false)
      (hother : (typedObservation env row.observation).2.filter (interactionAttached env call
        (typedObservation env row.observation).1.eventKind) = none)
      (hknown : row.observationId ∈ call.recentObservationIds ∨ ledgerCheckpointed row = true)
  /-- The question is asked again in a later revision. -/
  | revised {interaction : A2AInteractionSpec}
      (hattached : (typedObservation env row.observation).2.filter (interactionAttached env call
        (typedObservation env row.observation).1.eventKind) = some interaction)
      (hrevision : call.interactionRevision ≠ some 1)
  | ended (hquestion : (typedObservation env row.observation).2.isSome = true)
      (hended : call.state.isTerminal = true)
  | contradicts {observation : NormalizedA2AObservation} {status : ToolResultStatus}
      (hended : call.state.isTerminal = true)
      (hfresh : row.observationId ∉ call.recentObservationIds)
      (hprepared : materialized answers (typedObservation env row.observation).1 = .ok observation)
      (hkind : observation.eventKind = .terminal) (hstatus : observation.status = some status)
      (hdigest : some (env.resultDigest (observationResult call observation status)) ≠
        call.terminalResultDigest)

/-- The kernel is not told of the row. -/
inductive Unheard (env : ProcessorEnv) (answers : PortAnswers) (call : AgentCallLedgerRecord)
    (run : OrchestratorRunState) (row : A2AObservationInboxRecord) : Prop
  | accounted {outcomeDigest : String} (hroute : row.deliveryRoute = .executor)
      (hdigest : row.outcomeDigest = some outcomeDigest)
      (h : call.state.isTerminal = false ∨
        isOutcomeCheckpointed env run call.invocationId outcomeDigest = true ∨
          isSuspensionCheckpointed run call.invocationId = false)
  | closes (hunaccounted : ¬ Accounted row) (h : Closes env answers call row)

/-- The ledger is not moved by the row. -/
inductive Unmoved (env : ProcessorEnv) (call : AgentCallLedgerRecord)
    (row : A2AObservationInboxRecord) : Prop
  | ignored (h : Unmoving call (typedObservation env row.observation).1)
  | attached {interaction : A2AInteractionSpec}
      (h : (typedObservation env row.observation).2.filter (interactionAttached env call
        (typedObservation env row.observation).1.eventKind) = some interaction)

/-! ## One processing -/

/-- What is told is the row's observation as the processor reads it, after the ledger has moved
for it. -/
structure Heard (env : ProcessorEnv) (answers : PortAnswers) (call : AgentCallLedgerRecord)
    (run : OrchestratorRunState) (row : A2AObservationInboxRecord)
    (observation : NormalizedA2AObservation) (call' : AgentCallLedgerRecord) : Prop where
  id : observation.observationId = row.observationId
  kind : call.state.isTerminal = false → ¬ Accounted row ∧
    observation.eventKind = (typedObservation env row.observation).1.eventKind
  moved : LedgerMoved call observation call'
  stays : Unmoved env call row → Stays call call'
  heard : ¬ Unheard env answers call run row

inductive DeliveryOutcome (run : OrchestratorRunState) (observation : ToolObservation)
    (now : Timestamp) (invocationId : String) : OrchestratorRunState → Prop
  | observed {run' : OrchestratorRunState} (h : observeTool run observation now = .ok run') :
      DeliveryOutcome run observation now invocationId run'
  | deferred {message : String} (h : observeTool run observation now = .error (.conflict message)) :
      DeliveryOutcome run observation now invocationId run
  | withheld (h : isSuspensionCheckpointed run invocationId = false) :
      DeliveryOutcome run observation now invocationId run

/-- What a processing that was not interrupted did: the row went without a word to the
kernel, or the call moved and the kernel was told. -/
inductive ProcessedAs (env : ProcessorEnv) (answers : PortAnswers) (call : AgentCallLedgerRecord)
    (run : OrchestratorRunState) (row : A2AObservationInboxRecord) : Processed → Prop
  | kept {row' : A2AObservationInboxRecord}
      (hunheard : Correlates call row → Unheard env answers call run row) :
      ProcessedAs env answers call run row ⟨call, run, row'⟩
  | told {call' : AgentCallLedgerRecord} {run' : OrchestratorRunState}
      {row' : A2AObservationInboxRecord} {observation : NormalizedA2AObservation}
      {toolObservation : ToolObservation}
      (hheard : Heard env answers call run row observation call')
      (htold : toToolObservation env call' observation = .ok toolObservation)
      (houtcome : DeliveryOutcome run toolObservation answers.now call'.invocationId run') :
      ProcessedAs env answers call run row ⟨call', run', row'⟩

theorem deliver_told {processed : Processed} (hrun : run.status.isTerminal = false)
    (hheard : Heard env answers call run row observation call')
    (h : deliver env answers call' run row observation = .ok processed) :
    ProcessedAs env answers call run row processed := by
  unfold deliver at h
  split at h
  · cases h
  · rename_i toolObservation htold
    simp only [hrun, Bool.false_eq_true, if_false] at h
    split at h
    · cases h
    split at h
    · split at h
      · rename_i message hconflict
        cases h
        exact .told hheard htold (.deferred hconflict)
      · cases h
      · rename_i run' hobserved
        split at h
        · cases h
        split at h
        · cases h
          exact .told hheard htold (.observed hobserved)
        · cases h
          exact .told hheard htold (.observed hobserved)
    · rename_i hwithheld
      cases h
      exact .told hheard htold (.withheld (by simpa using hwithheld))

theorem activateAndDeliver_told {processed : Processed} {interactionId fingerprint : String}
    (hrun : run.status.isTerminal = false)
    (hmatches : matchesAttached call' observation.eventKind interactionId fingerprint = true)
    (hheard : Heard env answers call run row observation call')
    (h : activateAndDeliver env answers call' run row observation interactionId fingerprint =
      .ok processed) :
    ProcessedAs env answers call run row processed := by
  unfold activateAndDeliver at h
  split at h
  · cases h
  split at h
  · cases h
  split at h
  · cases h
  · rw [if_pos hmatches] at h
    exact deliver_told hrun hheard h

/-- A question is attached to a call that the ledger has made ready for it. -/
theorem LedgerMoved.attached {changed : AgentCallLedgerRecord} {toState : AgentCallState}
    {updatedAt : Timestamp} {updates : CallUpdates} (h : LedgerMoved call observation changed)
    (hkind : observation.eventKind.isInteraction = true) (hlive : toState.isTerminal = false)
    (hupdates : updates.terminalResult = none)
    (hmove : transitionCall changed toState updatedAt updates = .ok call') :
    LedgerMoved call observation call' where
  invocation := (transitionCall_names hmove).1.trans h.invocation
  results hcall := resultWhenEnded_of_transition hmove hlive hupdates (h.results hcall)
  ended hended := by
    have hchanged := transitionCall_live hmove
    rw [h.ended hended, hended] at hchanged
    cases hchanged
  parked hplain := by
    rw [hkind] at hplain
    exact absurd hplain Bool.true_eq_false.mp

theorem matchesAttached_of_transition {changed : AgentCallLedgerRecord} {eventKind : ObservationKind}
    {updatedAt : Timestamp} {interactionId fingerprint : String}
    (hmove : transitionCall changed eventKind.callState updatedAt
      { pendingInteractionId := some (some interactionId)
        interactionRevision := some (some 1)
        interactionFingerprint := some (some fingerprint) } = .ok call') :
    matchesAttached call' eventKind interactionId fingerprint = true := by
  obtain ⟨-, rfl⟩ := transitionCall_eq_ok.mp hmove
  cases eventKind <;> simp [matchesAttached, CallUpdates.closing, CallUpdates.overlay,
    ObservationKind.callState, AgentCallState.isTerminal]

theorem attachInteraction_told {processed : Processed} {changed : AgentCallLedgerRecord}
    {interaction : A2AInteractionSpec} (hrun : run.status.isTerminal = false)
    (hkind : observation.eventKind.isInteraction = true)
    (hsame : observation.eventKind = row.observation.eventKind)
    (hheard : Heard env answers call run row observation changed)
    (hmoves : ¬ Unmoved env call row)
    (h : attachInteraction env answers changed run row observation interaction = .ok processed) :
    ProcessedAs env answers call run row processed := by
  unfold attachInteraction at h
  split at h
  · cases h
  split at h
  · cases h
  split at h
  · cases h
  split at h
  · cases h
  · rename_i required hmove
    rw [← hsame] at hmove
    have hlive : observation.eventKind.callState.isTerminal = false := by
      cases observation.eventKind <;> rfl
    have hattached : Heard env answers call run row observation required :=
      { hheard with
        moved := hheard.moved.attached hkind hlive rfl hmove
        stays := fun hunmoved => absurd hunmoved hmoves }
    exact activateAndDeliver_told hrun (matchesAttached_of_transition hmove) hattached h

theorem applyObservation_question {recentLimit : Nat}
    (hkind : observation.eventKind.isInteraction = true)
    (h : applyObservation env.resultDigest call observation recentLimit = .ok call')
    (hended : call'.state.isTerminal = true) : call' = call := by
  cases applyObservation_applied h with
  | ignored => rfl
  | asked hnoted hasks hmove =>
      rw [transitionCall_state hmove] at hended
      cases hended
  | started hnoted hprogress hmove =>
      rw [transitionCall_state hmove] at hended
      cases hended
  | progressed hnoted hcancel hprogress =>
      have hlive := hnoted.live
      rw [show call.state.isTerminal = true from hended] at hlive
      cases hlive
  | ended hnoted hterminal hstatus hmove =>
      rw [hterminal] at hkind
      cases hkind

/-- The prepared observation is a question exactly when it has a valid interaction. -/
structure Prepared (row : A2AObservationInboxRecord) (observation : NormalizedA2AObservation)
    (interaction : Option A2AInteractionSpec) : Prop where
  question : interaction.isSome = true → observation.eventKind.isInteraction = true ∧
    observation.eventKind = row.observation.eventKind
  plain : interaction = none → observation.eventKind.isInteraction = false

theorem typedObservation_prepared (env : ProcessorEnv) (row : A2AObservationInboxRecord) :
    Prepared row (typedObservation env row.observation).1
      (typedObservation env row.observation).2 := by
  unfold typedObservation
  cases hkind : row.observation.eventKind.isInteraction with
  | false =>
      rw [if_neg Bool.false_ne_true]
      exact ⟨nofun, fun _ => hkind⟩
  | true =>
      rw [if_pos rfl]
      cases row.observation.interactionSpec.bind env.validateInteraction with
      | none => exact ⟨nofun, fun _ => rfl⟩
      | some interaction => exact ⟨fun _ => ⟨hkind, rfl⟩, nofun⟩

theorem typedObservation_id (env : ProcessorEnv) (row : A2AObservationInboxRecord) :
    (typedObservation env row.observation).1.observationId = row.observationId := by
  unfold typedObservation
  split
  · split <;> rfl
  · rfl

theorem materialized_same {prepared : NormalizedA2AObservation}
    (h : materialized answers observation = .ok prepared) :
    prepared.eventKind = observation.eventKind ∧ prepared.status = observation.status ∧
      prepared.observationId = observation.observationId := by
  unfold materialized at h
  dsimp only at h
  split at h
  · cases h
    exact ⟨rfl, rfl, rfl⟩
  split at h
  · cases h
  split at h
  · cases h
  split at h
  · cases h
  · cases h
    exact ⟨rfl, rfl, rfl⟩

theorem Unmoving.transfer {prepared : NormalizedA2AObservation}
    (h : Unmoving call observation) (hkind : prepared.eventKind = observation.eventKind)
    (hstatus : prepared.status = observation.status)
    (hid : prepared.observationId = observation.observationId) : Unmoving call prepared := by
  cases h with
  | ended hended => exact .ended hended
  | recorded hknown => exact .recorded (hid.symm ▸ hknown)
  | progress hprogress => exact .progress (hkind.symm ▸ hprogress)
  | canceling hstate hterminal hother =>
      exact .canceling hstate (hkind.trans hterminal) (hstatus.symm ▸ hother)

theorem interactionAttached_live {eventKind : ObservationKind} {interaction : A2AInteractionSpec}
    (h : interactionAttached env call eventKind interaction = true) :
    call.state.isTerminal = false := by
  unfold interactionAttached at h
  simp only [Bool.and_eq_true, decide_eq_true_eq] at h
  rw [h.1.1]
  cases eventKind <;> rfl

theorem matchesAttached_of_attached {eventKind : ObservationKind}
    {interaction : A2AInteractionSpec}
    (h : interactionAttached env call eventKind interaction = true) :
    matchesAttached call eventKind interaction.interactionId (env.interactionDigest interaction) =
      decide (call.interactionRevision = some 1) := by
  unfold interactionAttached at h
  simp only [Bool.and_eq_true, decide_eq_true_eq] at h
  unfold matchesAttached
  rw [h.1.1, h.1.2, h.2]
  simp

theorem attached_told {processed : Processed} {interaction : A2AInteractionSpec}
    (hrun : run.status.isTerminal = false) (hunaccounted : ¬ Accounted row)
    (hmaterialized : materialized answers (typedObservation env row.observation).1 =
      .ok observation)
    (hattached : (typedObservation env row.observation).2.filter (interactionAttached env call
      (typedObservation env row.observation).1.eventKind) = some interaction)
    (h : activateAndDeliver env answers call run row observation interaction.interactionId
      (env.interactionDigest interaction) = .ok processed) :
    ProcessedAs env answers call run row processed := by
  obtain ⟨hkind, -, hid⟩ := materialized_same hmaterialized
  obtain ⟨hquestion, hsame⟩ := Option.filter_eq_some_iff.mp hattached
  have hsome : (typedObservation env row.observation).2.isSome = true := by
    rw [hquestion]
    rfl
  have hasks : observation.eventKind.isInteraction = true := by
    rw [hkind]
    exact ((typedObservation_prepared env row).question hsome).1
  by_cases hrevision : call.interactionRevision = some 1
  · have hmatches := matchesAttached_of_attached hsame
    rw [hrevision, ← hkind] at hmatches
    have hheard : Heard env answers call run row observation call := by
      constructor
      · exact hid.trans (typedObservation_id env row)
      · exact fun _ => ⟨hunaccounted, hkind⟩
      · exact .refl_of_interaction call hasks
      · exact fun _ => Stays.refl call
      · intro hunheard
        cases hunheard with
        | accounted hroute hdigest _ => exact hunaccounted ⟨hroute, by rw [hdigest]; rfl⟩
        | closes _ hcloses =>
            cases hcloses with
            | superseded _ _ hother _ =>
                rw [hattached] at hother
                cases hother
            | revised hagain hother => exact hother hrevision
            | ended _ hended =>
                rw [interactionAttached_live hsame] at hended
                cases hended
            | contradicts hended _ _ _ _ _ =>
                rw [interactionAttached_live hsame] at hended
                cases hended
    exact activateAndDeliver_told hrun (by simpa using hmatches) hheard h
  · have hunheard : Unheard env answers call run row :=
      .closes hunaccounted (.revised hattached hrevision)
    have hmatches := matchesAttached_of_attached hsame
    rw [← hkind] at hmatches
    unfold activateAndDeliver at h
    split at h
    · cases h
    split at h
    · cases h
    split at h
    · cases h
    · rw [if_neg (by rw [hmatches]; simpa using hrevision)] at h
      cases h
      exact .kept fun _ => hunheard

/-- The row gets to the ledger, which takes the observation. -/
structure Taken (env : ProcessorEnv) (answers : PortAnswers) (call : AgentCallLedgerRecord)
    (row : A2AObservationInboxRecord) (observation : NormalizedA2AObservation)
    (changed : AgentCallLedgerRecord) : Prop where
  unaccounted : ¬ Accounted row
  read : materialized answers (typedObservation env row.observation).1 = .ok observation
  other : (typedObservation env row.observation).2.filter (interactionAttached env call
    (typedObservation env row.observation).1.eventKind) = none
  fresh : ¬ ((typedObservation env row.observation).2.isSome = true ∧
    (row.observationId ∈ call.recentObservationIds ∨ ledgerCheckpointed row = true) ∧
      call.state.isTerminal = false)
  applied : applyObservation env.resultDigest call observation
    env.policy.recentObservationIdLimit = .ok changed

/-- The kernel hears of what the ledger has taken, unless it is a question of an ended call. -/
theorem Taken.heard {changed : AgentCallLedgerRecord}
    (h : Taken env answers call row observation changed)
    (hopen : (typedObservation env row.observation).2.isSome = true →
      call.state.isTerminal = false) : Heard env answers call run row observation changed := by
  obtain ⟨hkind, hstatus, hid⟩ := materialized_same h.read
  have hrowId := hid.trans (typedObservation_id env row)
  constructor
  · exact hrowId
  · exact fun _ => ⟨h.unaccounted, hkind⟩
  · exact ledgerMoved_of_apply h.applied
  · intro hunmoved
    cases hunmoved with
    | ignored hunmoving => exact stays_of_unmoving (hunmoving.transfer hkind hstatus hid) h.applied
    | attached hattached =>
        rw [h.other] at hattached
        cases hattached
  · intro hunheard
    cases hunheard with
    | accounted hroute hdigest _ => exact h.unaccounted ⟨hroute, by rw [hdigest]; rfl⟩
    | closes _ hcloses =>
        cases hcloses with
        | superseded hquestion hlive _ hknown => exact h.fresh ⟨hquestion, hknown, hlive⟩
        | revised hattached _ =>
            rw [h.other] at hattached
            cases hattached
        | ended hquestion hended =>
            rw [hopen hquestion] at hended
            cases hended
        | contradicts hended hfresh hagain hterminal hstatus' hdigest =>
            rw [h.read] at hagain
            cases hagain
            rw [← hrowId] at hfresh
            exact hdigest (applyObservation_agreeing hended hfresh hterminal hstatus' h.applied)

/-- A new question moves the ledger of a live call. -/
theorem Taken.moves {changed : AgentCallLedgerRecord}
    (h : Taken env answers call row observation changed)
    (hlive : call.state.isTerminal = false)
    (hsome : (typedObservation env row.observation).2.isSome = true) : ¬ Unmoved env call row := by
  have hasks := ((typedObservation_prepared env row).question hsome).1
  intro hunmoved
  cases hunmoved with
  | attached hattached =>
      rw [h.other] at hattached
      cases hattached
  | ignored hunmoving =>
      cases hunmoving with
      | ended hended =>
          rw [hlive] at hended
          cases hended
      | recorded hknown =>
          rw [typedObservation_id] at hknown
          exact h.fresh ⟨hsome, .inl hknown, hlive⟩
      | progress hprogress =>
          rw [ObservationKind.plain_of_progress hprogress] at hasks
          cases hasks
      | canceling _ hterminal _ =>
          rw [hterminal] at hasks
          cases hasks

/-- The row is applied to the ledger: what the ledger has taken is delivered. -/
theorem afterLedger_told {processed : Processed} {changed : AgentCallLedgerRecord}
    (hrun : run.status.isTerminal = false)
    (htaken : Taken env answers call row observation changed)
    (h : afterLedger env answers changed run row observation
      (typedObservation env row.observation).2 = .ok processed) :
    ProcessedAs env answers call run row processed := by
  obtain ⟨hkind, -, -⟩ := materialized_same htaken.read
  unfold afterLedger at h
  cases hinteraction : (typedObservation env row.observation).2 with
  | none =>
      have hheard : Heard env answers call run row observation changed :=
        htaken.heard (by rw [hinteraction]; nofun)
      rw [hinteraction] at h
      dsimp only at h
      split at h
      · split at h
        · cases h
        · exact deliver_told hrun hheard h
      · exact deliver_told hrun hheard h
  | some interaction =>
      have hsome : (typedObservation env row.observation).2.isSome = true := by
        rw [hinteraction]
        rfl
      obtain ⟨hasks, hsame⟩ := (typedObservation_prepared env row).question hsome
      rw [← hkind] at hasks hsame
      rw [hinteraction] at h
      dsimp only at h
      split at h
      · rename_i hended
        have hcall := applyObservation_question hasks htaken.applied hended
        subst hcall
        split at h
        · cases h
        split at h
        · cases h
        · cases h
          exact .kept fun _ => .closes htaken.unaccounted (.ended hsome hended)
      · rename_i hlive
        have hlive : changed.state.isTerminal = false := by simpa using hlive
        have hopen : call.state.isTerminal = false := by
          cases hended : call.state.isTerminal with
          | false => rfl
          | true =>
              rw [(ledgerMoved_of_apply htaken.applied).ended hended, hended] at hlive
              cases hlive
        exact attachInteraction_told hrun hasks hsame (htaken.heard fun _ => hopen)
          (htaken.moves hopen hsome) h

theorem applyRow_told {processed : Processed} (hrun : run.status.isTerminal = false)
    (hunaccounted : ¬ Accounted row)
    (hmaterialized : materialized answers (typedObservation env row.observation).1 =
      .ok observation)
    (h : applyRow env answers call run row observation
      (typedObservation env row.observation).2 = .ok processed) :
    ProcessedAs env answers call run row processed := by
  obtain ⟨hkind, -, hid⟩ := materialized_same hmaterialized
  have hrowId := hid.trans (typedObservation_id env row)
  unfold applyRow at h
  rw [hkind, hrowId] at h
  split at h
  · rename_i attached hattached
    exact attached_told hrun hunaccounted hmaterialized hattached h
  rename_i hother
  split at h
  · rename_i hclosed
    obtain ⟨hquestion, hknown, hlive⟩ := hclosed
    cases h
    exact .kept fun _ => .closes hunaccounted (.superseded hquestion hlive hother hknown)
  rename_i hnew
  split at h
  · rename_i hconflict
    obtain ⟨hended, hfresh, hterminal, status, hstatus, hdigest⟩ :=
      applyObservation_conflict hconflict
    rw [hrowId] at hfresh
    split at h
    · cases h
      exact .kept fun _ => .closes hunaccounted
        (.contradicts hended hfresh hmaterialized hterminal hstatus hdigest)
    · cases h
    · cases h
    · cases h
  · cases h
  · rename_i changed hchanged
    exact afterLedger_told hrun ⟨hunaccounted, hmaterialized, hother, hnew, hchanged⟩ h

theorem processExecutorOutcome_told {processed : Processed} {outcomeDigest : String}
    (hrun : run.status.isTerminal = false) (hroute : row.deliveryRoute = .executor)
    (hdigest : row.outcomeDigest = some outcomeDigest)
    (h : processExecutorOutcome env answers call run row outcomeDigest = .ok processed) :
    ProcessedAs env answers call run row processed := by
  unfold processExecutorOutcome at h
  rw [hrun, if_neg Bool.false_ne_true] at h
  dsimp only at h
  cases hended : call.state.isTerminal with
  | false =>
      rw [hended, if_neg Bool.false_ne_true] at h
      cases h
      exact .kept fun _ => .accounted hroute hdigest (.inl hended)
  | true =>
      rw [hended, if_pos rfl] at h
      split at h
      · cases h
      split at h
      · rename_i htells
        obtain ⟨hunseen, hsuspended⟩ := htells
        have hheard : Heard env answers call run row row.observation call := by
          constructor
          · rfl
          · rw [hended]
            nofun
          · exact .refl_of_ended hended
          · exact fun _ => Stays.refl call
          · intro hunheard
            cases hunheard with
            | accounted _ hdigest' hmute =>
                rw [hdigest] at hdigest'
                cases hdigest'
                rw [hended, hunseen, hsuspended] at hmute
                simp at hmute
            | closes hunaccounted _ => exact hunaccounted ⟨hroute, by rw [hdigest]; rfl⟩
        split at h
        · cases h
        · rename_i htold
          split at h
          · rename_i hconflict
            cases h
            exact .told hheard htold (.deferred hconflict)
          · cases h
          · rename_i hobserved
            split at h
            · cases h
              exact .told hheard htold (.observed hobserved)
            · cases h
              exact .told hheard htold (.observed hobserved)
      · rename_i hmute
        cases h
        apply ProcessedAs.kept
        intro _
        apply Unheard.accounted hroute hdigest
        right
        rw [not_and_or] at hmute
        rcases hmute with hseen | hsuspended
        · exact .inl (by simpa using hseen)
        · exact .inr (by simpa using hsuspended)

theorem resolveCall_eq {record : AgentCallLedgerRecord} (h : resolveCall call row = some record) :
    record = call := by
  unfold resolveCall at h
  split at h
  · split at h
    · exact (Option.some.inj h).symm
    · cases h
  · split at h
    · exact (Option.some.inj h).symm
    · cases h

theorem Correlates.resolved (h : Correlates call row) : resolveCall call row = some call := by
  unfold resolveCall
  rw [h.callRecordId]
  exact if_pos ⟨rfl, h.bindingScope⟩

theorem processRow_told {processed : Processed} (hrun : run.status.isTerminal = false)
    (h : processRow env answers call run row = .ok processed) :
    ProcessedAs env answers call run row processed := by
  unfold processRow at h
  split at h
  · rename_i hnone
    cases h
    apply ProcessedAs.kept
    intro hcorrelates
    rw [hcorrelates.resolved] at hnone
    cases hnone
  · rename_i record hrecord
    obtain rfl := resolveCall_eq hrecord
    split at h
    · rename_i hother
      cases h
      apply ProcessedAs.kept
      intro hcorrelates
      rcases hother with hconversation | hepoch | hcall
      · exact absurd hcorrelates.conversationId hconversation
      · exact absurd hcorrelates.roomEpoch hepoch
      · exact absurd hcorrelates.callRecordId hcall
    split at h
    · rename_i hended
      rw [hrun] at hended
      exact absurd hended.2 Bool.false_ne_true
    split at h
    · rename_i hroute hdigest
      exact processExecutorOutcome_told hrun hroute hdigest h
    rename_i hunaccounted
    split at h
    · cases h
    split at h
    · cases h
    · rename_i hmaterialized
      apply applyRow_told hrun _ hmaterialized h
      rintro ⟨hroute, hdigest⟩
      obtain ⟨digest, hdigest⟩ := Option.isSome_iff_exists.mp hdigest
      exact hunaccounted digest hroute hdigest

theorem process_told {processed : Processed} (hrun : run.status.isTerminal = false)
    (hopen : row.isDone = false) (h : process env answers call run row = .ok processed) :
    ProcessedAs env answers call run row.claim processed := by
  unfold process at h
  rw [hopen, if_neg Bool.false_ne_true] at h
  exact processRow_told hrun h

/-! ## What is stored -/

/-- The call and the Run as a processing leaves them. -/
structure Stored (call : AgentCallLedgerRecord) (run : OrchestratorRunState)
    (call' : AgentCallLedgerRecord) (run' : OrchestratorRunState) : Prop where
  invocation : call'.invocationId = call.invocationId
  results : ResultWhenEnded call → ResultWhenEnded call'
  run : run' = run ∨ ∃ observation now, observation.invocationId = call.invocationId ∧
    observeTool run observation now = .ok run'

theorem Stored.refl (call : AgentCallLedgerRecord) (run : OrchestratorRunState) :
    Stored call run call run :=
  ⟨rfl, id, .inl rfl⟩

theorem Stored.observed {observation : ToolObservation} {now : Timestamp}
    (h : Stored call run call' run) (hinvocation : observation.invocationId = call'.invocationId)
    (hobserved : observeTool run observation now = .ok run') : Stored call run call' run' :=
  ⟨h.invocation, h.results, .inr ⟨observation, now, hinvocation.trans h.invocation, hobserved⟩⟩

/-- An interruption leaves what was stored before it. -/
def Leaves (call : AgentCallLedgerRecord) (run : OrchestratorRunState) :
    Except Interrupted Processed → Prop
  | .ok processed => Stored call run processed.call processed.run
  | .error interrupted => Stored call run interrupted.call interrupted.run

theorem toToolObservation_names {toolObservation : ToolObservation}
    (h : toToolObservation env call observation = .ok toolObservation) :
    toolObservation.observationId = observation.observationId ∧
      toolObservation.invocationId = call.invocationId ∧
      toolOutcome env call observation = .ok toolObservation.outcome := by
  unfold toToolObservation at h
  split at h
  · cases h
  · rename_i houtcome
    cases h
    exact ⟨rfl, rfl, houtcome⟩

theorem completeRunTerminal_leaves {digest : String} (h : Stored call run call' run) :
    Leaves call run (completeRunTerminal answers call' run row digest) := by
  unfold completeRunTerminal
  split <;> exact h

theorem deliver_leaves (h : Stored call run call' run) :
    Leaves call run (deliver env answers call' run row observation) := by
  unfold deliver
  split
  · exact h
  · rename_i htold
    obtain ⟨-, hinvocation, -⟩ := toToolObservation_names htold
    dsimp only
    split
    · exact completeRunTerminal_leaves h
    split
    · exact h
    split
    · split
      · exact h
      · exact h
      · rename_i hobserved
        have hdelivered := h.observed hinvocation hobserved
        split
        · exact hdelivered
        split <;> exact hdelivered
    · exact h

theorem processExecutorOutcome_leaves {digest : String} :
    Leaves call run (processExecutorOutcome env answers call run row digest) := by
  have h := Stored.refl call run
  unfold processExecutorOutcome
  split
  · exact completeRunTerminal_leaves h
  dsimp only
  split
  · split
    · exact h
    split
    · split
      · exact h
      · rename_i htold
        split
        · exact h
        · exact h
        · rename_i hobserved
          obtain ⟨-, hinvocation, -⟩ := toToolObservation_names htold
          have hdelivered := h.observed hinvocation hobserved
          split <;> exact hdelivered
    · exact h
  · exact h

theorem activateAndDeliver_leaves {interactionId fingerprint : String}
    (h : Stored call run call' run) :
    Leaves call run
      (activateAndDeliver env answers call' run row observation interactionId fingerprint) := by
  unfold activateAndDeliver
  split
  · exact h
  split
  · exact h
  split
  · exact h
  split
  · exact deliver_leaves h
  · exact h

theorem attachInteraction_leaves {interaction : A2AInteractionSpec} (h : Stored call run call' run) :
    Leaves call run (attachInteraction env answers call' run row observation interaction) := by
  unfold attachInteraction
  split
  · exact h
  split
  · exact h
  split
  · exact h
  split
  · exact h
  · rename_i required hmove
    have hlive : row.observation.eventKind.callState.isTerminal = false := by
      cases row.observation.eventKind <;> rfl
    have hrequired : Stored call run required run :=
      ⟨(transitionCall_names hmove).1.trans h.invocation,
        fun hcall => resultWhenEnded_of_transition hmove hlive rfl (h.results hcall), .inl rfl⟩
    exact activateAndDeliver_leaves hrequired

theorem afterLedger_leaves {interaction : Option A2AInteractionSpec}
    (h : Stored call run call' run) :
    Leaves call run (afterLedger env answers call' run row observation interaction) := by
  unfold afterLedger
  split
  · split
    · exact h
    split
    · exact deliver_leaves h
    split <;> exact h
  · split
    · exact deliver_leaves h
    · exact attachInteraction_leaves h

theorem applyRow_leaves {interaction : Option A2AInteractionSpec} :
    Leaves call run (applyRow env answers call run row observation interaction) := by
  have h := Stored.refl call run
  unfold applyRow
  split
  · exact activateAndDeliver_leaves h
  split
  · exact h
  split
  · split <;> exact h
  · exact h
  · rename_i changed hchanged
    have hmoved := ledgerMoved_of_apply hchanged
    exact afterLedger_leaves ⟨hmoved.invocation, hmoved.results, .inl rfl⟩

theorem process_leaves (env : ProcessorEnv) (answers : PortAnswers) (call : AgentCallLedgerRecord)
    (run : OrchestratorRunState) (row : A2AObservationInboxRecord) :
    Leaves call run (process env answers call run row) := by
  have h := Stored.refl call run
  unfold process
  split
  · exact h
  unfold processRow
  split
  · exact h
  · rename_i record hrecord
    obtain rfl := resolveCall_eq hrecord
    split
    · exact h
    split
    · exact completeRunTerminal_leaves h
    split
    · exact processExecutorOutcome_leaves
    split
    · exact h
    split
    · exact h
    · exact applyRow_leaves

end Hybro.A2ARuntime
