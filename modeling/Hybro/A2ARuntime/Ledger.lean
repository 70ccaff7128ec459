import Hybro.A2ARuntime.Models

/-! # Lifecycle rules of the Agent call ledger

The transition table, the two functions that change a call record, and what
each of them may do to it.
-/

namespace Hybro.A2ARuntime

open Orchestrator PythonList

/-! ## Legal transitions -/

def agentCallTransitions : AgentCallState → List AgentCallState
  | .accepted => [.readyToDispatch, .cancelPending, .rejected, .expired]
  | .readyToDispatch => [.dispatching, .cancelPending, .rejected, .expired]
  | .dispatching =>
      [.readyToDispatch, .deliveryUncertain, .working, .continuationPending, .completed, .failed,
        .canceled, .rejected, .expired, .cancelPending]
  | .deliveryUncertain =>
      [.dispatching, .working, .continuationPending, .completed, .failed, .canceled, .rejected,
        .expired, .cancelPending]
  | .working =>
      [.continuationPending, .completed, .failed, .canceled, .rejected, .expired, .cancelPending]
  | .continuationPending =>
      [.inputRequired, .authRequired, .resuming, .failed, .canceled, .expired, .cancelPending]
  | .inputRequired => [.resuming, .failed, .canceled, .expired, .cancelPending]
  | .authRequired => [.resuming, .failed, .canceled, .rejected, .expired, .cancelPending]
  | .resuming =>
      [.deliveryUncertain, .working, .continuationPending, .completed, .failed, .canceled,
        .rejected, .expired, .cancelPending]
  | .cancelPending => [.canceled]
  | .completed | .failed | .canceled | .rejected | .expired => []

def Legal (source target : AgentCallState) : Prop :=
  target ∈ agentCallTransitions source

instance (source target : AgentCallState) : Decidable (Legal source target) :=
  inferInstanceAs (Decidable (_ ∈ _))

theorem not_legal_of_terminal {source target : AgentCallState} (h : source.isTerminal = true) :
    ¬ Legal source target := by
  cases source <;> simp_all [Legal, agentCallTransitions, AgentCallState.isTerminal]

theorem eq_canceled_of_legal {target : AgentCallState} (h : Legal .cancelPending target) :
    target = .canceled := by
  simpa [Legal, agentCallTransitions] using h

inductive LedgerError
  | illegalTransition (source target : AgentCallState)
  | conflictingTerminal (persistedDigest conflictingDigest : String)
  | aliasAlreadyBound (kind : AliasKind)
  | assertion
  deriving DecidableEq

def LedgerError.message : LedgerError → String
  | .illegalTransition source target =>
      "illegal AgentCall transition: " ++ source.value ++ " -> " ++ target.value
  | .conflictingTerminal _ _ => "terminal observation conflicts with persisted winner"
  | .aliasAlreadyBound kind => "authoritative " ++ kind.value ++ " alias already bound"
  | .assertion => ""

def validateAgentCallTransition (source target : AgentCallState) : Except LedgerError Unit :=
  if Legal source target then .ok () else .error (.illegalTransition source target)

/-! ## Transitions -/

/-- The keyword updates of one transition; a field left out keeps its value. -/
structure CallUpdates where
  transportAttempts : Option Nat := none
  inspectionAttempts : Option Nat := none
  a2aTaskId : Option (Option String) := none
  a2aContextId : Option (Option String) := none
  ownershipAliases : Option (List A2AOwnershipAlias) := none
  ownershipAliasKeys : Option (List String) := none
  pendingInteractionId : Option (Option String) := none
  interactionRevision : Option (Option Nat) := none
  interactionFingerprint : Option (Option String) := none
  answerApplied : Option (Option HITLAnswerAppliedMarker) := none
  consumedAuthReferences : Option (List VerifiedAuthReferenceBinding) := none
  continuationCommand : Option (Option A2AContinuationCommand) := none
  continuationState : Option (Option CommandState) := none
  continuationAttempts : Option Nat := none
  authorizationRefreshAttempts : Option Nat := none
  artifactRefs : Option (List String) := none
  latestObservationCursor : Option (Option String) := none
  recentObservationIds : Option (List String) := none
  terminalResult : Option (Option ToolResult) := none
  terminalResultDigest : Option (Option String) := none
  pushTokenDigest : Option (Option String) := none
  cancellationCommand : Option (Option A2ACancellationCommand) := none
  cancellationCommandId : Option (Option String) := none
  cancellationReason : Option (Option String) := none
  cancellationState : Option (Option CommandState) := none
  errorCode : Option (Option String) := none
  errorMessage : Option (Option String) := none
  claimOwner : Option (Option String) := none
  claimExpiresAt : Option (Option Timestamp) := none
  nextAttemptAt : Option (Option Timestamp) := none
  terminalAt : Option (Option Timestamp) := none

/-- `record.model_copy(update=updates)` -/
def CallUpdates.overlay (updates : CallUpdates) (record : AgentCallLedgerRecord) :
    AgentCallLedgerRecord :=
  { record with
    transportAttempts := updates.transportAttempts.getD record.transportAttempts
    inspectionAttempts := updates.inspectionAttempts.getD record.inspectionAttempts
    a2aTaskId := updates.a2aTaskId.getD record.a2aTaskId
    a2aContextId := updates.a2aContextId.getD record.a2aContextId
    ownershipAliases := updates.ownershipAliases.getD record.ownershipAliases
    ownershipAliasKeys := updates.ownershipAliasKeys.getD record.ownershipAliasKeys
    pendingInteractionId := updates.pendingInteractionId.getD record.pendingInteractionId
    interactionRevision := updates.interactionRevision.getD record.interactionRevision
    interactionFingerprint := updates.interactionFingerprint.getD record.interactionFingerprint
    answerApplied := updates.answerApplied.getD record.answerApplied
    consumedAuthReferences := updates.consumedAuthReferences.getD record.consumedAuthReferences
    continuationCommand := updates.continuationCommand.getD record.continuationCommand
    continuationState := updates.continuationState.getD record.continuationState
    continuationAttempts := updates.continuationAttempts.getD record.continuationAttempts
    authorizationRefreshAttempts :=
      updates.authorizationRefreshAttempts.getD record.authorizationRefreshAttempts
    artifactRefs := updates.artifactRefs.getD record.artifactRefs
    latestObservationCursor := updates.latestObservationCursor.getD record.latestObservationCursor
    recentObservationIds := updates.recentObservationIds.getD record.recentObservationIds
    terminalResult := updates.terminalResult.getD record.terminalResult
    terminalResultDigest := updates.terminalResultDigest.getD record.terminalResultDigest
    pushTokenDigest := updates.pushTokenDigest.getD record.pushTokenDigest
    cancellationCommand := updates.cancellationCommand.getD record.cancellationCommand
    cancellationCommandId := updates.cancellationCommandId.getD record.cancellationCommandId
    cancellationReason := updates.cancellationReason.getD record.cancellationReason
    cancellationState := updates.cancellationState.getD record.cancellationState
    errorCode := updates.errorCode.getD record.errorCode
    errorMessage := updates.errorMessage.getD record.errorMessage
    claimOwner := updates.claimOwner.getD record.claimOwner
    claimExpiresAt := updates.claimExpiresAt.getD record.claimExpiresAt
    nextAttemptAt := updates.nextAttemptAt.getD record.nextAttemptAt
    terminalAt := updates.terminalAt.getD record.terminalAt }

/-- What the transition itself adds: a terminal state takes its time and drops the claim. -/
def CallUpdates.closing (updates : CallUpdates) (toState : AgentCallState)
    (updatedAt : Timestamp) : CallUpdates :=
  if toState.isTerminal then
    { updates with
      terminalAt := some (updates.terminalAt.getD (some updatedAt))
      claimOwner := some none
      claimExpiresAt := some none
      nextAttemptAt := some none }
  else { updates with terminalAt := some none }

def transitionCall (record : AgentCallLedgerRecord) (toState : AgentCallState)
    (updatedAt : Timestamp) (updates : CallUpdates := {}) :
    Except LedgerError AgentCallLedgerRecord := do
  validateAgentCallTransition record.state toState
  return { (updates.closing toState updatedAt).overlay record with
    state := toState
    stateVersion := record.stateVersion + 1
    updatedAt := updatedAt }

theorem transitionCall_eq_ok {record next : AgentCallLedgerRecord} {toState : AgentCallState}
    {updatedAt : Timestamp} {updates : CallUpdates} :
    transitionCall record toState updatedAt updates = .ok next ↔
      Legal record.state toState ∧
        next = { (updates.closing toState updatedAt).overlay record with
          state := toState
          stateVersion := record.stateVersion + 1
          updatedAt := updatedAt } := by
  unfold transitionCall validateAgentCallTransition
  by_cases hlegal : Legal record.state toState
  · rw [if_pos hlegal]
    constructor
    · intro h
      exact ⟨hlegal, (Except.ok.inj h).symm⟩
    · rintro ⟨-, rfl⟩
      rfl
  · rw [if_neg hlegal]
    constructor
    · intro h
      cases h
    · rintro ⟨h, -⟩
      exact absurd h hlegal

/-! ## Ownership aliases -/

/-- `value.startswith(("relay-pending-", "pending-", "provisional-"))` -/
def isProvisional (value : String) : Bool :=
  ["relay-pending-", "pending-", "provisional-"].any
    (fun start => start.toList.isPrefixOf value.toList)

def bindAlias (scope : String) (kind : AliasKind) (value : Option String)
    (aliases : List A2AOwnershipAlias) : Except LedgerError (List A2AOwnershipAlias) :=
  match value with
  | none => .ok aliases
  | some value =>
      if value = "" ∨ isProvisional value then .ok aliases
      else
        let ownership : A2AOwnershipAlias := ⟨kind, value, scope, true⟩
        match aliases.find? (fun bound => bound.kind = kind) with
        | none => .ok (aliases ++ [ownership])
        | some bound =>
            if bound = ownership then .ok aliases else .error (.aliasAlreadyBound kind)

def bindAuthoritativeAliases (record : AgentCallLedgerRecord) (taskId contextId : Option String) :
    Except LedgerError (List A2AOwnershipAlias) := do
  let aliases ← bindAlias record.endpointScopeDigest .task taskId record.ownershipAliases
  bindAlias record.endpointScopeDigest .context contextId aliases

theorem bindAlias_scope {scope : String} {kind : AliasKind} {value : Option String}
    {aliases bound : List A2AOwnershipAlias} (h : bindAlias scope kind value aliases = .ok bound)
    (haliases : ∀ ownership ∈ aliases, ownership.bindingScope = scope) :
    ∀ ownership ∈ bound, ownership.bindingScope = scope := by
  cases value with
  | none =>
      cases h
      exact haliases
  | some value =>
      simp only [bindAlias] at h
      split at h
      · cases h
        exact haliases
      · split at h
        · cases h
          intro ownership hmem
          rcases List.mem_append.mp hmem with hmem | hmem
          · exact haliases ownership hmem
          · rw [List.mem_singleton.mp hmem]
        · split at h
          · cases h
            exact haliases
          · cases h

theorem bindAuthoritativeAliases_scope {record : AgentCallLedgerRecord}
    {taskId contextId : Option String} {aliases : List A2AOwnershipAlias}
    (h : bindAuthoritativeAliases record taskId contextId = .ok aliases)
    (hscope : ∀ ownership ∈ record.ownershipAliases,
      ownership.bindingScope = record.endpointScopeDigest) :
    ∀ ownership ∈ aliases, ownership.bindingScope = record.endpointScopeDigest := by
  unfold bindAuthoritativeAliases at h
  cases htask : bindAlias record.endpointScopeDigest .task taskId record.ownershipAliases with
  | error error =>
      rw [htask] at h
      cases h
  | ok withTask =>
      rw [htask] at h
      exact bindAlias_scope h (bindAlias_scope htask hscope)

/-! ## Observations -/

variable (resultDigest : ToolResult → String)

/-- `first or second` of optional strings. -/
def orElse (first second : Option String) : Option String :=
  if truthy first then first else second

def mergedRefs (record : AgentCallLedgerRecord) (observation : NormalizedA2AObservation) :
    List String :=
  fromKeys (record.artifactRefs ++ observation.artifactRefs)

/-- `_observation_result` of an observation with this status. -/
def observationResult (record : AgentCallLedgerRecord) (observation : NormalizedA2AObservation)
    (status : ToolResultStatus) : ToolResult where
  callId := record.invocationId
  toolName := record.toolName
  status := status
  content := observation.content
  artifactRefs := mergedRefs record observation
  errorCode := observation.errorCode
  errorMessage := observation.errorMessage

def commonUpdates (record : AgentCallLedgerRecord) (observation : NormalizedA2AObservation)
    (aliases : List A2AOwnershipAlias) (recentLimit : Nat) : CallUpdates where
  ownershipAliases := some aliases
  ownershipAliasKeys := some (A2ARuntime.ownershipAliasKeys aliases)
  a2aTaskId := some (orElse observation.taskId record.a2aTaskId)
  a2aContextId := some (orElse observation.contextId record.a2aContextId)
  recentObservationIds :=
    some (lastItems recentLimit (record.recentObservationIds ++ [observation.observationId]))
  latestObservationCursor := some (orElse observation.cursor record.latestObservationCursor)

def interactionUpdates (common : CallUpdates) : CallUpdates :=
  { common with
    pendingInteractionId := some none
    interactionRevision := some none
    interactionFingerprint := some none
    answerApplied := some none
    continuationCommand := some none
    continuationState := some none
    continuationAttempts := some 0
    authorizationRefreshAttempts := some 0
    nextAttemptAt := some none }

def terminalUpdates (record : AgentCallLedgerRecord) (observation : NormalizedA2AObservation)
    (status : ToolResultStatus) (common : CallUpdates) : CallUpdates :=
  { common with
    artifactRefs := some (mergedRefs record observation)
    terminalResult := some (some (observationResult record observation status))
    terminalResultDigest :=
      some (some (resultDigest (observationResult record observation status)))
    errorCode := some observation.errorCode
    errorMessage := some observation.errorMessage }

/-- An observation of a terminal call: only another ending is compared with the first one. -/
def observeTerminal (record : AgentCallLedgerRecord) (observation : NormalizedA2AObservation) :
    Except LedgerError AgentCallLedgerRecord :=
  if observation.eventKind ≠ .terminal then .ok record
  else
    match observation.status with
    | none => .error .assertion
    | some status =>
        let conflicting := resultDigest (observationResult record observation status)
        if some conflicting = record.terminalResultDigest then .ok record
        else
          .error (.conflictingTerminal
            (if truthy record.terminalResultDigest then record.terminalResultDigest.getD "missing"
              else "missing")
            conflicting)

def observeOpen (record : AgentCallLedgerRecord) (observation : NormalizedA2AObservation)
    (recentLimit : Nat) : Except LedgerError AgentCallLedgerRecord := do
  let aliases ← bindAuthoritativeAliases record observation.taskId observation.contextId
  let common := commonUpdates record observation aliases recentLimit
  if observation.eventKind.isInteraction then
    transitionCall record .continuationPending observation.observedAt (interactionUpdates common)
  else if observation.eventKind.isProgress then
    let progress := { common with artifactRefs := some (mergedRefs record observation) }
    if record.state ∈ [.dispatching, .deliveryUncertain, .resuming] then
      transitionCall record .working observation.observedAt progress
    else
      .ok { progress.overlay record with
        stateVersion := record.stateVersion + 1
        updatedAt := observation.observedAt }
  else
    match observation.status with
    | none => .error .assertion
    | some status =>
        transitionCall record (callStateOf status) observation.observedAt
          (terminalUpdates resultDigest record observation status common)

def applyObservation (record : AgentCallLedgerRecord) (observation : NormalizedA2AObservation)
    (recentLimit : Nat) : Except LedgerError AgentCallLedgerRecord :=
  if observation.observationId ∈ record.recentObservationIds then .ok record
  else if record.state.isTerminal then observeTerminal resultDigest record observation
  else if record.state = .cancelPending ∧
      ¬ (observation.eventKind = .terminal ∧ observation.status = some .canceled) then
    .ok record
  else if observation.eventKind.isProgress ∧ record.state ∈ [.accepted, .readyToDispatch] then
    .ok record
  else observeOpen resultDigest record observation recentLimit

end Hybro.A2ARuntime
