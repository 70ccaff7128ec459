import Hybro.Orchestrator.Models
import Hybro.Library.PythonList
import Mathlib.Data.List.Sort
import Mathlib.Data.String.Basic

/-! # Durable contracts of the A2A runtime

The ledger record of one Agent call, the normalized observations about it and
the commands stored beside it. The digest of a terminal result (SHA-256 of its
JSON text) is a parameter of everything that reads it.
-/

namespace Hybro.A2ARuntime

open Orchestrator PythonList

/-! ## Call states -/

inductive AgentCallState
  | accepted
  | readyToDispatch
  | dispatching
  | deliveryUncertain
  | working
  | continuationPending
  | inputRequired
  | authRequired
  | resuming
  | cancelPending
  | completed
  | failed
  | canceled
  | rejected
  | expired
  deriving DecidableEq

def AgentCallState.value : AgentCallState → String
  | .accepted => "accepted"
  | .readyToDispatch => "ready_to_dispatch"
  | .dispatching => "dispatching"
  | .deliveryUncertain => "delivery_uncertain"
  | .working => "working"
  | .continuationPending => "continuation_pending"
  | .inputRequired => "input_required"
  | .authRequired => "auth_required"
  | .resuming => "resuming"
  | .cancelPending => "cancel_pending"
  | .completed => "completed"
  | .failed => "failed"
  | .canceled => "canceled"
  | .rejected => "rejected"
  | .expired => "expired"

/-- `state in TERMINAL_AGENT_CALL_STATES` -/
def AgentCallState.isTerminal : AgentCallState → Bool
  | .completed | .failed | .canceled | .rejected | .expired => true
  | _ => false

def callStateOf : ToolResultStatus → AgentCallState
  | .completed => .completed
  | .failed => .failed
  | .canceled => .canceled
  | .rejected => .rejected
  | .expired => .expired

@[simp] theorem isTerminal_callStateOf (status : ToolResultStatus) :
    (callStateOf status).isTerminal = true := by
  cases status <;> rfl

/-! ## Dispatch snapshot and ownership -/

inductive TransportKind
  | direct
  | relay
  deriving DecidableEq

structure FrozenCallResourceRef where
  refId : String
  kind : ResourceKind
  conversationId : String
  roomEpoch : Nat
  sourceMessageId : String
  contentDigest : String
  deriving DecidableEq

structure FrozenCallResourceManifest where
  manifestId : String
  refs : List FrozenCallResourceRef := []
  contentDigest : String
  deriving DecidableEq

structure ImmutableA2ADispatchSnapshot where
  commandId : String
  messageId : String
  task : String
  agentId : String
  requestingSubjectDigest : String
  conversationId : String
  roomEpoch : Nat
  resourceManifest : FrozenCallResourceManifest
  deriving DecidableEq

inductive AliasKind
  | task
  | context
  | relayJournal
  deriving DecidableEq

def AliasKind.value : AliasKind → String
  | .task => "task"
  | .context => "context"
  | .relayJournal => "relay_journal"

structure A2AOwnershipAlias where
  kind : AliasKind
  value : String
  bindingScope : String
  authoritative : Bool := true
  deriving DecidableEq

/-- `f"{alias.binding_scope}|{alias.kind}|{alias.value}"` -/
def A2AOwnershipAlias.key (ownership : A2AOwnershipAlias) : String :=
  ownership.bindingScope ++ "|" ++ ownership.kind.value ++ "|" ++ ownership.value

/-- `sorted(keys)` -/
def sortedKeys (keys : List String) : List String :=
  keys.insertionSort (· ≤ ·)

theorem sortedKeys_sortedKeys (keys : List String) :
    sortedKeys (sortedKeys keys) = sortedKeys keys :=
  (List.pairwise_insertionSort (· ≤ ·) keys).insertionSort_eq

def ownershipAliasKeys (aliases : List A2AOwnershipAlias) : List String :=
  sortedKeys ((aliases.filter (·.authoritative)).map (·.key))

/-! ## Human answers and stored commands -/

inductive HITLAnswer
  | text (text : String)
  | singleChoice (choice : Option String) (other : Option String)
  | multiChoice (choices : List String) (other : Option String)
  | confirmation (confirmed : Bool)
  | authorizationResult (authorizationReference : String)
  | policyDecision (approve : Bool)
  deriving DecidableEq

structure HITLQuestionAnswer where
  questionId : String
  answer : HITLAnswer
  deriving DecidableEq

structure VerifiedAuthReferenceBinding where
  referenceDigest : String
  proofDigest : String
  interactionId : String
  interactionRevision : Nat
  questionId : String
  answerDigest : String
  deriving DecidableEq

structure HITLAnswerAppliedMarker where
  interactionId : String
  interactionRevision : Nat
  routeFingerprint : String
  answerDigest : String
  answererDigest : String
  appliedAt : Timestamp
  deriving DecidableEq

structure A2AContinuationCommand where
  commandId : String
  transportKind : TransportKind
  callRecordId : String
  interactionId : String
  interactionRevision : Nat
  answerDigest : String
  answers : List HITLQuestionAnswer
  bindingId : String
  bindingDigest : String
  requestingSubjectDigest : String
  taskId : String
  contextId : String
  conversationId : String
  roomEpoch : Nat
  createdAt : Timestamp
  deriving DecidableEq

structure A2ACancellationCommand where
  commandId : String
  transportKind : TransportKind
  callRecordId : String
  reason : String
  deletionId : Option String := none
  createdAt : Timestamp
  deriving DecidableEq

/-- A model reply that has joined the parent call. -/
structure A2AJoinBinding where
  joinInvocationId : String
  commandId : String
  interactionFingerprint : Option String := none
  createdAt : Timestamp
  deriving DecidableEq

inductive CommandState
  | pending
  | dispatching
  | deliveryUncertain
  | accepted
  deriving DecidableEq

/-! ## The ledger record -/

/-- `recent_observation_id_limit`, at least 1 and at most 128. -/
abbrev RecentIdLimit := { limit : Nat // 0 < limit ∧ limit ≤ 128 }

theorem recentIdLimit_default : 0 < 128 ∧ 128 ≤ 128 := by decide

/-- The delays are in milliseconds. -/
structure A2ARuntimePolicy where
  claimLease : Nat := 30000
  maxTransportAttempts : Nat := 3
  maxUncertainInspectionAttempts : Nat := 3
  maxAuthorizationRefreshAttempts : Nat := 3
  retryBackoffInitial : Nat := 1000
  retryBackoffMax : Nat := 60000
  orphanAcceptanceTtl : Nat := 300000
  recentObservationIdLimit : RecentIdLimit := ⟨128, recentIdLimit_default⟩
  deriving DecidableEq

structure AgentCallLedgerRecord where
  stateVersion : Nat := 0
  callRecordId : String
  invocationId : String
  runId : String
  conversationId : String
  roomEpoch : Nat
  toolName : String
  bindingId : String
  bindingDigest : String
  agentId : String
  endpointScopeDigest : String
  requestingSubjectDigest : String
  dispatchSnapshot : ImmutableA2ADispatchSnapshot
  resourceManifest : FrozenCallResourceManifest
  runtimePolicy : A2ARuntimePolicy := {}
  state : AgentCallState
  transportKind : TransportKind
  transportAttempts : Nat := 0
  inspectionAttempts : Nat := 0
  a2aTaskId : Option String := none
  a2aContextId : Option String := none
  ownershipAliases : List A2AOwnershipAlias := []
  ownershipAliasKeys : List String := []
  pendingInteractionId : Option String := none
  interactionRevision : Option Nat := none
  interactionFingerprint : Option String := none
  answerApplied : Option HITLAnswerAppliedMarker := none
  consumedAuthReferences : List VerifiedAuthReferenceBinding := []
  continuationCommand : Option A2AContinuationCommand := none
  continuationState : Option CommandState := none
  continuationAttempts : Nat := 0
  authorizationRefreshAttempts : Nat := 0
  modelReplyRounds : List (String × Nat) := []
  modelReplyJoins : List A2AJoinBinding := []
  artifactRefs : List String := []
  latestObservationCursor : Option String := none
  recentObservationIds : List String := []
  terminalResult : Option ToolResult := none
  terminalResultDigest : Option String := none
  pushTokenDigest : Option String := none
  cancellationCommand : Option A2ACancellationCommand := none
  cancellationCommandId : Option String := none
  cancellationReason : Option String := none
  cancellationState : Option CommandState := none
  errorCode : Option String := none
  errorMessage : Option String := none
  claimOwner : Option String := none
  claimExpiresAt : Option Timestamp := none
  nextAttemptAt : Option Timestamp := none
  updatedAt : Timestamp
  terminalAt : Option Timestamp := none
  deriving DecidableEq

/-! ## The record validator -/

variable (resultDigest : ToolResult → String)

def requireCallClosure (record : AgentCallLedgerRecord) : Except String Unit :=
  if record.state.isTerminal then
    require (record.terminalAt.isSome ∧ record.terminalResult.isSome)
      "terminal call requires terminal time and result"
  else
    require (record.terminalAt = none) "nonterminal call cannot have terminal time"

def requireResult (record : AgentCallLedgerRecord) : Except String Unit :=
  match record.terminalResult with
  | none => .ok ()
  | some result => do
      require (result.callId = record.invocationId) "terminal result call ID does not correlate"
      require (result.toolName = record.toolName) "terminal result tool name does not correlate"
      require (record.terminalResultDigest = some (resultDigest result))
        "terminal result digest does not correlate"

def requireAnswer (record : AgentCallLedgerRecord) : Except String Unit :=
  match record.answerApplied with
  | none => .ok ()
  | some marker =>
      require (record.pendingInteractionId = some marker.interactionId ∧
          record.interactionRevision = some marker.interactionRevision ∧
          marker.answererDigest = record.requestingSubjectDigest)
        "applied HITL answer does not correlate"

def requireContinuation (record : AgentCallLedgerRecord) : Except String Unit :=
  match record.continuationCommand with
  | none => require (record.continuationState = none) "continuation state requires a command"
  | some command => do
      require (command.callRecordId = record.callRecordId ∧
          command.bindingId = record.bindingId ∧
          command.bindingDigest = record.bindingDigest ∧
          command.requestingSubjectDigest = record.requestingSubjectDigest ∧
          command.conversationId = record.conversationId ∧
          command.roomEpoch = record.roomEpoch)
        "continuation command does not correlate"
      require record.continuationState.isSome "continuation command requires durable state"

def requireCancellation (record : AgentCallLedgerRecord) : Except String Unit :=
  match record.cancellationCommand with
  | none =>
      require (record.cancellationState = none ∧ record.cancellationCommandId = none)
        "cancellation state requires a command"
  | some command => do
      require (command.callRecordId = record.callRecordId ∧
          record.cancellationCommandId = some command.commandId)
        "cancellation command does not correlate"
      require record.cancellationState.isSome "cancellation command requires durable state"

def recordIsConsistent (record : AgentCallLedgerRecord) : Except String Unit := do
  require record.recentObservationIds.Nodup "recent observation IDs must be unique"
  require (sortedKeys record.ownershipAliasKeys = ownershipAliasKeys record.ownershipAliases)
    "ownership alias keys do not match authoritative aliases"
  requireCallClosure record
  requireResult resultDigest record
  require (record.dispatchSnapshot.conversationId = record.conversationId ∧
      record.dispatchSnapshot.roomEpoch = record.roomEpoch ∧
      record.dispatchSnapshot.agentId = record.agentId ∧
      record.dispatchSnapshot.requestingSubjectDigest = record.requestingSubjectDigest ∧
      record.dispatchSnapshot.resourceManifest = record.resourceManifest)
    "immutable dispatch snapshot does not correlate"
  require (∀ ownership ∈ record.ownershipAliases,
      ownership.bindingScope = record.endpointScopeDigest)
    "ownership alias scope does not correlate"
  require (record.consumedAuthReferences.map (·.referenceDigest)).Nodup
    "authorization references cannot be reused across challenges"
  requireAnswer record
  requireContinuation record
  requireCancellation record

/-- The record passes its field bounds and its validator. -/
structure AgentCallLedgerRecord.Valid (record : AgentCallLedgerRecord) : Prop where
  recentBounded : record.recentObservationIds.length ≤ 128
  revisionPositive : ∀ revision ∈ record.interactionRevision, 1 ≤ revision
  epochPositive : 1 ≤ record.roomEpoch
  consistent : recordIsConsistent resultDigest record = .ok ()

instance (record : AgentCallLedgerRecord) : Decidable (record.Valid resultDigest) :=
  decidable_of_iff (record.recentObservationIds.length ≤ 128 ∧
      (∀ revision ∈ record.interactionRevision, 1 ≤ revision) ∧ 1 ≤ record.roomEpoch ∧
      recordIsConsistent resultDigest record = .ok ())
    ⟨fun ⟨h₁, h₂, h₃, h₄⟩ => ⟨h₁, h₂, h₃, h₄⟩, fun ⟨h₁, h₂, h₃, h₄⟩ => ⟨h₁, h₂, h₃, h₄⟩⟩

structure AgentCallLedgerRecord.Correlated (record : AgentCallLedgerRecord) : Prop where
  recentUnique : record.recentObservationIds.Nodup
  recentBounded : record.recentObservationIds.length ≤ 128
  revisionPositive : ∀ revision ∈ record.interactionRevision, 1 ≤ revision
  epochPositive : 1 ≤ record.roomEpoch
  aliasKeys : sortedKeys record.ownershipAliasKeys =
    A2ARuntime.ownershipAliasKeys record.ownershipAliases
  aliasScope : ∀ ownership ∈ record.ownershipAliases,
    ownership.bindingScope = record.endpointScopeDigest
  result : requireResult resultDigest record = .ok ()
  snapshot : record.dispatchSnapshot.conversationId = record.conversationId ∧
    record.dispatchSnapshot.roomEpoch = record.roomEpoch ∧
    record.dispatchSnapshot.agentId = record.agentId ∧
    record.dispatchSnapshot.requestingSubjectDigest = record.requestingSubjectDigest ∧
    record.dispatchSnapshot.resourceManifest = record.resourceManifest
  authReferences : (record.consumedAuthReferences.map (·.referenceDigest)).Nodup
  answer : requireAnswer record = .ok ()
  continuation : requireContinuation record = .ok ()
  cancellation : requireCancellation record = .ok ()

variable {resultDigest}

theorem requireCallClosure_eq_ok {record : AgentCallLedgerRecord} :
    requireCallClosure record = .ok () ↔
      (record.state.isTerminal = true → record.terminalAt.isSome ∧ record.terminalResult.isSome) ∧
        (record.state.isTerminal = false → record.terminalAt = none) := by
  unfold requireCallClosure
  cases record.state.isTerminal <;> simp

theorem AgentCallLedgerRecord.valid_iff {record : AgentCallLedgerRecord} :
    record.Valid resultDigest ↔
      record.Correlated resultDigest ∧ requireCallClosure record = .ok () := by
  constructor
  · intro h
    have hchecks := h.consistent
    simp only [recordIsConsistent, check_bind_eq_ok, require_eq_ok] at hchecks
    obtain ⟨hrecent, hkeys, hclosure, hresult, hsnapshot, hscope, hauth, hanswer, hcontinuation,
      hcancellation⟩ := hchecks
    exact ⟨⟨hrecent, h.recentBounded, h.revisionPositive, h.epochPositive, hkeys, hscope, hresult,
      hsnapshot, hauth, hanswer, hcontinuation, hcancellation⟩, hclosure⟩
  · rintro ⟨h, hclosure⟩
    refine ⟨h.recentBounded, h.revisionPositive, h.epochPositive, ?_⟩
    simp only [recordIsConsistent, check_bind_eq_ok, require_eq_ok]
    exact ⟨h.recentUnique, h.aliasKeys, hclosure, h.result, h.snapshot, h.aliasScope,
      h.authReferences, h.answer, h.continuation, h.cancellation⟩

/-! ## Normalized observations -/

inductive ObservationKind
  | working
  | artifact
  | inputRequired
  | authRequired
  | terminal
  deriving DecidableEq

/-- `event_kind in {"input_required", "auth_required"}` -/
def ObservationKind.isInteraction : ObservationKind → Bool
  | .inputRequired | .authRequired => true
  | _ => false

/-- `event_kind in {"working", "artifact"}` -/
def ObservationKind.isProgress : ObservationKind → Bool
  | .working | .artifact => true
  | _ => false

structure InlineDataArtifact where
  refId : String
  contentIndex : Nat
  contentDigest : String
  deriving DecidableEq

structure NormalizedA2AObservation where
  observationId : String
  callRecordId : Option String := none
  sourceIdentity : String
  bindingScope : String
  eventKind : ObservationKind
  observedAt : Timestamp
  taskId : Option String := none
  contextId : Option String := none
  agentId : Option String := none
  status : Option ToolResultStatus := none
  content : List ContentPart := []
  inlineArtifacts : List InlineDataArtifact := []
  artifactRefs : List String := []
  interactionSpec : Option JsonObject := none
  errorCode : Option String := none
  errorMessage : Option String := none
  cursor : Option String := none
  deriving DecidableEq

end Hybro.A2ARuntime
