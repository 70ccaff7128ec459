import Mathlib.Data.List.Nodup
import Mathlib.Data.List.Dedup

/-! # Durable orchestrator contracts

The records of one Run as the orchestrator stores them, with the defaults of
their fields, and the validators that run when a record is built or reloaded.
Instants are milliseconds, the precision of the database. A command id keeps the
fixed label and the variable parts of its format string apart.
-/

namespace Hybro.Orchestrator

abbrev Timestamp := Nat

/-! ## JSON values -/

inductive JsonValue
  | null
  | bool (value : Bool)
  | num (value : Int)
  | str (value : String)
  | arr (items : List JsonValue)
  | obj (fields : List (String × JsonValue))

mutual

def JsonValue.decEq : (a b : JsonValue) → Decidable (a = b)
  | .null, .null => isTrue rfl
  | .bool a, .bool b => decidable_of_iff (a = b) (by simp)
  | .num a, .num b => decidable_of_iff (a = b) (by simp)
  | .str a, .str b => decidable_of_iff (a = b) (by simp)
  | .arr a, .arr b =>
      have := JsonValue.decEqItems a b
      decidable_of_iff (a = b) (by simp)
  | .obj a, .obj b =>
      have := JsonValue.decEqFields a b
      decidable_of_iff (a = b) (by simp)
  | .null, .bool _ | .null, .num _ | .null, .str _ | .null, .arr _ | .null, .obj _
  | .bool _, .null | .bool _, .num _ | .bool _, .str _ | .bool _, .arr _ | .bool _, .obj _
  | .num _, .null | .num _, .bool _ | .num _, .str _ | .num _, .arr _ | .num _, .obj _
  | .str _, .null | .str _, .bool _ | .str _, .num _ | .str _, .arr _ | .str _, .obj _
  | .arr _, .null | .arr _, .bool _ | .arr _, .num _ | .arr _, .str _ | .arr _, .obj _
  | .obj _, .null | .obj _, .bool _ | .obj _, .num _ | .obj _, .str _ | .obj _, .arr _ =>
      isFalse (by simp)

def JsonValue.decEqItems : (a b : List JsonValue) → Decidable (a = b)
  | [], [] => isTrue rfl
  | [], _ :: _ | _ :: _, [] => isFalse (by simp)
  | x :: xs, y :: ys =>
      have := JsonValue.decEq x y
      have := JsonValue.decEqItems xs ys
      decidable_of_iff (x = y ∧ xs = ys) (by simp)

def JsonValue.decEqFields : (a b : List (String × JsonValue)) → Decidable (a = b)
  | [], [] => isTrue rfl
  | [], _ :: _ | _ :: _, [] => isFalse (by simp)
  | (k, x) :: xs, (l, y) :: ys =>
      have := JsonValue.decEq x y
      have := JsonValue.decEqFields xs ys
      decidable_of_iff (k = l ∧ x = y ∧ xs = ys) (by simp [and_assoc])

end

instance : DecidableEq JsonValue := JsonValue.decEq

/-- A Python `dict[str, object]` with distinct keys in insertion order. -/
abbrev JsonObject := List (String × JsonValue)

def JsonObject.get (object : JsonObject) (key : String) : Option JsonValue :=
  object.lookup key

/-- `dictionary[key] = value` -/
def setKey {κ α : Type} [DecidableEq κ] (key : κ) (value : α) : List (κ × α) → List (κ × α)
  | [] => [(key, value)]
  | (other, old) :: rest =>
      if other = key then (key, value) :: rest else (other, old) :: setKey key value rest

/-! ## Command ids -/

inductive CommandPart
  | text (value : String)
  | number (value : Nat)
  deriving DecidableEq

instance : Coe String CommandPart := ⟨.text⟩
instance : Coe Nat CommandPart := ⟨.number⟩

/-- `label:part:…` of a format string such as `claim:{owner_id}:{state_version}`. -/
structure CommandId where
  label : String
  parts : List CommandPart := []
  deriving DecidableEq

/-! ## Message content and Tool contracts -/

inductive ContentPart
  | text (text : String)
  | data (data : JsonValue) (mimeType : String) (metadata : Option JsonObject)
  | artifactRef (artifactRef : String) (mimeType : Option String)
  deriving DecidableEq

structure UsageRecord where
  inputTokens : Nat := 0
  outputTokens : Nat := 0
  cacheReadTokens : Nat := 0
  cacheWriteTokens : Nat := 0
  deriving DecidableEq

inductive ExecutionMode
  | sequential
  | parallel
  deriving DecidableEq

structure ToolDefinition where
  name : String
  label : String
  description : String
  inputSchema : JsonValue
  executionMode : ExecutionMode
  deriving DecidableEq

structure ToolCall where
  callId : String
  toolName : String
  arguments : JsonObject
  deriving DecidableEq

inductive ToolResultStatus
  | completed
  | failed
  | canceled
  | rejected
  | expired
  deriving DecidableEq

structure ToolResult where
  callId : String
  toolName : String
  status : ToolResultStatus
  content : List ContentPart
  artifactRefs : List String
  errorCode : Option String := none
  errorMessage : Option String := none
  deriving DecidableEq

structure ToolBindingRef where
  bindingId : String
  bindingDigest : String
  deriving DecidableEq

structure ResolvedTool where
  definition : ToolDefinition
  binding : ToolBindingRef
  deriving DecidableEq

structure ToolInvocation where
  invocationId : String
  runId : String
  expectedRunVersion : Nat
  assistantMessageId : String
  sourceIndex : Nat
  causationId : String
  idempotencyKey : String
  tool : ResolvedTool
  arguments : JsonObject
  deadlineAt : Timestamp
  deriving DecidableEq

structure ToolAcceptance where
  acceptanceId : String
  invocationId : String
  idempotencyKey : String
  acceptedAt : Timestamp
  deriving DecidableEq

inductive ToolSuspensionStatus
  | waitingExternal
  | inputRequired
  | authRequired
  deriving DecidableEq

structure ToolInteractionQuestion where
  questionId : String
  interactionKind : String := "questionnaire"
  prompt : String
  answerKind : String
  required : Bool := true
  choices : Option (List String) := none
  deriving DecidableEq

structure ToolInteractionAnswer where
  questionId : String
  answer : String
  deriving DecidableEq

structure ToolInteractionAnswers where
  interactionId : String
  answers : List ToolInteractionAnswer := []
  deriving DecidableEq

inductive DeliveryState
  | accepted
  | transportUncertain
  deriving DecidableEq

structure ToolSuspension where
  invocationId : String
  status : ToolSuspensionStatus
  observationCursor : Option String := none
  deliveryState : Option DeliveryState := none
  callRecordId : Option String := none
  interactionId : Option String := none
  interactionFingerprint : Option String := none
  questions : List ToolInteractionQuestion := []
  deriving DecidableEq

inductive ToolExecutionOutcome
  | result (result : ToolResult)
  | suspension (suspension : ToolSuspension)
  deriving DecidableEq

structure ToolObservation where
  observationId : String
  invocationId : String
  outcome : ToolExecutionOutcome
  observedAt : Timestamp
  interactionAnswers : Option ToolInteractionAnswers := none
  deriving DecidableEq

/-! ## Tool batches -/

inductive ToolBatchEntryState
  | pending
  | invalid
  | acceptanceFailed
  | skipped
  | accepted
  | executing
  | waitingExternal
  | inputRequired
  | authRequired
  | terminal
  deriving DecidableEq

/-- `state in {"input_required", "auth_required"}` -/
def ToolBatchEntryState.isParked : ToolBatchEntryState → Bool
  | .inputRequired | .authRequired => true
  | _ => false

def ToolSuspensionStatus.entryState : ToolSuspensionStatus → ToolBatchEntryState
  | .waitingExternal => .waitingExternal
  | .inputRequired => .inputRequired
  | .authRequired => .authRequired

structure ToolBatchEntry where
  callId : String
  opaquePublicCallId : Option String := none
  assistantMessageId : String
  sourceIndex : Nat
  toolName : String
  state : ToolBatchEntryState := .pending
  invocation : Option ToolInvocation := none
  acceptance : Option ToolAcceptance := none
  bufferedTerminalResult : Option ToolResult := none
  publicUpdateIndex : Nat := 0
  publicTerminalEmitted : Bool := false
  processedObservationIds : List String := []
  presented : Bool := false
  resultFlushed : Bool := false
  suspendedCallRecordId : Option String := none
  surfaceForCallRecordId : Option String := none
  presentationId : Option String := none
  interactionId : Option String := none
  interactionFingerprint : Option String := none
  interactionQuestions : List ToolInteractionQuestion := []
  interactionAnswers : List ToolInteractionAnswers := []
  deriving DecidableEq

structure ToolCallBatch where
  assistantMessageId : String
  entries : List ToolBatchEntry
  resultsFlushed : Bool := false
  internalTurnId : Option String := none
  deriving DecidableEq

/-! ## Transcript -/

inductive FinishReason
  | stop
  | toolCalls
  | length
  | contentFilter
  | error
  | aborted
  deriving DecidableEq

structure UserMessage where
  messageId : String
  content : List ContentPart
  createdAt : Timestamp
  deriving DecidableEq

structure AssistantMessage where
  messageId : String
  content : List ContentPart
  toolCalls : List ToolCall
  finishReason : FinishReason
  usage : Option UsageRecord
  createdAt : Timestamp
  deriving DecidableEq

structure ToolResultMessage where
  messageId : String
  callId : String
  toolName : String
  status : ToolResultStatus
  content : List ContentPart
  artifactRefs : List String
  isError : Bool
  errorCode : Option String := none
  errorMessage : Option String := none
  interactionAnswers : List ToolInteractionAnswers := []
  createdAt : Timestamp
  deriving DecidableEq

structure ToolInteractionMessage where
  messageId : String
  callId : String
  toolName : String
  presentationId : Option String := none
  interactionId : String
  interactionFingerprint : String
  questions : List ToolInteractionQuestion := []
  artifactRefs : List String := []
  agentLabel : Option String := none
  interactionAnswers : List ToolInteractionAnswers := []
  createdAt : Timestamp
  deriving DecidableEq

structure SessionNotice where
  noticeId : String
  code : String
  content : String
  relatedCallId : Option String := none
  createdAt : Timestamp
  deriving DecidableEq

inductive AgentMessage
  | user (message : UserMessage)
  | assistant (message : AssistantMessage)
  | toolResult (message : ToolResultMessage)
  | toolInteraction (message : ToolInteractionMessage)
  | sessionNotice (message : SessionNotice)
  deriving DecidableEq

/-! ## Run configuration -/

inductive ProfileId
  | fast
  | ultimate
  | passthrough
  deriving DecidableEq

structure OrchestratorProfile where
  profileId : ProfileId
  maxModelTurns : Nat
  graceModelTurns : Nat
  maxAgentCalls : Nat
  maxParallelCalls : Nat
  maxProviderRetriesTotal : Nat := 4
  maxInputTokensTotal : Option Nat := none
  maxOutputTokensTotal : Option Nat := none
  deadlineSeconds : Nat
  maxCompactions : Nat
  toolExecution : ExecutionMode
  deriving DecidableEq

inductive ResourceKind
  | context
  | artifact
  | attachment
  deriving DecidableEq

structure PreparedResourceRef where
  refId : String
  kind : ResourceKind
  sourceMessageId : String
  mimeType : Option String := none
  sizeBytes : Nat := 0
  contentDigest : String
  deriving DecidableEq

structure RunResourceManifestSnapshot where
  manifestId : String
  refs : List PreparedResourceRef := []
  contentDigest : String
  deriving DecidableEq

structure FrozenToolCatalogEntry where
  definition : ToolDefinition
  binding : ToolBindingRef
  inputModes : List String := []
  deriving DecidableEq

structure FrozenToolCatalogSnapshot where
  catalogId : String
  entries : List FrozenToolCatalogEntry
  deriving DecidableEq

structure RunRequestSnapshot where
  requestFingerprint : String
  roomEpoch : Nat
  userMessageId : String
  deriving DecidableEq

structure CandidateScopeSnapshot where
  source : String
  agentIds : List String
  deriving DecidableEq

structure BudgetState where
  modelTurnsUsed : Nat := 0
  graceTurnsUsed : Nat := 0
  agentCallsUsed : Nat := 0
  providerRetriesUsed : Nat := 0
  providerAttemptKeys : List String := []
  usageByAttempt : List (String × UsageRecord) := []
  compactionsUsed : Nat := 0
  inputTokens : Nat := 0
  outputTokens : Nat := 0
  deadlineAt : Timestamp
  suspendedAt : Option Timestamp := none
  wrapUpRequested : Bool := false
  deriving DecidableEq

/-! ## Recovery and projection records -/

inductive RecoveryKind
  | execution
  | cancellation
  deriving DecidableEq

inductive QuarantineReason
  | terminalInvariantConflict
  deriving DecidableEq

structure RecoveryClaim where
  kind : RecoveryKind := .execution
  ownerId : Option String := none
  leaseExpiresAt : Option Timestamp := none
  nextAttemptAt : Option Timestamp := none
  failureCount : Nat := 0
  quarantinedAt : Option Timestamp := none
  quarantineReason : Option QuarantineReason := none
  deriving DecidableEq

inductive ProjectionIntentStatus
  | pending
  | claimed
  | completed
  | blocked
  deriving DecidableEq

structure ProjectionIntent where
  intentId : String
  kind : String
  target : String
  dedupeKey : String
  required : Bool
  eventId : String
  eventSequence : Nat
  causationId : CommandId
  payload : JsonObject
  status : ProjectionIntentStatus
  blockedReason : Option String := none
  claimOwner : Option String := none
  claimExpiresAt : Option Timestamp := none
  attemptCount : Nat := 0
  nextAttemptAt : Option Timestamp := none
  deriving DecidableEq

inductive ProjectionState
  | pending
  | settled
  | blocked
  deriving DecidableEq

inductive CancellationCause
  | userRequested
  | roomClosed
  | shutdown
  | policy
  deriving DecidableEq

/-! ## The Run aggregate -/

inductive RunStatus
  | queued
  | running
  | waitingExternal
  | awaitingUser
  | canceling
  | finalizing
  | completed
  | failed
  | canceled
  | budgetExhausted
  deriving DecidableEq

/-- `status in TERMINAL_RUN_STATUSES` -/
def RunStatus.isTerminal : RunStatus → Bool
  | .completed | .failed | .canceled | .budgetExhausted => true
  | _ => false

/-- `status in SUSPENDED_RUN_STATUSES` -/
def RunStatus.isSuspended : RunStatus → Bool
  | .waitingExternal | .awaitingUser => true
  | _ => false

structure OrchestratorRunState where
  runId : String
  sessionId : String
  conversationId : String
  request : RunRequestSnapshot
  profile : OrchestratorProfile
  candidateScope : CandidateScopeSnapshot
  status : RunStatus
  transcript : List AgentMessage
  toolCatalog : Option FrozenToolCatalogSnapshot := none
  resourceManifest : Option RunResourceManifestSnapshot := none
  toolBatches : List ToolCallBatch := []
  artifactRefs : List String
  budget : BudgetState
  compactionSummary : Option String := none
  compactionBaselineTokens : Option Nat := none
  activeInternalTurnId : Option String := none
  activeAssistantMessageId : Option String := none
  activeAttempt : Option Nat := none
  consecutiveModelJoins : Nat := 0
  greatestPublicTextOffset : Nat := 0
  activePublicText : String := ""
  proposedFinalMessageId : Option String
  terminalReason : Option String
  cancellationCommandId : Option CommandId := none
  cancellationRequestedAt : Option Timestamp := none
  cancellationCause : Option CancellationCause := none
  projectionState : ProjectionState
  recoveryClaim : RecoveryClaim
  projectionOutbox : List ProjectionIntent
  processedCommandIds : List CommandId
  stateVersion : Nat
  updatedAt : Timestamp
  deriving DecidableEq

def OrchestratorRunState.entries (run : OrchestratorRunState) : List ToolBatchEntry :=
  run.toolBatches.flatMap (·.entries)

/-! ## Validators -/

/-- A check that raises `ValueError(message)` when it fails. -/
def require (p : Prop) [Decidable p] (message : String) : Except String Unit :=
  if p then .ok () else .error message

@[simp] theorem require_eq_ok {p : Prop} [Decidable p] {message : String} :
    require p message = .ok () ↔ p := by
  unfold require
  split <;> simp_all

/-- Checks in sequence pass exactly when each passes. -/
@[simp] theorem check_bind_eq_ok {check : Except String Unit} {next : Unit → Except String Unit} :
    (check >>= next) = .ok () ↔ check = .ok () ∧ next () = .ok () := by
  cases check with
  | error message => simp [bind, Except.bind]
  | ok value => simp [bind, Except.bind]

def quarantineFieldsArePaired (claim : RecoveryClaim) : Except String Unit := do
  require (claim.quarantinedAt.isNone = claim.quarantineReason.isNone)
    "recovery quarantine timestamp and reason must be paired"
  require (claim.quarantinedAt.isSome → claim.ownerId.isNone)
    "quarantined recovery cannot retain an owner"

def truthy : Option String → Bool
  | none => false
  | some value => value ≠ ""

@[simp] theorem truthy_none : truthy none = false := rfl

def OrchestratorRunState.cancellationMetadataAbsent (run : OrchestratorRunState) : Prop :=
  run.cancellationCommandId = none ∧ run.cancellationRequestedAt = none ∧
    run.cancellationCause = none

instance (run : OrchestratorRunState) : Decidable run.cancellationMetadataAbsent :=
  inferInstanceAs (Decidable (_ ∧ _ ∧ _))

def requireCancellationMetadata (run : OrchestratorRunState) : Except String Unit :=
  if run.status = .canceling then do
    require (run.cancellationCommandId.isSome ∧ run.cancellationRequestedAt.isSome ∧
      run.cancellationCause.isSome) "canceling Runs require complete cancellation metadata"
    require (run.recoveryClaim.kind = .cancellation) "canceling Runs require cancellation recovery"
  else if run.status = .canceled then do
    require run.cancellationCause.isSome "canceled canonical Runs require a cancellation cause"
    require (run.cancellationCommandId.isNone = run.cancellationRequestedAt.isNone)
      "canceled Run command metadata must be paired"
  else
    require run.cancellationMetadataAbsent
      "cancellation metadata is valid only for canceling or canceled Runs"

def OrchestratorRunState.inactive (run : OrchestratorRunState) : Prop :=
  truthy run.activeInternalTurnId = false ∧ truthy run.activeAssistantMessageId = false ∧
    run.activeAttempt = none ∧ run.activePublicText = ""

instance (run : OrchestratorRunState) : Decidable run.inactive :=
  inferInstanceAs (Decidable (_ ∧ _ ∧ _ ∧ _))

def requireTerminalClosure (run : OrchestratorRunState) : Except String Unit :=
  if run.status.isTerminal then do
    require run.inactive "terminal canonical Runs cannot retain active lifecycle state"
    require (∀ entry ∈ run.entries, entry.state = .terminal)
      "terminal canonical Runs cannot retain open declared Tools"
    require (∀ batch ∈ run.toolBatches, batch.resultsFlushed)
      "terminal canonical Runs require every Tool batch flushed"
  else .ok ()

def aggregateIdentityAndUniqueness (run : OrchestratorRunState) : Except String Unit := do
  require (run.toolBatches.map (·.assistantMessageId)).Nodup
    "tool batch assistant message IDs must be unique"
  require (run.entries.map (·.callId)).Nodup "tool batch call IDs must be unique"
  require run.artifactRefs.Nodup "artifact refs must be unique"
  require run.processedCommandIds.Nodup "processed command IDs must be unique"
  require (run.projectionOutbox.map (·.intentId)).Nodup "projection intent IDs must be unique"
  require (run.entries.filterMap (·.opaquePublicCallId)).Nodup
    "opaque public call IDs must be unique"
  requireCancellationMetadata run
  require (∀ entry ∈ run.entries, entry.acceptance.isSome → truthy entry.opaquePublicCallId)
    "accepted canonical tool entries require a public call ID"
  require (run.greatestPublicTextOffset = run.activePublicText.length)
    "canonical public offset must match active text checkpoint"
  requireTerminalClosure run

def OrchestratorRunState.CancellationConsistent (run : OrchestratorRunState) : Prop :=
  (run.status = .canceling → run.cancellationCommandId.isSome ∧
    run.cancellationRequestedAt.isSome ∧ run.cancellationCause.isSome ∧
    run.recoveryClaim.kind = .cancellation) ∧
  (run.status = .canceled → run.cancellationCause.isSome ∧
    run.cancellationCommandId.isNone = run.cancellationRequestedAt.isNone) ∧
  (run.status ≠ .canceling → run.status ≠ .canceled → run.cancellationMetadataAbsent)

/-- Nothing of the Run is still open: what a terminal Run must satisfy. -/
structure OrchestratorRunState.Closed (run : OrchestratorRunState) : Prop where
  inactive : run.inactive
  entriesTerminal : ∀ entry ∈ run.entries, entry.state = .terminal
  batchesFlushed : ∀ batch ∈ run.toolBatches, batch.resultsFlushed

/-- The clauses of the aggregate validator that bind a Run of any status. -/
structure OrchestratorRunState.Coherent (run : OrchestratorRunState) : Prop where
  batchMessageIdsUnique : (run.toolBatches.map (·.assistantMessageId)).Nodup
  callIdsUnique : (run.entries.map (·.callId)).Nodup
  artifactRefsUnique : run.artifactRefs.Nodup
  commandIdsUnique : run.processedCommandIds.Nodup
  intentIdsUnique : (run.projectionOutbox.map (·.intentId)).Nodup
  publicCallIdsUnique : (run.entries.filterMap (·.opaquePublicCallId)).Nodup
  cancellation : run.CancellationConsistent
  acceptedArePublic :
    ∀ entry ∈ run.entries, entry.acceptance.isSome → truthy entry.opaquePublicCallId
  offsetMatchesText : run.greatestPublicTextOffset = run.activePublicText.length

structure OrchestratorRunState.Valid (run : OrchestratorRunState) : Prop
    extends run.Coherent where
  terminalClosed : run.status.isTerminal → run.Closed

theorem requireCancellationMetadata_eq_ok {run : OrchestratorRunState} :
    requireCancellationMetadata run = .ok () ↔ run.CancellationConsistent := by
  unfold requireCancellationMetadata OrchestratorRunState.CancellationConsistent
  by_cases hcanceling : run.status = .canceling
  · simp [hcanceling, and_assoc]
  · by_cases hcanceled : run.status = .canceled
    · simp [hcanceled]
    · simp [hcanceling, hcanceled]

theorem requireTerminalClosure_eq_ok {run : OrchestratorRunState} :
    requireTerminalClosure run = .ok () ↔ (run.status.isTerminal → run.Closed) := by
  unfold requireTerminalClosure
  cases hterminal : run.status.isTerminal with
  | false => simp
  | true =>
      simp only [if_true, check_bind_eq_ok, require_eq_ok, true_imp_iff]
      exact ⟨fun h => ⟨h.1, h.2.1, h.2.2⟩, fun h => ⟨h.1, h.2, h.3⟩⟩

/-- The validator accepts exactly the Runs that satisfy every clause. -/
theorem aggregateIdentityAndUniqueness_eq_ok {run : OrchestratorRunState} :
    aggregateIdentityAndUniqueness run = .ok () ↔ run.Valid := by
  simp only [aggregateIdentityAndUniqueness, check_bind_eq_ok, require_eq_ok,
    requireCancellationMetadata_eq_ok, requireTerminalClosure_eq_ok]
  constructor
  · rintro ⟨hbatches, hcalls, hartifacts, hcommands, hintents, hpublic, hcancel, haccepted,
      hoffset, hclosed⟩
    exact ⟨⟨hbatches, hcalls, hartifacts, hcommands, hintents, hpublic, hcancel, haccepted,
      hoffset⟩, hclosed⟩
  · intro h
    exact ⟨h.batchMessageIdsUnique, h.callIdsUnique, h.artifactRefsUnique, h.commandIdsUnique,
      h.intentIdsUnique, h.publicCallIdsUnique, h.cancellation, h.acceptedArePublic,
      h.offsetMatchesText, h.terminalClosed⟩

end Hybro.Orchestrator
