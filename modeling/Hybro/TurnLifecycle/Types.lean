import Mathlib.Data.List.Basic

/-! # Canonical events and the Turn projection

The payloads of the canonical run events, the HITL requests and responses, and the
projection of a Turn that the client builds from them. A field that a payload may
leave out or set to null is an option.
-/

namespace Hybro.TurnLifecycle

/-! ## Closed vocabularies -/

inductive TurnLifecycleState
  | active
  | awaitingInput
  | completed
  | failed
  | canceled
  deriving DecidableEq

inductive InternalTurnStatus
  | active
  | completed
  | error
  | aborted
  deriving DecidableEq

inductive AssistantStatus
  | streaming
  | completed
  | error
  | aborted
  deriving DecidableEq

inductive ToolStatus
  | running
  | suspended
  | completed
  | failed
  | canceled
  deriving DecidableEq

inductive ToolUpdateStatus
  | running
  | suspended
  deriving DecidableEq

inductive ToolOutcome
  | completed
  | failed
  | canceled
  deriving DecidableEq

inductive TurnEndStatus
  | completed
  | error
  | aborted
  deriving DecidableEq

inductive Disposition
  | commentary
  | final
  | error
  | aborted
  deriving DecidableEq

inductive RunMode
  | fast
  | direct
  | ultimate
  | supervisor
  | passthrough
  deriving DecidableEq

inductive StopReason
  | toolUse
  | stop
  | length
  | contentFilter
  | error
  | deferred
  | aborted
  deriving DecidableEq

inductive ExecutionKind
  | agent
  | tool
  deriving DecidableEq

inductive TargetSource
  | cloud
  | localHost
  | hub
  deriving DecidableEq

inductive FailureReason
  | rejected
  | expired
  | validation
  | authorization
  | execution
  deriving DecidableEq

inductive RetryErrorClass
  | providerTimeout
  | providerError
  | contentFilter
  | assemblyError
  | toolFailure
  | processRestart
  deriving DecidableEq

inductive Decision
  | interactionReceived
  | answeredFromContext
  | forwardedToUser
  | noProgress
  | degradedToUser
  deriving DecidableEq

inductive SettlementStatus
  | completed
  | failed
  | canceled
  deriving DecidableEq

inductive FailureCode
  | budgetExhausted
  | providerError
  | assemblyError
  | toolFailure
  | hitlError
  | rejected
  | internalError
  deriving DecidableEq

inductive CancellationCode
  | userRequested
  | roomClosed
  | shutdown
  | policy
  deriving DecidableEq

inductive RequestStatus
  | requested
  | responded
  | expired
  | canceled
  | error
  deriving DecidableEq

inductive ResponseStatus
  | responded
  | expired
  | canceled
  | error
  deriving DecidableEq

inductive InteractionState
  | awaitingInput
  | resumed
  | expired
  | canceled
  | error
  deriving DecidableEq

def ToolUpdateStatus.toolStatus : ToolUpdateStatus → ToolStatus
  | .running => .running
  | .suspended => .suspended

def ToolOutcome.toolStatus : ToolOutcome → ToolStatus
  | .completed => .completed
  | .failed => .failed
  | .canceled => .canceled

def TurnEndStatus.internalStatus : TurnEndStatus → InternalTurnStatus
  | .completed => .completed
  | .error => .error
  | .aborted => .aborted

def ResponseStatus.requestStatus : ResponseStatus → RequestStatus
  | .responded => .responded
  | .expired => .expired
  | .canceled => .canceled
  | .error => .error

def SettlementStatus.state : SettlementStatus → TurnLifecycleState
  | .completed => .completed
  | .failed => .failed
  | .canceled => .canceled

def FailureCode.text : FailureCode → String
  | .budgetExhausted => "budget_exhausted"
  | .providerError => "provider_error"
  | .assemblyError => "assembly_error"
  | .toolFailure => "tool_failure"
  | .hitlError => "hitl_error"
  | .rejected => "rejected"
  | .internalError => "internal_error"

def CancellationCode.text : CancellationCode → String
  | .userRequested => "user_requested"
  | .roomClosed => "room_closed"
  | .shutdown => "shutdown"
  | .policy => "policy"

/-- `['completed', 'failed', 'canceled'].includes(state)` -/
def TurnLifecycleState.settled : TurnLifecycleState → Bool
  | .active | .awaitingInput => false
  | .completed | .failed | .canceled => true

/-- `['error', 'aborted'].includes(status)` -/
def InternalTurnStatus.broken : InternalTurnStatus → Bool
  | .active | .completed => false
  | .error | .aborted => true

/-- `status === 'running' || status === 'suspended'` -/
def ToolStatus.isOpen : ToolStatus → Bool
  | .running | .suspended => true
  | .completed | .failed | .canceled => false

@[simp] theorem ToolOutcome.isOpen_toolStatus (outcome : ToolOutcome) :
    outcome.toolStatus.isOpen = false := by
  cases outcome <;> rfl

@[simp] theorem TurnEndStatus.internalStatus_ne_active (status : TurnEndStatus) :
    status.internalStatus ≠ .active := by
  cases status <;> decide

/-! ## Payloads -/

inductive SummaryValue
  | text (value : String)
  | number (value : Rat)
  | boolean (value : Bool)
  | null
  deriving DecidableEq

abbrev SafeSummary := List (String × SummaryValue)

structure ExecutionTarget where
  name : String
  source : Option TargetSource
  deriving DecidableEq

structure RunStartedPayload where
  hybroTurnId : String
  userMessageId : String
  startedAt : String
  mode : RunMode
  deriving DecidableEq

structure TurnStartPayload where
  internalTurnId : String
  attempt : Nat
  deriving DecidableEq

structure MessageStartPayload where
  internalTurnId : String
  messageId : String
  deriving DecidableEq

structure TextDeltaEvent where
  contentIndex : Nat
  deltaIndex : Nat
  startOffset : Nat
  endOffset : Nat
  delta : String
  deriving DecidableEq

structure MessageUpdatePayload where
  internalTurnId : String
  messageId : String
  assistantMessageEvent : TextDeltaEvent
  deriving DecidableEq

structure MessageEndPayload where
  internalTurnId : String
  messageId : String
  stopReason : StopReason
  disposition : Disposition
  text : String
  errorSummary : Option String
  deriving DecidableEq

structure ToolExecutionStartPayload where
  internalTurnId : String
  toolCallId : String
  toolName : String
  input : SafeSummary
  executionKind : Option ExecutionKind
  target : Option ExecutionTarget
  requestSummary : Option String
  deriving DecidableEq

structure ToolExecutionUpdatePayload where
  internalTurnId : String
  toolCallId : String
  toolName : String
  updateIndex : Nat
  status : ToolUpdateStatus
  partialResult : String
  executionKind : Option ExecutionKind
  target : Option ExecutionTarget
  deriving DecidableEq

structure ToolExecutionEndPayload where
  internalTurnId : String
  toolCallId : String
  toolName : String
  outcome : ToolOutcome
  result : String
  isError : Bool
  durationMs : Nat
  failureReason : Option FailureReason
  executionKind : Option ExecutionKind
  target : Option ExecutionTarget
  detailAvailable : Option Bool
  errorCode : Option String
  errorMessage : Option String
  deriving DecidableEq

structure TurnEndPayload where
  internalTurnId : String
  messageId : Option String
  toolCallIds : List String
  status : TurnEndStatus
  deriving DecidableEq

structure RetryScheduledPayload where
  internalTurnId : String
  attempt : Nat
  delayMs : Nat
  errorClass : RetryErrorClass
  deriving DecidableEq

structure ModelDecisionPayload where
  internalTurnId : String
  decision : Decision
  agentLabel : Option String
  questionSummary : Option String
  sourceSummary : Option String
  reason : Option String
  deriving DecidableEq

structure RunWaitingInputPayload where
  interactionId : String
  requestIds : List String
  requestedAt : String
  named : interactionId ≠ ""
  deriving DecidableEq

structure RunResumedPayload where
  interactionId : String
  resolvedRequestIds : List String
  resumedAt : String
  deriving DecidableEq

structure RunSettledPayload where
  status : SettlementStatus
  startedAt : String
  settledAt : String
  durationMs : Nat
  finalMessageId : Option String
  failureCode : Option FailureCode
  errorSummary : Option String
  cancellationCode : Option CancellationCode
  deriving DecidableEq

inductive CanonicalPayload
  | runStarted (payload : RunStartedPayload)
  | turnStart (payload : TurnStartPayload)
  | messageStart (payload : MessageStartPayload)
  | messageUpdate (payload : MessageUpdatePayload)
  | messageEnd (payload : MessageEndPayload)
  | toolExecutionStart (payload : ToolExecutionStartPayload)
  | toolExecutionUpdate (payload : ToolExecutionUpdatePayload)
  | toolExecutionEnd (payload : ToolExecutionEndPayload)
  | turnEnd (payload : TurnEndPayload)
  | retryScheduled (payload : RetryScheduledPayload)
  | modelDecision (payload : ModelDecisionPayload)
  | runWaitingInput (payload : RunWaitingInputPayload)
  | runResumed (payload : RunResumedPayload)
  | runSettled (payload : RunSettledPayload)
  deriving DecidableEq

/-- The `type` of an event. -/
def CanonicalPayload.type : CanonicalPayload → String
  | .runStarted _ => "run_started"
  | .turnStart _ => "turn_start"
  | .messageStart _ => "message_start"
  | .messageUpdate _ => "message_update"
  | .messageEnd _ => "message_end"
  | .toolExecutionStart _ => "tool_execution_start"
  | .toolExecutionUpdate _ => "tool_execution_update"
  | .toolExecutionEnd _ => "tool_execution_end"
  | .turnEnd _ => "turn_end"
  | .retryScheduled _ => "retry_scheduled"
  | .modelDecision _ => "model_decision"
  | .runWaitingInput _ => "run_waiting_input"
  | .runResumed _ => "run_resumed"
  | .runSettled _ => "run_settled"

structure CanonicalRunEventData where
  /-- `none` when the event carries no valid `room_seq`. -/
  roomSeq : Option Nat
  eventId : String
  runId : String
  payload : CanonicalPayload
  correlationId : String
  deriving DecidableEq

structure CanonicalHITLRequestData where
  runId : String
  requestId : String
  messageId : String
  interactionId : String
  relatedUserMessageId : String
  clientRequestId : String
  questionIndex : Nat
  questionCount : Nat
  prompt : String
  promptType : String
  choices : Option (List String)
  source : String
  agentLabel : Option String
  indexed : questionIndex < questionCount
  deriving DecidableEq

structure CanonicalHITLResponseData where
  runId : String
  requestId : String
  messageId : String
  interactionId : String
  relatedUserMessageId : String
  clientRequestId : String
  questionIndex : Nat
  questionCount : Nat
  status : ResponseStatus
  answerRef : Option String
  deriving DecidableEq

structure AgentResponseData where
  messageId : String
  relatedMessageId : Option String
  content : Option String
  clientRequestId : String
  deriving DecidableEq

/-! ## The projection -/

structure AssistantProjection where
  messageId : String
  internalTurnId : String
  text : String
  status : AssistantStatus
  contentIndex : Nat
  nextDeltaIndex : Nat
  endOffset : Nat
  order : Nat
  deriving DecidableEq

structure InternalTurnProjection where
  internalTurnId : String
  attempt : Nat
  messageIds : List String
  toolCallIds : List String
  status : InternalTurnStatus
  deriving DecidableEq

structure AssistantActivity where
  id : String
  internalTurnId : String
  text : String
  status : AssistantStatus
  order : Nat
  deriving DecidableEq

structure ToolActivity where
  id : String
  internalTurnId : String
  toolCallId : String
  label : String
  input : SafeSummary
  partialResult : String
  result : Option String
  isError : Option Bool
  durationMs : Option Nat
  failureReason : Option FailureReason
  updateIndex : Nat
  status : ToolStatus
  executionKind : ExecutionKind
  targetName : Option String
  requestSummary : String
  detailAvailable : Bool
  errorCode : Option String
  errorMessage : Option String
  order : Nat
  deriving DecidableEq

structure RetryActivity where
  id : String
  internalTurnId : String
  attempt : Nat
  delayMs : Nat
  errorClass : RetryErrorClass
  order : Nat
  deriving DecidableEq

structure DecisionActivity where
  id : String
  internalTurnId : String
  decision : Decision
  agentLabel : Option String
  questionSummary : Option String
  sourceSummary : Option String
  reason : Option String
  order : Nat
  deriving DecidableEq

inductive TurnActivityItem
  | assistant (item : AssistantActivity)
  | tool (item : ToolActivity)
  | retry (item : RetryActivity)
  | decision (item : DecisionActivity)
  deriving DecidableEq

def TurnActivityItem.internalTurnId : TurnActivityItem → String
  | .assistant item => item.internalTurnId
  | .tool item => item.internalTurnId
  | .retry item => item.internalTurnId
  | .decision item => item.internalTurnId

structure HITLQuestionProjection where
  requestId : String
  messageId : String
  questionIndex : Nat
  questionCount : Nat
  prompt : String
  promptType : String
  choices : List String
  source : String
  agentLabel : Option String
  status : RequestStatus
  answerRef : Option String
  deriving DecidableEq

structure HITLInteractionProjection where
  interactionId : String
  state : InteractionState
  requestIds : List String
  requests : List HITLQuestionProjection
  requestedAt : String
  resumedAt : Option String
  deriving DecidableEq

structure TurnProjection where
  id : String
  runId : String
  conversationId : String
  userMessageId : String
  clientRequestId : String
  state : TurnLifecycleState
  startedAt : String
  settledAt : Option String
  durationMs : Option Nat
  terminalCode : Option String
  terminalSummary : Option String
  internalTurns : List InternalTurnProjection
  activity : List TurnActivityItem
  currentAssistant : Option AssistantProjection
  finalAnswer : Option AssistantProjection
  finalCommitted : Bool
  hitlInteractions : List HITLInteractionProjection
  activeInteractionId : Option String
  agentCallMessageIds : List String
  deriving DecidableEq

end Hybro.TurnLifecycle
