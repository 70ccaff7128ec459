import Hybro.TurnLifecycle.Types

/-! # The public payload contract

What the strict payload classes of the server admit: the bounds of each field and the
closed shape of each kind of payload. Lengths count code points.
-/

namespace Hybro.TurnLifecycle

/-! ## Fields -/

def publicId (value : String) : Bool :=
  1 ≤ value.length && value.length ≤ 256

def publicText (value : String) : Bool :=
  value.length ≤ 32000

def publicSummary (value : String) : Bool :=
  value.length ≤ 1000

def publicLabel (value : String) : Bool :=
  1 ≤ value.length && value.length ≤ 160

/-- `[A-Za-z0-9_-]` -/
def isCallIdChar (c : Char) : Bool :=
  'A' ≤ c && c ≤ 'Z' || 'a' ≤ c && c ≤ 'z' || '0' ≤ c && c ≤ '9' || c = '_' || c = '-'

/-- `^inv_[A-Za-z0-9_-]{8,128}$` -/
def publicCallId (value : String) : Bool :=
  match value.toList with
  | 'i' :: 'n' :: 'v' :: '_' :: rest =>
      8 ≤ rest.length && rest.length ≤ 128 && rest.all isCallIdChar
  | _ => false

def isLetter (c : Char) : Bool :=
  'A' ≤ c && c ≤ 'Z' || 'a' ≤ c && c ≤ 'z'

/-- `^[A-Za-z][A-Za-z0-9_.:-]{0,63}$` -/
def agentErrorCode (value : String) : Bool :=
  match value.toList with
  | first :: rest =>
      isLetter first && rest.length ≤ 63 &&
        rest.all fun c => isCallIdChar c || c = '.' || c = ':'
  | [] => false

structure Clock where
  /-- The text is one of a `datetime`. -/
  isTimestamp : String → Bool
  /-- The first can be compared with the second and is not before it. -/
  notBefore : String → String → Bool
  /-- `Date.parse`, where `none` is `NaN`. -/
  dateParse : String → Option Int

/-! ## Payloads -/

/-- `_validate_execution_shape`, with the kind that is assumed where none is given. -/
def executionShape (kind : Option ExecutionKind) (target : Option ExecutionTarget) : Bool :=
  match kind.getD .tool with
  | .agent => target.any (publicLabel ·.name)
  | .tool => target.isNone

def Disposition.allows : Disposition → StopReason → Bool
  | .commentary, .toolUse => true
  | .final, .stop => true
  | .error, .length | .error, .contentFilter | .error, .error | .error, .deferred => true
  | .aborted, .aborted => true
  | _, _ => false

variable (clock : Clock)

def RunStartedPayload.accepted (payload : RunStartedPayload) : Bool :=
  publicId payload.hybroTurnId && publicId payload.userMessageId &&
    clock.isTimestamp payload.startedAt

def TurnStartPayload.accepted (payload : TurnStartPayload) : Bool :=
  publicId payload.internalTurnId && 1 ≤ payload.attempt

def MessageStartPayload.accepted (payload : MessageStartPayload) : Bool :=
  publicId payload.internalTurnId && publicId payload.messageId

def TextDeltaEvent.accepted (delta : TextDeltaEvent) : Bool :=
  publicText delta.delta && delta.endOffset = delta.startOffset + delta.delta.length

def MessageUpdatePayload.accepted (payload : MessageUpdatePayload) : Bool :=
  publicId payload.internalTurnId && publicId payload.messageId &&
    payload.assistantMessageEvent.accepted

def MessageEndPayload.accepted (payload : MessageEndPayload) : Bool :=
  publicId payload.internalTurnId && publicId payload.messageId && publicText payload.text &&
    payload.errorSummary.all publicSummary && payload.disposition.allows payload.stopReason &&
    if payload.disposition = .error then payload.errorSummary.any (· ≠ "")
    else payload.errorSummary.isNone

def ToolExecutionStartPayload.accepted (payload : ToolExecutionStartPayload) : Bool :=
  publicId payload.internalTurnId && publicCallId payload.toolCallId &&
    publicLabel payload.toolName && payload.requestSummary.all publicSummary &&
    executionShape payload.executionKind payload.target

def ToolExecutionUpdatePayload.accepted (payload : ToolExecutionUpdatePayload) : Bool :=
  publicId payload.internalTurnId && publicCallId payload.toolCallId &&
    publicLabel payload.toolName && 1 ≤ payload.updateIndex &&
    publicSummary payload.partialResult && executionShape payload.executionKind payload.target

/-- `_closed_outcome_shape` -/
def ToolExecutionEndPayload.closedShape (payload : ToolExecutionEndPayload) : Bool :=
  (match payload.outcome with
    | .completed => !payload.isError && payload.failureReason.isNone
    | .failed => payload.isError
    | .canceled => !payload.isError && payload.result = "" && payload.failureReason.isNone) &&
  (payload.outcome = .completed || payload.detailAvailable ≠ some true) &&
  (payload.outcome = .failed || payload.errorCode.isNone && payload.errorMessage.isNone) &&
  executionShape payload.executionKind payload.target

def ToolExecutionEndPayload.accepted (payload : ToolExecutionEndPayload) : Bool :=
  publicId payload.internalTurnId && publicCallId payload.toolCallId &&
    publicLabel payload.toolName && publicSummary payload.result &&
    payload.errorCode.all agentErrorCode && payload.errorMessage.all (·.length ≤ 500) &&
    payload.closedShape

def TurnEndPayload.accepted (payload : TurnEndPayload) : Bool :=
  publicId payload.internalTurnId && payload.messageId.all publicId &&
    payload.toolCallIds.all publicCallId && payload.toolCallIds.Nodup &&
    (payload.status ≠ .completed || payload.messageId.isSome)

def RetryScheduledPayload.accepted (payload : RetryScheduledPayload) : Bool :=
  publicId payload.internalTurnId && 2 ≤ payload.attempt

/-- `_decision_context_fields` -/
def ModelDecisionPayload.contextFields (payload : ModelDecisionPayload) : Bool :=
  match payload.decision with
  | .interactionReceived => true
  | .answeredFromContext | .forwardedToUser => payload.agentLabel.isSome
  | .noProgress | .degradedToUser => payload.reason.any (· ≠ "")

def ModelDecisionPayload.accepted (payload : ModelDecisionPayload) : Bool :=
  publicId payload.internalTurnId && payload.agentLabel.all publicLabel &&
    payload.questionSummary.all publicSummary && payload.sourceSummary.all publicSummary &&
    payload.reason.all publicSummary && payload.contextFields

def RunWaitingInputPayload.accepted (payload : RunWaitingInputPayload) : Bool :=
  publicId payload.interactionId && payload.requestIds.all publicId &&
    payload.requestIds ≠ [] && payload.requestIds.Nodup && clock.isTimestamp payload.requestedAt

def RunResumedPayload.accepted (payload : RunResumedPayload) : Bool :=
  publicId payload.interactionId && payload.resolvedRequestIds.all publicId &&
    payload.resolvedRequestIds ≠ [] && payload.resolvedRequestIds.Nodup &&
    clock.isTimestamp payload.resumedAt

/-- `_closed_settlement_shape`, apart from the order of the timestamps -/
def RunSettledPayload.closedShape (payload : RunSettledPayload) : Bool :=
  match payload.status with
  | .completed =>
      payload.finalMessageId.isSome && payload.failureCode.isNone &&
        payload.errorSummary.isNone && payload.cancellationCode.isNone
  | .failed =>
      payload.finalMessageId.isNone && payload.failureCode.isSome &&
        payload.errorSummary.any (· ≠ "") && payload.cancellationCode.isNone
  | .canceled =>
      payload.finalMessageId.isNone && payload.failureCode.isNone &&
        payload.errorSummary.isNone && payload.cancellationCode.isSome

def RunSettledPayload.accepted (payload : RunSettledPayload) : Bool :=
  clock.isTimestamp payload.startedAt && clock.isTimestamp payload.settledAt &&
    payload.finalMessageId.all publicId && payload.errorSummary.all publicSummary &&
    clock.notBefore payload.settledAt payload.startedAt && payload.closedShape

/-- `validate_canonical_payload` -/
def CanonicalPayload.accepted : CanonicalPayload → Bool
  | .runStarted payload => payload.accepted clock
  | .turnStart payload => payload.accepted
  | .messageStart payload => payload.accepted
  | .messageUpdate payload => payload.accepted
  | .messageEnd payload => payload.accepted
  | .toolExecutionStart payload => payload.accepted
  | .toolExecutionUpdate payload => payload.accepted
  | .toolExecutionEnd payload => payload.accepted
  | .turnEnd payload => payload.accepted
  | .retryScheduled payload => payload.accepted
  | .modelDecision payload => payload.accepted
  | .runWaitingInput payload => payload.accepted clock
  | .runResumed payload => payload.accepted clock
  | .runSettled payload => payload.accepted clock

/-! ## Delivery events -/

structure RunEventNotification where
  eventId : String
  deliveryId : Option String
  traceId : Option String
  runId : String
  seq : Nat
  payload : CanonicalPayload
  correlationId : Option String
  deriving DecidableEq

def RunEventNotification.accepted (event : RunEventNotification) : Bool :=
  event.eventId ≠ "" && event.runId ≠ "" && event.payload.accepted clock &&
    event.correlationId.any (· ≠ "") &&
    match event.payload with
    | .runStarted payload => payload.hybroTurnId = event.runId
    | _ => true

/-- Blanks around the texts are already stripped. -/
structure HITLChoiceOption where
  value : String
  label : Option String
  description : Option String
  deriving DecidableEq

def HITLChoiceOption.accepted (option : HITLChoiceOption) : Bool :=
  publicId option.value &&
    option.label.all (fun label => 1 ≤ label.length && label.length ≤ 200) &&
    option.description.all fun description =>
      1 ≤ description.length && description.length ≤ 500

/-- The fields that a canonical request may not carry are left out. -/
structure HITLRequestEvent where
  runId : Option String
  requestId : String
  messageId : String
  source : String
  prompt : String
  promptType : String
  choices : Option (List String)
  header : Option String
  required : Bool
  allowOther : Bool
  choiceOptions : Option (List HITLChoiceOption)
  agentLabel : Option String
  interactionId : Option String
  questionCount : Int
  questionIndex : Int
  relatedUserMessageId : Option String
  clientRequestId : Option String
  traceId : Option String
  deriving DecidableEq

def publicSources : List String :=
  ["agent", "supervisor", "system"]

def publicPromptTypes : List String :=
  ["text", "textarea", "choice", "single_choice", "multi_choice", "confirmation", "approval",
    "authentication", "date"]

/-- `_canonical_root_is_closed` of a request -/
def HITLRequestEvent.closedRoot (event : HITLRequestEvent) : Bool :=
  event.clientRequestId.any (· ≠ "") && event.relatedUserMessageId.any (· ≠ "") &&
    event.agentLabel.all (·.length ≤ 160) &&
    event.choices.all (fun choices => choices.length ≤ 20 && choices.all (·.length ≤ 500)) &&
    publicSources.contains event.source && publicPromptTypes.contains event.promptType

def HITLRequestEvent.accepted (event : HITLRequestEvent) : Bool :=
  event.prompt.length ≤ 4000 && event.choiceOptions.all (·.all (·.accepted)) &&
    (event.runId.isNone || event.closedRoot)

/-- The fields that a canonical response may not carry are left out. -/
structure HITLResolvedEvent where
  runId : Option String
  requestId : String
  messageId : String
  source : String
  status : String
  interactionId : Option String
  questionCount : Int
  questionIndex : Int
  answerRef : Option String
  answerText : Option String
  relatedUserMessageId : Option String
  clientRequestId : Option String
  traceId : Option String
  deriving DecidableEq

def ResponseStatus.text : ResponseStatus → String
  | .responded => "responded"
  | .expired => "expired"
  | .canceled => "canceled"
  | .error => "error"

def ResponseStatus.ofText (status : String) : Option ResponseStatus :=
  [ResponseStatus.responded, .expired, .canceled, .error].find? (·.text = status)

/-- `_canonical_root_is_closed` of a response -/
def HITLResolvedEvent.closedRoot (event : HITLResolvedEvent) : Bool :=
  event.clientRequestId.any (· ≠ "") && event.relatedUserMessageId.any (· ≠ "") &&
    (ResponseStatus.ofText event.status).isSome && publicSources.contains event.source

def HITLResolvedEvent.accepted (event : HITLResolvedEvent) : Bool :=
  event.answerText.all (·.length ≤ 1000) && (event.runId.isNone || event.closedRoot)

structure TaskSubmittedEvent where
  runId : Option String
  opaquePublicCallId : Option String
  messageId : String
  relatedMessageId : Option String
  clientRequestId : Option String
  deriving DecidableEq

/-- `_canonical_card_is_closed` -/
def TaskSubmittedEvent.accepted (event : TaskSubmittedEvent) : Bool :=
  event.runId.all fun runId =>
    "inv_".toList.isPrefixOf (event.opaquePublicCallId.getD "").toList &&
      event.messageId = "orchestrator:" ++ runId ++ ":" ++ event.opaquePublicCallId.getD "" &&
      event.clientRequestId.any (· ≠ "") && event.relatedMessageId.any (· ≠ "")

end Hybro.TurnLifecycle
