import Mathlib.Data.List.Sort
import Hybro.Library.OrderedMap
import Hybro.TurnLifecycle.Types

/-! # The fold of canonical events

`foldCanonicalEvent` of the client, one definition for each kind of event, and the
closure rules that a projection built from a snapshot is checked against.
-/

namespace Hybro.TurnLifecycle

open OrderedMap

abbrev TurnProjectionMap := List (String × TurnProjection)

/-! ## Results -/

inductive FoldResult
  | ok (turns : TurnProjectionMap) (changed : Bool)
  | failed (turns : TurnProjectionMap) (violation : String)
  deriving DecidableEq

def FoldResult.turns : FoldResult → TurnProjectionMap
  | .ok turns _ => turns
  | .failed turns _ => turns

/-- What an event does to the Turn that it belongs to. -/
inductive TurnOutcome
  | unchanged
  | changed (turn : TurnProjection)
  | failed (violation : String)
  deriving DecidableEq

def TurnOutcome.result (turns : TurnProjectionMap) : TurnOutcome → FoldResult
  | .unchanged => .ok turns false
  | .changed turn => .ok (put turns turn.id turn) true
  | .failed violation => .failed turns violation

/-! ## Reading a Turn -/

def truthy (value : Option String) : Bool :=
  value.any (· ≠ "")

/-- `Array.from(value).slice(start, end).join('')` -/
def codePointSlice (value : String) (start stop : Nat) : String :=
  String.ofList ((value.toList.take stop).drop start)

def TurnActivityItem.asTool : TurnActivityItem → Option ToolActivity
  | .tool item => some item
  | .assistant _ | .retry _ | .decision _ => none

def TurnActivityItem.asAssistant : TurnActivityItem → Option AssistantActivity
  | .assistant item => some item
  | .tool _ | .retry _ | .decision _ => none

def TurnActivityItem.isRetryOf (internalTurnId : String) : TurnActivityItem → Bool
  | .retry item => item.internalTurnId = internalTurnId
  | .assistant _ | .tool _ | .decision _ => false

def TurnActivityItem.isRetryWith (id : String) : TurnActivityItem → Bool
  | .retry item => item.id = id
  | .assistant _ | .tool _ | .decision _ => false

def TurnActivityItem.isDecisionWith (id : String) : TurnActivityItem → Bool
  | .decision item => item.id = id
  | .assistant _ | .tool _ | .retry _ => false

def TurnActivityItem.isToolWith (toolCallId : String) : TurnActivityItem → Bool
  | .tool item => item.toolCallId = toolCallId
  | .assistant _ | .retry _ | .decision _ => false

def TurnActivityItem.isOpenTool : TurnActivityItem → Bool
  | .tool item => item.status.isOpen
  | .assistant _ | .retry _ | .decision _ => false

def InternalTurnProjection.pushMessage (internal : InternalTurnProjection) (messageId : String) :
    InternalTurnProjection :=
  { internal with messageIds := internal.messageIds ++ [messageId] }

def InternalTurnProjection.pushTool (internal : InternalTurnProjection) (toolCallId : String) :
    InternalTurnProjection :=
  { internal with toolCallIds := internal.toolCallIds ++ [toolCallId] }

namespace TurnProjection

variable (turn : TurnProjection)

def findInternal (internalTurnId : String) : Option InternalTurnProjection :=
  turn.internalTurns.find? (·.internalTurnId = internalTurnId)

def updateInternal (internalTurnId : String)
    (f : InternalTurnProjection → InternalTurnProjection) : TurnProjection :=
  { turn with internalTurns := updateFirst (·.internalTurnId = internalTurnId) f turn.internalTurns }

def tools : List ToolActivity :=
  turn.activity.filterMap (·.asTool)

def findTool (toolCallId : String) : Option ToolActivity :=
  turn.tools.find? (·.toolCallId = toolCallId)

def updateTool (toolCallId : String) (f : ToolActivity → ToolActivity) : TurnProjection :=
  { turn with
    activity := updateFirst (·.isToolWith toolCallId)
      (fun item => match item with
        | .tool tool => .tool (f tool)
        | other => other)
      turn.activity }

def toolRows (internalTurnId : String) : List ToolActivity :=
  turn.tools.filter (·.internalTurnId = internalTurnId)

def pushActivity (item : TurnActivityItem) : TurnProjection :=
  { turn with activity := turn.activity ++ [item] }

def findInteraction (interactionId : String) : Option HITLInteractionProjection :=
  turn.hitlInteractions.find? (·.interactionId = interactionId)

def updateInteraction (interactionId : String)
    (f : HITLInteractionProjection → HITLInteractionProjection) : TurnProjection :=
  { turn with
    hitlInteractions := updateFirst (·.interactionId = interactionId) f turn.hitlInteractions }

def hasOpenChildren : Bool :=
  turn.currentAssistant.isSome || truthy turn.activeInteractionId ||
    turn.internalTurns.any (·.status = .active) || turn.activity.any (·.isOpenTool)

/-- Every internal Turn but the last is completed, or broken and retried. -/
def earlierTurnsClosed : Bool :=
  turn.internalTurns.dropLast.all fun item =>
    item.status = .completed ||
      item.status.broken && turn.activity.any (·.isRetryOf item.internalTurnId)

end TurnProjection

/-- The question indexes are 0, 1, ... in some order, as many as every question announces. -/
def HITLInteractionProjection.complete (interaction : HITLInteractionProjection) : Bool :=
  interaction.requests.all (·.questionCount = interaction.requests.length) &&
    ((interaction.requests.map (·.questionIndex)).insertionSort (· ≤ ·) =
      List.range interaction.requests.length)

/-! ## Run events -/

def foldTurnStart (turn : TurnProjection) (payload : TurnStartPayload) : TurnOutcome :=
  match turn.findInternal payload.internalTurnId with
  | some duplicate =>
      if duplicate.attempt = payload.attempt then .unchanged
      else .failed "turn_start attempt changed"
  | none =>
      if turn.internalTurns.any (·.status = .active) then
        .failed "turn_start arrived while another internal Turn is active"
      else
        .changed { turn with
          internalTurns := turn.internalTurns ++
            [{ internalTurnId := payload.internalTurnId
               attempt := payload.attempt
               messageIds := []
               toolCallIds := []
               status := .active }] }

def foldRetryScheduled (turn : TurnProjection) (eventId : String) (order : Nat)
    (payload : RetryScheduledPayload) : TurnOutcome :=
  if (turn.findInternal payload.internalTurnId).any (·.status.broken) = false then
    .failed "retry_scheduled does not belong to a closed failed internal Turn"
  else if turn.activity.any (·.isRetryWith eventId) then .unchanged
  else
    .changed (turn.pushActivity (.retry
      { id := eventId
        internalTurnId := payload.internalTurnId
        attempt := payload.attempt
        delayMs := payload.delayMs
        errorClass := payload.errorClass
        order := order }))

def foldModelDecision (turn : TurnProjection) (eventId : String) (order : Nat)
    (payload : ModelDecisionPayload) : TurnOutcome :=
  if (turn.findInternal payload.internalTurnId).any (·.status = .active) = false then
    .failed "model_decision does not belong to an active internal Turn"
  else if turn.activity.any (·.isDecisionWith eventId) then .unchanged
  else
    .changed (turn.pushActivity (.decision
      { id := eventId
        internalTurnId := payload.internalTurnId
        decision := payload.decision
        agentLabel := payload.agentLabel
        questionSummary := payload.questionSummary
        sourceSummary := payload.sourceSummary
        reason := payload.reason
        order := order }))

def HITLInteractionProjection.awaited (interaction : HITLInteractionProjection)
    (requestedAt : String) : HITLInteractionProjection :=
  { interaction with requestedAt := requestedAt, state := .awaitingInput }

def HITLInteractionProjection.resumed (interaction : HITLInteractionProjection)
    (resumedAt : String) : HITLInteractionProjection :=
  { interaction with state := .resumed, resumedAt := some resumedAt }

def foldRunWaitingInput (turn : TurnProjection) (payload : RunWaitingInputPayload) :
    TurnOutcome :=
  match turn.findInteraction payload.interactionId with
  | none => .failed "run_waiting_input does not reference the complete ordered HITL request set"
  | some interaction =>
      if interaction.requestIds ≠ payload.requestIds then
        .failed "run_waiting_input does not reference the complete ordered HITL request set"
      else if interaction.requests.length ≠ interaction.requestIds.length ∨
          interaction.complete = false then
        .failed "run_waiting_input references an incomplete questionnaire"
      else if turn.activeInteractionId = some interaction.interactionId ∧
          turn.state = .awaitingInput then
        .unchanged
      else if truthy turn.activeInteractionId then
        .failed "run_waiting_input conflicts with another active interaction"
      else
        .changed { turn.updateInteraction payload.interactionId (·.awaited payload.requestedAt) with
          activeInteractionId := some interaction.interactionId
          state := .awaitingInput }

def foldRunResumed (turn : TurnProjection) (payload : RunResumedPayload) : TurnOutcome :=
  match turn.findInteraction payload.interactionId with
  | none => .failed "run_resumed does not match a fully responded active interaction"
  | some interaction =>
      if turn.activeInteractionId ≠ some interaction.interactionId ∨
          interaction.requestIds ≠ payload.resolvedRequestIds ∨
          interaction.requests.any (·.status ≠ .responded) then
        .failed "run_resumed does not match a fully responded active interaction"
      else
        .changed { turn.updateInteraction payload.interactionId (·.resumed payload.resumedAt) with
          activeInteractionId := none
          state := .active }

/-- A completed settlement needs the committed final message of the last internal Turn. -/
def TurnProjection.finalClosure (turn : TurnProjection) (finalMessageId : Option String) :
    Bool :=
  match turn.finalAnswer, turn.internalTurns.getLast? with
  | some final, some lastInternal =>
      turn.finalCommitted && some final.messageId = finalMessageId &&
        lastInternal.status = .completed && final.internalTurnId = lastInternal.internalTurnId &&
        lastInternal.messageIds.getLast? = some final.messageId && turn.earlierTurnsClosed
  | _, _ => false

/-- The Turn after a settlement; `started_at` of the payload is not read. -/
def TurnProjection.settle (turn : TurnProjection) (payload : RunSettledPayload) :
    TurnProjection :=
  { turn with
    state := payload.status.state
    settledAt := some payload.settledAt
    durationMs := some payload.durationMs
    terminalCode :=
      match payload.status with
      | .completed => turn.terminalCode
      | .failed => payload.failureCode.map (·.text)
      | .canceled => payload.cancellationCode.map (·.text)
    terminalSummary :=
      if payload.status = .failed then payload.errorSummary else turn.terminalSummary }

def foldRunSettled (turn : TurnProjection) (payload : RunSettledPayload) : TurnOutcome :=
  if turn.hasOpenChildren then .failed "run_settled arrived with open child lifecycle state"
  else
    match payload.status with
    | .completed =>
        if turn.finalClosure payload.finalMessageId then .changed (turn.settle payload)
        else .failed "completed run_settled arrived before exact final commitment and Turn closure"
    | .failed =>
        if turn.internalTurns.getLast?.all (·.status.broken) then .changed (turn.settle payload)
        else .failed "failed run_settled requires an error/aborted final internal Turn"
    | .canceled =>
        if turn.internalTurns.getLast?.all (·.status.broken) then .changed (turn.settle payload)
        else .failed "canceled run_settled requires an error/aborted final internal Turn"

def foldMessageStart (turn : TurnProjection) (internal : InternalTurnProjection) (order : Nat)
    (payload : MessageStartPayload) : TurnOutcome :=
  if internal.status ≠ .active then .failed "message_start references a closed internal Turn"
  else
    match turn.currentAssistant with
    | some current =>
        if current.messageId = payload.messageId then .unchanged
        else .failed "message_start arrived while another Assistant is open"
    | none =>
        if internal.messageIds.contains payload.messageId then .unchanged
        else
          .changed { turn.updateInternal payload.internalTurnId (·.pushMessage payload.messageId) with
            currentAssistant := some
              { messageId := payload.messageId
                internalTurnId := payload.internalTurnId
                text := ""
                status := .streaming
                contentIndex := 0
                nextDeltaIndex := 0
                endOffset := 0
                order := order } }

def foldMessageUpdate (turn : TurnProjection) (payload : MessageUpdatePayload) : TurnOutcome :=
  let delta := payload.assistantMessageEvent
  match turn.currentAssistant.filter fun current =>
      current.messageId = payload.messageId && current.internalTurnId = payload.internalTurnId with
  | none => .failed "message_update does not match the open Assistant"
  | some current =>
      if delta.contentIndex ≠ current.contentIndex then
        .failed "message_update changed content_index"
      else if delta.deltaIndex < current.nextDeltaIndex then
        if delta.endOffset ≤ current.endOffset ∧
            codePointSlice current.text delta.startOffset delta.endOffset = delta.delta then
          .unchanged
        else .failed "message_update duplicate contradicts assembled text"
      else if delta.deltaIndex ≠ current.nextDeltaIndex ∨
          delta.startOffset ≠ current.endOffset then
        .failed "message_update offset/index gap requires snapshot recovery"
      else
        .changed { turn with
          currentAssistant := some { current with
            text := current.text ++ delta.delta
            endOffset := delta.endOffset
            nextDeltaIndex := current.nextDeltaIndex + 1 } }

/-- The text that a message already has, of the final answer or of a closed Assistant. -/
def TurnProjection.priorText (turn : TurnProjection) (messageId : String) : Option String :=
  match turn.finalAnswer.filter (·.messageId = messageId) with
  | some final => some final.text
  | none =>
      ((turn.activity.filterMap (·.asAssistant)).find? (·.id = messageId)).map (·.text)

def Disposition.assistantStatus : Disposition → AssistantStatus
  | .commentary | .final => .completed
  | .error => .error
  | .aborted => .aborted

def AssistantProjection.checkpoint (current : AssistantProjection) (order : Nat)
    (payload : MessageEndPayload) : AssistantProjection :=
  { current with
    text := payload.text
    status := payload.disposition.assistantStatus
    endOffset := payload.text.length
    order := order }

def assistantRow (order : Nat) (payload : MessageEndPayload) : AssistantActivity where
  id := payload.messageId
  internalTurnId := payload.internalTurnId
  text := payload.text
  status := payload.disposition.assistantStatus
  order := order

def foldMessageEnd (turn : TurnProjection) (order : Nat) (payload : MessageEndPayload) :
    TurnOutcome :=
  match turn.currentAssistant.filter fun current =>
      current.messageId = payload.messageId && current.internalTurnId = payload.internalTurnId with
  | none =>
      if turn.priorText payload.messageId = some payload.text then .unchanged
      else .failed "message_end does not match the open Assistant"
  | some current =>
      if 0 < current.nextDeltaIndex ∧ current.text ≠ payload.text then
        .failed "message_end contradicts assembled durable deltas"
      else if payload.disposition = .final then
        if turn.finalAnswer.any fun final =>
            final.messageId ≠ payload.messageId ||
              final.internalTurnId ≠ payload.internalTurnId || final.text ≠ payload.text then
          .failed "final Assistant identity changed"
        else
          .changed { turn with
            finalAnswer := some (current.checkpoint order payload), currentAssistant := none }
      else if payload.text = "" then .changed { turn with currentAssistant := none }
      else
        .changed { turn.pushActivity (.assistant (assistantRow order payload)) with
          currentAssistant := none }

def newTool (order : Nat) (payload : ToolExecutionStartPayload) : ToolActivity where
  id := payload.toolCallId
  internalTurnId := payload.internalTurnId
  toolCallId := payload.toolCallId
  label := payload.toolName
  input := payload.input
  partialResult := ""
  result := none
  isError := none
  durationMs := none
  failureReason := none
  updateIndex := 0
  status := .running
  executionKind := payload.executionKind.getD .tool
  targetName := payload.target.map (·.name)
  requestSummary := payload.requestSummary.getD ""
  detailAvailable := false
  errorCode := none
  errorMessage := none
  order := order

def foldToolExecutionStart (turn : TurnProjection) (internal : InternalTurnProjection)
    (order : Nat) (payload : ToolExecutionStartPayload) : TurnOutcome :=
  match turn.findTool payload.toolCallId with
  | some prior =>
      if prior.internalTurnId = payload.internalTurnId then .unchanged
      else .failed "Tool identity changed ownership"
  | none =>
      if internal.status ≠ .active then
        .failed "tool_execution_start references a closed internal Turn"
      else
        .changed ((turn.updateInternal payload.internalTurnId
            (·.pushTool payload.toolCallId)).pushActivity
          (.tool (newTool order payload)))

def ToolActivity.updated (tool : ToolActivity) (payload : ToolExecutionUpdatePayload) :
    ToolActivity :=
  { tool with
    updateIndex := payload.updateIndex
    status := payload.status.toolStatus
    partialResult := payload.partialResult }

def foldToolExecutionUpdate (turn : TurnProjection) (payload : ToolExecutionUpdatePayload) :
    TurnOutcome :=
  match (turn.findTool payload.toolCallId).filter (·.internalTurnId = payload.internalTurnId) with
  | none => .failed "tool_execution_update has no matching Tool start"
  | some tool =>
      if tool.status.isOpen = false then
        .failed "tool_execution_update arrived after Tool terminal"
      else if payload.updateIndex ≤ tool.updateIndex then .unchanged
      else if payload.executionKind.any (· ≠ tool.executionKind) then
        .failed "tool_execution_update changed execution kind"
      else if payload.target.any fun target => some target.name ≠ tool.targetName then
        .failed "tool_execution_update changed execution target"
      else
        .changed (turn.updateTool payload.toolCallId (·.updated payload))

def ToolActivity.ended (tool : ToolActivity) (payload : ToolExecutionEndPayload) : ToolActivity :=
  { tool with
    status := payload.outcome.toolStatus
    result := some payload.result
    isError := some payload.isError
    durationMs := some payload.durationMs
    detailAvailable := payload.detailAvailable = some true
    failureReason := payload.failureReason <|> tool.failureReason
    errorCode := if payload.outcome = .failed then payload.errorCode else tool.errorCode
    errorMessage := if payload.outcome = .failed then payload.errorMessage else tool.errorMessage }

def foldToolExecutionEnd (turn : TurnProjection) (payload : ToolExecutionEndPayload) :
    TurnOutcome :=
  match (turn.findTool payload.toolCallId).filter (·.internalTurnId = payload.internalTurnId) with
  | none => .failed "tool_execution_end has no matching Tool start"
  | some tool =>
      if tool.status.isOpen = false then
        if tool.status = payload.outcome.toolStatus then .unchanged
        else .failed "Tool terminal outcome changed"
      else if payload.executionKind.any (· ≠ tool.executionKind) then
        .failed "tool_execution_end changed execution kind"
      else if payload.target.any fun target => some target.name ≠ tool.targetName then
        .failed "tool_execution_end changed execution target"
      else
        .changed (turn.updateTool payload.toolCallId (·.ended payload))

def TurnProjection.toolsClosedAs (turn : TurnProjection) (payload : TurnEndPayload) : Bool :=
  let tools := turn.toolRows payload.internalTurnId
  tools.all (fun tool => !tool.status.isOpen) && tools.map (·.toolCallId) = payload.toolCallIds

def foldTurnEnd (turn : TurnProjection) (internal : InternalTurnProjection)
    (payload : TurnEndPayload) : TurnOutcome :=
  if internal.status ≠ .active then
    if internal.status = payload.status.internalStatus then .unchanged
    else .failed "Internal Turn terminal changed"
  else if turn.toolsClosedAs payload = false then
    .failed "turn_end Tool inventory is not exact and terminal"
  else if internal.messageIds.getLast? ≠ payload.messageId then
    .failed "turn_end message identity does not match its Assistant"
  else
    .changed (turn.updateInternal payload.internalTurnId
      ({ · with status := payload.status.internalStatus }))

def foldTurnEvent (turn : TurnProjection) (eventId : String) (order : Nat)
    (payload : CanonicalPayload) : TurnOutcome :=
  match payload with
  | .runStarted _ => .unchanged
  | .turnStart payload => foldTurnStart turn payload
  | .retryScheduled payload => foldRetryScheduled turn eventId order payload
  | .modelDecision payload => foldModelDecision turn eventId order payload
  | .runWaitingInput payload => foldRunWaitingInput turn payload
  | .runResumed payload => foldRunResumed turn payload
  | .runSettled payload => foldRunSettled turn payload
  | .messageStart payload =>
      inInternal payload.internalTurnId fun internal =>
        foldMessageStart turn internal order payload
  | .messageUpdate payload =>
      inInternal payload.internalTurnId fun _ => foldMessageUpdate turn payload
  | .messageEnd payload =>
      inInternal payload.internalTurnId fun _ => foldMessageEnd turn order payload
  | .toolExecutionStart payload =>
      inInternal payload.internalTurnId fun internal =>
        foldToolExecutionStart turn internal order payload
  | .toolExecutionUpdate payload =>
      inInternal payload.internalTurnId fun _ => foldToolExecutionUpdate turn payload
  | .toolExecutionEnd payload =>
      inInternal payload.internalTurnId fun _ => foldToolExecutionEnd turn payload
  | .turnEnd payload =>
      inInternal payload.internalTurnId fun internal => foldTurnEnd turn internal payload
where
  inInternal (internalTurnId : String) (fold : InternalTurnProjection → TurnOutcome) :
      TurnOutcome :=
    match turn.findInternal internalTurnId with
    | none => .failed s!"{payload.type} references an unknown internal Turn"
    | some internal => fold internal

/-- After the final Assistant message only its repetition, the end of its internal Turn and the
settlement are taken. -/
def AssistantProjection.admits (final : AssistantProjection) : CanonicalPayload → Bool
  | .messageEnd payload =>
      payload.disposition = .final && payload.messageId = final.messageId &&
        payload.internalTurnId = final.internalTurnId && payload.text = final.text
  | .turnEnd payload => payload.internalTurnId = final.internalTurnId
  | .runSettled _ => true
  | _ => false

def newTurn (conversationId correlationId runId : String) (payload : RunStartedPayload) :
    TurnProjection where
  id := payload.hybroTurnId
  runId := runId
  conversationId := conversationId
  userMessageId := payload.userMessageId
  clientRequestId := correlationId
  state := .active
  startedAt := payload.startedAt
  settledAt := none
  durationMs := none
  terminalCode := none
  terminalSummary := none
  internalTurns := []
  activity := []
  currentAssistant := none
  finalAnswer := none
  finalCommitted := false
  hitlInteractions := []
  activeInteractionId := none
  agentCallMessageIds := []

def foldRunStarted (existing : Option TurnProjection) (conversationId correlationId runId : String)
    (payload : RunStartedPayload) : TurnOutcome :=
  match existing with
  | some turn =>
      if turn.userMessageId = payload.userMessageId ∧ turn.clientRequestId = correlationId then
        .unchanged
      else .failed "run_started contradicts the existing Turn root"
  | none => .changed (newTurn conversationId correlationId runId payload)

def foldStarted (turn : TurnProjection) (correlationId eventId : String) (order : Nat)
    (payload : CanonicalPayload) : TurnOutcome :=
  if turn.clientRequestId ≠ correlationId then
    .failed s!"{payload.type} does not match the Turn correlation root"
  else if turn.state.settled then
    match payload with
    | .runSettled settled =>
        if turn.state = settled.status.state then .unchanged
        else .failed s!"{payload.type} arrived after the Turn settled"
    | _ => .failed s!"{payload.type} arrived after the Turn settled"
  else if turn.finalAnswer.any (fun final => !final.admits payload) then
    .failed s!"{payload.type} arrived after the final Assistant message"
  else foldTurnEvent turn eventId order payload

def foldRunEvent (turns : TurnProjectionMap) (conversationId : String)
    (data : CanonicalRunEventData) : FoldResult :=
  match data.roomSeq with
  | none => .failed turns s!"{data.payload.type} is missing authoritative room_seq"
  | some order =>
      match data.payload with
      | .runStarted payload =>
          (foldRunStarted (get turns data.runId) conversationId data.correlationId data.runId
            payload).result turns
      | payload =>
          match get turns data.runId with
          | none => .failed turns s!"{payload.type} arrived before run_started"
          | some turn =>
              (foldStarted turn data.correlationId data.eventId order payload).result turns

/-! ## Questions and answers -/

def findExactRoot (turns : TurnProjectionMap) (runId clientRequestId userMessageId : String) :
    Option TurnProjection :=
  (get turns runId).filter fun turn =>
    turn.clientRequestId = clientRequestId && turn.userMessageId = userMessageId

def HITLQuestionProjection.repeats (prior : HITLQuestionProjection)
    (data : CanonicalHITLRequestData) : Bool :=
  prior.messageId = data.messageId && prior.questionIndex = data.questionIndex &&
    prior.questionCount = data.questionCount && prior.prompt = data.prompt &&
    prior.promptType = data.promptType && prior.source = data.source &&
    prior.agentLabel = data.agentLabel && prior.choices = data.choices.getD []

def questionOf (data : CanonicalHITLRequestData) : HITLQuestionProjection where
  requestId := data.requestId
  messageId := data.messageId
  questionIndex := data.questionIndex
  questionCount := data.questionCount
  prompt := data.prompt
  promptType := data.promptType
  choices := data.choices.getD []
  source := data.source
  agentLabel := data.agentLabel
  status := .requested
  answerRef := none

def HITLInteractionProjection.push (interaction : HITLInteractionProjection)
    (question : HITLQuestionProjection) : HITLInteractionProjection :=
  { interaction with
    requestIds := interaction.requestIds ++ [question.requestId]
    requests := interaction.requests ++ [question] }

def foldHITLQuestion (turn : TurnProjection) (data : CanonicalHITLRequestData) : TurnOutcome :=
  match turn.findInteraction data.interactionId with
  | none =>
      .changed { turn with
        hitlInteractions := turn.hitlInteractions ++
          [{ interactionId := data.interactionId
             state := .awaitingInput
             requestIds := [data.requestId]
             requests := [questionOf data]
             requestedAt := ""
             resumedAt := none }] }
  | some interaction =>
      match interaction.requests.find? (·.requestId = data.requestId) with
      | some prior =>
          if prior.repeats data then .unchanged
          else .failed "Canonical HITL request identity changed"
      | none =>
          if interaction.requests.any (·.questionIndex = data.questionIndex) then
            .failed "Canonical HITL question index is duplicated"
          else .changed (turn.updateInteraction data.interactionId (·.push (questionOf data)))

def foldHITLRequest (turns : TurnProjectionMap) (data : CanonicalHITLRequestData) : FoldResult :=
  match findExactRoot turns data.runId data.clientRequestId data.relatedUserMessageId with
  | none => .failed turns "Canonical HITL request does not match the exact Turn root"
  | some turn => (foldHITLQuestion turn data).result turns

def HITLInteractionProjection.answered (interaction : HITLInteractionProjection)
    (data : CanonicalHITLResponseData) : Option HITLQuestionProjection :=
  (interaction.requests.find? (·.requestId = data.requestId)).filter fun request =>
    request.messageId = data.messageId && request.questionIndex = data.questionIndex &&
      request.questionCount = data.questionCount

def HITLInteractionProjection.answer (interaction : HITLInteractionProjection)
    (data : CanonicalHITLResponseData) : HITLInteractionProjection :=
  { interaction with
    requests := updateFirst (·.requestId = data.requestId)
      (fun request =>
        { request with status := data.status.requestStatus, answerRef := data.answerRef })
      interaction.requests }

def HITLInteractionProjection.endAs (interaction : HITLInteractionProjection)
    (data : CanonicalHITLResponseData) (state : InteractionState) : HITLInteractionProjection :=
  { interaction.answer data with state := state }

/-- The first of these outcomes that a request of the interaction has. -/
def HITLInteractionProjection.nonResumable (interaction : HITLInteractionProjection) :
    Option InteractionState :=
  if interaction.requests.any (·.status = .error) then some .error
  else if interaction.requests.any (·.status = .canceled) then some .canceled
  else if interaction.requests.any (·.status = .expired) then some .expired
  else none

/-- The outcome of an interaction none of whose requests is open, unless it can be resumed. -/
def HITLInteractionProjection.terminal (interaction : HITLInteractionProjection) :
    Option InteractionState :=
  if interaction.requests.length = interaction.requestIds.length ∧
      interaction.requests.all (·.status ≠ .requested) then
    interaction.nonResumable
  else none

def foldHITLAnswer (turn : TurnProjection) (data : CanonicalHITLResponseData) : TurnOutcome :=
  match turn.findInteraction data.interactionId with
  | none => .failed "Canonical HITL response does not match its durable request"
  | some interaction =>
      match interaction.answered data with
      | none => .failed "Canonical HITL response does not match its durable request"
      | some request =>
          if request.status ≠ .requested then
            if request.status = data.status.requestStatus then .unchanged
            else .failed "HITL terminal status changed"
          else
            match (interaction.answer data).terminal with
            | none => .changed (turn.updateInteraction data.interactionId (·.answer data))
            | some state =>
                .changed { turn.updateInteraction data.interactionId (·.endAs data state) with
                  activeInteractionId :=
                    if turn.activeInteractionId = some interaction.interactionId then none
                    else turn.activeInteractionId }

def foldHITLResponse (turns : TurnProjectionMap) (data : CanonicalHITLResponseData) : FoldResult :=
  match findExactRoot turns data.runId data.clientRequestId data.relatedUserMessageId with
  | none => .failed turns "Canonical HITL response does not match the exact Turn root"
  | some turn => (foldHITLAnswer turn data).result turns

/-! ## Final responses -/

def TurnProjection.awaitsFinal (turn : TurnProjection) (data : AgentResponseData) : Bool :=
  turn.clientRequestId = data.clientRequestId && some turn.userMessageId = data.relatedMessageId &&
    turn.finalAnswer.any (·.messageId = data.messageId)

def commitFinal (turn : TurnProjection) (data : AgentResponseData) : TurnOutcome :=
  if turn.finalCommitted then
    if turn.finalAnswer.any (·.text = data.content.getD "") then .unchanged
    else .failed "Contradictory duplicate final agent_response"
  else
    .changed { turn with
      finalAnswer := turn.finalAnswer.map ({ · with text := data.content.getD "" })
      finalCommitted := true }

def foldAgentResponse (turns : TurnProjectionMap) (data : AgentResponseData) : FoldResult :=
  match (values turns).find? (·.awaitsFinal data) with
  | none => .ok turns false
  | some turn => (commitFinal turn data).result turns

/-! ## Canonical events -/

inductive CanonicalFoldEvent
  | runEvent (data : CanonicalRunEventData)
  | agentResponse (data : AgentResponseData)
  | hitlRequest (data : CanonicalHITLRequestData)
  | hitlResponse (data : CanonicalHITLResponseData)
  | taskSubmitted
  | taskUpdate
  deriving DecidableEq

def foldTask (turns : TurnProjectionMap) : FoldResult :=
  .failed turns "Canonical task card frames are deprecated"

def foldCanonicalEvent (turns : TurnProjectionMap) (conversationId : String) :
    CanonicalFoldEvent → FoldResult
  | .runEvent data => foldRunEvent turns conversationId data
  | .hitlRequest data => foldHITLRequest turns data
  | .hitlResponse data => foldHITLResponse turns data
  | .agentResponse data => foldAgentResponse turns data
  | .taskSubmitted => foldTask turns
  | .taskUpdate => foldTask turns

def foldEvents (conversationId : String) (events : List CanonicalFoldEvent) : TurnProjectionMap :=
  events.foldl (fun turns event => (foldCanonicalEvent turns conversationId event).turns) []

/-! ## Closure -/

namespace TurnProjection

def activityViolation (turn : TurnProjection) (item : TurnActivityItem) : Option String :=
  match turn.findInternal item.internalTurnId with
  | none => some "snapshot activity has no internal Turn owner"
  | some owner =>
      match item with
      | .assistant item =>
          if owner.messageIds.contains item.id then none
          else some "snapshot Assistant activity is absent from its internal Turn inventory"
      | .tool item =>
          if owner.toolCallIds.contains item.toolCallId then none
          else some "snapshot Tool activity is absent from its internal Turn inventory"
      | .retry _ =>
          if owner.status.broken then none
          else some "snapshot retry does not belong to a closed failed internal Turn"
      | .decision _ => none

def internalViolation (turn : TurnProjection) (internal : InternalTurnProjection) :
    Option String :=
  let toolRows := turn.toolRows internal.internalTurnId
  if toolRows.map (·.toolCallId) ≠ internal.toolCallIds then
    some "snapshot Turn Tool inventory does not match activity ownership"
  else if internal.status ≠ .active ∧ toolRows.any (·.status.isOpen) then
    some "closed snapshot internal Turn contains an open Tool"
  else none

def currentViolation (turn : TurnProjection) : Option String :=
  match turn.currentAssistant with
  | none => none
  | some current =>
      if current.status = .streaming ∧
          (turn.findInternal current.internalTurnId).any fun owner =>
            owner.status = .active && owner.messageIds.contains current.messageId then
        none
      else some "snapshot current Assistant has no streaming active internal Turn owner"

def finalViolation (turn : TurnProjection) : Option String :=
  match turn.finalAnswer with
  | none =>
      if turn.finalCommitted then some "snapshot final commit has no final Assistant" else none
  | some final =>
      if final.status = .completed ∧
          (turn.findInternal final.internalTurnId).any (·.messageIds.contains final.messageId) then
        none
      else some "snapshot final Assistant has no completed internal Turn ownership"

def inputViolation (turn : TurnProjection) : Option String :=
  if turn.state = .awaitingInput ∧ truthy turn.activeInteractionId = false then
    some "awaiting_input snapshot Turn has no active interaction"
  else none

def interactionViolation (interaction : HITLInteractionProjection) : Option String :=
  if interaction.requests.map (·.requestId) ≠ interaction.requestIds then
    some "snapshot HITL request inventory is not exact and ordered"
  else if interaction.complete = false then some "snapshot HITL questionnaire is incomplete"
  else none

def activeViolation (turn : TurnProjection) : Option String :=
  if truthy turn.activeInteractionId ∧
      (turn.hitlInteractions.any fun item =>
        some item.interactionId = turn.activeInteractionId && item.state = .awaitingInput) =
        false then
    some "snapshot active HITL identity has no interaction owner"
  else none

def settlementViolation (turn : TurnProjection) : Option String :=
  if turn.state.settled ∧ turn.hasOpenChildren then
    some "terminal snapshot Turn contains open child lifecycle state"
  else
    match turn.state with
    | .completed =>
        if turn.finalAnswer.any (fun final => turn.finalClosure (some final.messageId)) then none
        else some "completed snapshot Turn has no exact committed final closure"
    | .failed =>
        if turn.internalTurns.getLast?.all (·.status.broken) then none
        else some "failed snapshot Turn does not end with error/aborted closure"
    | .canceled =>
        if turn.internalTurns.getLast?.all (·.status.broken) then none
        else some "canceled snapshot Turn does not end with error/aborted closure"
    | .active | .awaitingInput => none

end TurnProjection

def validateProjectionClosure (turn : TurnProjection) : Option String :=
  if ¬(turn.internalTurns.map (·.internalTurnId)).Nodup then
    some "snapshot Turn repeats an internal Turn identity"
  else
    turn.activity.findSome? turn.activityViolation <|>
    turn.internalTurns.findSome? turn.internalViolation <|>
    turn.currentViolation <|>
    turn.finalViolation <|>
    turn.inputViolation <|>
    turn.hitlInteractions.findSome? TurnProjection.interactionViolation <|>
    turn.activeViolation <|>
    turn.settlementViolation

end Hybro.TurnLifecycle
