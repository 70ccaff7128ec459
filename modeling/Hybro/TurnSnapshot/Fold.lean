import Hybro.TurnLifecycle.Dto
import Hybro.TurnSnapshot.Record

/-! # The fold of the room log into Turn records

The part of `RoomEventFold` of the server that builds the Turn records of a snapshot.
An event that it refuses, by `False` or by an exception, has no result.
-/

namespace Hybro.TurnSnapshot

open OrderedMap TurnLifecycle

abbrev TurnRecords := List (String × RoomSnapshotTurn)

/-! ## Reading a record -/

def RoomSnapshotActivityItem.asTool : RoomSnapshotActivityItem → Option RoomSnapshotTool
  | .tool item => some item
  | .assistant _ | .retry _ | .decision _ => none

def RoomSnapshotActivityItem.isToolWith (toolCallId : String) : RoomSnapshotActivityItem → Bool
  | .tool item => item.toolCallId = toolCallId
  | .assistant _ | .retry _ | .decision _ => false

def RoomSnapshotActivityItem.isRetryWith (id : String) : RoomSnapshotActivityItem → Bool
  | .retry item => item.id = id
  | .assistant _ | .tool _ | .decision _ => false

def RoomSnapshotActivityItem.isRetryOf (internalTurnId : String) : RoomSnapshotActivityItem → Bool
  | .retry item => item.internalTurnId = internalTurnId
  | .assistant _ | .tool _ | .decision _ => false

def RoomSnapshotActivityItem.isDecisionWith (id : String) : RoomSnapshotActivityItem → Bool
  | .decision item => item.id = id
  | .assistant _ | .tool _ | .retry _ => false

def RoomSnapshotActivityItem.isOpenTool : RoomSnapshotActivityItem → Bool
  | .tool item => item.status.isOpen
  | .assistant _ | .retry _ | .decision _ => false

namespace RoomSnapshotTurn

variable (turn : RoomSnapshotTurn)

def findInternal (internalTurnId : String) : Option InternalTurnProjection :=
  turn.internalTurns.find? (·.internalTurnId = internalTurnId)

def updateInternal (internalTurnId : String)
    (f : InternalTurnProjection → InternalTurnProjection) : RoomSnapshotTurn :=
  { turn with internalTurns := updateFirst (·.internalTurnId = internalTurnId) f turn.internalTurns }

def tools : List RoomSnapshotTool :=
  turn.activity.filterMap (·.asTool)

def findTool (toolCallId : String) : Option RoomSnapshotTool :=
  turn.tools.find? (·.toolCallId = toolCallId)

def updateTool (toolCallId : String) (f : RoomSnapshotTool → RoomSnapshotTool) :
    RoomSnapshotTurn :=
  { turn with
    activity := updateFirst (·.isToolWith toolCallId)
      (fun item => match item with
        | .tool tool => .tool (f tool)
        | other => other)
      turn.activity }

def toolRows (internalTurnId : String) : List RoomSnapshotTool :=
  turn.tools.filter (·.internalTurnId = internalTurnId)

def pushActivity (item : RoomSnapshotActivityItem) : RoomSnapshotTurn :=
  { turn with activity := turn.activity ++ [item] }

def findInteraction (interactionId : String) : Option RoomSnapshotInteraction :=
  turn.hitlInteractions.find? (·.interactionId = interactionId)

def updateInteraction (interactionId : String)
    (f : RoomSnapshotInteraction → RoomSnapshotInteraction) : RoomSnapshotTurn :=
  { turn with
    hitlInteractions := updateFirst (·.interactionId = interactionId) f turn.hitlInteractions }

def openChildren : Bool :=
  turn.currentAssistant.isSome || turn.activeInteractionId.isSome ||
    turn.internalTurns.any (·.status = .active) || turn.activity.any (·.isOpenTool)

def earlierClosed : Bool :=
  turn.internalTurns.dropLast.all fun item =>
    item.status = .completed ||
      item.status.broken && turn.activity.any (·.isRetryOf item.internalTurnId)

end RoomSnapshotTurn

/-- The question indexes are 0, 1, ... in some order, as many as every question announces. -/
def RoomSnapshotInteraction.complete (interaction : RoomSnapshotInteraction) : Bool :=
  (interaction.requests.map (·.questionIndex)).insertionSort (· ≤ ·) =
      (List.range interaction.requests.length).map Int.ofNat &&
    interaction.requests.all (·.questionCount = interaction.requests.length)

/-! ## Run events -/

namespace RoomSnapshotTurn

variable (turn : RoomSnapshotTurn)

def foldTurnStart (payload : TurnStartPayload) : Option RoomSnapshotTurn :=
  if turn.internalTurns.any (·.status = .active) then none
  else
    some { turn with
      internalTurns := turn.internalTurns ++
        [{ internalTurnId := payload.internalTurnId
           attempt := payload.attempt
           messageIds := []
           toolCallIds := []
           status := .active }] }

def foldMessageStart (roomSeq : Nat) (payload : MessageStartPayload) : Option RoomSnapshotTurn :=
  if turn.currentAssistant.isSome then none
  else
    some { turn.updateInternal payload.internalTurnId (·.pushMessage payload.messageId) with
      currentAssistant := some
        { messageId := payload.messageId
          internalTurnId := payload.internalTurnId
          text := ""
          status := .streaming
          order := roomSeq
          contentIndex := some 0
          nextDeltaIndex := some 0
          endOffset := some 0 } }

def foldMessageUpdate (payload : MessageUpdatePayload) : Option RoomSnapshotTurn :=
  let nested := payload.assistantMessageEvent
  match turn.currentAssistant.filter (·.messageId = payload.messageId) with
  | none => none
  | some current =>
      if current.contentIndex ≠ some nested.contentIndex ∨
          current.nextDeltaIndex ≠ some nested.deltaIndex ∨
          current.endOffset ≠ some nested.startOffset then
        none
      else if current.endOffset.map (· + nested.delta.length) ≠ some nested.endOffset then none
      else
        some { turn with
          currentAssistant := some { current with
            text := current.text ++ nested.delta
            endOffset := some nested.endOffset
            nextDeltaIndex := current.nextDeltaIndex.map (· + 1) } }

/-- The row of an Assistant that ends without a final answer. -/
def closedRow (internalTurnId messageId : String) (roomSeq : Nat) (payload : MessageEndPayload) :
    RoomSnapshotActivityItem :=
  .assistant
    { messageId := messageId
      internalTurnId := internalTurnId
      text := payload.text
      status := payload.disposition.assistantStatus
      order := roomSeq }

/-- A commentary keeps the internal Turn of its start, any other end takes the one that it
names. -/
def foldMessageEnd (roomSeq : Nat) (payload : MessageEndPayload) : Option RoomSnapshotTurn :=
  match turn.currentAssistant.filter (·.messageId = payload.messageId) with
  | none => none
  | some current =>
      if 0 < current.nextDeltaIndex.getD 0 ∧ payload.text ≠ current.text then none
      else
        match payload.disposition with
        | .final =>
            some { turn with
              finalAnswer := some
                { messageId := current.messageId
                  internalTurnId := payload.internalTurnId
                  text := payload.text
                  status := .completed
                  order := roomSeq
                  contentIndex := none
                  nextDeltaIndex := none
                  endOffset := none }
              currentAssistant := none }
        | .commentary =>
            if payload.text = "" then some { turn with currentAssistant := none }
            else
              some { turn.pushActivity
                  (closedRow current.internalTurnId current.messageId roomSeq payload) with
                currentAssistant := none }
        | .error | .aborted =>
            if payload.text = "" then some { turn with currentAssistant := none }
            else
              some { turn.pushActivity
                  (closedRow payload.internalTurnId current.messageId roomSeq payload) with
                currentAssistant := none }

def newTool (roomSeq : Nat) (payload : ToolExecutionStartPayload) : RoomSnapshotTool where
  id := payload.toolCallId
  internalTurnId := payload.internalTurnId
  toolCallId := payload.toolCallId
  label := payload.toolName
  input := payload.input
  partialResult := ""
  result := none
  isError := none
  durationMs := none
  failureReason := none
  status := .running
  updateIndex := 0
  executionKind := some (payload.executionKind.getD .tool)
  targetName :=
    if payload.executionKind.getD .tool = .agent then
      (payload.target.map (·.name)).filter (· ≠ "")
    else none
  requestSummary := some (payload.requestSummary.getD "")
  detailAvailable := some false
  errorCode := none
  errorMessage := none
  order := roomSeq

def foldToolExecutionStart (roomSeq : Nat) (payload : ToolExecutionStartPayload) :
    Option RoomSnapshotTurn :=
  if turn.activity.any (·.isToolWith payload.toolCallId) then none
  else
    some ((turn.updateInternal payload.internalTurnId (·.pushTool payload.toolCallId)).pushActivity
      (.tool (newTool roomSeq payload)))

end RoomSnapshotTurn

def RoomSnapshotTool.updated (tool : RoomSnapshotTool) (payload : ToolExecutionUpdatePayload) :
    RoomSnapshotTool :=
  { tool with
    updateIndex := payload.updateIndex
    status := payload.status.toolStatus
    partialResult := payload.partialResult }

/-- `failure_reason` of the payload is not kept. -/
def RoomSnapshotTool.ended (tool : RoomSnapshotTool) (payload : ToolExecutionEndPayload) :
    RoomSnapshotTool :=
  { tool with
    status := payload.outcome.toolStatus
    result := some payload.result
    isError := some payload.isError
    durationMs := some payload.durationMs
    detailAvailable := some (payload.detailAvailable = some true)
    errorCode := payload.errorCode <|> tool.errorCode
    errorMessage := payload.errorMessage <|> tool.errorMessage }

def RoomSnapshotInteraction.askedAt (interaction : RoomSnapshotInteraction) (requestedAt : String) :
    RoomSnapshotInteraction :=
  { interaction with requestedAt := requestedAt }

def RoomSnapshotInteraction.resumed (interaction : RoomSnapshotInteraction) (resumedAt : String) :
    RoomSnapshotInteraction :=
  { interaction with state := .resumed, resumedAt := some resumedAt }

namespace RoomSnapshotTurn

variable (turn : RoomSnapshotTurn)

def foldToolExecutionUpdate (payload : ToolExecutionUpdatePayload) : Option RoomSnapshotTurn :=
  match turn.findTool payload.toolCallId with
  | none => none
  | some tool =>
      if payload.updateIndex ≤ tool.updateIndex then none
      else if some (payload.executionKind.getD .tool) ≠ tool.executionKind then none
      else some (turn.updateTool payload.toolCallId (·.updated payload))

def foldToolExecutionEnd (payload : ToolExecutionEndPayload) : Option RoomSnapshotTurn :=
  match turn.findTool payload.toolCallId with
  | none => none
  | some tool =>
      if tool.status.isOpen = false then none
      else if some (payload.executionKind.getD .tool) ≠ tool.executionKind then none
      else some (turn.updateTool payload.toolCallId (·.ended payload))

def foldModelDecision (eventId : String) (roomSeq : Nat) (payload : ModelDecisionPayload) :
    Option RoomSnapshotTurn :=
  if (turn.findInternal payload.internalTurnId).isNone then none
  else if eventId = "" then none
  else if turn.activity.any (·.isDecisionWith eventId) then none
  else
    some (turn.pushActivity (.decision
      { id := eventId
        internalTurnId := payload.internalTurnId
        decision := payload.decision
        agentLabel := payload.agentLabel
        questionSummary := payload.questionSummary
        sourceSummary := payload.sourceSummary
        reason := payload.reason
        order := roomSeq }))

def foldTurnEnd (internal : InternalTurnProjection) (payload : TurnEndPayload) :
    Option RoomSnapshotTurn :=
  let rows := turn.toolRows payload.internalTurnId
  if rows.map (·.toolCallId) ≠ payload.toolCallIds ∨ rows.any (·.status.isOpen) ∨
      internal.messageIds.getLast? ≠ payload.messageId then
    none
  else
    some (turn.updateInternal payload.internalTurnId
      ({ · with status := payload.status.internalStatus }))

def foldRetryScheduled (eventId : String) (roomSeq : Nat) (payload : RetryScheduledPayload) :
    Option RoomSnapshotTurn :=
  if (turn.findInternal payload.internalTurnId).any (·.status.broken) = false then none
  else if turn.activity.any (·.isRetryWith eventId) then none
  else
    some (turn.pushActivity (.retry
      { id := eventId
        internalTurnId := payload.internalTurnId
        attempt := payload.attempt
        delayMs := payload.delayMs
        errorClass := payload.errorClass
        order := roomSeq }))

/-- The state of the interaction is not looked at, and stays. -/
def foldRunWaitingInput (payload : RunWaitingInputPayload) : Option RoomSnapshotTurn :=
  match turn.findInteraction payload.interactionId with
  | none => none
  | some interaction =>
      if interaction.requestIds ≠ payload.requestIds then none
      else if interaction.complete = false then none
      else
        some { turn.updateInteraction payload.interactionId (·.askedAt payload.requestedAt) with
          state := .awaitingInput
          activeInteractionId := some payload.interactionId }

def foldRunResumed (payload : RunResumedPayload) : Option RoomSnapshotTurn :=
  if turn.activeInteractionId ≠ some payload.interactionId then none
  else
    match turn.findInteraction payload.interactionId with
    | none => none
    | some interaction =>
        if interaction.requestIds ≠ payload.resolvedRequestIds ∨
            interaction.requests.any (·.status ≠ .responded) then
          none
        else
          some { turn.updateInteraction payload.interactionId (·.resumed payload.resumedAt) with
            state := .active
            activeInteractionId := none }

def finalClosure (finalMessageId : Option String) : Bool :=
  match turn.finalAnswer, turn.internalTurns.getLast? with
  | some final, some lastInternal =>
      turn.finalCommitted && some final.messageId = finalMessageId &&
        lastInternal.status = .completed && final.internalTurnId = lastInternal.internalTurnId &&
        lastInternal.messageIds.getLast? = some final.messageId && turn.earlierClosed
  | _, _ => false

def settle (payload : RunSettledPayload) : RoomSnapshotTurn :=
  { turn with
    state := payload.status.state
    settledAt := some payload.settledAt
    durationMs := some payload.durationMs
    terminalCode := payload.failureCode.map (·.text) <|> payload.cancellationCode.map (·.text)
    terminalSummary := payload.errorSummary }

def foldRunSettled (payload : RunSettledPayload) : Option RoomSnapshotTurn :=
  if turn.openChildren then none
  else if payload.status = .completed then
    if turn.finalClosure payload.finalMessageId then some (turn.settle payload) else none
  else if turn.internalTurns.getLast?.all (·.status.broken) then some (turn.settle payload)
  else none

/-- A Turn that has settled takes no event, and after the final answer only the end of its
internal Turn and the settlement are taken. -/
def admits (payload : CanonicalPayload) : Bool :=
  !turn.state.settled &&
    turn.finalAnswer.all fun final =>
      match payload with
      | .turnEnd payload => payload.internalTurnId = final.internalTurnId
      | .runSettled _ => true
      | _ => false

/-- An event of an internal Turn that has to be known. -/
def inInternal (internalTurnId : String)
    (fold : InternalTurnProjection → Option RoomSnapshotTurn) : Option RoomSnapshotTurn :=
  (turn.findInternal internalTurnId).bind fold

def foldEvent (eventId : String) (roomSeq : Nat) (payload : CanonicalPayload) :
    Option RoomSnapshotTurn :=
  if turn.admits payload = false then none
  else
    match payload with
    | .runStarted _ => none
    | .turnStart payload => turn.foldTurnStart payload
    | .messageStart payload =>
        turn.inInternal payload.internalTurnId fun _ => turn.foldMessageStart roomSeq payload
    | .messageUpdate payload =>
        turn.inInternal payload.internalTurnId fun _ => turn.foldMessageUpdate payload
    | .messageEnd payload =>
        turn.inInternal payload.internalTurnId fun _ => turn.foldMessageEnd roomSeq payload
    | .toolExecutionStart payload =>
        turn.inInternal payload.internalTurnId fun _ => turn.foldToolExecutionStart roomSeq payload
    | .toolExecutionUpdate payload =>
        turn.inInternal payload.internalTurnId fun _ => turn.foldToolExecutionUpdate payload
    | .toolExecutionEnd payload =>
        turn.inInternal payload.internalTurnId fun _ => turn.foldToolExecutionEnd payload
    | .turnEnd payload =>
        turn.inInternal payload.internalTurnId fun internal => turn.foldTurnEnd internal payload
    | .modelDecision payload => turn.foldModelDecision eventId roomSeq payload
    | .retryScheduled payload => turn.foldRetryScheduled eventId roomSeq payload
    | .runWaitingInput payload => turn.foldRunWaitingInput payload
    | .runResumed payload => turn.foldRunResumed payload
    | .runSettled payload => turn.foldRunSettled payload

end RoomSnapshotTurn

def newRecord (runId correlationId : String) (payload : RunStartedPayload) :
    RoomSnapshotTurn where
  hybroTurnId := runId
  runId := runId
  userMessageId := payload.userMessageId
  clientRequestId := correlationId
  state := .active
  startedAt := payload.startedAt
  settledAt := none
  durationMs := none
  terminalCode := none
  terminalSummary := none
  internalTurns := []
  activity := []
  currentAssistant := none
  finalAnswer := none
  finalCommitted := false
  hitlInteractions := []
  activeInteractionId := none
  agentCallMessageIds := []

def foldCanonicalTurn (turns : TurnRecords) (event : RunEventNotification) (roomSeq : Nat) :
    Option TurnRecords :=
  match event.payload with
  | .runStarted payload =>
      if (get turns event.runId).isSome then none
      else if truthy event.correlationId = false ∨ payload.hybroTurnId ≠ event.runId then none
      else
        some (put turns event.runId
          (newRecord event.runId (event.correlationId.getD "") payload))
  | payload =>
      match get turns event.runId with
      | none => none
      | some turn =>
          if event.correlationId ≠ some turn.clientRequestId then none
          else (turn.foldEvent event.eventId roomSeq payload).map (put turns event.runId)

def foldRunNotification (clock : Clock) (turns : TurnRecords) (event : RunEventNotification)
    (roomSeq : Nat) : Option TurnRecords :=
  if event.accepted clock then foldCanonicalTurn turns event roomSeq else none

/-! ## Questions and answers -/

def exactRoot (turns : TurnRecords) (runId : String) (clientRequestId : Option String)
    (userMessageId : Option String) : Option RoomSnapshotTurn :=
  (get turns runId).filter fun turn =>
    clientRequestId = some turn.clientRequestId && userMessageId = some turn.userMessageId

def newRequest (event : HITLRequestEvent) : RoomSnapshotRequest where
  requestId := event.requestId
  messageId := event.messageId
  questionIndex := event.questionIndex
  questionCount := event.questionCount
  prompt := event.prompt
  promptType := event.promptType
  choices := event.choices.getD []
  source := event.source
  agentLabel := event.agentLabel
  status := .requested
  answerRef := none

def RoomSnapshotInteraction.push (interaction : RoomSnapshotInteraction)
    (request : RoomSnapshotRequest) : RoomSnapshotInteraction :=
  { interaction with
    requestIds := interaction.requestIds ++ [request.requestId]
    requests := interaction.requests ++ [request] }

def RoomSnapshotTurn.foldQuestion (turn : RoomSnapshotTurn) (event : HITLRequestEvent)
    (interactionId ts : String) : Option RoomSnapshotTurn :=
  match turn.findInteraction interactionId with
  | none =>
      some { turn with
        hitlInteractions := turn.hitlInteractions ++
          [{ interactionId := interactionId
             state := .awaitingInput
             requestIds := [event.requestId]
             requests := [newRequest event]
             requestedAt := ts
             resumedAt := none }] }
  | some interaction =>
      -- a late observation of a questionnaire that is over is ignored
      if interaction.state ≠ .awaitingInput then some turn
      else if interaction.requestIds.contains event.requestId then none
      else some (turn.updateInteraction interactionId (·.push (newRequest event)))

/-- Without a run a request does not belong to a Turn. -/
def foldHITLRequest (turns : TurnRecords) (event : HITLRequestEvent) (ts : String) :
    Option TurnRecords :=
  if event.runId.isSome ∧ event.accepted = false then none
  else if event.requestId = "" then
    if event.runId.isNone then some turns else none
  else
    match exactRoot turns (event.runId.getD "") event.clientRequestId
      event.relatedUserMessageId with
    | none => if event.runId.getD "" = "" then some turns else none
    | some turn =>
        if event.interactionId.getD "" = "" then none
        else
          (turn.foldQuestion event (event.interactionId.getD "") ts).map
            (put turns (event.runId.getD ""))

def RoomSnapshotInteraction.answer (interaction : RoomSnapshotInteraction)
    (event : HITLResolvedEvent) (status : ResponseStatus) : RoomSnapshotInteraction :=
  { interaction with
    requests := updateFirst (·.requestId = event.requestId)
      (fun request =>
        { request with status := status.requestStatus, answerRef := event.answerRef })
      interaction.requests }

/-- The first of these outcomes that a request of the interaction has. -/
def RoomSnapshotInteraction.nonResumable (interaction : RoomSnapshotInteraction) :
    Option InteractionState :=
  if interaction.requests.any (·.status = .error) then some .error
  else if interaction.requests.any (·.status = .canceled) then some .canceled
  else if interaction.requests.any (·.status = .expired) then some .expired
  else none

/-- The outcome of an interaction none of whose requests is open, unless it can be resumed. -/
def RoomSnapshotInteraction.terminal (interaction : RoomSnapshotInteraction) :
    Option InteractionState :=
  if interaction.requests.length = interaction.requestIds.length ∧
      interaction.requests.all (·.status ≠ .requested) then
    interaction.nonResumable
  else none

def RoomSnapshotInteraction.endAs (interaction : RoomSnapshotInteraction)
    (event : HITLResolvedEvent) (status : ResponseStatus) (state : InteractionState) :
    RoomSnapshotInteraction :=
  { interaction.answer event status with state := state }

/-- The status that the request has is not looked at. -/
def RoomSnapshotTurn.foldAnswer (turn : RoomSnapshotTurn) (event : HITLResolvedEvent)
    (status : ResponseStatus) (interactionId : String) : Option RoomSnapshotTurn :=
  match turn.findInteraction interactionId with
  | none => none
  | some interaction =>
      if interaction.requests.any (·.requestId = event.requestId) = false then none
      else
        match (interaction.answer event status).terminal with
        | none => some (turn.updateInteraction interactionId (·.answer event status))
        | some state =>
            some { turn.updateInteraction interactionId (·.endAs event status state) with
              activeInteractionId :=
                if turn.activeInteractionId = some interactionId then none
                else turn.activeInteractionId }

/-- Without a run a response does not belong to a Turn. -/
def foldHITLResponse (turns : TurnRecords) (event : HITLResolvedEvent) : Option TurnRecords :=
  if event.runId.isSome ∧ event.accepted = false then none
  else
    match exactRoot turns (event.runId.getD "") event.clientRequestId
      event.relatedUserMessageId with
    | none => if event.runId.getD "" = "" then some turns else none
    | some turn =>
        match event.interactionId, ResponseStatus.ofText event.status with
        | some interactionId, some status =>
            (turn.foldAnswer event status interactionId).map (put turns (event.runId.getD ""))
        | _, _ => none

/-! ## Final responses and Agent cards -/

def RoomSnapshotTurn.awaitsFinal (turn : RoomSnapshotTurn) (data : AgentResponseData) : Bool :=
  turn.finalAnswer.any (·.messageId = data.messageId) &&
    data.clientRequestId = turn.clientRequestId && data.relatedMessageId = some turn.userMessageId

def RoomSnapshotTurn.commitFinal (turn : RoomSnapshotTurn) (data : AgentResponseData) :
    RoomSnapshotTurn :=
  if turn.awaitsFinal data ∧ turn.finalCommitted = false then
    { turn with
      finalAnswer := turn.finalAnswer.map ({ · with text := data.content.getD "" })
      finalCommitted := true }
  else turn

def foldAgentResponse (turns : TurnRecords) (data : AgentResponseData) : TurnRecords :=
  if data.messageId = "" then turns
  else turns.map fun entry => (entry.1, entry.2.commitFinal data)

def RoomSnapshotTurn.pushCard (turn : RoomSnapshotTurn) (messageId : String) : RoomSnapshotTurn :=
  if turn.agentCallMessageIds.contains messageId then turn
  else { turn with agentCallMessageIds := turn.agentCallMessageIds ++ [messageId] }

def foldTaskSubmitted (turns : TurnRecords) (event : TaskSubmittedEvent) : Option TurnRecords :=
  if event.runId.isSome ∧ event.accepted = false then none
  else
    match exactRoot turns (event.runId.getD "") event.clientRequestId event.relatedMessageId with
    | none => if event.runId.getD "" = "" then some turns else none
    | some turn => some (put turns (event.runId.getD "") (turn.pushCard event.messageId))

/-! ## The room log -/

/-- The events that a Turn record depends on; any other one is `other`. -/
inductive RoomEvent
  | runEvent (event : RunEventNotification)
  | hitlRequest (event : HITLRequestEvent)
  | hitlResponse (event : HITLResolvedEvent)
  | agentResponse (data : AgentResponseData)
  | taskSubmitted (event : TaskSubmittedEvent)
  | other
  deriving DecidableEq

structure RoomRecord where
  roomSeq : Nat
  ts : String
  event : RoomEvent
  deriving DecidableEq

def apply (clock : Clock) (turns : TurnRecords) (record : RoomRecord) : Option TurnRecords :=
  match record.event with
  | .runEvent event => foldRunNotification clock turns event record.roomSeq
  | .hitlRequest event => foldHITLRequest turns event record.ts
  | .hitlResponse event => foldHITLResponse turns event
  | .agentResponse data => some (foldAgentResponse turns data)
  | .taskSubmitted event => foldTaskSubmitted turns event
  | .other => some turns

def applyAll (clock : Clock) (turns : TurnRecords) : List RoomRecord → Option TurnRecords
  | [] => some turns
  | record :: rest => (apply clock turns record).bind fun after => applyAll clock after rest

end Hybro.TurnSnapshot
