import Hybro.TurnSnapshot.Fold

/-! # The live projection and the record of a Turn

What the projection that a client builds from the live events and the one that it
converts from a snapshot have in common, and the events that both folds take alike.
-/

namespace Hybro.TurnSnapshot

open OrderedMap TurnLifecycle

/-! ## The events of the client -/

def questionData (event : HITLRequestEvent) (runId interactionId userMessageId clientRequestId : String)
    (hindex : 0 ≤ event.questionIndex ∧ event.questionIndex < event.questionCount) :
    CanonicalHITLRequestData where
  runId := runId
  requestId := event.requestId
  messageId := event.messageId
  interactionId := interactionId
  relatedUserMessageId := userMessageId
  clientRequestId := clientRequestId
  questionIndex := event.questionIndex.toNat
  questionCount := event.questionCount.toNat
  prompt := event.prompt
  promptType := event.promptType
  choices := event.choices
  source := event.source
  agentLabel := event.agentLabel
  indexed := by omega

def answerData (event : HITLResolvedEvent) (runId interactionId userMessageId clientRequestId : String)
    (status : ResponseStatus) : CanonicalHITLResponseData where
  runId := runId
  requestId := event.requestId
  messageId := event.messageId
  interactionId := interactionId
  relatedUserMessageId := userMessageId
  clientRequestId := clientRequestId
  questionIndex := event.questionIndex.toNat
  questionCount := event.questionCount.toNat
  status := status
  answerRef := event.answerRef

/-- The request that the client reads; its run is named and its index is one of the count. -/
def clientRequest (event : HITLRequestEvent) : Option CanonicalHITLRequestData :=
  match event.runId, event.interactionId, event.relatedUserMessageId, event.clientRequestId with
  | some runId, some interactionId, some userMessageId, some clientRequestId =>
      if hvalid : runId ≠ "" ∧ 0 ≤ event.questionIndex ∧
          event.questionIndex < event.questionCount then
        some (questionData event runId interactionId userMessageId clientRequestId hvalid.2)
      else none
  | _, _, _, _ => none

def clientResponse (event : HITLResolvedEvent) : Option CanonicalHITLResponseData :=
  match event.runId, event.interactionId, event.relatedUserMessageId, event.clientRequestId,
    ResponseStatus.ofText event.status with
  | some runId, some interactionId, some userMessageId, some clientRequestId, some status =>
      if runId ≠ "" ∧ 0 ≤ event.questionIndex ∧ event.questionIndex < event.questionCount then
        some (answerData event runId interactionId userMessageId clientRequestId status)
      else none
  | _, _, _, _, _ => none

def RoomRecord.clientEvent (record : RoomRecord) : Option CanonicalFoldEvent :=
  match record.event with
  | .runEvent event =>
      event.correlationId.map fun correlationId => .runEvent
        { roomSeq := some record.roomSeq
          eventId := event.eventId
          runId := event.runId
          payload := event.payload
          correlationId := correlationId }
  | .hitlRequest event => (clientRequest event).map .hitlRequest
  | .hitlResponse event => (clientResponse event).map .hitlResponse
  | .agentResponse data => some (.agentResponse data)
  | .taskSubmitted _ | .other => none

/-! ## What both projections show -/

/-- The positions of the streamed text are not part of a final answer. -/
def finalShown (final : AssistantProjection) : AssistantProjection :=
  { final with contentIndex := 0, nextDeltaIndex := 0, endOffset := 0 }

def questionShown (question : HITLQuestionProjection) : HITLQuestionProjection :=
  { question with answerRef := none }

def interactionShown (interaction : HITLInteractionProjection) : HITLInteractionProjection :=
  { interaction with
    requests := interaction.requests.map questionShown
    requestedAt := "" }

/-- A projection without the positions of the final text, the times at which questions were
asked and the references to their answers. -/
def shown (turn : TurnProjection) : TurnProjection :=
  { turn with
    finalAnswer := turn.finalAnswer.map finalShown
    hitlInteractions := turn.hitlInteractions.map interactionShown }

structure Alike (conversationId key : String) (turn : TurnProjection)
    (record : RoomSnapshotTurn) : Prop where
  key : turn.id = key
  id : turn.id = record.hybroTurnId
  runId : turn.runId = record.runId
  conversationId : turn.conversationId = conversationId
  userMessageId : turn.userMessageId = record.userMessageId
  clientRequestId : turn.clientRequestId = record.clientRequestId
  state : turn.state = record.state
  startedAt : turn.startedAt = record.startedAt
  settledAt : turn.settledAt = record.settledAt
  durationMs : turn.durationMs = record.durationMs
  terminalCode : turn.terminalCode = record.terminalCode
  terminalSummary : turn.terminalSummary = record.terminalSummary
  internalTurns : turn.internalTurns = record.internalTurns
  activity : turn.activity = record.activity.map (·.projection)
  current : turn.currentAssistant = record.currentAssistant.map (·.projection)
  final : turn.finalAnswer.map finalShown = record.finalAnswer.map (finalShown ·.projection)
  committed : turn.finalCommitted = record.finalCommitted
  interactions : turn.hitlInteractions.map interactionShown =
    record.hitlInteractions.map (interactionShown ·.projection)
  active : turn.activeInteractionId = record.activeInteractionId
  cards : turn.agentCallMessageIds = record.agentCallMessageIds

theorem Alike.shown {conversationId key : String} {turn : TurnProjection}
    {record : RoomSnapshotTurn} (h : Alike conversationId key turn record) :
    shown turn = shown (snapshotTurnToProjection conversationId record) := by
  unfold TurnSnapshot.shown snapshotTurnToProjection
  simp only [Option.map_map, List.map_map, TurnProjection.mk.injEq]
  exact ⟨h.id, h.runId, h.conversationId, h.userMessageId, h.clientRequestId, h.state,
    h.startedAt, h.settledAt, h.durationMs, h.terminalCode, h.terminalSummary, h.internalTurns,
    h.activity, h.current, h.final, h.committed, h.interactions, h.active, h.cards⟩

/-! ## What a record keeps -/

structure ProperInteraction (interaction : RoomSnapshotInteraction) : Prop where
  listed : interaction.requests.map (·.requestId) = interaction.requestIds
  numbered : ∀ request ∈ interaction.requests,
    0 ≤ request.questionIndex ∧ 0 ≤ request.questionCount
  ended : ∀ state, interaction.terminal = some state → interaction.state = state

structure Proper (record : RoomSnapshotTurn) : Prop where
  counted : ∀ current, record.currentAssistant = some current →
    current.contentIndex.isSome ∧ current.nextDeltaIndex.isSome ∧ current.endOffset.isSome
  kinds : ∀ tool ∈ record.tools, tool.executionKind.isSome
  unfailed : ∀ tool ∈ record.tools, tool.status.isOpen = true →
    tool.errorCode = none ∧ tool.errorMessage = none
  named : ∀ final, record.finalAnswer = some final → final.messageId ≠ ""
  unsettled : record.state.settled = false →
    record.terminalCode = none ∧ record.terminalSummary = none
  interactions : ∀ interaction ∈ record.hitlInteractions, ProperInteraction interaction
  awaiting : record.activeInteractionId.isSome = true → record.state = .awaitingInput
  active : ∀ id, record.activeInteractionId = some id → id ≠ "" ∧
    ∃ interaction, record.findInteraction id = some interaction ∧
      interaction.state = .awaitingInput

/-! ## The events that both folds take alike -/

namespace RoomSnapshotTurn

variable (turn : RoomSnapshotTurn)

def ownsOpen (internalTurnId : String) : Bool :=
  turn.currentAssistant.any (·.internalTurnId = internalTurnId)

/-- The Tool belongs to the internal Turn and has the target that an event names. -/
def namesTool (toolCallId internalTurnId : String) (target : Option ExecutionTarget) : Bool :=
  (turn.findTool toolCallId).any fun tool =>
    tool.internalTurnId = internalTurnId && target.all fun target =>
      some target.name = tool.targetName

def inActive (internalTurnId : String) : Bool :=
  (turn.findInternal internalTurnId).any (·.status = .active)

/-- A run event that the server accepts and the client folds to the same Turn. -/
def takesAlike : CanonicalPayload → Bool
  | .turnStart payload => (turn.findInternal payload.internalTurnId).isNone
  | .messageStart payload =>
      (turn.findInternal payload.internalTurnId).any fun internal =>
        internal.status = .active && !internal.messageIds.contains payload.messageId
  | .messageUpdate payload => turn.ownsOpen payload.internalTurnId
  | .messageEnd payload => turn.ownsOpen payload.internalTurnId
  | .toolExecutionStart payload => turn.inActive payload.internalTurnId
  | .toolExecutionUpdate payload =>
      turn.namesTool payload.toolCallId payload.internalTurnId payload.target &&
        (turn.findTool payload.toolCallId).any (·.status.isOpen)
  | .toolExecutionEnd payload =>
      turn.namesTool payload.toolCallId payload.internalTurnId payload.target &&
        payload.failureReason.isNone
  | .modelDecision payload => turn.inActive payload.internalTurnId
  | .turnEnd payload =>
      (turn.findInternal payload.internalTurnId).any fun internal =>
        internal.status = .active || internal.status = payload.status.internalStatus
  | .runWaitingInput payload =>
      turn.activeInteractionId = some payload.interactionId ||
        turn.activeInteractionId.isNone &&
          (turn.findInteraction payload.interactionId).any (·.state = .awaitingInput)
  | .runStarted _ | .retryScheduled _ | .runResumed _ | .runSettled _ => true

/-- A question of an open questionnaire has an index of its own, and a question of one that is
over repeats one that was asked. -/
def asksAlike (event : HITLRequestEvent) (interactionId : String) : Bool :=
  (turn.findInteraction interactionId).all fun interaction =>
    if interaction.state = .awaitingInput then
      !interaction.requests.any (·.questionIndex = event.questionIndex)
    else
      (interaction.requests.find? (·.requestId = event.requestId)).any fun prior =>
        { prior with status := .requested, answerRef := none } = newRequest event

/-- An answer names its question exactly, and is the first one or repeats its outcome. -/
def answersAlike (event : HITLResolvedEvent) (interactionId : String) (status : ResponseStatus) :
    Bool :=
  (turn.findInteraction interactionId).any fun interaction =>
    (interaction.requests.find? (·.requestId = event.requestId)).any fun request =>
      request.messageId = event.messageId && request.questionIndex = event.questionIndex &&
        request.questionCount = event.questionCount &&
        (request.status = .requested || request.status = status.requestStatus)

end RoomSnapshotTurn

/-- The first Turn that awaits the response is not committed with another text, and every
further one is committed. -/
def respondsAlike (turns : TurnRecords) (data : AgentResponseData) : Bool :=
  match (values turns).filter (·.awaitsFinal data) with
  | [] => true
  | first :: rest =>
      (!first.finalCommitted || first.finalAnswer.any (·.text = data.content.getD "")) &&
        rest.all (·.finalCommitted)

/-- The condition on an event, in the state of the server before it. -/
def takenAlike (turns : TurnRecords) : RoomEvent → Bool
  | .runEvent event => (get turns event.runId).all (·.takesAlike event.payload)
  | .hitlRequest event =>
      (exactRoot turns (event.runId.getD "") event.clientRequestId
        event.relatedUserMessageId).all (·.asksAlike event (event.interactionId.getD ""))
  | .hitlResponse event =>
      (exactRoot turns (event.runId.getD "") event.clientRequestId
        event.relatedUserMessageId).all fun turn =>
          (ResponseStatus.ofText event.status).all
            (turn.answersAlike event (event.interactionId.getD ""))
  | .agentResponse data => respondsAlike turns data
  | .taskSubmitted _ | .other => true

end Hybro.TurnSnapshot
