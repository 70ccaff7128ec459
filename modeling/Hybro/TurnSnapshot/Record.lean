import Hybro.TurnLifecycle.Fold

/-! # Turn records of a snapshot

The record of a Turn that a snapshot carries, and the projection that the client
converts it to. Internal Turns have the same fields on both sides.
-/

namespace Hybro.TurnSnapshot

open TurnLifecycle

/-! ## Records -/

structure RoomSnapshotAssistant where
  messageId : String
  internalTurnId : String
  text : String
  status : AssistantStatus
  order : Nat
  contentIndex : Option Nat
  nextDeltaIndex : Option Nat
  endOffset : Option Nat
  deriving DecidableEq

structure RoomSnapshotMessage where
  messageId : String
  internalTurnId : String
  text : String
  status : AssistantStatus
  order : Nat
  deriving DecidableEq

structure RoomSnapshotTool where
  id : String
  internalTurnId : String
  toolCallId : String
  label : String
  input : SafeSummary
  partialResult : String
  result : Option String
  isError : Option Bool
  durationMs : Option Nat
  failureReason : Option FailureReason
  status : ToolStatus
  updateIndex : Nat
  executionKind : Option ExecutionKind
  targetName : Option String
  requestSummary : Option String
  detailAvailable : Option Bool
  errorCode : Option String
  errorMessage : Option String
  order : Nat
  deriving DecidableEq

inductive RoomSnapshotActivityItem
  | assistant (item : RoomSnapshotMessage)
  | tool (item : RoomSnapshotTool)
  | retry (item : RetryActivity)
  | decision (item : DecisionActivity)
  deriving DecidableEq

structure RoomSnapshotRequest where
  requestId : String
  messageId : String
  questionIndex : Int
  questionCount : Int
  prompt : String
  promptType : String
  choices : List String
  source : String
  agentLabel : Option String
  status : RequestStatus
  answerRef : Option String
  deriving DecidableEq

structure RoomSnapshotInteraction where
  interactionId : String
  state : InteractionState
  requestIds : List String
  requests : List RoomSnapshotRequest
  requestedAt : String
  resumedAt : Option String
  deriving DecidableEq

structure RoomSnapshotTurn where
  hybroTurnId : String
  runId : String
  userMessageId : String
  clientRequestId : String
  state : TurnLifecycleState
  startedAt : String
  settledAt : Option String
  durationMs : Option Nat
  terminalCode : Option String
  terminalSummary : Option String
  internalTurns : List InternalTurnProjection
  activity : List RoomSnapshotActivityItem
  currentAssistant : Option RoomSnapshotAssistant
  finalAnswer : Option RoomSnapshotAssistant
  finalCommitted : Bool
  hitlInteractions : List RoomSnapshotInteraction
  activeInteractionId : Option String
  agentCallMessageIds : List String
  deriving DecidableEq

/-! ## The conversion -/

def RoomSnapshotAssistant.projection (item : RoomSnapshotAssistant) : AssistantProjection where
  messageId := item.messageId
  internalTurnId := item.internalTurnId
  text := item.text
  status := item.status
  contentIndex := item.contentIndex.getD 0
  nextDeltaIndex := item.nextDeltaIndex.getD 0
  endOffset := item.endOffset.getD item.text.length
  order := item.order

def RoomSnapshotMessage.projection (item : RoomSnapshotMessage) : AssistantActivity where
  id := item.messageId
  internalTurnId := item.internalTurnId
  text := item.text
  status := item.status
  order := item.order

def RoomSnapshotTool.projection (item : RoomSnapshotTool) : ToolActivity where
  id := item.id
  internalTurnId := item.internalTurnId
  toolCallId := item.toolCallId
  label := item.label
  input := item.input
  partialResult := item.partialResult
  result := item.result
  isError := item.isError
  durationMs := item.durationMs
  failureReason := item.failureReason
  updateIndex := item.updateIndex
  status := item.status
  executionKind := item.executionKind.getD .tool
  targetName := item.targetName
  requestSummary := item.requestSummary.getD ""
  detailAvailable := item.detailAvailable = some true
  errorCode := item.errorCode
  errorMessage := item.errorMessage
  order := item.order

def RoomSnapshotActivityItem.projection : RoomSnapshotActivityItem → TurnActivityItem
  | .assistant item => .assistant item.projection
  | .tool item => .tool item.projection
  | .retry item => .retry item
  | .decision item => .decision item

/-- The indexes of a request that the client takes are natural numbers. -/
def RoomSnapshotRequest.projection (request : RoomSnapshotRequest) : HITLQuestionProjection where
  requestId := request.requestId
  messageId := request.messageId
  questionIndex := request.questionIndex.toNat
  questionCount := request.questionCount.toNat
  prompt := request.prompt
  promptType := request.promptType
  choices := request.choices
  source := request.source
  agentLabel := request.agentLabel
  status := request.status
  answerRef := request.answerRef

def RoomSnapshotInteraction.projection (interaction : RoomSnapshotInteraction) :
    HITLInteractionProjection where
  interactionId := interaction.interactionId
  state := interaction.state
  requestIds := interaction.requestIds
  requests := interaction.requests.map (·.projection)
  requestedAt := interaction.requestedAt
  resumedAt := interaction.resumedAt

def snapshotTurnToProjection (conversationId : String) (value : RoomSnapshotTurn) :
    TurnProjection where
  id := value.hybroTurnId
  runId := value.runId
  conversationId := conversationId
  userMessageId := value.userMessageId
  clientRequestId := value.clientRequestId
  state := value.state
  startedAt := value.startedAt
  settledAt := value.settledAt
  durationMs := value.durationMs
  terminalCode := value.terminalCode
  terminalSummary := value.terminalSummary
  internalTurns := value.internalTurns
  activity := value.activity.map (·.projection)
  currentAssistant := value.currentAssistant.map (·.projection)
  finalAnswer := value.finalAnswer.map (·.projection)
  finalCommitted := value.finalCommitted
  hitlInteractions := value.hitlInteractions.map (·.projection)
  activeInteractionId := value.activeInteractionId
  agentCallMessageIds := value.agentCallMessageIds

end Hybro.TurnSnapshot
