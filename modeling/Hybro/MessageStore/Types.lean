import Mathlib.Data.Option.Basic

/-! # Messages of the store

The entity that the store keeps for a message, and the message that a source of data hands in.
A field that is not given is `none`; where a field may also be `null`, that is `some none`.
-/

namespace Hybro.MessageStore

inductive TaskState
  | submitted
  | working
  | inputRequired
  | authRequired
  | policyRequired
  | completed
  | canceled
  | failed
  | rejected
  | expired
  | unknown
  deriving DecidableEq

def isTerminalState : TaskState → Bool
  | .completed | .failed | .canceled | .rejected | .expired => true
  | .submitted | .working | .inputRequired | .authRequired | .policyRequired | .unknown => false

inductive MessageType
  | user
  | agent
  deriving DecidableEq

inductive MessageSource
  | db
  | sse
  | optimistic
  deriving DecidableEq

inductive DisplayType
  | userBubble
  | agentBubble
  deriving DecidableEq

inductive AgentSource
  | cloud
  | local
  | hub
  deriving DecidableEq

inductive HITLSource
  | agent
  | supervisor
  deriving DecidableEq

inductive HITLPromptType
  | text
  | textarea
  | choice
  | singleChoice
  | multiChoice
  | confirmation
  | approval
  | authentication
  | date
  deriving DecidableEq

inductive TurnTerminalStatus
  | completed
  | failed
  | canceled
  deriving DecidableEq

inductive SummaryOrigin
  | llm
  | deterministic
  deriving DecidableEq

variable (Presentation Artifacts Attachments : Type)

structure MessageFields where
  id : String
  conversationId : String
  messageType : MessageType
  content : String
  senderName : String
  timestamp : String
  agentId : Option String := none
  agentSource : Option AgentSource := none
  userId : Option String := none
  clientRequestId : Option String := none
  taskError : Option (Option String) := none
  taskStatusMessage : Option (Option String) := none
  taskRequiresInput : Option Bool := none
  taskRequiresAuth : Option Bool := none
  taskContent : Option String := none
  dispatchText : Option String := none
  taskCreatedAt : Option String := none
  taskUpdatedAt : Option String := none
  stepNumber : Option Int := none
  totalSteps : Option Int := none
  relatedMessageId : Option String := none
  hitlRequestId : Option String := none
  hitlMessageId : Option String := none
  hitlSource : Option HITLSource := none
  hitlPrompt : Option String := none
  hitlPromptType : Option HITLPromptType := none
  hitlChoices : Option (Option (List String)) := none
  hitlPresentation : Option Presentation := none
  hitlExpiresAt : Option String := none
  hitlResolved : Option Bool := none
  hitlInteractionId : Option String := none
  hitlInteractionStatus : Option String := none
  hitlInteractionVersion : Option Int := none
  hitlApplicationStatus : Option String := none
  hitlGroupId : Option (Option String) := none
  hitlGroupTotal : Option (Option Int) := none
  hitlGroupIndex : Option (Option Int) := none
  hitlUserAnswer : Option String := none
  artifacts : Option Artifacts := none
  attachments : Option Attachments := none
  quotedText : Option String := none
  quotedSenderName : Option String := none
  quoteId : Option String := none
  turnTerminalStatus : Option TurnTerminalStatus := none
  summaryOrigin : Option SummaryOrigin := none

structure IncomingMessage extends MessageFields Presentation Artifacts Attachments where
  taskStatus : Option (Option TaskState) := none
  isEphemeral : Option Bool := none

structure MessageEntity extends MessageFields Presentation Artifacts Attachments where
  taskStatus : Option TaskState
  source : MessageSource
  sourceVersion : Nat
  displayType : DisplayType
  isEphemeral : Bool
  /-- `none` is `NaN`. -/
  createdAt : Option Int
  updatedAt : Int

def resolveDisplayType : MessageType → DisplayType
  | .user => .userBubble
  | .agent => .agentBubble

structure Surroundings where
  /-- `new Date(text).getTime()`, where `none` is `NaN`. -/
  getTime : String → Option Int
  specificPublicAgentName : String → Option String
  presentationEqual : Option Presentation → Option Presentation → Bool
  artifactsEqual : Option Artifacts → Option Artifacts → Bool
  /-- The two are one object. -/
  sameAttachments : Option Attachments → Option Attachments → Bool
  /-- The empty text is no date. -/
  getTime_empty : getTime "" = none

end Hybro.MessageStore
