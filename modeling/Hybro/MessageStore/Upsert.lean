import Hybro.Library.OrderedMap
import Hybro.MessageStore.Types

/-! # The write gateway of the message store

`applyUpsert`: five rules decide whether an incoming message is taken, and `mergeIncoming`
then decides field by field.
-/

namespace Hybro.MessageStore

open OrderedMap

variable {Presentation Artifacts Attachments : Type}

def truthy (value : Option String) : Bool :=
  value.any (· ≠ "")

namespace Surroundings

variable (env : Surroundings Presentation Artifacts Attachments)

def earlier (first second : Option String) : Bool :=
  truthy first && truthy second &&
    match first.bind env.getTime, second.bind env.getTime with
    | some first, some second => first < second
    | _, _ => false

def patchedPublicAgentName (current incoming : String) : Option String :=
  env.specificPublicAgentName current <|> env.specificPublicAgentName incoming

end Surroundings

def differ (first second : Option String) : Bool :=
  first.isSome && second.isSome && first ≠ second

section Upsert

variable (env : Surroundings Presentation Artifacts Attachments)
  (existing : MessageEntity Presentation Artifacts Attachments)
  (incoming : IncomingMessage Presentation Artifacts Attachments) (source : MessageSource)

def incomingIsOlder : Bool :=
  env.earlier incoming.taskUpdatedAt existing.taskUpdatedAt

def incomingIsNewer : Bool :=
  env.earlier existing.taskUpdatedAt incoming.taskUpdatedAt

def isDifferentHitlRound : Bool :=
  differ incoming.hitlRequestId existing.hitlRequestId ||
    differ incoming.hitlInteractionId existing.hitlInteractionId

/-- `incoming.taskStatus` is a terminal state. -/
def IncomingMessage.isTerminal (incoming : IncomingMessage Presentation Artifacts Attachments) :
    Bool :=
  incoming.taskStatus.join.any isTerminalState

/-- `incoming.taskStatus` is a state, and not a terminal one. -/
def IncomingMessage.isOpen (incoming : IncomingMessage Presentation Artifacts Attachments) : Bool :=
  incoming.taskStatus.join.any fun state => !isTerminalState state

def MessageEntity.isTerminal (existing : MessageEntity Presentation Artifacts Attachments) : Bool :=
  existing.taskStatus.any isTerminalState

/-! ## Conflict resolution -/

/-- Never overwrite ephemeral messages from the database. -/
def rule5 : Bool :=
  existing.isEphemeral && source = .db

/-- Skip updates with an older task timestamp, unless the database reports a terminal state. -/
def rule0 : Bool :=
  incomingIsOlder env existing incoming && !(source = .db && incoming.isTerminal)

def reopens : Bool :=
  existing.taskStatus = some .completed && incoming.taskStatus = some (some .inputRequired) &&
    incomingIsNewer env existing incoming && isDifferentHitlRound existing incoming

/-- Never downgrade a terminal status. -/
def rule1 : Bool :=
  existing.isTerminal && incoming.isOpen && !reopens env existing incoming

def rule2 : Bool :=
  existing.source = .sse && source = .db &&
    existing.taskStatus.any (fun state => !isTerminalState state) && !incoming.isTerminal

/-- The value of a field that is compared: what is not given does not change. -/
def unchangedBy {α : Type} [DecidableEq α] (incoming existing : Option α) : Bool :=
  existing = (incoming <|> existing)

def isNoOpUpdate : Bool :=
  existing.content = incoming.content &&
    (match incoming.taskStatus with
      | none => true
      | some none => false
      | some (some state) => existing.taskStatus = some state) &&
    unchangedBy incoming.taskError existing.taskError &&
    unchangedBy incoming.taskStatusMessage existing.taskStatusMessage &&
    existing.senderName = incoming.senderName &&
    unchangedBy incoming.agentSource existing.agentSource &&
    unchangedBy incoming.stepNumber existing.stepNumber &&
    unchangedBy incoming.totalSteps existing.totalSteps &&
    unchangedBy incoming.taskContent existing.taskContent &&
    unchangedBy incoming.dispatchText existing.dispatchText &&
    unchangedBy incoming.taskRequiresInput existing.taskRequiresInput &&
    unchangedBy incoming.taskRequiresAuth existing.taskRequiresAuth &&
    unchangedBy incoming.taskUpdatedAt existing.taskUpdatedAt &&
    unchangedBy incoming.hitlResolved existing.hitlResolved &&
    unchangedBy incoming.hitlSource existing.hitlSource &&
    unchangedBy incoming.hitlInteractionId existing.hitlInteractionId &&
    unchangedBy incoming.hitlInteractionStatus existing.hitlInteractionStatus &&
    unchangedBy incoming.hitlInteractionVersion existing.hitlInteractionVersion &&
    unchangedBy incoming.hitlApplicationStatus existing.hitlApplicationStatus &&
    unchangedBy incoming.hitlPrompt existing.hitlPrompt &&
    unchangedBy incoming.hitlRequestId existing.hitlRequestId &&
    unchangedBy incoming.hitlMessageId existing.hitlMessageId &&
    unchangedBy incoming.hitlPromptType existing.hitlPromptType &&
    unchangedBy incoming.hitlExpiresAt existing.hitlExpiresAt &&
    -- `arraysShallowEqual`: a missing list equals `null`
    existing.hitlChoices.join = (incoming.hitlChoices <|> existing.hitlChoices).join &&
    env.presentationEqual existing.hitlPresentation
      (incoming.hitlPresentation <|> existing.hitlPresentation) &&
    unchangedBy incoming.hitlGroupId existing.hitlGroupId &&
    unchangedBy incoming.hitlGroupTotal existing.hitlGroupTotal &&
    unchangedBy incoming.hitlGroupIndex existing.hitlGroupIndex &&
    unchangedBy incoming.hitlUserAnswer existing.hitlUserAnswer &&
    unchangedBy incoming.clientRequestId existing.clientRequestId &&
    existing.isEphemeral = incoming.isEphemeral.getD existing.isEphemeral &&
    env.artifactsEqual existing.artifacts (incoming.artifacts <|> existing.artifacts) &&
    env.sameAttachments existing.attachments (incoming.attachments <|> existing.attachments) &&
    unchangedBy incoming.turnTerminalStatus existing.turnTerminalStatus &&
    unchangedBy incoming.summaryOrigin existing.summaryOrigin &&
    unchangedBy incoming.quoteId existing.quoteId

def rejected : Bool :=
  rule5 existing source || rule0 env existing incoming source || rule1 env existing incoming ||
    rule2 existing incoming source || isNoOpUpdate env existing incoming

/-! ## Merging -/

def sameHitlIdentity : Bool :=
  incoming.hitlRequestId.isSome && existing.hitlRequestId = incoming.hitlRequestId &&
    incoming.hitlInteractionId.isSome && existing.hitlInteractionId = incoming.hitlInteractionId

def versionBelow (first second : Option Int) : Bool :=
  first.any fun first => second.any (first < ·)

def isStaleHitlVersion : Bool :=
  incoming.hitlInteractionId.isSome && existing.hitlInteractionId.isSome &&
    incoming.hitlInteractionId = existing.hitlInteractionId &&
    versionBelow incoming.hitlInteractionVersion existing.hitlInteractionVersion

/-- A question of another round that is not older. -/
def isNewHitlFollowUp : Bool :=
  isDifferentHitlRound existing incoming && !incomingIsOlder env existing incoming &&
    (incomingIsNewer env existing incoming ||
      !(truthy incoming.taskUpdatedAt && truthy existing.taskUpdatedAt) &&
        existing.hitlInteractionVersion.isNone)

def isStaleHitl : Bool :=
  incomingIsOlder env existing incoming || isStaleHitlVersion existing incoming ||
    isDifferentHitlRound existing incoming &&
      !versionBelow existing.hitlInteractionVersion incoming.hitlInteractionVersion &&
      incomingIsOlder env existing incoming

def incomingHitlIsTerminal : Bool :=
  incoming.hitlResolved = some true ||
    ["applied", "responded", "canceled", "expired"].contains
      (incoming.hitlInteractionStatus.getD "") ||
    incoming.hitlApplicationStatus = some "applied"

def existingHitlIsNonRegressible : Bool :=
  sameHitlIdentity existing incoming && !incomingHitlIsTerminal incoming &&
    (existing.hitlResolved = some true || truthy existing.hitlUserAnswer ||
      ["answers_recorded", "applying", "applied", "responded"].contains
        (existing.hitlInteractionStatus.getD "") ||
      ["applying", "applied"].contains (existing.hitlApplicationStatus.getD ""))

def acceptsHitlUpdate : Bool :=
  !isStaleHitl env existing incoming && !existingHitlIsNonRegressible existing incoming

def finalizesExistingHitl : Bool :=
  truthy existing.hitlRequestId && truthy existing.hitlUserAnswer && incoming.isTerminal &&
    incoming.hitlRequestId.isNone && incoming.hitlPrompt.isNone &&
    incoming.hitlInteractionStatus.isNone && incoming.hitlApplicationStatus.isNone &&
    incoming.hitlResolved.isNone

def taskField {α : Type} (incomingField existingField : Option α) : Option α :=
  if incomingIsOlder env existing incoming then existingField else incomingField <|> existingField

/-- A field of the question keeps its value unless the update of the question is accepted. -/
def hitlField {α : Type} (incomingField existingField : Option α) : Option α :=
  if acceptsHitlUpdate env existing incoming then incomingField <|> existingField
  else existingField

/-- `mergeIncoming`, for the fields other than the task status. -/
def mergeFields : MessageFields Presentation Artifacts Attachments where
  id := incoming.id
  conversationId := incoming.conversationId
  messageType := incoming.messageType
  content := incoming.content
  senderName :=
    if incoming.messageType = .agent then
      (env.patchedPublicAgentName existing.senderName incoming.senderName).getD incoming.senderName
    else incoming.senderName
  timestamp := incoming.timestamp
  agentId := incoming.agentId <|> existing.agentId
  agentSource := incoming.agentSource <|> existing.agentSource
  userId := incoming.userId <|> existing.userId
  clientRequestId := incoming.clientRequestId <|> existing.clientRequestId
  taskError := taskField env existing incoming incoming.taskError existing.taskError
  taskStatusMessage :=
    taskField env existing incoming incoming.taskStatusMessage existing.taskStatusMessage
  taskRequiresInput :=
    taskField env existing incoming incoming.taskRequiresInput existing.taskRequiresInput
  taskRequiresAuth :=
    taskField env existing incoming incoming.taskRequiresAuth existing.taskRequiresAuth
  taskContent := taskField env existing incoming incoming.taskContent existing.taskContent
  dispatchText := taskField env existing incoming incoming.dispatchText existing.dispatchText
  taskCreatedAt := incoming.taskCreatedAt <|> existing.taskCreatedAt
  taskUpdatedAt := taskField env existing incoming incoming.taskUpdatedAt existing.taskUpdatedAt
  stepNumber := incoming.stepNumber <|> existing.stepNumber
  totalSteps := incoming.totalSteps <|> existing.totalSteps
  relatedMessageId := incoming.relatedMessageId <|> existing.relatedMessageId
  hitlRequestId := hitlField env existing incoming incoming.hitlRequestId existing.hitlRequestId
  hitlMessageId := hitlField env existing incoming incoming.hitlMessageId existing.hitlMessageId
  hitlSource := hitlField env existing incoming incoming.hitlSource existing.hitlSource
  hitlPrompt := hitlField env existing incoming incoming.hitlPrompt existing.hitlPrompt
  hitlPromptType := hitlField env existing incoming incoming.hitlPromptType existing.hitlPromptType
  hitlChoices := hitlField env existing incoming incoming.hitlChoices existing.hitlChoices
  hitlPresentation :=
    hitlField env existing incoming incoming.hitlPresentation existing.hitlPresentation
  hitlExpiresAt := hitlField env existing incoming incoming.hitlExpiresAt existing.hitlExpiresAt
  hitlResolved :=
    if finalizesExistingHitl existing incoming then some true
    else if isNewHitlFollowUp env existing incoming then some (incoming.hitlResolved.getD false)
    else hitlField env existing incoming incoming.hitlResolved existing.hitlResolved
  hitlInteractionId :=
    hitlField env existing incoming incoming.hitlInteractionId existing.hitlInteractionId
  hitlInteractionStatus :=
    if finalizesExistingHitl existing incoming then some "responded"
    else if acceptsHitlUpdate env existing incoming && incoming.hitlInteractionStatus.isSome then
      incoming.hitlInteractionStatus
    else if isNewHitlFollowUp env existing incoming then some "open"
    else existing.hitlInteractionStatus
  hitlInteractionVersion :=
    hitlField env existing incoming incoming.hitlInteractionVersion existing.hitlInteractionVersion
  hitlApplicationStatus :=
    if finalizesExistingHitl existing incoming then some "applied"
    else if acceptsHitlUpdate env existing incoming && incoming.hitlApplicationStatus.isSome then
      incoming.hitlApplicationStatus
    else if isNewHitlFollowUp env existing incoming then none
    else existing.hitlApplicationStatus
  hitlGroupId := hitlField env existing incoming incoming.hitlGroupId existing.hitlGroupId
  hitlGroupTotal := hitlField env existing incoming incoming.hitlGroupTotal existing.hitlGroupTotal
  hitlGroupIndex := hitlField env existing incoming incoming.hitlGroupIndex existing.hitlGroupIndex
  hitlUserAnswer :=
    if isNewHitlFollowUp env existing incoming then incoming.hitlUserAnswer
    else hitlField env existing incoming incoming.hitlUserAnswer existing.hitlUserAnswer
  artifacts := incoming.artifacts <|> existing.artifacts
  attachments := incoming.attachments <|> existing.attachments
  quotedText := incoming.quotedText <|> existing.quotedText
  quotedSenderName := incoming.quotedSenderName <|> existing.quotedSenderName
  quoteId := incoming.quoteId <|> existing.quoteId
  turnTerminalStatus := incoming.turnTerminalStatus <|> existing.turnTerminalStatus
  summaryOrigin := incoming.summaryOrigin <|> existing.summaryOrigin

/-- `mergeIncoming`, for the task status: `null` clears the field. -/
def mergeStatus : Option TaskState :=
  if incomingIsOlder env existing incoming then existing.taskStatus
  else
    match incoming.taskStatus with
    | some state => state
    | none => existing.taskStatus

def firstEntity (now : Int) : MessageEntity Presentation Artifacts Attachments where
  toMessageFields := incoming.toMessageFields
  taskStatus := incoming.taskStatus.join
  source := source
  sourceVersion := 1
  displayType := resolveDisplayType incoming.messageType
  isEphemeral := incoming.isEphemeral.getD false
  createdAt := env.getTime incoming.timestamp
  updatedAt := now

def mergedEntity (now : Int) : MessageEntity Presentation Artifacts Attachments where
  toMessageFields := mergeFields env existing incoming
  taskStatus := mergeStatus env existing incoming
  source := source
  sourceVersion := existing.sourceVersion + 1
  displayType := resolveDisplayType incoming.messageType
  isEphemeral := incoming.isEphemeral.getD existing.isEphemeral
  createdAt := existing.createdAt
  updatedAt := now

end Upsert

abbrev Entities (Presentation Artifacts Attachments : Type) :=
  List (String × MessageEntity Presentation Artifacts Attachments)

/-- The entities after the write and whether a message was added, or `none` when the update is
rejected. `now` is `Date.now()`. -/
def applyUpsert (env : Surroundings Presentation Artifacts Attachments)
    (entities : Entities Presentation Artifacts Attachments)
    (incoming : IncomingMessage Presentation Artifacts Attachments) (source : MessageSource)
    (now : Int) : Option (Entities Presentation Artifacts Attachments × Bool) :=
  match get entities incoming.id with
  | none => some (put entities incoming.id (firstEntity env incoming source now), true)
  | some existing =>
      if rejected env existing incoming source then none
      else some (put entities incoming.id (mergedEntity env existing incoming source now), false)

end Hybro.MessageStore
