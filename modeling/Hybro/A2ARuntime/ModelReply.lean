import Hybro.Library.Inlining
import Hybro.Library.OrderedMap
import Hybro.A2ARuntime.Execution

/-! # Interactions and model replies

The interaction branch of the executor, and `dispatch_model_reply`, which answers a parked
interaction on the same remote task under an invocation of its own.
-/

namespace Hybro.A2ARuntime

open Orchestrator Interleaving

/-! ## Programs -/

structure A2AModelReplyCommand where
  commandId : String
  transportKind : TransportKind
  callRecordId : String
  bindingId : String
  bindingDigest : String
  requestingSubjectDigest : String
  taskId : String
  contextId : String
  conversationId : String
  roomEpoch : Nat
  messageText : String
  interactionFingerprint : Option String
  createdAt : Timestamp
  deriving DecidableEq

inductive ReplyRaised
  /-- `RecoverableCheckpointError` -/
  | checkpoint (message : String)
  | raised (error : Raised)
  deriving DecidableEq

def ReplyRaised.toRaised : ReplyRaised → Raised
  | .checkpoint message => .adapter message
  | .raised error => error

inductive ReplyPort
  /-- `ledger.load`: the record of this invocation. -/
  | loadInvocation (invocationId : String)
  /-- `ledger.cas` of a caller that drops the outcome. -/
  | casUnread (record : AgentCallLedgerRecord) (expectedStateVersion : Nat)
  | recordObservation (observation : NormalizedA2AObservation)
  /-- A suppressed `ObservationIngressError` counts as an answer. -/
  | markExecutorOutcome (observationId outcomeDigest : String)
  | markLedgerApplied (observationId : String)
  | finalize (record : AgentCallLedgerRecord)
  | activate (interactionId callRecordId fingerprint : String)
  | createOrReplay (call : AgentCallLedgerRecord) (interaction : A2AInteractionSpec)
      (fingerprint : String)
  | readInteraction (interactionId : String)
  | dispatchModelReply (command : A2AModelReplyCommand)
  deriving DecidableEq

abbrev ReplyPort.Answer : ReplyPort → Type
  | .loadInvocation _ => Option AgentCallLedgerRecord
  | .casUnread .. => Unit
  | .recordObservation _ => A2AObservationInboxRecord
  | .markExecutorOutcome .. => Unit
  | .markLedgerApplied _ => Unit
  | .finalize _ => Unit
  | .activate .. => StoreOutcome
  | .createOrReplay .. => String
  | .readInteraction _ => Option A2AInteractionSpec
  | .dispatchModelReply _ => A2ADispatchReceipt

abbrev ReplyPort.Res (port : ReplyPort) : Type := Except ReplyRaised port.Answer

abbrev ReplyProg :=
  Raising (CallOp ⊕ ReplyPort) (Sum.elim CallOp.Res ReplyPort.Res) ReplyRaised

def consult (port : ReplyPort) : ReplyProg port.Answer := Raising.effect (.inr port) id

def lifted {α : Type} (p : CallProg α) : ReplyProg α :=
  ExceptT.mk (p.run.lift >>= fun result => .done (result.mapError .raised))

structure InteractionTerms where
  validateInteraction : JsonObject → Option A2AInteractionSpec
  interactionDigest : A2AInteractionSpec → String
  /-- The task of `AgentToolInput`. -/
  parseTask : JsonObject → Option String
  hitlBound : Bool := true

section Interactions

variable (terms : CallTerms) (interactions : InteractionTerms) (worker : CallWorker)

/-! ## Parking -/

def casInteractionWinner (candidate : AgentCallLedgerRecord) (expected : Nat) :
    ReplyProg AgentCallLedgerRecord := do
  if settled (← lifted (casCall candidate expected)) then return candidate
  else
    match ← lifted loadCall with
    | none => throw (.checkpoint "interaction CAS winner could not be classified")
    | some winner => return winner

inductive InteractionParkKind
  | typedWaiting
  | untypedCompleted
  | invalidFailed
  deriving DecidableEq

def waitingState (observation : NormalizedA2AObservation) : AgentCallState :=
  if observation.eventKind = .authRequired then .authRequired else .inputRequired

def activateInteraction (interactionId : String) (call : AgentCallLedgerRecord)
    (fingerprint : String) : ReplyProg AgentCallLedgerRecord := do
  if settled (← consult (.activate interactionId call.callRecordId fingerprint)) then return call
  else throw (.checkpoint
    ("HITL interaction '" ++ interactionId ++ "' could not be activated"))

def typedWaiting (call : AgentCallLedgerRecord) (observation : NormalizedA2AObservation)
    (interaction : A2AInteractionSpec) (fingerprint : String) :
    ReplyProg AgentCallLedgerRecord := do
  if call.state = waitingState observation ∧
      call.pendingInteractionId = some interaction.interactionId ∧
      call.interactionFingerprint = some fingerprint then
    activateInteraction interaction.interactionId call fingerprint
  else
    let applied ← lifted (ledgerStep (applyObservation terms.resultDigest call observation
      call.runtimePolicy.recentObservationIdLimit))
    let pending := { applied with claimOwner := none, claimExpiresAt := none }
    let persisted ← casInteractionWinner pending call.stateVersion
    if persisted ≠ pending then return persisted
    else
      let interactionId ← consult (.createOrReplay persisted interaction fingerprint)
      let updatedAt ← lifted (readClock worker.workerId)
      let waiting ← lifted (ledgerStep (transitionCall persisted (waitingState observation) updatedAt
        { pendingInteractionId := some (some interactionId)
          interactionRevision := some (some 1)
          interactionFingerprint := some (some fingerprint)
          claimOwner := some none
          claimExpiresAt := some none }))
      let stored ← casInteractionWinner waiting persisted.stateVersion
      if stored ≠ waiting then return stored
      else activateInteraction interactionId stored fingerprint

/-- The ending of `_untyped_completed` and of `_invalid_failed`. -/
def endInteraction (call : AgentCallLedgerRecord) (result : ToolResult) (toState : AgentCallState)
    (updates : CallUpdates) : ReplyProg AgentCallLedgerRecord := do
  let updatedAt ← lifted (readClock worker.workerId)
  let terminal ← lifted (ledgerStep (transitionCall call toState updatedAt
    { updates with
      terminalResult := some (some result)
      terminalResultDigest := some (some (terms.resultDigest result))
      claimOwner := some none
      claimExpiresAt := some none }))
  casInteractionWinner terminal call.stateVersion

def untypedCompleted (call : AgentCallLedgerRecord) (observation : NormalizedA2AObservation) :
    ReplyProg AgentCallLedgerRecord :=
  endInteraction terms worker call
    { callId := call.invocationId
      toolName := call.toolName
      status := .completed
      content := if observation.content = [] then
        [.text "The Agent requested additional input."] else observation.content
      artifactRefs := observation.artifactRefs
      errorCode := none
      errorMessage := none }
    .completed {}

def invalidFailed (call : AgentCallLedgerRecord) : ReplyProg AgentCallLedgerRecord :=
  endInteraction terms worker call
    { callId := call.invocationId
      toolName := call.toolName
      status := .failed
      content := [.text "The Agent returned invalid interaction metadata."]
      artifactRefs := []
      errorCode := some "invalid_interaction_metadata"
      errorMessage := some "Agent interaction metadata was invalid." }
    .failed
    { errorCode := some (some "invalid_interaction_metadata")
      errorMessage := some (some "Agent interaction metadata was invalid.") }

def parkCallForInteraction (call : AgentCallLedgerRecord)
    (observation : NormalizedA2AObservation) :
    ReplyProg (AgentCallLedgerRecord × InteractionParkKind) := do
  match observation.interactionSpec with
  | some spec =>
      if !interactions.hitlBound then
        throw (.raised (.other "HITL port not bound but interaction spec received"))
      else
        match interactions.validateInteraction spec with
        | none => return (← invalidFailed terms worker call, .invalidFailed)
        | some interaction =>
            return (← typedWaiting terms worker call observation interaction
              (interactions.interactionDigest interaction), .typedWaiting)
  | none =>
      if call.answerApplied.isSome ∧ call.continuationCommand.isSome ∧
          observation.eventKind.isInteraction = true then
        throw (.checkpoint
          "refusing untyped interaction completion during HITL continuation")
      else return (← untypedCompleted terms worker call observation, .untypedCompleted)

def matchingParkedInteraction (record : AgentCallLedgerRecord)
    (observation : NormalizedA2AObservation) : Option A2AInteractionSpec :=
  (observation.interactionSpec.bind interactions.validateInteraction).filter fun interaction =>
    record.pendingInteractionId = some interaction.interactionId ∧
      record.interactionFingerprint = some (interactions.interactionDigest interaction) ∧
      (record.state = .inputRequired ∨ record.state = .authRequired)

def interactionSuspension (invocation : ToolInvocation) (persisted : AgentCallLedgerRecord)
    (observation : NormalizedA2AObservation) (interaction : A2AInteractionSpec) :
    ToolExecutionOutcome :=
  .suspension {
    invocationId := invocation.invocationId
    status := if observation.eventKind = .authRequired then .authRequired else .inputRequired
    callRecordId := some persisted.callRecordId
    interactionId := some ((PythonText.nonEmptyText persisted.pendingInteractionId).getD
      interaction.interactionId)
    interactionFingerprint := some ((PythonText.nonEmptyText persisted.interactionFingerprint).getD
      (interactions.interactionDigest interaction))
    questions := interaction.questions.map interactionQuestion }

/-! ## The interaction branch of the executor -/

/-- `_finalized_terminal_or_suspension` -/
def finalizedOrSuspension (record : AgentCallLedgerRecord) (invocation : ToolInvocation) :
    ReplyProg ToolExecutionOutcome := do
  match record.terminalResult with
  | none => return suspension invocation
  | some result =>
      consult (.finalize record)
      return .result result

/-- `_persisted_outcome_or_suspension` -/
def persistedOrSuspension (invocation : ToolInvocation) : ReplyProg ToolExecutionOutcome := do
  match ← consult (.loadInvocation invocation.invocationId) with
  | none => return suspension invocation
  | some current => finalizedOrSuspension current invocation

def finalizeInteractionTerminal (persisted : AgentCallLedgerRecord) (invocation : ToolInvocation)
    (observation : NormalizedA2AObservation) : ReplyProg ToolExecutionOutcome := do
  match persisted.terminalResult with
  | none => persistedOrSuspension invocation
  | some result =>
      match persisted.terminalResultDigest with
      | some digest => consult (.markExecutorOutcome observation.observationId digest)
      | none => pure ()
      consult (.finalize persisted)
      return .result result

def interactionResult (invocation : ToolInvocation) (record : AgentCallLedgerRecord)
    (observation : NormalizedA2AObservation) : ReplyProg ToolExecutionOutcome := do
  let inbox ← consult (.recordObservation observation)
  match ← lifted (renewAndVerifyClaim worker record) with
  | none => return suspension invocation
  | some renewed =>
      match ← Raising.attempt
          (parkCallForInteraction terms interactions worker renewed inbox.observation) with
      | .error (.checkpoint _) => persistedOrSuspension invocation
      | .error error => throw error
      | .ok (persisted, .typedWaiting) =>
          match matchingParkedInteraction interactions persisted inbox.observation with
          | none => persistedOrSuspension invocation
          | some interaction =>
              consult (.markLedgerApplied inbox.observation.observationId)
              return interactionSuspension interactions invocation persisted inbox.observation
                interaction
      | .ok (persisted, _) => finalizeInteractionTerminal persisted invocation inbox.observation

def interactionBody (invocation : ToolInvocation) : (op : CallOp) →
    Option (Prog.Finer CallOp ReplyPort CallOp.Res ReplyPort.Res op.Res)
  | .ask (.interactionResult record observation) => some
      ((interactionResult terms interactions worker invocation record observation).run >>=
        fun result => .done (result.mapError ReplyRaised.toRaised))
  | _ => none

/-- `execute` with its interaction branch. -/
def executeCall (invocation : ToolInvocation) (acceptance : ToolAcceptance) :
    ReplyProg ToolExecutionOutcome :=
  ExceptT.mk ((execute terms worker invocation acceptance).run.inline
    (interactionBody terms interactions worker invocation) >>=
      fun result => .done (result.mapError .raised))

/-! ## The model's reply -/

def joinedResult (invocation : ToolInvocation) (result : ToolResult) : ToolResult where
  callId := invocation.invocationId
  toolName := invocation.tool.definition.name
  status := result.status
  content := result.content
  artifactRefs := result.artifactRefs
  errorCode := result.errorCode
  errorMessage := result.errorMessage

def autoReplyLimitResult (invocation : ToolInvocation) : ToolResult where
  callId := invocation.invocationId
  toolName := invocation.tool.definition.name
  status := .failed
  content := []
  artifactRefs := []
  errorCode := some "auto_reply_limit_reached"
  errorMessage := some ("The platform will not auto-reply to the same Agent " ++
    "question again. Ask the user or conclude from evidence.")

def modelReplySuspension (invocation : ToolInvocation) (call : AgentCallLedgerRecord)
    (deliveryState : DeliveryState := .transportUncertain) : ReplyProg ToolExecutionOutcome := do
  let parked ← match call.pendingInteractionId.filter fun _ => interactions.hitlBound with
    | none => pure none
    | some interactionId =>
        match ← Raising.attempt (consult (.readInteraction interactionId)) with
        | .ok parked => pure parked
        | .error _ => pure none
  return .suspension {
    invocationId := invocation.invocationId
    status := .waitingExternal
    deliveryState := some deliveryState
    callRecordId := some call.callRecordId
    interactionId := call.pendingInteractionId
    interactionFingerprint := call.interactionFingerprint
    questions := (parked.map fun interaction =>
      interaction.questions.map interactionQuestion).getD [] }

def joinEnded (invocation : ToolInvocation) (ended call : AgentCallLedgerRecord)
    (result : ToolResult) : ReplyProg ToolExecutionOutcome := do
  match ← Raising.attempt (consult (.finalize ended)) with
  | .ok () => return .result (joinedResult invocation result)
  | .error (.checkpoint _) => modelReplySuspension interactions invocation call
  | .error error => throw error

def terminalizeParentForJoin (call : AgentCallLedgerRecord) (invocation : ToolInvocation)
    (errorCode : String) : ReplyProg ToolExecutionOutcome := do
  let parentResult : ToolResult := {
    callId := call.invocationId
    toolName := call.toolName
    status := .failed
    content := [.text "The Agent call could not complete."]
    artifactRefs := []
    errorCode := some errorCode
    errorMessage := some (errorCode.map fun char => if char = '_' then ' ' else char) }
  let updatedAt ← lifted (readClock worker.workerId)
  let terminal ← lifted (ledgerStep (transitionCall call .failed updatedAt
    { terminalResult := some (some parentResult)
      terminalResultDigest := some (some (terms.resultDigest parentResult))
      errorCode := some (some errorCode)
      errorMessage := some parentResult.errorMessage }))
  if settled (← lifted (casCall terminal call.stateVersion)) then
    joinEnded interactions invocation terminal terminal parentResult
  else
    match ← lifted loadCall with
    | none => modelReplySuspension interactions invocation call
    | some winner =>
        match winner.terminalResult with
        | none => modelReplySuspension interactions invocation call
        | some result => joinEnded interactions invocation winner winner result

def modelReplyCommand (call : AgentCallLedgerRecord) (invocation : ToolInvocation)
    (fingerprint taskId contextId messageText : String) (createdAt : Timestamp) :
    A2AModelReplyCommand where
  commandId := terms.stableDigest
    ["model-reply", call.callRecordId, fingerprint, invocation.invocationId]
  transportKind := call.transportKind
  callRecordId := call.callRecordId
  bindingId := call.bindingId
  bindingDigest := call.bindingDigest
  requestingSubjectDigest := call.requestingSubjectDigest
  taskId := taskId
  contextId := contextId
  conversationId := call.conversationId
  roomEpoch := call.roomEpoch
  messageText := messageText
  interactionFingerprint := PythonText.nonEmptyText (some fingerprint)
  createdAt := createdAt

def joinedCall (call : AgentCallLedgerRecord) (invocation : ToolInvocation)
    (fingerprint commandId : String) (joinedAt updatedAt : Timestamp) : AgentCallLedgerRecord :=
  let alreadyJoined := call.modelReplyJoins.any (·.joinInvocationId = invocation.invocationId)
  { call with
    modelReplyRounds := if alreadyJoined then call.modelReplyRounds else
      OrderedMap.put call.modelReplyRounds fingerprint
        ((OrderedMap.get call.modelReplyRounds fingerprint).getD 0 + 1)
    modelReplyJoins := if alreadyJoined then call.modelReplyJoins else
      call.modelReplyJoins ++ [{
        joinInvocationId := invocation.invocationId
        commandId := commandId
        interactionFingerprint := PythonText.nonEmptyText (some fingerprint)
        createdAt := joinedAt }]
    stateVersion := call.stateVersion + 1
    updatedAt := updatedAt }

def A2ADispatchReceipt.hasObservation (receipt : A2ADispatchReceipt) : Bool :=
  receipt.terminalObservation.isSome ||
    (receipt.outcome = .interaction && receipt.interactionObservation.isSome)

/-- The parked parent moves to `resuming`, unless another writer has moved it. -/
def resumeParent (receipt : A2ADispatchReceipt) (parent : AgentCallLedgerRecord) :
    ReplyProg (Option AgentCallLedgerRecord) := do
  if receipt.hasObservation = true ∧
      (parent.state = .inputRequired ∨ parent.state = .authRequired) then
    let updatedAt ← lifted (readClock worker.workerId)
    let resuming ← lifted (ledgerStep (transitionCall parent .resuming updatedAt))
    if settled (← lifted (casCall resuming parent.stateVersion)) then return some resuming
    else lifted loadCall
  else return some parent

/-- The reply is answered with the end of the call. The outcome of the write is not read. -/
def replyTerminal (parent call : AgentCallLedgerRecord) (invocation : ToolInvocation)
    (observation : NormalizedA2AObservation) : ReplyProg ToolExecutionOutcome := do
  let inbox ← consult (.recordObservation (ownedObservation parent observation))
  let terminal ← lifted (ledgerStep (applyObservation terms.resultDigest parent inbox.observation
    parent.runtimePolicy.recentObservationIdLimit))
  consult (.casUnread terminal parent.stateVersion)
  match terminal.terminalResult with
  | none => modelReplySuspension interactions invocation call
  | some result =>
      consult (.finalize terminal)
      return .result (joinedResult invocation result)

def replyInteraction (parent call : AgentCallLedgerRecord) (invocation : ToolInvocation)
    (observation : NormalizedA2AObservation) : ReplyProg ToolExecutionOutcome := do
  let observation := ownedObservation parent observation
  match ← Raising.attempt
      (parkCallForInteraction terms interactions worker parent observation) with
  | .error (.checkpoint _) => modelReplySuspension interactions invocation call
  | .error error => throw error
  | .ok (persisted, .typedWaiting) =>
      match matchingParkedInteraction interactions persisted observation with
      | none => modelReplySuspension interactions invocation call
      | some interaction =>
          consult (.markLedgerApplied observation.observationId)
          return interactionSuspension interactions invocation persisted observation interaction
  | .ok (persisted, _) => finalizeInteractionTerminal persisted invocation observation

def storeReply (call : AgentCallLedgerRecord) (invocation : ToolInvocation)
    (receipt : A2ADispatchReceipt) : ReplyProg ToolExecutionOutcome := do
  match ← lifted loadCall with
  | none => modelReplySuspension interactions invocation call
  | some loaded =>
      match ← resumeParent worker receipt loaded with
      | none => modelReplySuspension interactions invocation call
      | some parent =>
          match receipt.terminalObservation,
              receipt.interactionObservation.filter fun _ => receipt.outcome = .interaction with
          | some observation, _ =>
              replyTerminal terms interactions parent call invocation observation
          | none, some observation =>
              replyInteraction terms interactions worker parent call invocation observation
          | none, none =>
              modelReplySuspension interactions invocation call
                (if receipt.outcome = .accepted then .accepted else .transportUncertain)

def sendReply (call : AgentCallLedgerRecord) (invocation : ToolInvocation)
    (fingerprint taskId contextId messageText : String) : ReplyProg ToolExecutionOutcome := do
  let createdAt ← lifted (readClock worker.workerId)
  let command := modelReplyCommand terms call invocation fingerprint taskId contextId messageText
    createdAt
  let joinedAt ← lifted (readClock worker.workerId)
  let updatedAt ← lifted (readClock worker.workerId)
  let updated := joinedCall call invocation fingerprint command.commandId joinedAt updatedAt
  if settled (← lifted (casCall updated call.stateVersion)) then
    match ← Raising.attempt (consult (.dispatchModelReply command)) with
    | .ok receipt => storeReply terms interactions worker updated invocation receipt
    | .error (.raised .agentCardContract) =>
        terminalizeParentForJoin terms interactions worker updated invocation
          "agent_card_contract_error"
    | .error (.raised .transport) | .error (.raised .ambiguous) | .error (.raised .timeout) =>
        modelReplySuspension interactions invocation updated
    | .error error => throw error
  else modelReplySuspension interactions invocation call

def dispatchModelReply (invocation : ToolInvocation) (interactionFingerprint : Option String) :
    ReplyProg ToolExecutionOutcome := do
  match ← lifted loadCall with
  | none => return .result (failedResult invocation .failed "call_ledger_missing")
  | some call =>
      let alreadyJoined := call.modelReplyJoins.any (·.joinInvocationId = invocation.invocationId)
      let interactive := call.state = .inputRequired ∨ call.state = .authRequired
      if alreadyJoined = true ∧ ¬interactive then
        match call.terminalResult with
        | some result => joinEnded interactions invocation call call result
        | none => modelReplySuspension interactions invocation call
      else if ¬interactive ∨ call.pendingInteractionId = none then
        return .result (failedResult invocation .failed "join_target_not_interactive")
      else
        match call.a2aTaskId, call.a2aContextId with
        | some taskId, some contextId =>
            let fingerprint := ((PythonText.nonEmptyText interactionFingerprint).orElse fun _ =>
              PythonText.nonEmptyText call.interactionFingerprint).getD ""
            if alreadyJoined = false ∧
                2 ≤ (OrderedMap.get call.modelReplyRounds fingerprint).getD 0 then
              return .result (autoReplyLimitResult invocation)
            else
              match interactions.parseTask invocation.arguments with
              | none => return .result (failedResult invocation .failed "invalid_tool_call")
              | some task =>
                  sendReply terms interactions worker call invocation fingerprint taskId contextId
                    task
        | _, _ => return .result (failedResult invocation .failed "continuation_target_missing")

end Interactions

end Hybro.A2ARuntime
