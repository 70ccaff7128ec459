import Hybro.A2ARuntime.Contacts

/-! # Executing an accepted call

`_execute` of the tool runtime: claim the call, prepare it, mark it as dispatching,
renew the claim once more and only then contact the Agent.
-/

namespace Hybro.A2ARuntime

open Orchestrator Interleaving

/-! ## Results and commands -/

def suspension (invocation : ToolInvocation) : ToolExecutionOutcome :=
  .suspension { invocationId := invocation.invocationId, status := .waitingExternal }

/-- `_result` -/
def failedResult (invocation : ToolInvocation) (status : ToolResultStatus) (errorCode : String) :
    ToolResult where
  callId := invocation.invocationId
  toolName := invocation.tool.definition.name
  status := status
  content := [.text "The Agent call could not complete."]
  artifactRefs := []
  errorCode := some errorCode
  errorMessage := some (errorCode.map fun char => if char = '_' then ' ' else char)

def dispatchCommand (terms : CallTerms) (record : AgentCallLedgerRecord)
    (materializedResources : List MaterializedResourcePart)
    (pushNotification : Option A2APushNotificationConfig) : A2ADispatchCommand where
  commandId := record.dispatchSnapshot.commandId
  callRecordId := record.callRecordId
  invocationId := record.invocationId
  messageId := record.dispatchSnapshot.messageId
  bindingId := record.bindingId
  agentId := record.agentId
  skillId := terms.skillId
  endpointScope := terms.endpointScope
  transportKind := record.transportKind
  directMode := terms.directMode
  task := record.dispatchSnapshot.task
  materializedResources := materializedResources
  conversationId := record.conversationId
  roomEpoch := record.roomEpoch
  deadlineAt := terms.deadlineAt
  pushNotification := pushNotification

/-! ## A contact beside its heartbeat -/

/-- `_heartbeat_loop` for some rounds: the last record, and whether the claim was kept.
A round that raises has lost it. -/
def heartbeat (renew : AgentCallLedgerRecord → CallProg (Option AgentCallLedgerRecord))
    (record : AgentCallLedgerRecord) : Nat → CallProg (AgentCallLedgerRecord × Bool)
  | 0 => return (record, true)
  | rounds + 1 => do
      match ← Raising.attempt (renew record) with
      | .ok (some renewed) => heartbeat renew renewed rounds
      | _ => return (record, false)

/-- The contact, awaited while the heartbeat renews the claim. -/
def runFenced (contact : Contact)
    (renew : AgentCallLedgerRecord → CallProg (Option AgentCallLedgerRecord))
    (interrupt : Flight → Option Raised) (lost : String) (record : AgentCallLedgerRecord) :
    CallProg (A2ADispatchReceipt × AgentCallLedgerRecord) := do
  let flight ← reach contact
  let (current, kept) ← heartbeat renew record flight.rounds
  if kept then Raising.cancelAfter flight.cut (renew current)
  match interrupt flight with
  | some error => throw error
  | none =>
      if kept || flight.answered then return (← awaitReply contact, current)
      else throw (.adapter lost)

section Execution

variable (terms : CallTerms) (worker : CallWorker)

/-- `_renew_dispatch_claim`, with the attempts that are left. -/
def renewDispatchClaim : Nat → CallProg (Option AgentCallLedgerRecord)
  | 0 => return none
  | attempts + 1 => do
      match ← loadCall with
      | none => return none
      | some latest =>
          if latest.claimOwner ≠ some worker.workerId then return none
          else
            match ← renewAndVerifyClaim worker latest with
            | some renewed => return some renewed
            | none => renewDispatchClaim attempts

def dispatchInterrupt (flight : Flight) : Option Raised :=
  if flight.cancelled then some (.clientCancellation "dispatch cancelled by client signal")
  else none

def runFencedDispatch (record : AgentCallLedgerRecord) (command : A2ADispatchCommand) :
    CallProg (A2ADispatchReceipt × AgentCallLedgerRecord) :=
  runFenced (.dispatch command) (fun _ => renewDispatchClaim worker 3) dispatchInterrupt
    "claim lease or room epoch was lost during dispatch" record

/-! ## Ending without a dispatch -/

/-- `_release` -/
def releaseClaim (record : AgentCallLedgerRecord) : CallProg Unit := do
  let now ← readClock worker.workerId
  let releasedAt ← readClock worker.workerId
  let _ ← releaseCall record.stateVersion worker.workerId
    (some (now + worker.policy.retryBackoffInitial)) releasedAt
  return ()

/-- The claim is given up and the call left to recovery as uncertain. -/
def leaveUncertain (record : AgentCallLedgerRecord) (errorCode : Option String) :
    CallProg Unit := do
  let updatedAt ← readClock worker.workerId
  let nextAttemptAt ← readClock worker.workerId
  let uncertain ← ledgerStep (transitionCall record .deliveryUncertain updatedAt
    { errorCode := errorCode.map some
      claimOwner := some none
      claimExpiresAt := some none
      nextAttemptAt := some (some nextAttemptAt) })
  let _ ← casCall uncertain record.stateVersion
  return ()

def finalizedTerminalOrSuspension (record : AgentCallLedgerRecord) (invocation : ToolInvocation) :
    CallProg ToolExecutionOutcome := do
  match record.terminalResult with
  | none => return suspension invocation
  | some result =>
      ask (.finalize record)
      return .result result

def persistedOutcomeOrSuspension (invocation : ToolInvocation) :
    CallProg ToolExecutionOutcome := do
  match ← loadCall with
  | none => return suspension invocation
  | some current => finalizedTerminalOrSuspension current invocation

/-- An observation that ends the call is applied to the record, and the outcome returned. -/
def storeTerminal (record : AgentCallLedgerRecord) (observation : NormalizedA2AObservation)
    (invocation : ToolInvocation) : CallProg ToolExecutionOutcome := do
  let terminal ← ledgerStep (applyObservation terms.resultDigest record observation
    worker.policy.recentObservationIdLimit)
  let outcome ← casCall terminal record.stateVersion
  if !settled outcome || terminal.terminalResult.isNone then
    persistedOutcomeOrSuspension invocation
  else
    ask (.markExecutorOutcome observation.observationId (terminal.terminalResultDigest.getD ""))
    finalizedTerminalOrSuspension terminal invocation

/-- The observation under which `_terminal` ends a call. -/
def runtimeObservation (record : AgentCallLedgerRecord) (result : ToolResult)
    (status : ToolResultStatus) (errorCode : String) (observedAt : Timestamp) :
    NormalizedA2AObservation where
  observationId := terms.stableDigest
    ["runtime-terminal", record.callRecordId, (callStateOf status).value, errorCode]
  callRecordId := some record.callRecordId
  sourceIdentity := "runtime:" ++ record.callRecordId ++ ":" ++ (callStateOf status).value ++ ":" ++
    errorCode
  bindingScope := record.endpointScopeDigest
  eventKind := .terminal
  status := some status
  observedAt := observedAt
  taskId := record.a2aTaskId
  contextId := record.a2aContextId
  content := result.content
  errorCode := result.errorCode
  errorMessage := result.errorMessage

/-- `_terminal` -/
def terminalCall (record : AgentCallLedgerRecord) (invocation : ToolInvocation)
    (status : ToolResultStatus) (errorCode : String) : CallProg ToolExecutionOutcome := do
  let observedAt ← readClock worker.workerId
  let observation := runtimeObservation terms record (failedResult invocation status errorCode)
    status errorCode observedAt
  let _ ← ask (.recordObservation observation)
  storeTerminal terms worker record observation invocation

/-! ## After the contact -/

/-- The contact failed before the Agent could be reached: the call is ready again, unless
its attempts are used up. -/
def retryDispatch (record : AgentCallLedgerRecord) (invocation : ToolInvocation) :
    CallProg ToolExecutionOutcome := do
  match ← renewAndVerifyClaim worker (← reloaded worker record) with
  | none => return suspension invocation
  | some renewed =>
      if renewed.runtimePolicy.maxTransportAttempts ≤ renewed.transportAttempts then
        terminalCall terms worker renewed invocation .failed "agent_card_transport_unavailable"
      else
        let delay := min
          (renewed.runtimePolicy.retryBackoffInitial * 2 ^ (renewed.transportAttempts - 1))
          renewed.runtimePolicy.retryBackoffMax
        let updatedAt ← readClock worker.workerId
        let now ← readClock worker.workerId
        let retry ← ledgerStep (transitionCall renewed .readyToDispatch updatedAt
          { claimOwner := some none
            claimExpiresAt := some none
            nextAttemptAt := some (some (now + delay)) })
        let _ ← casCall retry renewed.stateVersion
        return suspension invocation

def storeWorking (record : AgentCallLedgerRecord) (receipt : A2ADispatchReceipt)
    (invocation : ToolInvocation) : CallProg ToolExecutionOutcome := do
  match bindAuthoritativeAliases record receipt.taskId receipt.contextId with
  | .error _ =>
      leaveUncertain worker record (some "authoritative_alias_conflict")
      return suspension invocation
  | .ok aliases =>
      if aliases.any (·.kind = .task) then
        let updatedAt ← readClock worker.workerId
        let now ← readClock worker.workerId
        let working ← ledgerStep (transitionCall record .working updatedAt
          { a2aTaskId := some receipt.taskId
            a2aContextId := some receipt.contextId
            ownershipAliases := some aliases
            ownershipAliasKeys := some (ownershipAliasKeys aliases)
            claimOwner := some none
            claimExpiresAt := some none
            nextAttemptAt := some (some (now + worker.policy.retryBackoffInitial)) })
        if settled (← casCall working record.stateVersion) then return suspension invocation
        else persistedOutcomeOrSuspension invocation
      else
        leaveUncertain worker record (some "authoritative_alias_missing")
        return suspension invocation

def ownedObservation (record : AgentCallLedgerRecord) (observation : NormalizedA2AObservation) :
    NormalizedA2AObservation :=
  { observation with
    callRecordId := some (observation.callRecordId.getD record.callRecordId) }

/-- The evidence of a receipt is recorded before anything else is done with it. -/
def recordEvidence (record : AgentCallLedgerRecord) (receipt : A2ADispatchReceipt) :
    CallProg A2ADispatchReceipt := do
  match receipt.terminalObservation, receipt.interactionObservation with
  | some observation, _ =>
      let _ ← ask (.recordObservation (ownedObservation record observation))
      return { receipt with terminalObservation := some (ownedObservation record observation) }
  | none, some observation =>
      let _ ← ask (.recordObservation (ownedObservation record observation))
      return { receipt with interactionObservation := some (ownedObservation record observation) }
  | none, none => return receipt

def storeReceipt (record : AgentCallLedgerRecord) (receipt : A2ADispatchReceipt)
    (invocation : ToolInvocation) : CallProg ToolExecutionOutcome := do
  let receipt ← recordEvidence record receipt
  match ← renewAndVerifyClaim worker record with
  | none => return suspension invocation
  | some record =>
      match receipt.outcome, receipt.interactionObservation, receipt.terminalObservation with
      | .deliveryUncertain, _, _ =>
          leaveUncertain worker record none
          return suspension invocation
      | .interaction, some observation, _ => ask (.interactionResult record observation)
      | .accepted, _, _ => storeWorking worker record receipt invocation
      | outcome, _, none =>
          terminalCall terms worker record invocation
            (if outcome = .rejected then .rejected else .failed) "dispatch_rejected"
      | _, _, some observation => storeTerminal terms worker record observation invocation

/-! ## The dispatch -/

def dispatchMarked (record : AgentCallLedgerRecord)
    (materialized : List MaterializedResourcePart) (push : Option A2APushRegistration)
    (invocation : ToolInvocation) : CallProg ToolExecutionOutcome := do
  let command := dispatchCommand terms record materialized (push.map (·.config))
  if ← runBlocks worker then
    throw (.clientCancellation "owning Run is not dispatchable")
  match ← Raising.attempt (runFencedDispatch worker record command) with
  | .ok (receipt, current) => storeReceipt terms worker current receipt invocation
  | .error .agentCardContract =>
      match ← renewAndVerifyClaim worker (← reloaded worker record) with
      | none => return suspension invocation
      | some renewed =>
          terminalCall terms worker renewed invocation .failed "agent_card_contract_error"
  | .error .transport => retryDispatch terms worker record invocation
  | .error error =>
      if error.isRecoverable then
        match ← renewAndVerifyClaim worker (← reloaded worker record) with
        | none => return suspension invocation
        | some renewed =>
            leaveUncertain worker renewed none
            return suspension invocation
      else throw error

def makeReady (record : AgentCallLedgerRecord) : CallProg (Option AgentCallLedgerRecord) := do
  if record.state = .accepted then
    let updatedAt ← readClock worker.workerId
    let ready ← ledgerStep (transitionCall record .readyToDispatch updatedAt)
    return if settled (← casCall ready record.stateVersion) then some ready else none
  else return some record

def issuePush (record : AgentCallLedgerRecord) : CallProg (Option A2APushRegistration) := do
  if worker.registersPushes ∧ record.transportKind = .direct then
    return some (← ask .issuePush)
  else return none

/-- The mark of one attempt: the number of the attempt and the digest of its push token. -/
def markUpdates (record : AgentCallLedgerRecord) (push : Option A2APushRegistration) :
    CallUpdates where
  transportAttempts := some (record.transportAttempts + 1)
  pushTokenDigest := some (push.map (·.tokenDigest))

def sendPrepared (prepared : AgentCallLedgerRecord)
    (materialized : List MaterializedResourcePart) (invocation : ToolInvocation) :
    CallProg ToolExecutionOutcome := do
  match ← makeReady worker prepared with
  | none => return suspension invocation
  | some record =>
      if record.state ≠ .readyToDispatch then
        releaseClaim worker record
        return suspension invocation
      else
        let push ← issuePush worker record
        let updatedAt ← readClock worker.workerId
        let dispatching ← ledgerStep
          (transitionCall record .dispatching updatedAt (markUpdates record push))
        if settled (← casCall dispatching record.stateVersion) then
          match ← renewAndVerifyClaim worker dispatching with
          | none => return suspension invocation
          | some renewed => dispatchMarked terms worker renewed materialized push invocation
        else return suspension invocation

/-! ## Preparation -/

/-- `try ... except (...): await self._release(record); raise` -/
def releasing {α : Type} (record : AgentCallLedgerRecord) (p : CallProg α) : CallProg α := do
  match ← Raising.attempt p with
  | .ok value => return value
  | .error error =>
      if error.isRecoverable then releaseClaim worker record
      throw error

/-- The first part of the preparation. An `error` is an outcome that is returned early. -/
def authorizeDispatch (record : AgentCallLedgerRecord) (invocation : ToolInvocation) :
    CallProg (Except ToolExecutionOutcome (AuthorizationDecision × AgentCallLedgerRecord)) := do
  if ← ask .verifyActive then
    match (← ask .readPrepared).filter fun prepared =>
        prepared.bindingId = record.bindingId ∧ prepared.bindingDigest = record.bindingDigest ∧
          terms.subjectDigest prepared.requestingSubjectId = record.requestingSubjectDigest with
    | none =>
        return .error (← terminalCall terms worker record invocation .rejected
          "prepared_snapshot_mismatch")
    | some _ =>
        let decision ← ask .authorize
        match ← renewAndVerifyClaim worker record with
        | none => return .error (suspension invocation)
        | some renewed => return .ok (decision, renewed)
  else
    return .error (← terminalCall terms worker record invocation .expired "room_epoch_gone")

def materializeDispatch (decision : AuthorizationDecision) (record : AgentCallLedgerRecord)
    (invocation : ToolInvocation) :
    CallProg (Except ToolExecutionOutcome
      (List MaterializedResourcePart × AgentCallLedgerRecord)) := do
  match decision with
  | .denied =>
      return .error (← terminalCall terms worker record invocation .rejected
        "authorization_revoked")
  | .transientFailure =>
      releaseClaim worker record
      return .error (suspension invocation)
  | .authorized =>
      let materialized ← ask .materialize
      match ← renewAndVerifyClaim worker record with
      | none => return .error (suspension invocation)
      | some renewed => return .ok (materialized, renewed)

/-! ## The executor -/

/-- `_execute` from the claim on. -/
def executeClaimed (record : AgentCallLedgerRecord) (invocation : ToolInvocation) :
    CallProg ToolExecutionOutcome := do
  if record.state = .dispatching then
    leaveUncertain worker record (some "dispatch_receipt_missing")
    return suspension invocation
  else if record.state ≠ .accepted ∧ record.state ≠ .readyToDispatch then
    releaseClaim worker record
    return suspension invocation
  else
    match ← releasing worker record (authorizeDispatch terms worker record invocation) with
    | .error outcome => return outcome
    | .ok (decision, renewed) =>
        match ← releasing worker renewed
            (materializeDispatch terms worker decision renewed invocation) with
        | .error outcome => return outcome
        | .ok (materialized, prepared) =>
            sendPrepared terms worker prepared materialized invocation

/-- `_execute` -/
def executeAccepted (invocation : ToolInvocation) (acceptance : ToolAcceptance) :
    CallProg ToolExecutionOutcome := do
  match ← loadCall with
  | none => return .result (failedResult invocation .failed "call_ledger_missing")
  | some record =>
      if acceptance ≠ terms.acceptance then return suspension invocation
      else if record.terminalResult.isSome then finalizedTerminalOrSuspension record invocation
      else
        let checkpointed ← ask .isAcceptanceCheckpointed
        if !checkpointed || (← ask .signalCancelled) then return suspension invocation
        else
          let now ← readClock worker.workerId
          match ← claimCall record.stateVersion worker.workerId (now + worker.policy.claimLease)
              now with
          | none => persistedOutcomeOrSuspension invocation
          | some claimed => executeClaimed terms worker claimed invocation

def execute (invocation : ToolInvocation) (acceptance : ToolAcceptance) :
    CallProg ToolExecutionOutcome := do
  match ← Raising.attempt (executeAccepted terms worker invocation acceptance) with
  | .ok outcome => return outcome
  | .error error => if error.isRecoverable then return suspension invocation else throw error

def recoverDispatch (invocation : ToolInvocation) : CallProg Unit := do
  match (← loadCall).filter (terms.invocationMatches invocation) with
  | none => throw (.adapter "durable invocation is unavailable for call recovery")
  | some _ =>
      let _ ← execute terms worker invocation terms.acceptance
      return ()

end Execution

end Hybro.A2ARuntime
