import Hybro.A2ARuntime.Execution

/-! # Recovering a due call

`recover_call` of the call recovery service: an accepted or ready call is executed
again, a dispatching one becomes uncertain, and a call the Agent may have received is
only inspected.
-/

namespace Hybro.A2ARuntime

open Orchestrator Interleaving

/-- The service, with the longest wait for a task the Agent has acknowledged. -/
structure RecoveryService extends CallWorker where
  callWaitCeiling : Nat := 604800000

/-- `_DEADLINE_EXEMPT_STATES` -/
def AgentCallState.isDeadlineExempt : AgentCallState → Bool
  | .dispatching | .deliveryUncertain | .resuming | .cancelPending | .inputRequired
  | .authRequired => true
  | _ => false

def backoff (policy : A2ARuntimePolicy) (attempts : Nat) : Nat :=
  min (policy.retryBackoffInitial * 2 ^ (attempts - 1)) policy.retryBackoffMax

section Recovery

variable (terms : CallTerms) (service : RecoveryService) (runtime : CallWorker) (now : Timestamp)

def awaitsAcknowledgedTask (record : AgentCallLedgerRecord) : Bool :=
  (record.state = .working ∨ record.state = .continuationPending) ∧ record.a2aTaskId.isSome ∧
    now ≤ terms.acceptance.acceptedAt + service.callWaitCeiling

/-- `_cas_or_load_winner`, and whether the winner is the candidate. -/
def casOrLoadWinner (candidate : AgentCallLedgerRecord) (expectedStateVersion : Nat) :
    CallProg (Option AgentCallLedgerRecord × Bool) := do
  let tried ← Raising.attempt do
    if settled (← casCall candidate expectedStateVersion) then return (some candidate, true)
    else
      let winner ← loadCall
      return (winner, winner = some candidate)
  match tried with
  | .ok found => return found
  | .error error => if error.isAdapter then return (none, false) else throw error

/-- `_renew` -/
def renewLease (record : AgentCallLedgerRecord) (renewedAt : Timestamp) :
    CallProg (Option AgentCallLedgerRecord) :=
  renewCall record.stateVersion service.workerId
    (max (record.claimExpiresAt.getD renewedAt) renewedAt + service.policy.claimLease) renewedAt

def releaseAt (record : AgentCallLedgerRecord) (nextAttemptAt : Timestamp) :
    CallProg (Option AgentCallLedgerRecord) :=
  releaseCall record.stateVersion service.workerId (some nextAttemptAt) now

def releasedAt (record : AgentCallLedgerRecord) (nextAttemptAt : Timestamp) : CallProg Bool := do
  return (← releaseAt service now record nextAttemptAt).isSome

def reschedule (record : AgentCallLedgerRecord) (delay : Nat) : CallProg Unit := do
  let scheduled := { record with
    nextAttemptAt := some (now + delay)
    stateVersion := record.stateVersion + 1
    updatedAt := now }
  let _ ← casOrLoadWinner scheduled record.stateVersion
  return ()

def expiryObservation (record : AgentCallLedgerRecord) (code : String) :
    NormalizedA2AObservation where
  observationId := "recovery-expiry-" ++ record.callRecordId ++ "-" ++ code
  callRecordId := some record.callRecordId
  sourceIdentity := "recovery:" ++ record.callRecordId ++ ":" ++ code
  bindingScope := record.endpointScopeDigest
  eventKind := .terminal
  status := some .expired
  observedAt := now
  taskId := record.a2aTaskId
  contextId := record.a2aContextId
  content := [.text "The Agent call expired during recovery."]
  errorCode := some code
  errorMessage := some (code.map fun char => if char = '_' then ' ' else char)

/-- A renewed record ends under an observation; whether the call has ended. -/
def endWith (record : AgentCallLedgerRecord) (observation : NormalizedA2AObservation) :
    CallProg Bool := do
  match ← renewLease service record (← readClock service.workerId) with
  | none => return false
  | some renewed =>
      let terminal ← ledgerStep (applyObservation terms.resultDigest renewed observation
        renewed.runtimePolicy.recentObservationIdLimit)
      let (winner, exact) ← casOrLoadWinner terminal renewed.stateVersion
      return exact || winner.any (·.state.isTerminal)

/-- `_expire` -/
def expireCall (record : AgentCallLedgerRecord) (code : String) : CallProg Bool := do
  let observation := expiryObservation now record code
  let _ ← ask (.recordObservation observation)
  endWith terms service record observation

/-! ## A call that was not sent yet -/

/-- The callback of the service: the invocation is read from its Run. -/
def recoverThroughRun : CallProg Unit := do
  match ← ask .readInvocation with
  | none => throw (.adapter "durable invocation is unavailable for call recovery")
  | some invocation => recoverDispatch terms runtime invocation

/-- The claim is released and the call executed again by the runtime. -/
def releaseAndRecover (record : AgentCallLedgerRecord) : CallProg Bool := do
  match ← releaseAt service now record now with
  | none => return false
  | some released =>
      match ← Raising.attempt (recoverThroughRun terms runtime) with
      | .ok () => return true
      | .error error =>
          if error.isRecoverable then
            reschedule now released record.runtimePolicy.retryBackoffInitial
            return true
          else throw error

def recoverAccepted (record : AgentCallLedgerRecord) (checkpointed : Bool) : CallProg Bool := do
  let orphanAt := terms.acceptance.acceptedAt + record.runtimePolicy.orphanAcceptanceTtl
  if checkpointed then releaseAndRecover terms service runtime now record
  else if orphanAt ≤ now then expireCall terms service now record "orphan_acceptance"
  else releasedAt service now record orphanAt

def recoverReady (record : AgentCallLedgerRecord) (checkpointed : Bool) : CallProg Bool := do
  if checkpointed then releaseAndRecover terms service runtime now record
  else releasedAt service now record (now + record.runtimePolicy.retryBackoffInitial)

/-! ## A call that may have been sent -/

def recoverDispatching (record : AgentCallLedgerRecord) : CallProg Bool := do
  let uncertain ← ledgerStep (transitionCall record .deliveryUncertain now
    { claimOwner := some none
      claimExpiresAt := some none
      nextAttemptAt := some (some now) })
  let (winner, exact) ← casOrLoadWinner uncertain record.stateVersion
  return exact || winner.any (·.state ≠ .dispatching)

def storeStillWorking (record : AgentCallLedgerRecord) : CallProg Bool := do
  let nextAttemptAt := now + record.runtimePolicy.retryBackoffMax
  if record.state = .working then releasedAt service now record nextAttemptAt
  else
    let working ← ledgerStep (transitionCall record .working now
      { claimOwner := some none
        claimExpiresAt := some none
        nextAttemptAt := some (some nextAttemptAt) })
    let (winner, exact) ← casOrLoadWinner working record.stateVersion
    return exact || winner.any fun winner => winner.state = .working ∨ winner.state.isTerminal

def storeUninspected (record : AgentCallLedgerRecord) : CallProg Bool := do
  if record.state = .working then
    releasedAt service now record
      (now + if record.continuationCommand.isSome then record.runtimePolicy.retryBackoffInitial
        else record.runtimePolicy.retryBackoffMax)
  else
    let attempts := record.inspectionAttempts + 1
    if record.runtimePolicy.maxUncertainInspectionAttempts ≤ attempts then
      expireCall terms service now record "delivery_uncertainty_exhausted"
    else
      let retry := { record with
        inspectionAttempts := attempts
        claimOwner := none
        claimExpiresAt := none
        nextAttemptAt := some (now + backoff record.runtimePolicy attempts)
        stateVersion := record.stateVersion + 1
        updatedAt := now }
      let (winner, exact) ← casOrLoadWinner retry record.stateVersion
      return exact || winner.any fun winner => winner.state.isTerminal ∨
        (winner.state = retry.state ∧ retry.inspectionAttempts ≤ winner.inspectionAttempts)

def storeInspection (record : AgentCallLedgerRecord) (inspected : Option A2ADispatchReceipt) :
    CallProg Bool := do
  match ← renewLease service record (← readClock service.workerId) with
  | none => return false
  | some record =>
      match inspected.bind (·.terminalObservation) with
      | some observation =>
          let row ← ask (.recordObservation observation)
          endWith terms service record row.observation
      | none =>
          let outcome : Option ReceiptOutcome := inspected.map (·.outcome)
          match outcome, inspected.bind (·.interactionObservation) with
          | some .interaction, some observation =>
              let row ← ask (.recordObservation (ownedObservation record observation))
              match ← renewLease service record (← readClock service.workerId) with
              | none => return false
              | some record => ask (.parkInteraction record row.observation)
          | some .accepted, _ => storeStillWorking service now record
          | _, _ => storeUninspected terms service now record

def inspectCall (record : AgentCallLedgerRecord) : CallProg Bool := do
  let command := dispatchCommand terms record [] none
  if ← runBlocks service.toCallWorker then
    let _ ← releaseAt service now record now
    return false
  else
    let _ ← reach (.inspect command)
    match ← Raising.attempt (awaitReply (.inspect command)) with
    | .ok receipt => storeInspection terms service now record (some receipt)
    | .error .agentCardContract =>
        expireCall terms service now record "agent_card_contract_error"
    | .error error =>
        if error.isRecoverable then storeInspection terms service now record none
        else throw error

/-! ## The service -/

/-- What is done with a claimed and renewed call, by its state. -/
def recoverByState (record : AgentCallLedgerRecord) (checkpointed : Bool) : CallProg Bool :=
  match record.state, record.continuationCommand with
  | .accepted, _ => recoverAccepted terms service runtime now record checkpointed
  | .readyToDispatch, _ => recoverReady terms service runtime now record checkpointed
  | .dispatching, _ => recoverDispatching now record
  | .deliveryUncertain, none | .resuming, none | .working, _ => inspectCall terms service now record
  | _, _ => releasedAt service now record (now + record.runtimePolicy.retryBackoffInitial)

def awaitsContinuation (record : AgentCallLedgerRecord) : Bool :=
  (record.state = .inputRequired ∨ record.state = .authRequired) ∧ record.answerApplied.isSome ∧
    record.continuationCommand.isNone

/-- `recover_call` from the claim on. -/
def recoverClaimed (record : AgentCallLedgerRecord) : CallProg Bool := do
  if !(← ask .verifyActive) then expireCall terms service now record "room_epoch_gone"
  else if terms.deadlineAt < now ∧ !record.state.isDeadlineExempt ∧
      !awaitsAcknowledgedTask terms service now record then
    expireCall terms service now record "call_deadline_exceeded"
  else
    let checkpointed ← ask .isAcceptanceCheckpointed
    match ← renewLease service record now with
    | none => return false
    | some renewed => recoverByState terms service runtime now renewed checkpointed

def recoverCall (record : AgentCallLedgerRecord) : CallProg Bool := do
  match (← loadCall).filter (·.stateVersion = record.stateVersion) with
  | none => return false
  | some current =>
      if ← runBlocks service.toCallWorker then return false
      else if awaitsContinuation current then return false
      else
        match ← claimCall current.stateVersion service.workerId (now + service.policy.claimLease)
            now with
        | none => return false
        | some claimed => recoverClaimed terms service runtime now claimed

end Recovery

end Hybro.A2ARuntime
