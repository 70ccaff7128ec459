import Hybro.Library.Raising
import Hybro.Library.RunRecord
import Hybro.A2ARuntime.CallStore
import Hybro.A2ARuntime.Ingress

/-! # One Agent call as its workers reach it

The operations of every program that works on a call: the compare-and-swap store, the
worker's clock, the ports around the runtime and the remote Agent. A port may answer
anything or raise. The record of a run keeps what each thread has done.
-/

namespace Hybro.A2ARuntime

open Orchestrator Interleaving

/-! ## Exceptions -/

inductive Raised
  /-- `RecoverableAdapterError` and its subclasses other than the next two. -/
  | adapter (message : String)
  | transport
  | ambiguous
  | timeout
  | agentCardContract
  | clientCancellation (message : String)
  | other (message : String)
  deriving DecidableEq

/-- `except (RecoverableAdapterError, ..., TimeoutError)` -/
def Raised.isRecoverable : Raised → Bool
  | .adapter _ | .transport | .ambiguous | .timeout => true
  | _ => false

/-- `except RecoverableAdapterError` -/
def Raised.isAdapter : Raised → Bool
  | .adapter _ | .transport | .ambiguous => true
  | _ => false

/-! ## Contacts with the remote Agent -/

inductive DirectMode
  | sync
  | stream
  | poll
  deriving DecidableEq

structure MaterializedResourcePart where
  refId : String
  kind : ResourceKind
  contentDigest : String
  payload : JsonValue
  mimeType : Option String := none
  deriving DecidableEq

structure A2APushNotificationConfig where
  url : String
  token : String
  deriving DecidableEq

structure A2APushRegistration where
  config : A2APushNotificationConfig
  tokenDigest : String
  deriving DecidableEq

structure A2ADispatchCommand where
  commandId : String
  callRecordId : String
  invocationId : String
  messageId : String
  bindingId : String
  agentId : String
  skillId : Option String
  endpointScope : String
  transportKind : TransportKind
  directMode : Option DirectMode
  task : String
  materializedResources : List MaterializedResourcePart
  conversationId : String
  roomEpoch : Nat
  deadlineAt : Timestamp
  pushNotification : Option A2APushNotificationConfig := none
  deriving DecidableEq

inductive Contact
  | dispatch (command : A2ADispatchCommand)
  | inspect (command : A2ADispatchCommand)
  | continueTask (command : A2AContinuationCommand)
  | inspectContinuation (command : A2AContinuationCommand)
  deriving DecidableEq

inductive ReceiptOutcome
  | accepted
  | terminal
  | deliveryUncertain
  | rejected
  | interaction
  deriving DecidableEq

structure A2ADispatchReceipt where
  outcome : ReceiptOutcome
  taskId : Option String := none
  contextId : Option String := none
  terminalObservation : Option NormalizedA2AObservation := none
  interactionObservation : Option NormalizedA2AObservation := none
  deriving DecidableEq

/-- How a contact that is awaited beside a heartbeat goes on: the rounds of the
heartbeat that run to their end, how far the round gets that the end of the wait cuts
off, and what ends the wait. -/
structure Flight where
  rounds : Nat := 0
  cut : Nat := 0
  /-- The client has cancelled. -/
  cancelled : Bool := false
  /-- The contact has an answer, even if the heartbeat has ended as well. -/
  answered : Bool := true
  deriving DecidableEq

/-! ## Ports -/

inductive AuthorizationDecision
  | authorized
  | denied
  | transientFailure
  deriving DecidableEq

structure PreparedInvocationSnapshot where
  requestingSubjectId : String
  bindingId : String
  bindingDigest : String
  deriving DecidableEq

inductive Port
  | isAcceptanceCheckpointed
  | signalCancelled
  | verifyActive
  | readPrepared
  | authorize
  | materialize
  | issuePush
  | loadRunStatus
  | readInvocation
  | recordObservation (observation : NormalizedA2AObservation)
  | markExecutorOutcome (observationId outcomeDigest : String)
  | finalize (record : AgentCallLedgerRecord)
  /-- Everything from `park_call_for_interaction` on. Its writes are steps of others. -/
  | interactionResult (record : AgentCallLedgerRecord) (observation : NormalizedA2AObservation)
  | parkInteraction (record : AgentCallLedgerRecord) (observation : NormalizedA2AObservation)
  deriving DecidableEq

abbrev Port.Answer : Port → Type
  | .isAcceptanceCheckpointed => Bool
  | .signalCancelled => Bool
  | .verifyActive => Bool
  | .readPrepared => Option PreparedInvocationSnapshot
  | .authorize => AuthorizationDecision
  | .materialize => List MaterializedResourcePart
  | .issuePush => A2APushRegistration
  | .loadRunStatus => Option RunStatus
  | .readInvocation => Option ToolInvocation
  | .recordObservation _ => A2AObservationInboxRecord
  | .markExecutorOutcome .. => Unit
  | .finalize _ => Unit
  | .interactionResult .. => ToolExecutionOutcome
  | .parkInteraction .. => Bool

/-! ## State and operations -/

/-- What the record of a run keeps of a thread. The code keeps no such record. -/
inductive CallNote
  /-- The worker has read this time. -/
  | read (workerId : String) (time : Timestamp)
  /-- A write has replaced the first record by the second. -/
  | stored (replaced record : AgentCallLedgerRecord)
  /-- A write was answered while this record was the current one. -/
  | held (record : AgentCallLedgerRecord)
  /-- The remote Agent was contacted while the call was in this state. -/
  | contacted (contact : Contact) (state : AgentCallState)
  /-- The contact has raised `RecoverableTransportError`. -/
  | raised (contact : Contact)
  deriving DecidableEq

structure SharedCall where
  ledger : CallLedger
  record : List (Nat × CallNote) := []
  /-- The observations that the inbox holds, by their ids. -/
  inbox : List String := []

def SharedCall.noted (s : SharedCall) (i : Nat) (notes : List CallNote) : SharedCall :=
  { s with record := notes.map (i, ·) ++ s.record }

def SharedCall.stored (s : SharedCall) (i : Nat) (record : AgentCallLedgerRecord)
    (more : List CallNote) : SharedCall :=
  { s with
    ledger := s.ledger.write record
    record := (more ++ [CallNote.stored s.ledger.current record]).map (i, ·) ++ s.record }

inductive CallOp
  | load
  | cas (record : AgentCallLedgerRecord) (expectedStateVersion : Nat)
  | now (workerId : String)
  | ask (port : Port)
  | reach (contact : Contact)
  | awaitReply (contact : Contact)

abbrev CallOp.Res : CallOp → Type
  | .load => Except Raised (Option AgentCallLedgerRecord)
  | .cas .. => Except Raised StoreOutcome
  | .now _ => Timestamp
  | .ask port => Except Raised port.Answer
  | .reach _ => Flight
  | .awaitReply _ => Except Raised A2ADispatchReceipt

/-- What one operation of thread `i` may answer and leave behind. Unless `repeats`
holds, no two threads read one time under one worker id. -/
inductive CallOp.Outcome (repeats : Bool) (i : Nat) (s : SharedCall) :
    (op : CallOp) → op.Res → SharedCall → Prop
  | loaded : Outcome repeats i s .load (.ok (some s.ledger.current)) s
  | absent : Outcome repeats i s .load (.ok none) s
  | unread (error : Raised) : Outcome repeats i s .load (.error error) s
  | refused (record : AgentCallLedgerRecord) (expected : Nat) (outcome : StoreOutcome)
      (hrefused : settled outcome = false) :
      Outcome repeats i s (.cas record expected) (.ok outcome) s
  | unwritten (record : AgentCallLedgerRecord) (expected : Nat) (error : Raised) :
      Outcome repeats i s (.cas record expected) (.error error) s
  | replayed (record : AgentCallLedgerRecord) (expected : Nat)
      (hcurrent : s.ledger.current = record) :
      Outcome repeats i s (.cas record expected) (.ok .replayed) (s.noted i [.held record])
  | written (record : AgentCallLedgerRecord) (expected : Nat) (outcome : StoreOutcome)
      (hcurrent : s.ledger.current.stateVersion = expected)
      (hrecord : record.stateVersion = expected + 1) (hsettled : settled outcome = true) :
      Outcome repeats i s (.cas record expected) (.ok outcome) (s.stored i record [.held record])
  | writtenUnseen (record : AgentCallLedgerRecord) (expected : Nat) (error : Raised)
      (hcurrent : s.ledger.current.stateVersion = expected)
      (hrecord : record.stateVersion = expected + 1) :
      Outcome repeats i s (.cas record expected) (.error error) (s.stored i record [])
  | now (workerId : String) (time : Timestamp)
      (hfresh : repeats = true ∨ ∀ j, j ≠ i → (j, .read workerId time) ∉ s.record) :
      Outcome repeats i s (.now workerId) time (s.noted i [.read workerId time])
  | ask (port : Port) (answer : Except Raised port.Answer) :
      Outcome repeats i s (.ask port) answer s
  | reach (contact : Contact) (flight : Flight) :
      Outcome repeats i s (.reach contact) flight
        (s.noted i [.contacted contact s.ledger.current.state])
  | replied (contact : Contact) (reply : Except Raised A2ADispatchReceipt)
      (hreply : reply ≠ .error .transport) :
      Outcome repeats i s (.awaitReply contact) reply s
  | raised (contact : Contact) :
      Outcome repeats i s (.awaitReply contact) (.error .transport) (s.noted i [.raised contact])

abbrev CallProg := Raising CallOp CallOp.Res Raised

def loadCall : CallProg (Option AgentCallLedgerRecord) := Raising.effect .load id

def casCall (record : AgentCallLedgerRecord) (expectedStateVersion : Nat) :
    CallProg StoreOutcome :=
  Raising.effect (.cas record expectedStateVersion) id

/-- `datetime.now(UTC)` in a process of this worker. -/
def readClock (workerId : String) : CallProg Timestamp := Raising.effect (.now workerId) .ok

def ask (port : Port) : CallProg port.Answer := Raising.effect (.ask port) id

def reach (contact : Contact) : CallProg Flight := Raising.effect (.reach contact) .ok

def awaitReply (contact : Contact) : CallProg A2ADispatchReceipt :=
  Raising.effect (.awaitReply contact) id

def ledgerStep {α : Type} : Except LedgerError α → CallProg α
  | .ok value => pure value
  | .error error => throw (.other error.message)

/-! ## Leases -/

/-- `MongoAgentCallLedgerStore.claim` -/
def claimCall (expectedStateVersion : Nat) (ownerId : String)
    (leaseExpiresAt claimedAt : Timestamp) : CallProg (Option AgentCallLedgerRecord) := do
  match ← loadCall with
  | none => return none
  | some record =>
      if record.stateVersion ≠ expectedStateVersion ∨ leaseExpiresAt ≤ claimedAt ∨
          record.claimExpiresAt.any (claimedAt < ·) ∨ record.nextAttemptAt.any (claimedAt < ·) then
        return none
      else
        let claimed := { record with
          claimOwner := some ownerId
          claimExpiresAt := some leaseExpiresAt
          nextAttemptAt := none
          stateVersion := record.stateVersion + 1
          updatedAt := claimedAt }
        return if settled (← casCall claimed record.stateVersion) then some claimed else none

/-- `MongoAgentCallLedgerStore.renew` -/
def renewCall (expectedStateVersion : Nat) (ownerId : String)
    (leaseExpiresAt renewedAt : Timestamp) : CallProg (Option AgentCallLedgerRecord) := do
  match ← loadCall with
  | none => return none
  | some record =>
      if record.stateVersion ≠ expectedStateVersion ∨ record.claimOwner ≠ some ownerId ∨
          record.claimExpiresAt = none ∨ leaseExpiresAt ≤ renewedAt ∨
          record.claimExpiresAt.any (leaseExpiresAt ≤ ·) then
        return none
      else
        let renewed := { record with
          claimExpiresAt := some leaseExpiresAt
          stateVersion := record.stateVersion + 1
          updatedAt := renewedAt }
        return if settled (← casCall renewed record.stateVersion) then some renewed else none

/-- `MongoAgentCallLedgerStore.release` -/
def releaseCall (expectedStateVersion : Nat) (ownerId : String)
    (nextAttemptAt : Option Timestamp) (releasedAt : Timestamp) :
    CallProg (Option AgentCallLedgerRecord) := do
  match ← loadCall with
  | none => return none
  | some record =>
      if record.stateVersion ≠ expectedStateVersion ∨ record.claimOwner ≠ some ownerId then
        return none
      else
        let released := { record with
          claimOwner := none
          claimExpiresAt := none
          nextAttemptAt := nextAttemptAt
          stateVersion := record.stateVersion + 1
          updatedAt := releasedAt }
        return if settled (← casCall released record.stateVersion) then some released else none

/-! ## Workers -/

structure CallWorker where
  workerId : String
  policy : A2ARuntimePolicy := {}
  /-- `push_registrar is not None` -/
  registersPushes : Bool := false
  /-- `run_store is not None` -/
  readsRuns : Bool := true

/-- The digests, and the fields of the call that are frozen when it is accepted. -/
structure CallTerms where
  resultDigest : ToolResult → String
  /-- `_stable` and `_digest` -/
  stableDigest : List String → String
  subjectDigest : String → String
  invocationMatches : ToolInvocation → AgentCallLedgerRecord → Bool
  acceptance : ToolAcceptance
  snapshot : ImmutableA2ADispatchSnapshot
  skillId : Option String := none
  endpointScope : String
  directMode : Option DirectMode := none
  deadlineAt : Timestamp

/-- `_run_blocks_dispatch` and its siblings: the owning Run takes no new effect. -/
def runBlocks (worker : CallWorker) : CallProg Bool := do
  if worker.readsRuns then
    match ← ask .loadRunStatus with
    | none => return true
    | some status => return status = .canceling ∨ status.isTerminal
  else return false

/-- `_renew_and_verify_epoch` -/
def renewAndVerifyClaim (worker : CallWorker) (record : AgentCallLedgerRecord) :
    CallProg (Option AgentCallLedgerRecord) := do
  let renewedAt ← readClock worker.workerId
  match ← renewCall record.stateVersion worker.workerId (renewedAt + worker.policy.claimLease)
      renewedAt with
  | none => return none
  | some renewed => return if ← ask .verifyActive then some renewed else none

/-- `if latest is not None and latest.claim_owner == self.worker_id: record = latest` -/
def reloaded (worker : CallWorker) (record : AgentCallLedgerRecord) :
    CallProg AgentCallLedgerRecord := do
  let latest ← loadCall
  return (latest.filter (·.claimOwner = some worker.workerId)).getD record

end Hybro.A2ARuntime
