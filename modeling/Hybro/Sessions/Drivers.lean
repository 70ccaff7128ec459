import Mathlib.Algebra.Group.Nat.Defs
import Hybro.Library.Raising
import Hybro.RunStore.LeaseLog

/-! # Drivers of one Run

Hosted sessions and recovery workers execute a Run under its recovery lease. Each call
is a program over the atomic operations of the run store and over what its process
knows: the clock, the session object, and the kernel task. Beside the documents the state
records which calls are in flight and what became of the claim each of them wrote.
-/

namespace Hybro.Sessions

open Orchestrator Interleaving RunStore

/-! ## State -/

/-- What became of the claim that a call wrote into the recovery row: it is `displaced` by a
cancellation, and `contested` once another call with the same owner id has written the row. -/
inductive Grip
  | absent
  | held
  | displaced
  | contested
  deriving DecidableEq

/-- Between two lease attempts of a call lie the renewal period of 20 s and less than 10 s
around it. -/
def attemptPeriod : Nat := 29_999

/-- A call in flight. `attempted` is the clock of its last attempt to take or to renew the
lease, until the kernel has stopped; `lapsed` tells that a further attempt did not come in
time or was refused, and `leased` that the claim of the call was accepted. -/
structure Driver where
  owner : String
  grip : Grip := .absent
  attempted : Option Timestamp := none
  lapsed : Bool := false
  leased : Bool := false
  executing : Bool := false
  deriving DecidableEq

structure SharedRun where
  stored : Stored
  clock : Timestamp
  leaseOwners : Nat → Option String
  tasks : Nat → Option Nat
  drivers : Nat → Option Driver

/-- In whose name an operation writes the row. -/
inductive RowWrite
  | unowned
  | cancels
  | under (owner : String)
  deriving DecidableEq

def rowWrite : StoreOp → RowWrite
  | .upsertLease _ => .cancels
  | .updateLease owner _ => .under owner
  | .claimLease _ claim | .insertLease claim => claim.ownerId.elim .unowned .under
  | _ => .unowned

/-- The call holds a claim that it wrote until someone else writes the row. -/
def Driver.regrip (own : Bool) (write : RowWrite) (before after : Stored) (driver : Driver) :
    Driver :=
  if after.lease = before.lease then driver
  else if own = true ∧ after.leaseOwner = some driver.owner then { driver with grip := .held }
  else if own = false ∧ write = .under driver.owner then { driver with grip := .contested }
  else if driver.grip = .held then
    { driver with grip := if write = .cancels then .displaced else .absent }
  else driver

def Driver.tick (clock : Timestamp) (driver : Driver) : Driver :=
  { driver with lapsed := driver.lapsed || driver.attempted.any (· + attemptPeriod < clock) }

namespace SharedRun

def store (s : SharedRun) (i : Nat) (op : StoreOp) (stored : Stored) : SharedRun :=
  { s with
    stored := stored
    drivers := fun j =>
      (s.drivers j).map (Driver.regrip (j == i) (rowWrite op) s.stored stored) }

def modify (s : SharedRun) (i : Nat) (f : Driver → Driver) : SharedRun :=
  { s with drivers := Function.update s.drivers i ((s.drivers i).map f) }

/-- `_task is not None and not _task.done()` -/
def taskActive (s : SharedRun) (session : Nat) : Bool :=
  (s.tasks session).any fun i => (s.drivers i).any (·.executing)

end SharedRun

/-! ## Operations -/

inductive DriverRaised
  | store (message : String)
  | sessionConflict (message : String)
  | recoverableAdapter (message : String)
  | kernelConflict
  deriving DecidableEq

inductive Ending
  | settled
  | shutDown (terminalized : Bool)
  deriving DecidableEq

/-- What happens while the kernel runs: full rounds of the renewal task, the number of
operations after which one more is cancelled, and the end of the task. -/
structure Flight where
  rounds : Nat
  cut : Nat
  ending : Ending
  deriving DecidableEq

structure RecoveryFlight where
  rounds : Nat
  result : Except DriverRaised Unit
  deriving DecidableEq

/-- `enter` and `leave` delimit a call, `claimed`, `refused` and `renewed` note what a lease
attempt answered. -/
inductive DriverOp
  | enter (owner : String)
  | leave
  | leaseOwner (session : Nat)
  | takeLeaseOwner (session : Nat)
  | taskActive (session : Nat)
  | now
  | attempt
  | claimed (session : Option Nat)
  | refused
  | startKernel (session : Nat)
  | renewed (outcome : StoreOutcome)
  | finishKernel
  | prepareRecovery
  | startRecovery
  | create (run : OrchestratorRunState)

abbrev DriverOp.Res : DriverOp → Type
  | .enter _ | .leave | .claimed _ | .refused | .renewed _ | .finishKernel => Unit
  | .leaseOwner _ | .takeLeaseOwner _ => Option String
  | .taskActive _ => Bool
  | .now | .attempt => Timestamp
  | .startKernel _ => Flight
  | .prepareRecovery => Except DriverRaised Unit
  | .startRecovery => RecoveryFlight
  | .create _ => Except DriverRaised MongoRunStoreResult

abbrev DriverRes : StoreOp ⊕ DriverOp → Type := Sum.elim StoreOp.Res DriverOp.Res

abbrev DriverProg := Raising (StoreOp ⊕ DriverOp) DriverRes DriverRaised

def raised? : StoreOp → Option String
  | .raise message => some message
  | _ => none

def calling {α : Type} : StoreProg α → DriverProg α
  | .done a => pure a
  | .act op next =>
      match raised? op with
      | some message => throw (.store message)
      | none => ExceptT.mk (.act (.inl op) fun reply => (calling (next reply)).run)

def driverOp (op : DriverOp) : DriverProg op.Res :=
  Raising.effect (.inr op) .ok

/-! ## Owners -/

def sessionExecutionOwnerPrefix : String := "session:"

def executionOwnerId (sessionId : String) : String := sessionExecutionOwnerPrefix ++ sessionId

def interruptedExecutionOwner (ownerId : Option String) : Bool :=
  ownerId.any fun owner => owner != "" && sessionExecutionOwnerPrefix.isPrefixOf owner

def activeExecutionStatuses : List RunStatus := [.queued, .running, .finalizing]

def interruptedRunNeedsSettlement (status : RunStatus) (ownerId : Option String) : Bool :=
  status ∈ activeExecutionStatuses && interruptedExecutionOwner ownerId

/-- The session id of each session object, and the token of each recovery pass. -/
structure SessionTerms where
  sessionId : Nat → String
  token : Nat → String

namespace SessionTerms

variable (terms : SessionTerms)

def sessionOwner (session : Nat) : String := executionOwnerId (terms.sessionId session)

/-- `f"{recovery_instance}:{uuid.uuid4().hex}"` -/
def recoveryOwner (i : Nat) : String := "orchestrator-generic-runs:" ++ terms.token i

end SessionTerms

/-! ## The lease of a hosted session -/

def executionLease : Nat := 60_000

def dormantRecoveryDelay : Nat := 3650 * 86_400_000

def StoreOutcome.isWritten (outcome : StoreOutcome) : Bool :=
  outcome = .accepted ∨ outcome = .replayed

variable (terms : SessionTerms)

/-- `_acquire_execution_lease`; the answer says whether a renewal task was started. -/
def acquireExecutionLease (session : Nat) : DriverProg Bool := do
  if (← driverOp (.leaseOwner session)).isSome then
    return false
  match ← calling load with
  | none => return false
  | some run =>
      if run.status.isTerminal then
        return false
      let now ← driverOp .attempt
      let claimed ← calling (claimRecovery (terms.sessionOwner session)
        { expectedStateVersion := run.stateVersion
          leaseExpiresAt := now + executionLease
          claimedAt := now
          allowScheduled := true })
      if StoreOutcome.isWritten claimed.outcome then
        driverOp (.claimed (some session))
        return true
      else
        -- the caller is not told, and executes the Run all the same
        driverOp .refused
        return false

/-- One round of `_renew_execution_lease` after its sleep. -/
def renewExecutionLease (owner : String) : DriverProg Bool := do
  match ← calling load with
  | none => return false
  | some run =>
      if run.status.isTerminal ∨ run.recoveryClaim.ownerId ≠ some owner then
        return false
      let now ← driverOp .attempt
      let renewal ← calling (renewRecovery
        { expectedStateVersion := run.stateVersion
          ownerId := owner
          leaseExpiresAt := now + executionLease })
      driverOp (.renewed renewal.outcome)
      return true

def renewRounds (owner : String) : Nat → DriverProg Bool
  | 0 => return true
  | n + 1 => do
      if ← renewExecutionLease owner then
        renewRounds owner n
      else
        return false

def nextRecoveryAttempt (run : OrchestratorRunState) (now : Timestamp) : Option Timestamp :=
  if run.status.isTerminal then none
  else if run.status.isSuspended then some (now + dormantRecoveryDelay)
  else some run.budget.deadlineAt

/-- `_release_execution_lease`, after the renewal task has been cancelled. -/
def releaseExecutionLease (session : Nat) : DriverProg Unit := do
  match ← driverOp (.takeLeaseOwner session) with
  | none => return ()
  | some owner =>
      match ← calling load with
      | none => return ()
      | some run =>
          if run.recoveryClaim.ownerId ≠ some owner then
            return ()
          let now ← driverOp .now
          let _ ← calling (releaseRecovery
            { expectedStateVersion := run.stateVersion
              ownerId := owner
              nextAttemptAt := nextRecoveryAttempt run now })
          return ()

/-! ## Hosted calls -/

/-- The end of the kernel task: `_await_task`, or `shutdown` with its settlement. -/
def endTask (session : Nat) : Ending → DriverProg Unit
  | .settled => do
      driverOp .finishKernel
      releaseExecutionLease session
  | .shutDown terminalized => do
      let loaded ← Raising.attempt (calling load)
      driverOp .finishKernel
      match loaded with
      | .error raised => throw raised
      | .ok none => releaseExecutionLease session
      | .ok (some run) =>
          -- a claim whose Run was not settled is kept until it expires
          if run.status.isTerminal ∨ terminalized then
            releaseExecutionLease session

/-- `_start_kernel`, and the body of `observe_tool`. -/
def driveKernel (session : Nat) : DriverProg Unit := do
  let renewing ← acquireExecutionLease terms session
  let flight ← driverOp (.startKernel session)
  if renewing then
    let owner := terms.sessionOwner session
    match ← Raising.attempt (renewRounds owner flight.rounds) with
    | .ok true => Raising.cancelAfter flight.cut (renewExecutionLease owner)
    | _ => pure ()
  endTask session flight.ending

def inFlight (owner : String) (call : DriverProg Unit) : DriverProg Unit := do
  driverOp (.enter owner)
  let result ← Raising.attempt call
  driverOp .leave
  match result with
  | .ok () => return ()
  | .error raised => throw raised

def prompt (session : Nat) (run : OrchestratorRunState) : DriverProg Unit :=
  inFlight (terms.sessionOwner session) do
    if ← driverOp (.taskActive session) then
      throw (.sessionConflict "a Run is already active")
    match ← driverOp (.create run) with
    | .error raised => throw raised
    | .ok created =>
        if ¬ StoreOutcome.isWritten created.outcome ∨ created.run.isNone then
          throw (.sessionConflict "Run create failed")
        else if created.outcome = .replayed then
          -- a replayed Run is answered from the store
          return ()
        else
          driveKernel terms session

def continueRun (session : Nat) : DriverProg Unit :=
  inFlight (terms.sessionOwner session) do
    match ← calling load with
    | none => throw (.sessionConflict "active Run is missing")
    | some run =>
        if run.status.isSuspended then
          throw (.sessionConflict "suspended Run requires a new ToolObservation")
        else
          driveKernel terms session

def observeTool (session : Nat) : DriverProg Unit :=
  inFlight (terms.sessionOwner session) do
    if ← driverOp (.taskActive session) then
      throw (.sessionConflict "Run is currently executing")
    else
      driveKernel terms session

/-! ## Recovery workers -/

/-- One renewal of `_run_with_recovery_lease` with the tries that are left; only the first
one is a new attempt. -/
def renewRecoveryLease (owner : String) (first : Bool) : Nat → DriverProg Unit
  | 0 => throw (.recoverableAdapter "generic recovery lease renewal conflicted")
  | tries + 1 => do
      match ← calling load with
      | none => throw (.recoverableAdapter "generic recovery lease was replaced")
      | some current =>
          if current.recoveryClaim.ownerId ≠ some owner then
            throw (.recoverableAdapter "generic recovery lease was replaced")
          let now ← (if first then driverOp .attempt else driverOp .now : DriverProg Timestamp)
          let renewed ← calling (renewRecovery
            { expectedStateVersion := current.stateVersion
              ownerId := owner
              leaseExpiresAt := now + executionLease })
          if StoreOutcome.isWritten renewed.outcome then
            return ()
          else
            renewRecoveryLease owner false tries

def recoveryRounds (owner : String) : Nat → DriverProg Unit
  | 0 => return ()
  | n + 1 => do
      renewRecoveryLease owner true 4
      recoveryRounds owner n

def genericRecoveryNextAttempt (status : RunStatus) (now : Timestamp) : Option Timestamp :=
  if status.isTerminal then none
  else if status.isSuspended then some (now + dormantRecoveryDelay)
  else some (now + 2_000)

/-- `_generic_recovery_failure_decision`, as the release it leads to -/
def genericRecoveryFailureDecision (claim : RecoveryClaim) (raised : DriverRaised)
    (now : Timestamp) (release : ReleaseRecovery) : ReleaseRecovery :=
  let invariantConflict := raised = .kernelConflict
  let failureCount := if invariantConflict then claim.failureCount + 1 else 0
  if invariantConflict ∧ failureCount ≥ 3 then
    { release with
      failureCount := failureCount
      nextAttemptAt := none
      quarantinedAt := some now
      quarantineReason := some .terminalInvariantConflict }
  else
    { release with
      failureCount := failureCount
      nextAttemptAt := some (now + 1000 * min (5 * 2 ^ (max failureCount 1 - 1)) 300) }

def releaseRecoveredRun (owner : String) (result : Except DriverRaised Unit) :
    DriverProg Unit := do
  match ← calling load with
  | none => return ()
  | some current =>
      if current.recoveryClaim.ownerId ≠ some owner then
        return ()
      let now ← driverOp .now
      let release : ReleaseRecovery :=
        { expectedStateVersion := current.stateVersion
          ownerId := owner
          nextAttemptAt := genericRecoveryNextAttempt current.status now }
      let _ ← calling (releaseRecovery
        (match result with
        | .ok () => release
        | .error raised =>
            genericRecoveryFailureDecision current.recoveryClaim raised now release))
      return ()

/-- What a claimed Run needs, up to the kernel work of it. -/
inductive RecoveryWork
  | reconcileCancellation
  | settleInterrupted
  | resume
  deriving DecidableEq

def recoveryWork (run : OrchestratorRunState) (candidateOwner : Option String) :
    Except DriverRaised RecoveryWork :=
  if run.status = .canceling then
    if run.cancellationCommandId.isNone then .error .kernelConflict
    else .ok .reconcileCancellation
  else if interruptedRunNeedsSettlement run.status candidateOwner then
    if run.toolCatalog.isNone then
      .error (.recoverableAdapter "interrupted Run has no tool catalog")
    else .ok .settleInterrupted
  else if run.toolCatalog.isNone then
    .error (.recoverableAdapter "recoverable Run has no tool catalog")
  else .ok .resume

def executeRecovery (owner : String) (run : OrchestratorRunState)
    (candidateOwner : Option String) : DriverProg Unit := do
  match recoveryWork run candidateOwner with
  | .error raised => throw raised
  | .ok _ =>
      match ← driverOp .prepareRecovery with
      | .error raised => throw raised
      | .ok () =>
          let flight ← driverOp .startRecovery
          recoveryRounds owner flight.rounds
          match flight.result with
          | .error raised => throw raised
          | .ok () => return ()

/-- One candidate of `recover_generic_runs`. -/
def recoverRun (i : Nat) : DriverProg Unit :=
  inFlight (terms.recoveryOwner i) do
    match ← calling load with
    | none => return ()
    | some candidate =>
        let claimNow ← driverOp .attempt
        let claimed ← calling (claimRecovery (terms.recoveryOwner i)
          { expectedStateVersion := candidate.stateVersion
            leaseExpiresAt := claimNow + executionLease
            claimedAt := claimNow })
        match claimed.run with
        | none => return ()
        | some run =>
            if ¬ StoreOutcome.isWritten claimed.outcome then
              return ()
            driverOp (.claimed none)
            let result ← Raising.attempt
              (executeRecovery (terms.recoveryOwner i) run candidate.recoveryClaim.ownerId)
            driverOp .finishKernel
            releaseRecoveredRun (terms.recoveryOwner i) result

/-! ## Calls that do not execute the Run -/

def scheduleRunRecovery (nextAttemptAt : Timestamp) : Nat → DriverProg Unit
  | 0 => throw (.sessionConflict "recoverable Run could not be scheduled")
  | attempts + 1 => do
      match ← calling load with
      | none => throw (.sessionConflict "active Run is missing")
      | some run =>
          let result ← calling (scheduleRecovery
            { expectedStateVersion := run.stateVersion, nextAttemptAt := nextAttemptAt })
          if StoreOutcome.isWritten result.outcome then
            return ()
          else if result.run.all fun current =>
              current.recoveryClaim.ownerId.isSome || current.status = .canceling ||
                current.status.isTerminal || current.recoveryClaim.quarantinedAt.isSome then
            return ()
          else
            scheduleRunRecovery nextAttemptAt attempts

/-- `repair_canceling_recovery` for one canceling document. -/
def repairCancelingRecovery (now : Timestamp) : DriverProg Unit := do
  match ← calling findRun with
  | none => return ()
  | some document =>
      if document.status ≠ .canceling then
        return ()
      match ← calling loadRecoveryClaim with
      | some claim =>
          if claim.kind = .cancellation then
            if document.recoveryClaim.kind ≠ .cancellation then
              calling (mirrorRecoveryClaim claim)
          else
            calling (replaceCancellationRecovery (document.cancellationRequestedAt.getD now))
      | none =>
          calling (replaceCancellationRecovery (document.cancellationRequestedAt.getD now))

/-! ## The system -/

inductive SessionCall
  | prompt (session : Nat) (run : OrchestratorRunState)
  | continueRun (session : Nat)
  | observeTool (session : Nat)
  | recover
  | checkpoint (run : OrchestratorRunState) (expectedStateVersion : Nat) (commandId : CommandId)
  | cancel (request : RequestCancellation)
  | repair (now : Timestamp)
  | schedule (nextAttemptAt : Timestamp)

def SessionCall.drives : SessionCall → Bool
  | .prompt .. | .continueRun _ | .observeTool _ | .recover => true
  | _ => false

def SessionCall.owner (i : Nat) : SessionCall → String
  | .prompt session _ | .continueRun session | .observeTool session => terms.sessionOwner session
  | .recover => terms.recoveryOwner i
  | _ => ""

def sessionBody (i : Nat) : SessionCall → DriverProg Unit
  | .prompt session run => prompt terms session run
  | .continueRun session => continueRun terms session
  | .observeTool session => observeTool terms session
  | .recover => recoverRun terms i
  | .checkpoint run expectedStateVersion commandId => do
      let _ ← calling (casMutate run expectedStateVersion commandId)
      return ()
  | .cancel request => do
      let _ ← calling (requestCancellation request)
      return ()
  | .repair now => repairCancelingRecovery now
  | .schedule nextAttemptAt => scheduleRunRecovery nextAttemptAt 4

inductive Environment (s : SharedRun) : SharedRun → Prop
  | ticks (clock : Timestamp) (hlater : s.clock ≤ clock) :
      Environment s
        { s with clock := clock, drivers := fun j => (s.drivers j).map (Driver.tick clock) }
  | dies (j : Nat) : Environment s { s with drivers := Function.update s.drivers j none }

/-- What an operation of thread `i` may answer and leave behind. -/
inductive DriverOp.Outcome (i : Nat) (s : SharedRun) :
    (op : DriverOp) → op.Res → SharedRun → Prop
  | entered (owner : String) : Outcome i s (.enter owner) ()
        { s with drivers := Function.update s.drivers i (some { owner := owner }) }
  | left : Outcome i s .leave ()
      { s with drivers := Function.update s.drivers i none }
  | leaseOwner (session : Nat) :
      Outcome i s (.leaseOwner session) (s.leaseOwners session) s
  | tookLeaseOwner (session : Nat) :
      Outcome i s (.takeLeaseOwner session) (s.leaseOwners session)
        { s with leaseOwners := Function.update s.leaseOwners session none }
  | taskActive (session : Nat) :
      Outcome i s (.taskActive session) (s.taskActive session) s
  | now : Outcome i s .now s.clock s
  | attempted : Outcome i s .attempt s.clock
      (s.modify i fun driver => { driver with attempted := some s.clock })
  | claimedHosted (session : Nat) (driver : Driver) (hdriver : s.drivers i = some driver) :
      Outcome i s (.claimed (some session)) ()
        { s.modify i fun driver => { driver with leased := true } with
          leaseOwners := Function.update s.leaseOwners session (some driver.owner) }
  | claimed : Outcome i s (.claimed none) ()
      (s.modify i fun driver => { driver with leased := true })
  | refused : Outcome i s .refused ()
      (s.modify i fun driver => { driver with attempted := none })
  | started (session : Nat) (flight : Flight) :
      Outcome i s (.startKernel session) flight
        { s.modify i fun driver => { driver with executing := true } with
          tasks := Function.update s.tasks session (some i) }
  | renewed (outcome : StoreOutcome) : Outcome i s (.renewed outcome) ()
      (s.modify i fun driver =>
        { driver with lapsed := driver.lapsed || !StoreOutcome.isWritten outcome })
  | finished : Outcome i s .finishKernel ()
      (s.modify i fun driver =>
        { driver with attempted := none, leased := false, executing := false })
  | prepared (answer : Except DriverRaised Unit) :
      Outcome i s .prepareRecovery answer s
  | startedRecovery (flight : RecoveryFlight) : Outcome i s .startRecovery flight
      (s.modify i fun driver => { driver with executing := true })
  | created (run : OrchestratorRunState) (answer : Except DriverRaised MongoRunStoreResult)
      (hfree : s.stored.run = none)
      (hanswer : answer = .ok ⟨.accepted, some run⟩ ∨ ∃ raised, answer = .error raised) :
      Outcome i s (.create run) answer
        { s with stored := { s.stored with run := some run } }
  | notCreated (run : OrchestratorRunState) (answer : Except DriverRaised MongoRunStoreResult)
      (hanswer : ∀ result, answer = .ok result → result.outcome ≠ .accepted) :
      Outcome i s (.create run) answer s

inductive SessionStep (i : Nat) (s : SharedRun) :
    (op : StoreOp ⊕ DriverOp) → DriverRes op → SharedRun → Prop
  | store {op : StoreOp} {reply : op.Res} {stored : Stored}
      (h : (reply, stored) ∈ op.outcomes s.stored) :
      SessionStep i s (.inl op) reply (s.store i op stored)
  | driver {op : DriverOp} {reply : op.Res} {s' : SharedRun}
      (h : op.Outcome i s reply s') : SessionStep i s (.inr op) reply s'

/-- A call that has entered takes steps as long as its process lives. -/
def canStep (call : SessionCall) (s : SharedRun) (i : Nat) : StoreOp ⊕ DriverOp → Prop
  | .inr (.enter _) => True
  | _ => call.drives = true → (s.drivers i).isSome = true

structure Idle (s : SharedRun) : Prop where
  drivers : ∀ i, s.drivers i = none
  leaseOwners : ∀ session, s.leaseOwners session = none

def sessionSystem : System (StoreOp ⊕ DriverOp) DriverRes where
  State := SharedRun
  Call := SessionCall
  Result := Except DriverRaised Unit
  exec i call op s reply s' := canStep call s i op ∧ SessionStep i s op reply s'
  environment := Environment
  admits _ _ := True
  body i call := (sessionBody terms i call).run
  initial := Idle

end Hybro.Sessions
