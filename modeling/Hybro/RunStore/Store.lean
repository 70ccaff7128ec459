import Hybro.RunStore.Database

/-! # The Mongo run store

Each method as a program over the atomic operations. The dedicated recovery
collection is present. A reply that the code does not catch ends the call, and
so does a document that fails its validator.
-/

namespace Hybro.RunStore

open Orchestrator Interleaving

abbrev StoreProg := Prog StoreOp StoreOp.Res

structure MongoRunStoreResult where
  outcome : StoreOutcome
  run : Option OrchestratorRunState
  deriving DecidableEq

/-! ## Reading -/

def raise {α : Type} (message : String) : StoreProg α :=
  .act (.raise message) fun reply => nomatch reply

def answered {α β : Type} (reply : Reply α) (next : α → StoreProg β) : StoreProg β :=
  match reply with
  | .answer value => next value
  | .unavailable => raise "RecoverableAdapterError"

def findRun : StoreProg (Option OrchestratorRunState) :=
  .act .findRun fun reply => answered reply .done

def loadRecoveryClaim : StoreProg (Option RecoveryClaim) :=
  .act .findLease fun reply => answered reply .done

/-- `_run_from_document`: the dedicated row is laid over the embedded claim unless
it lags behind a cancellation. -/
def overlayClaim (document : OrchestratorRunState) (recoveryClaim : Option RecoveryClaim) :
    OrchestratorRunState :=
  match recoveryClaim with
  | none => document
  | some claim =>
      if document.status = .canceling ∧ claim.kind ≠ .cancellation then document
      else { document with recoveryClaim := claim }

def checked {α : Type} (check : Except String α) : StoreProg α :=
  match check with
  | .ok value => .done value
  | .error message => raise message

/-- `OrchestratorRunState.model_validate` -/
def validated (run : OrchestratorRunState) : StoreProg OrchestratorRunState := do
  checked (quarantineFieldsArePaired run.recoveryClaim)
  checked (aggregateIdentityAndUniqueness run)
  return run

def load : StoreProg (Option OrchestratorRunState) := do
  match ← findRun with
  | none => return none
  | some document =>
      let claim ← loadRecoveryClaim
      let run ← validated (overlayClaim document claim)
      return some run

/-! ## The version-fenced mutation -/

def cancellationTransitionAllowed (current candidate : OrchestratorRunState) : Bool :=
  let sameMetadata := current.cancellationCommandId = candidate.cancellationCommandId ∧
    current.cancellationRequestedAt = candidate.cancellationRequestedAt ∧
    current.cancellationCause = candidate.cancellationCause
  if current.cancellationCommandId.isSome ∧ ¬ sameMetadata then false
  else if current.status ≠ .canceling then true
  else (candidate.status = .canceling ∨ candidate.status = .canceled) ∧ sameMetadata

def withCommand (run : OrchestratorRunState) (commandId : CommandId) : OrchestratorRunState :=
  if commandId ∈ run.processedCommandIds then run
  else { run with processedCommandIds := run.processedCommandIds ++ [commandId] }

def mirrorRecoveryClaim (claim : RecoveryClaim) : StoreProg Unit :=
  .act (.mirrorClaim claim) fun reply =>
    match reply with
    | .counted _ => .done ()
    | .duplicateKey => raise "DuplicateKeyError"
    | .unavailable => raise "RecoverableAdapterError"

def isReplay (winner : Option OrchestratorRunState) (commandId : CommandId) : Bool :=
  winner.any (commandId ∈ ·.processedCommandIds)

/-- After the replacement: the newer row of the same token is laid over the candidate. -/
def mirrorAfterReplace (candidate : OrchestratorRunState) : StoreProg MongoRunStoreResult := do
  match ← loadRecoveryClaim with
  | none => return ⟨.accepted, some candidate⟩
  | some claim =>
      if candidate.recoveryClaim.kind = .execution ∧ claim.kind = .execution ∧
          candidate.recoveryClaim.ownerId = claim.ownerId then
        mirrorRecoveryClaim claim
        return ⟨.accepted, some { candidate with recoveryClaim := claim }⟩
      else
        return ⟨.accepted, some candidate⟩

def replaceRun (candidate : OrchestratorRunState) (expectedStateVersion : Nat)
    (commandId : CommandId) : StoreProg MongoRunStoreResult :=
  .act (.replaceRun expectedStateVersion candidate) fun reply =>
    match reply with
    | .counted true => mirrorAfterReplace candidate
    | .counted false => do
        let winner ← load
        return ⟨if isReplay winner commandId then .replayed else .conflict, winner⟩
    | .duplicateKey => do
        let winner ← load
        return ⟨.conflict, winner⟩
    | .unavailable => do
        let winner ← load
        if isReplay winner commandId then return ⟨.replayed, winner⟩
        else raise "RecoverableAdapterError"

def casMutate (run : OrchestratorRunState) (expectedStateVersion : Nat) (commandId : CommandId) :
    StoreProg MongoRunStoreResult := do
  match ← load with
  | none => return ⟨.error, none⟩
  | some current =>
      if commandId ∈ current.processedCommandIds then
        return ⟨.replayed, some current⟩
      else if current.stateVersion ≠ expectedStateVersion ∨
          run.stateVersion ≠ expectedStateVersion + 1 then
        return ⟨.conflict, some current⟩
      else
        let candidate ← validated (withCommand run commandId)
        if !cancellationTransitionAllowed current candidate then
          return ⟨.conflict, some current⟩
        else
          replaceRun candidate expectedStateVersion commandId

/-! ## The dedicated lease -/

/-- The row after a reply was lost: `claim` when it is exactly there. -/
def confirmLease (claim : RecoveryClaim) : StoreProg Bool := do
  let persisted ← loadRecoveryClaim
  if persisted = some claim then return true else raise "RecoverableAdapterError"

def insertRecoveryLease (claim : RecoveryClaim) : StoreProg (Option RecoveryClaim) :=
  .act .findLease fun reply =>
    match reply with
    | .answer (some _) => .done none
    | .answer none =>
        .act (.insertLease claim) fun inserted =>
          match inserted with
          | .counted _ => .done (some claim)
          | .duplicateKey => .done none
          | .unavailable => do
              let _ ← confirmLease claim
              return some claim
    | .unavailable => do
        let _ ← confirmLease claim
        return some claim

def claimDedicatedRecoveryLease (ownerId : String) (leaseExpiresAt claimedAt : Timestamp) :
    StoreProg (Option RecoveryClaim) := do
  let existing ← loadRecoveryClaim
  if existing.any (!recoveryClaimIsDue · claimedAt) then
    return none
  else
    let claim := { existing.getD {} with
      ownerId := some ownerId, leaseExpiresAt := some leaseExpiresAt, nextAttemptAt := none }
    .act (.claimLease claimedAt claim) fun reply =>
      match reply with
      | .counted true => .done (some claim)
      | .counted false => insertRecoveryLease claim
      | .duplicateKey => .done none
      | .unavailable => do
          let _ ← confirmLease claim
          return some claim

def updateDedicatedRecoveryLease (ownerId : String) (claim : RecoveryClaim) : StoreProg Bool :=
  .act (.updateLease ownerId claim) fun reply =>
    match reply with
    | .counted matched => .done matched
    | .duplicateKey => raise "DuplicateKeyError"
    | .unavailable => confirmLease claim

/-! ## Recovery and cancellation -/

/-- `RecoveryClaim(kind="cancellation", next_attempt_at=requested_at)` -/
def cancellationClaim (requestedAt : Timestamp) : RecoveryClaim where
  kind := .cancellation
  nextAttemptAt := some requestedAt

def replaceCancellationRecovery (requestedAt : Timestamp) : StoreProg Unit :=
  .act (.upsertLease (cancellationClaim requestedAt)) fun reply =>
    match reply with
    | .counted _ => mirrorRecoveryClaim (cancellationClaim requestedAt)
    | .duplicateKey => raise "DuplicateKeyError"
    | .unavailable => raise "RecoverableAdapterError"

structure RequestCancellation where
  expectedStateVersion : Nat
  commandId : CommandId
  cause : CancellationCause
  requestedAt : Timestamp
  deriving DecidableEq

def cancelingRun (run : OrchestratorRunState) (request : RequestCancellation) :
    OrchestratorRunState :=
  { run with
    status := .canceling
    cancellationCommandId := some request.commandId
    cancellationRequestedAt := some request.requestedAt
    cancellationCause := some request.cause
    recoveryClaim := cancellationClaim request.requestedAt
    stateVersion := run.stateVersion + 1
    updatedAt := request.requestedAt }

def requestCancellation (request : RequestCancellation) : StoreProg MongoRunStoreResult := do
  match ← load with
  | none => return ⟨.error, none⟩
  | some run =>
      if request.commandId ∈ run.processedCommandIds then
        replaceCancellationRecovery request.requestedAt
        return ⟨.replayed, some run⟩
      else if run.stateVersion ≠ request.expectedStateVersion ∨
          run.status ∉ [.queued, .running, .waitingExternal, .awaitingUser] then
        return ⟨.conflict, some run⟩
      else
        let stored ← casMutate (cancelingRun run request) run.stateVersion request.commandId
        if stored.outcome = .accepted ∨ stored.outcome = .replayed then
          replaceCancellationRecovery request.requestedAt
          match ← load with
          | none => return stored
          | some latest => return ⟨stored.outcome, some latest⟩
        else
          return stored

structure ScheduleRecovery where
  expectedStateVersion : Nat
  nextAttemptAt : Timestamp
  deriving DecidableEq

def scheduleRecovery (request : ScheduleRecovery) : StoreProg MongoRunStoreResult := do
  match ← load with
  | none => return ⟨.conflict, none⟩
  | some run =>
      if run.stateVersion ≠ request.expectedStateVersion ∨
          run.status.isTerminal ∨ run.status = .canceling ∨
          run.recoveryClaim.kind ≠ .execution ∨ run.recoveryClaim.ownerId.isSome ∨
          run.recoveryClaim.quarantinedAt.isSome then
        return ⟨.conflict, some run⟩
      else
        match run.recoveryClaim.nextAttemptAt with
        | none => return ⟨.replayed, some run⟩
        | some due =>
            if due ≤ request.nextAttemptAt then
              return ⟨.replayed, some run⟩
            else
              let claim := { run.recoveryClaim with nextAttemptAt := some request.nextAttemptAt }
              let admitted ← casMutate
                { run with recoveryClaim := claim, stateVersion := run.stateVersion + 1 }
                run.stateVersion ⟨"schedule-recovery", [run.stateVersion, request.nextAttemptAt]⟩
              if admitted.outcome ≠ .accepted ∧ admitted.outcome ≠ .replayed then
                return admitted
              else
                .act (.scheduleLease due request.nextAttemptAt) fun reply =>
                  match reply with
                  | .counted true => do
                      let latest ← load
                      return ⟨.accepted, latest⟩
                  | .counted false => do
                      match ← loadRecoveryClaim with
                      | some _ =>
                          let latest ← load
                          return ⟨.conflict, latest⟩
                      | none =>
                          .act (.insertLease claim) fun inserted =>
                            match inserted with
                            | .counted _ => do
                                let latest ← load
                                return ⟨.accepted, latest⟩
                            | .duplicateKey => do
                                let latest ← load
                                return ⟨.conflict, latest⟩
                            | .unavailable => raise "RecoverableAdapterError"
                  | .duplicateKey => raise "DuplicateKeyError"
                  | .unavailable => raise "RecoverableAdapterError"

structure ClaimRecovery where
  expectedStateVersion : Nat
  leaseExpiresAt : Timestamp
  claimedAt : Timestamp
  allowScheduled : Bool := false
  deriving DecidableEq

/-- The row of a claim whose Run write was refused is given back. -/
def rollBackClaim (ownerId : String) (run : OrchestratorRunState)
    (claimed : MongoRunStoreResult) : StoreProg MongoRunStoreResult := do
  let released := { run.recoveryClaim with ownerId := none, leaseExpiresAt := none }
  if ← updateDedicatedRecoveryLease ownerId released then
    mirrorRecoveryClaim released
  return claimed

def claimRecovery (ownerId : String) (request : ClaimRecovery) :
    StoreProg MongoRunStoreResult := do
  match ← load with
  | none => return ⟨.conflict, none⟩
  | some run =>
      let due := recoveryClaimIsDue run.recoveryClaim request.claimedAt
      if run.stateVersion ≠ request.expectedStateVersion ∨
          request.leaseExpiresAt ≤ request.claimedAt ∨
          (run.recoveryClaim.ownerId.isSome ∧ !due) ∨ (!request.allowScheduled ∧ !due) then
        return ⟨.conflict, some run⟩
      else
        match ← claimDedicatedRecoveryLease ownerId request.leaseExpiresAt request.claimedAt with
        | none =>
            let latest ← load
            return ⟨.conflict, latest⟩
        | some acquired =>
            let claimed ← casMutate
              { run with recoveryClaim := acquired, stateVersion := run.stateVersion + 1 }
              run.stateVersion ⟨"claim", [ownerId, run.stateVersion]⟩
            if claimed.outcome ≠ .accepted ∧ claimed.outcome ≠ .replayed then
              rollBackClaim ownerId run claimed
            else
              return claimed

structure RenewRecovery where
  expectedStateVersion : Nat
  ownerId : String
  leaseExpiresAt : Timestamp
  deriving DecidableEq

def renewRecovery (request : RenewRecovery) : StoreProg MongoRunStoreResult := do
  match ← load with
  | none => return ⟨.conflict, none⟩
  | some run =>
      if run.stateVersion ≠ request.expectedStateVersion ∨
          run.recoveryClaim.ownerId ≠ some request.ownerId then
        return ⟨.conflict, some run⟩
      else
        let claim := { run.recoveryClaim with leaseExpiresAt := some request.leaseExpiresAt }
        if ← updateDedicatedRecoveryLease request.ownerId claim then
          mirrorRecoveryClaim claim
          return ⟨.accepted, some { run with recoveryClaim := claim }⟩
        else
          let latest ← load
          return ⟨.conflict, latest⟩

structure ReleaseRecovery where
  expectedStateVersion : Nat
  ownerId : String
  nextAttemptAt : Option Timestamp
  failureCount : Nat := 0
  quarantinedAt : Option Timestamp := none
  quarantineReason : Option QuarantineReason := none
  deriving DecidableEq

/-- The Run write of a release whose row is given back, and its fallback. -/
def mirrorRelease (ownerId : String) (run : OrchestratorRunState) (claim : RecoveryClaim) :
    StoreProg MongoRunStoreResult := do
  let released ← casMutate
    { run with recoveryClaim := claim, stateVersion := run.stateVersion + 1 }
    run.stateVersion ⟨"release", [ownerId, run.stateVersion]⟩
  if released.outcome ≠ .accepted ∧ released.outcome ≠ .replayed then
    mirrorRecoveryClaim claim
    match ← load with
    | none => return released
    | some latest =>
        if latest.recoveryClaim = claim then return ⟨.replayed, some latest⟩
        else return released
  else
    return released

def releaseRecovery (request : ReleaseRecovery) : StoreProg MongoRunStoreResult := do
  match ← load with
  | none => return ⟨.conflict, none⟩
  | some run =>
      if run.stateVersion ≠ request.expectedStateVersion ∨
          run.recoveryClaim.ownerId ≠ some request.ownerId then
        return ⟨.conflict, some run⟩
      else
        let claim : RecoveryClaim :=
          { kind := run.recoveryClaim.kind
            nextAttemptAt := request.nextAttemptAt
            failureCount := request.failureCount
            quarantinedAt := request.quarantinedAt
            quarantineReason := request.quarantineReason }
        checked (quarantineFieldsArePaired claim)
        if ← updateDedicatedRecoveryLease request.ownerId claim then
          mirrorRelease request.ownerId run claim
        else
          let latest ← load
          return ⟨.conflict, latest⟩

end Hybro.RunStore
