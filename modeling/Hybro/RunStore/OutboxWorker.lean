import Mathlib.Algebra.Group.Nat.Defs
import Hybro.RunStore.Store

/-! # The projection outbox worker

The intent transitions of the run store, the worker that claims, projects and
completes intents, and the other ways in which a Run is mutated.
-/

namespace Hybro.RunStore

open Orchestrator Interleaving

/-! ## Intent transitions of the store -/

def findIntent (run : Option OrchestratorRunState) (intentId : String) :
    Option ProjectionIntent :=
  run.bind fun run => run.projectionOutbox.find? (·.intentId == intentId)

structure IntentUpdate where
  toStatus : ProjectionIntentStatus
  claimOwner : Option String := none
  claimExpiresAt : Option Timestamp := none
  blockedReason : Option String := none
  nextAttemptAt : Option Timestamp := none

def IntentUpdate.apply (update : IntentUpdate) (intent : ProjectionIntent) :
    Except String ProjectionIntent :=
  transitionProjectionIntent intent update.toStatus update.claimOwner update.claimExpiresAt
    update.blockedReason update.nextAttemptAt

/-- The outbox with its first intent of that id moved on; `none` without one. -/
def moveIntent (update : IntentUpdate) (intentId : String) :
    List ProjectionIntent → Option (Except String (List ProjectionIntent))
  | [] => none
  | item :: rest =>
      if item.intentId = intentId then
        some (do return (← update.apply item) :: rest)
      else
        (moveIntent update intentId rest).map fun moved => do return item :: (← moved)

/-- `_intent` -/
def intentMutation (intentId : String) (expectedStateVersion : Nat) (update : IntentUpdate)
    (commandId : CommandId) : StoreProg MongoRunStoreResult := do
  match ← load with
  | none => return ⟨.conflict, none⟩
  | some run =>
      if run.stateVersion ≠ expectedStateVersion then
        return ⟨.conflict, some run⟩
      else
        match moveIntent update intentId run.projectionOutbox with
        | none => return ⟨.conflict, some run⟩
        | some (.error message) => raise message
        | some (.ok intents) =>
            casMutate { run with projectionOutbox := intents, stateVersion := run.stateVersion + 1 }
              run.stateVersion commandId

def claimProjectionIntent (intentId : String) (expectedStateVersion : Nat) (ownerId : String)
    (leaseExpiresAt : Timestamp) : StoreProg MongoRunStoreResult :=
  intentMutation intentId expectedStateVersion
    { toStatus := .claimed, claimOwner := some ownerId, claimExpiresAt := some leaseExpiresAt }
    ⟨"claim-intent", [intentId, expectedStateVersion]⟩

def completeProjectionIntent (intentId : String) (expectedStateVersion : Nat) (ownerId : String) :
    StoreProg MongoRunStoreResult := do
  let run ← load
  match findIntent run intentId with
  | none => return ⟨.conflict, run⟩
  | some item =>
      if item.claimOwner ≠ some ownerId then
        return ⟨.conflict, run⟩
      else
        intentMutation intentId expectedStateVersion { toStatus := .completed }
          ⟨"complete-intent", [intentId, expectedStateVersion]⟩

def blockProjectionIntent (intentId : String) (expectedStateVersion : Nat) (ownerId : String)
    (reason : String) : StoreProg MongoRunStoreResult := do
  let run ← load
  match findIntent run intentId with
  | none => return ⟨.conflict, run⟩
  | some item =>
      if item.claimOwner ≠ none ∧ item.claimOwner ≠ some ownerId then
        return ⟨.conflict, run⟩
      else
        intentMutation intentId expectedStateVersion
          { toStatus := .blocked, blockedReason := some reason }
          ⟨"block-intent", [intentId, expectedStateVersion]⟩

def releaseProjectionIntent (intentId : String) (expectedStateVersion : Nat) (ownerId : String)
    (nextAttemptAt now : Timestamp) : StoreProg MongoRunStoreResult := do
  let run ← load
  match findIntent run intentId with
  | none => return ⟨.conflict, run⟩
  | some item =>
      let leaseExpired := item.claimExpiresAt.any (· ≤ now)
      if item.status ≠ .claimed then
        return ⟨.conflict, run⟩
      else if item.claimOwner ≠ some ownerId ∧ !leaseExpired then
        return ⟨.conflict, run⟩
      else
        intentMutation intentId expectedStateVersion
          { toStatus := .pending, nextAttemptAt := some nextAttemptAt }
          ⟨"release-intent", [intentId, expectedStateVersion]⟩

def listDueProjectionIntents (dueAt : Timestamp) (limit : Nat) : StoreProg (List String) :=
  if limit = 0 then .done []
  else .act (.listDueIntents dueAt limit) fun reply => answered reply .done

/-! ## Settlement -/

def settleRun (run : OrchestratorRunState) (now : Timestamp) : StoreProg OrchestratorRunState :=
  let transition := transitionProjectionSettlement run run.stateVersion now
  if transition.outcome ≠ .accepted then return run
  else do
    let result ← casMutate transition.run run.stateVersion
      ⟨"settle", [run.runId, run.stateVersion]⟩
    return result.run.getD run

/-- `SettlingProjectionDriver.settle` -/
def settlingDriver (now : Timestamp) : StoreProg OrchestratorRunState := do
  match ← load with
  | none => raise "KeyError"
  | some run => settleRun run now

/-! ## The worker -/

/-- Durations are milliseconds; `projectors` are the kinds that have a projector. -/
structure ProjectionOutboxWorker where
  projectors : List String
  workerId : String := "orchestrator-projection"
  leaseDuration : Nat := 60000
  maxAttempts : Nat := 8
  backoffBase : Nat := 2000
  backoffMax : Nat := 300000
  batchLimit : Nat := 100
  afterProject : Bool := false

namespace ProjectionOutboxWorker

variable (worker : ProjectionOutboxWorker)

def settlementKind : String := "project_terminal_run_status"

def awaitsOthers (run : OrchestratorRunState) (intent : ProjectionIntent) : Bool :=
  intent.kind == settlementKind && run.projectionOutbox.any fun item =>
    item.required && item.intentId != intent.intentId && item.status != .completed

def callProjector (intent : ProjectionIntent) (run : OrchestratorRunState) :
    StoreProg StoreOutcome :=
  if intent.kind ∉ worker.projectors then .done .error
  else .act (.project intent run) fun reply =>
    match reply with
    | .returned outcome => .done outcome
    | .raised => .done .error

def acknowledge (run : OrchestratorRunState) (intent : ProjectionIntent) (now : Timestamp) :
    StoreProg Bool := do
  let completed ← completeProjectionIntent intent.intentId run.stateVersion worker.workerId
  let known ←
    match completed.outcome, completed.run with
    | .accepted, some latest => pure latest
    | .replayed, some latest => pure latest
    | _, _ => do
        let latest ← load
        pure (latest.getD run)
  let settled ← settleRun known now
  if intent.kind ≠ settlementKind ∧ settled.projectionState = .settled ∧ worker.afterProject then
    .act (.afterProject intent settled) fun reply => answered reply fun _ => .done true
  else
    return true

/-- After a projector has failed: block after too many attempts, else back off. -/
def giveBack (run : OrchestratorRunState) (intent : ProjectionIntent) (now : Timestamp) :
    StoreProg Bool :=
  if worker.maxAttempts ≤ intent.attemptCount then do
    let blocked ← blockProjectionIntent intent.intentId run.stateVersion worker.workerId
      "projection attempts exceeded"
    let _ ← settleRun (blocked.run.getD run) now
    return false
  else do
    let delay := min (worker.backoffBase * 2 ^ (intent.attemptCount - 1)) worker.backoffMax
    let _ ← releaseProjectionIntent intent.intentId run.stateVersion worker.workerId (now + delay) now
    return false

def projectPending (run : OrchestratorRunState) (intent : ProjectionIntent) (now : Timestamp) :
    StoreProg Bool :=
  if intent.status ≠ .pending then .done false
  else if awaitsOthers run intent then .done false
  else do
    let claimed ← claimProjectionIntent intent.intentId run.stateVersion worker.workerId
      (now + worker.leaseDuration)
    match claimed.run with
    | none => return false
    | some taken =>
        if claimed.outcome ≠ .accepted ∧ claimed.outcome ≠ .replayed then
          return false
        else
          match findIntent (some taken) intent.intentId with
          | none => return false
          | some own =>
              if own.status ≠ .claimed then
                return false
              else do
                let outcome ← worker.callProjector own taken
                if outcome = .accepted ∨ outcome = .replayed then
                  worker.acknowledge taken own now
                else
                  worker.giveBack taken own now

def processIntent (intentId : String) (now : Timestamp) : StoreProg Bool := do
  match ← load with
  | none => return false
  | some run =>
      match findIntent (some run) intentId with
      | none => return false
      | some intent =>
          if intent.status = .completed ∨ intent.status = .blocked then
            return false
          else if intent.status = .claimed then
            if !intent.claimExpiresAt.any (· ≤ now) then
              return false
            else
              let released ← releaseProjectionIntent intentId run.stateVersion
                (match intent.claimOwner with
                  | some owner => if owner = "" then worker.workerId else owner
                  | none => worker.workerId) now now
              match released.run with
              | none => return false
              | some latest =>
                  match findIntent (some latest) intentId with
                  | none => return false
                  | some freed => worker.projectPending latest freed now
          else
            worker.projectPending run intent now

def processDue (now : Timestamp) : List String → StoreProg Nat
  | [] => .done 0
  | intentId :: rest => do
      let progressed ← worker.processIntent intentId now
      let others ← processDue now rest
      return (if progressed then 1 else 0) + others

def runOnce (now : Timestamp) : StoreProg Nat := do
  let due ← listDueProjectionIntents now worker.batchLimit
  worker.processDue now due

end ProjectionOutboxWorker

/-! ## Other mutations of the Run -/

/-- Any mutation outside settlement: the outbox, the projection state and a terminal
status stay as they are. -/
structure RunMutation where
  apply : OrchestratorRunState → OrchestratorRunState
  commandId : OrchestratorRunState → CommandId
  keepsOutbox : ∀ run, (apply run).projectionOutbox = run.projectionOutbox
  keepsProjectionState : ∀ run, (apply run).projectionState = run.projectionState
  keepsTerminal : ∀ run, run.status.isTerminal → (apply run).status = run.status

def mutateRun (mutation : RunMutation) : StoreProg MongoRunStoreResult := do
  match ← load with
  | none => return ⟨.error, none⟩
  | some run => casMutate (mutation.apply run) run.stateVersion (mutation.commandId run)

def completeRun (facts : TerminalDecisionFacts) (request : TerminalCommitRequest) :
    StoreProg MongoRunStoreResult := do
  match ← load with
  | none => return ⟨.error, none⟩
  | some run =>
      let transition ← checked (commitTerminalDecision run facts request)
      if transition.outcome ≠ .accepted then return ⟨transition.outcome, some run⟩
      else casMutate transition.run run.stateVersion request.commandId

def terminateRun (request : TerminalStatusCommitRequest) : StoreProg MongoRunStoreResult := do
  match ← load with
  | none => return ⟨.error, none⟩
  | some run =>
      let transition ← checked (commitTerminalStatus run request)
      if transition.outcome ≠ .accepted then return ⟨transition.outcome, some run⟩
      else casMutate transition.run run.stateVersion request.commandId

end Hybro.RunStore
