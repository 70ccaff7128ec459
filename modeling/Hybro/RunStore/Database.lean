import Mathlib.Data.List.Sort
import Hybro.Library.Interleaving
import Hybro.Orchestrator.Settlement

/-! # The two documents of one Run

The Run document and its dedicated recovery row, and the atomic operations the
store sends to them. A write whose reply is lost may or may not have been
applied. The database keeps a log of everything that was asked of it, with the
documents before and after, so that statements about the order of writes can be
made over the log.
-/

namespace Hybro.RunStore

open Orchestrator

/-! ## Documents -/

structure Stored where
  run : Option OrchestratorRunState
  lease : Option RecoveryClaim
  deriving DecidableEq

def Stored.leaseOwner (stored : Stored) : Option String :=
  stored.lease.bind (·.ownerId)

def Stored.leaseKind (stored : Stored) : Option RecoveryKind :=
  stored.lease.map (·.kind)

def recoveryClaimIsDue (claim : RecoveryClaim) (dueAt : Timestamp) : Bool :=
  claim.quarantinedAt.isNone && claim.nextAttemptAt.all (· ≤ dueAt) &&
    claim.leaseExpiresAt.all (· ≤ dueAt)

/-- The predicate under which a claim may overwrite the row. -/
def claimable (row : RecoveryClaim) (claimedAt : Timestamp) : Bool :=
  row.quarantinedAt.isNone && row.nextAttemptAt.all (· ≤ claimedAt) &&
    (row.ownerId.isNone || row.leaseExpiresAt.all (· ≤ claimedAt))

def intentIsDue (dueAt : Timestamp) (intent : ProjectionIntent) : Bool :=
  (intent.status == .pending && intent.nextAttemptAt.all (· ≤ dueAt)) ||
    (intent.status == .claimed && intent.claimExpiresAt.any (· ≤ dueAt))

/-! ## Operations -/

inductive Reply (α : Type)
  | answer (value : α)
  | unavailable
  deriving DecidableEq

inductive WriteReply
  | counted (matched : Bool)
  | duplicateKey
  | unavailable
  deriving DecidableEq

inductive ProjectorReply
  | returned (outcome : StoreOutcome)
  | raised
  deriving DecidableEq

inductive StoreOp
  | findRun
  | findLease
  | replaceRun (expectedStateVersion : Nat) (candidate : OrchestratorRunState)
  | mirrorClaim (claim : RecoveryClaim)
  | claimLease (claimedAt : Timestamp) (claim : RecoveryClaim)
  | updateLease (ownerId : String) (claim : RecoveryClaim)
  | scheduleLease (due nextAttemptAt : Timestamp)
  | insertLease (claim : RecoveryClaim)
  | upsertLease (claim : RecoveryClaim)
  | listDueIntents (dueAt : Timestamp) (limit : Nat)
  | project (intent : ProjectionIntent) (run : OrchestratorRunState)
  | afterProject (intent : ProjectionIntent) (run : OrchestratorRunState)
  | raise (message : String)

/-- `raise` has no reply: the call stops there. -/
abbrev StoreOp.Res : StoreOp → Type
  | .findRun => Reply (Option OrchestratorRunState)
  | .findLease => Reply (Option RecoveryClaim)
  | .replaceRun .. | .mirrorClaim .. | .claimLease .. | .updateLease .. | .scheduleLease ..
  | .insertLease .. | .upsertLease .. => WriteReply
  | .listDueIntents .. => Reply (List String)
  | .project .. => ProjectorReply
  | .afterProject .. => Reply Unit
  | .raise _ => Empty

def conditionalWrite (applies : Bool) (before after : Stored) : List (WriteReply × Stored) :=
  if applies then [(.counted true, after), (.unavailable, after), (.unavailable, before)]
  else [(.counted false, before), (.unavailable, before)]

def answers {α : Type} (value : α) (stored : Stored) : List (Reply α × Stored) :=
  [(.answer value, stored), (.unavailable, stored)]

def StoreOp.outcomes : (op : StoreOp) → Stored → List (op.Res × Stored)
  | .findRun, stored => answers stored.run stored
  | .findLease, stored => answers stored.lease stored
  | .replaceRun expectedStateVersion candidate, stored =>
      -- a unique index other than the one on the run id may refuse the document
      (.duplicateKey, stored) ::
        conditionalWrite (stored.run.any (·.stateVersion == expectedStateVersion)) stored
          { stored with run := some candidate }
  | .mirrorClaim claim, stored =>
      conditionalWrite
        (stored.run.any fun run => claim.kind == .cancellation || run.status != .canceling) stored
        { stored with run := stored.run.map ({ · with recoveryClaim := claim }) }
  | .claimLease claimedAt claim, stored =>
      conditionalWrite (stored.lease.any (claimable · claimedAt)) stored
        { stored with lease := some claim }
  | .updateLease ownerId claim, stored =>
      conditionalWrite (stored.leaseOwner == some ownerId) stored
        { stored with lease := some claim }
  | .scheduleLease due nextAttemptAt, stored =>
      conditionalWrite
        (stored.lease.any fun row => row.kind == .execution && row.ownerId.isNone &&
          row.quarantinedAt.isNone && row.nextAttemptAt == some due) stored
        { stored with lease := stored.lease.map ({ · with nextAttemptAt := some nextAttemptAt }) }
  | .insertLease claim, stored =>
      match stored.lease with
      | some _ => [(.duplicateKey, stored), (.unavailable, stored)]
      | none => conditionalWrite true stored { stored with lease := some claim }
  | .upsertLease claim, stored =>
      conditionalWrite true stored { stored with lease := some claim }
  | .listDueIntents dueAt limit, stored =>
      let intents := stored.run.elim [] (·.projectionOutbox)
      let updatedAt := stored.run.elim 0 (·.updatedAt)
      let dueAtOf := fun intent : ProjectionIntent =>
        (intent.nextAttemptAt <|> intent.claimExpiresAt).getD updatedAt
      answers ((((intents.filter (intentIsDue dueAt)).insertionSort
        (dueAtOf · ≤ dueAtOf ·)).take limit).map (·.intentId)) stored
  | .project _ _, stored =>
      [(.returned .accepted, stored), (.returned .replayed, stored),
        (.returned .conflict, stored), (.returned .error, stored), (.raised, stored)]
  | .afterProject _ _, stored => answers () stored
  | .raise _, _ => []

/-! ## The database -/

structure LogEntry (Call : Type) where
  thread : Nat
  call : Call
  op : StoreOp
  reply : op.Res
  clock : Timestamp
  before : Stored
  after : Stored

structure Database (Call : Type) where
  stored : Stored
  clock : Timestamp
  log : List (LogEntry Call)

variable {Call : Type}

structure Executes (thread : Nat) (call : Call) (op : StoreOp) (s : Database Call)
    (reply : op.Res) (s' : Database Call) : Prop where
  outcome : (reply, s'.stored) ∈ op.outcomes s.stored
  clock : s'.clock = s.clock
  log : s'.log = ⟨thread, call, op, reply, s.clock, s.stored, s'.stored⟩ :: s.log

def Database.outcomes (thread : Nat) (call : Call) (op : StoreOp) (s : Database Call) :
    List (op.Res × Database Call) :=
  (op.outcomes s.stored).map fun (reply, stored) =>
    (reply, ⟨stored, s.clock, ⟨thread, call, op, reply, s.clock, s.stored, stored⟩ :: s.log⟩)

theorem Database.outcomes_executes {thread : Nat} {call : Call} {op : StoreOp}
    {s s' : Database Call} {reply : op.Res} (h : (reply, s') ∈ s.outcomes thread call op) :
    Executes thread call op s reply s' := by
  obtain ⟨⟨reply', stored⟩, hmem, heq⟩ := List.mem_map.mp h
  cases heq
  exact ⟨hmem, rfl, rfl⟩

structure Ticks (s s' : Database Call) : Prop where
  stored : s'.stored = s.stored
  clock : s.clock ≤ s'.clock
  log : s'.log = s.log

/-! ## What each operation can do -/

@[simp] theorem mem_conditionalWrite {applies : Bool} {before after stored : Stored}
    {reply : WriteReply} :
    (reply, stored) ∈ conditionalWrite applies before after ↔
      (applies = true ∧ (reply = .counted true ∧ stored = after ∨
        reply = .unavailable ∧ (stored = after ∨ stored = before))) ∨
      (applies = false ∧ stored = before ∧ (reply = .counted false ∨ reply = .unavailable)) := by
  cases applies with
  | false => simp [conditionalWrite]; tauto
  | true => simp [conditionalWrite]; tauto

@[simp] theorem mem_answers {α : Type} {value : α} {stored stored' : Stored} {reply : Reply α} :
    (reply, stored') ∈ answers value stored ↔
      stored' = stored ∧ (reply = .answer value ∨ reply = .unavailable) := by
  simp [answers]; tauto

end Hybro.RunStore
