import Hybro.Library.LogPrefix

/-! # The snapshot service

`SnapshotService` over the room logs. Its folds are objects that `apply` mutates,
so a checkpoint is an address: the objects are kept in a list, and `deepcopy` is
the allocation of a new one. One call at a time runs for a room; every page it reads
is one step, between which the logs grow, other rooms are served and checkpoints are
evicted. The fold and what it shows are parameters.
-/

namespace Hybro.Delivery

open LogPrefix

variable {Room R F S : Type} [DecidableEq Room]

structure SnapshotService (R F S : Type) where
  fold : Fold R F
  state : F → Nat → S
  capacity : Nat
  readLimit : Nat

/-- `(watermark, fold)`, the fold by its address. -/
structure Checkpoint where
  watermark : Nat
  fold : Nat
  deriving DecidableEq

/-- The local variables of `_snapshot_locked`. -/
structure SnapshotCall where
  force : Bool
  cached : Option Checkpoint
  fold : Nat
  expected : Nat
  foldedAny : Bool := false
  deriving DecidableEq

structure ServiceState (Room R F : Type) where
  logs : Room → Log R
  objects : List F
  checkpoints : Room → Option Checkpoint
  /-- The rooms that have a checkpoint, the one to be evicted first at the front. -/
  order : List Room
  calls : Room → Option SnapshotCall

def initialService (logs : Room → Log R) : ServiceState Room R F where
  logs := logs
  objects := []
  checkpoints _ := none
  order := []
  calls _ := none

inductive ServiceEvent (Room S : Type)
  | quiet
  | returned (room : Room) (roomSeq : Nat) (snapshot : S)
  | raised (room : Room)

section Service

variable (service : SnapshotService R F S)

def objectAt (state : ServiceState Room R F) (address : Nat) : F :=
  state.objects[address]?.getD service.fold.init

def withCall (state : ServiceState Room R F) (room : Room) (call : Option SnapshotCall) :
    ServiceState Room R F :=
  { state with calls := fun other => if other = room then call else state.calls other }

def withObject (state : ServiceState Room R F) (address : Nat) (fold : F) :
    ServiceState Room R F :=
  { state with objects := state.objects.set address fold }

def remember (state : ServiceState Room R F) (room : Room) (checkpoint : Checkpoint) :
    ServiceState Room R F :=
  let order := state.order.filter (· ≠ room) ++ [room]
  let evicted := order.take (order.length - service.capacity)
  { state with
    checkpoints := fun other =>
      if other ∈ evicted then none
      else if other = room then some checkpoint
      else state.checkpoints other
    order := order.drop (order.length - service.capacity) }

def snapshotStart (state : ServiceState Room R F) (room : Room) (force : Bool) : Nat × F :=
  match if force then none else state.checkpoints room with
  | none => (0, service.fold.init)
  | some checkpoint => (checkpoint.watermark, objectAt service state checkpoint.fold)

/-- The start of `_snapshot_locked`: a fresh fold, or a copy of the checkpoint's. -/
def beginSnapshot (state : ServiceState Room R F) (room : Room) (force : Bool) :
    ServiceState Room R F :=
  let start := snapshotStart service state room force
  withCall { state with objects := state.objects ++ [start.2] } room
    (some ⟨force, state.checkpoints room, state.objects.length, start.1 + 1, false⟩)

/-- The return of what the call has folded. -/
def freshSnapshot (state : ServiceState Room R F) (room : Room) (call : SnapshotCall) :
    ServiceEvent Room S × ServiceState Room R F :=
  let watermark := call.expected - 1
  (.returned room watermark (service.state (objectAt service state call.fold) watermark),
    if call.force || call.foldedAny || 0 < watermark then
      remember service (withCall state room none) room ⟨watermark, call.fold⟩
    else withCall state room none)

/-- What follows the reading loop: a forced refold that saw less than the checkpoint gives way
to it. -/
def finishSnapshot (state : ServiceState Room R F) (room : Room) (call : SnapshotCall) :
    ServiceEvent Room S × ServiceState Room R F :=
  match call.cached with
  | none => freshSnapshot service state room call
  | some cached =>
      if call.expected - 1 < cached.watermark then
        (.returned room cached.watermark
          (service.state (objectAt service state cached.fold) cached.watermark),
          withCall state room none)
      else freshSnapshot service state room call

/-- One round of the reading loop, and the end of the call when it was the last. -/
def readSnapshot (state : ServiceState Room R F) (room : Room) (call : SnapshotCall) :
    ServiceEvent Room S × ServiceState Room R F :=
  let records := (state.logs room).range (call.expected - 1) service.readLimit
  if records = [] then finishSnapshot service state room call
  else
    match readPage service.fold (objectAt service state call.fold) call.expected call.foldedAny
        records with
    | .refused fold => (.raised room, withCall (withObject state call.fold fold) room none)
    | .read fold expected foldedAny reachedGap =>
        let next := { call with expected := expected, foldedAny := foldedAny }
        let written := withCall (withObject state call.fold fold) room (some next)
        if reachedGap || records.length < service.readLimit then
          finishSnapshot service written room next
        else (.quiet, written)

inductive ServiceStep :
    ServiceState Room R F → ServiceEvent Room S → ServiceState Room R F → Prop
  /-- Events are appended and holes are filled. -/
  | grown {state : ServiceState Room R F} {logs : Room → Log R}
      (h : ∀ room, (state.logs room).Extends (logs room)) :
      ServiceStep state .quiet { state with logs := logs }
  | evicted {state : ServiceState Room R F} (kept : Room → Bool) :
      ServiceStep state .quiet { state with
        checkpoints := fun room => if kept room then state.checkpoints room else none
        order := state.order.filter kept }
  | begun {state : ServiceState Room R F} {room : Room} (force : Bool)
      (hidle : state.calls room = none) :
      ServiceStep state .quiet (beginSnapshot service state room force)
  | read {state : ServiceState Room R F} {room : Room} {call : SnapshotCall}
      (hcall : state.calls room = some call) :
      ServiceStep state (readSnapshot service state room call).1
        (readSnapshot service state room call).2

/-! ## The invariant -/

/-- The object is the fold of the room's log up to this position. -/
structure Folded (state : ServiceState Room R F) (room : Room) (address position : Nat) : Prop where
  allocated : address < state.objects.length
  prefixFold : foldPrefix service.fold (state.logs room) position =
    some (objectAt service state address)

/-- A checkpoint that is stored, or that a running call has read. -/
def Shared (state : ServiceState Room R F) (room : Room) (checkpoint : Checkpoint) : Prop :=
  state.checkpoints room = some checkpoint ∨
    ∃ call, state.calls room = some call ∧ call.cached = some checkpoint

structure ServiceInv (state : ServiceState Room R F) : Prop where
  shared : ∀ room checkpoint, Shared state room checkpoint →
    Folded service state room checkpoint.fold checkpoint.watermark
  positive : ∀ room call, state.calls room = some call → 1 ≤ call.expected
  folding : ∀ room call, state.calls room = some call →
    Folded service state room call.fold (call.expected - 1)
  /-- The object that a call mutates is nobody else's. -/
  apart : ∀ room call, state.calls room = some call →
    ∀ other checkpoint, Shared state other checkpoint → checkpoint.fold ≠ call.fold
  alone : ∀ room call, state.calls room = some call →
    ∀ other call', state.calls other = some call' → other ≠ room → call'.fold ≠ call.fold
  /-- While a call runs, its room's checkpoint is the one it read. -/
  cached : ∀ room call, state.calls room = some call →
    ∀ checkpoint, state.checkpoints room = some checkpoint → call.cached = some checkpoint

end Service

end Hybro.Delivery
