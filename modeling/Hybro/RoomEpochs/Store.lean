import Hybro.RunStore.Database

/-! # Room epochs

`MongoRoomEpochStore` for one room. The collection holds at most one document of a
room, because `room_id` is unique; `activate` and `deactivate` are programs over the
atomic operations on it. A replacement whose acknowledgement is lost may or may not have
been applied.
-/

namespace Hybro.RoomEpochs

open Interleaving
open Orchestrator (StoreOutcome Timestamp)
open RunStore (Reply WriteReply)

/-! ## The document of the room -/

structure RoomEpoch where
  conversationId : String
  epoch : Nat
  highWaterMark : Nat
  active : Bool
  creationId : String
  deletionId : Option String := none
  updatedAt : Timestamp
  deriving DecidableEq

inductive EpochCall
  | activate (creationId : String) (activatedAt : Timestamp)
  | deactivate (epoch : Nat) (deletionId : String) (deactivatedAt : Timestamp)
  deriving DecidableEq

/-- An operation that was carried out, with the document it left. -/
structure Entry where
  thread : Nat
  call : EpochCall
  wrote : Bool
  room : Option RoomEpoch
  deriving DecidableEq

structure EpochStore where
  room : Option RoomEpoch
  /-- The newest first. The code has no such record. -/
  history : List Entry

namespace EpochStore

variable (store : EpochStore) (i : Nat) (call : EpochCall)

def empty : EpochStore := ⟨none, []⟩

def read : EpochStore :=
  { store with history := ⟨i, call, false, store.room⟩ :: store.history }

def write (record : RoomEpoch) : EpochStore :=
  ⟨some record, ⟨i, call, true, some record⟩ :: store.history⟩

end EpochStore

/-! ## Operations -/

inductive EpochOp
  | findRoom
  | findActive
  | replaceActivation (highWaterMark : Option Nat) (record : RoomEpoch)
  | replaceDeactivation (epoch : Nat) (record : RoomEpoch)

abbrev EpochOp.Res : EpochOp → Type
  | .findRoom | .findActive => Reply (Option RoomEpoch)
  | .replaceActivation .. | .replaceDeactivation .. => WriteReply

/-- A filter that matched: the reply may be lost, and the write with it. -/
def applied (store after : EpochStore) : List (WriteReply × EpochStore) :=
  [(.counted true, after), (.unavailable, after), (.unavailable, store)]

def refused (reply : WriteReply) (store : EpochStore) : List (WriteReply × EpochStore) :=
  [(reply, store), (.unavailable, store)]

/-- One atomic operation of thread `i`. -/
def EpochOp.outcomes (i : Nat) (call : EpochCall) :
    (op : EpochOp) → EpochStore → List (op.Res × EpochStore)
  | .findRoom, store => [(.answer store.room, store.read i call), (.unavailable, store)]
  | .findActive, store =>
      [(.answer (store.room.filter (·.active)), store.read i call), (.unavailable, store)]
  | .replaceActivation none record, store =>
      -- an upsert under a filter that no document meets: the unique index decides
      if store.room.isNone then applied store (store.write i call record)
      else refused .duplicateKey store
  | .replaceActivation (some highWaterMark) record, store =>
      if store.room.any (·.highWaterMark == highWaterMark) then
        applied store (store.write i call record)
      else refused (.counted false) store
  | .replaceDeactivation epoch record, store =>
      if store.room.any fun room => room.epoch == epoch && room.active then
        applied store (store.write i call record)
      else refused (.counted false) store

abbrev EpochProg := Prog EpochOp EpochOp.Res

def findRoom : EpochProg (Reply (Option RoomEpoch)) := .act .findRoom .done

def findActive : EpochProg (Reply (Option RoomEpoch)) := .act .findActive .done

def replaceActivation (highWaterMark : Option Nat) (record : RoomEpoch) : EpochProg WriteReply :=
  .act (.replaceActivation highWaterMark record) .done

def replaceDeactivation (epoch : Nat) (record : RoomEpoch) : EpochProg WriteReply :=
  .act (.replaceDeactivation epoch record) .done

/-! ## The two calls -/

inductive Failure
  | reading
  | writing
  deriving DecidableEq

abbrev EpochResult := Except Failure (StoreOutcome × Option RoomEpoch)

def reading (find : EpochProg (Reply (Option RoomEpoch)))
    (next : Option RoomEpoch → EpochProg EpochResult) : EpochProg EpochResult := do
  match ← find with
  | .answer found => next found
  | .unavailable => return .error .reading

def sameRoomActivation (winner intended : RoomEpoch) : Bool :=
  winner.conversationId == intended.conversationId && winner.epoch == intended.epoch &&
    winner.highWaterMark == intended.highWaterMark && winner.active &&
    winner.creationId == intended.creationId && winner.deletionId.isNone

def sameRoomDeactivation (winner intended : RoomEpoch) : Bool :=
  winner.conversationId == intended.conversationId && winner.epoch == intended.epoch &&
    winner.highWaterMark == intended.highWaterMark && !winner.active &&
    winner.creationId == intended.creationId && winner.deletionId == intended.deletionId

def settle (same : RoomEpoch → RoomEpoch → Bool) (current : Option RoomEpoch) (record : RoomEpoch)
    (reply : WriteReply) : EpochProg EpochResult :=
  if reply = .counted true then return .ok (.accepted, some record)
  else reading findRoom fun winner =>
    if winner.any (same · record) then return .ok (.replayed, winner)
    else if reply = .unavailable then return .error .writing
    else return .ok (.conflict, winner.or current)

def opened (conversationId creationId : String) (activatedAt : Timestamp)
    (current : Option RoomEpoch) : RoomEpoch :=
  let epoch := current.elim 1 (·.highWaterMark + 1)
  { conversationId, epoch, highWaterMark := epoch, active := true, creationId,
    updatedAt := activatedAt }

def activate (conversationId creationId : String) (activatedAt : Timestamp) :
    EpochProg EpochResult :=
  reading findRoom fun current =>
    if current.any (·.active) then
      return .ok (if current.any (·.creationId == creationId) then .replayed else .conflict,
        current)
    else if current.any (·.creationId == creationId) then return .ok (.conflict, current)
    else do
      let record := opened conversationId creationId activatedAt current
      let reply ← replaceActivation (current.map (·.highWaterMark)) record
      settle sameRoomActivation current record reply

def closed (current : RoomEpoch) (deletionId : String) (deactivatedAt : Timestamp) : RoomEpoch :=
  { current with active := false, deletionId := some deletionId, updatedAt := deactivatedAt }

def deactivate (epoch : Nat) (deletionId : String) (deactivatedAt : Timestamp) :
    EpochProg EpochResult :=
  reading findActive fun current =>
    match current.filter (·.epoch == epoch) with
    | none =>
        reading findRoom fun existing =>
          if existing.any fun room =>
              !room.active && room.epoch == epoch && room.deletionId == some deletionId then
            return .ok (.replayed, existing)
          else return .ok (.conflict, existing)
    | some current => do
        let record := closed current deletionId deactivatedAt
        let reply ← replaceDeactivation epoch record
        settle sameRoomDeactivation (some current) record reply

def roomEpochSystem (conversationId : String) : System EpochOp EpochOp.Res where
  State := EpochStore
  Call := EpochCall
  Result := EpochResult
  exec i call op store reply store' := (reply, store') ∈ op.outcomes i call store
  environment := Eq
  admits _ _ := True
  body _
    | .activate creationId activatedAt => activate conversationId creationId activatedAt
    | .deactivate epoch deletionId deactivatedAt => deactivate epoch deletionId deactivatedAt
  initial store := store = .empty

end Hybro.RoomEpochs
