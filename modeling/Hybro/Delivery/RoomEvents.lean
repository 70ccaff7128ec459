import Mathlib.Data.List.Nodup
import Hybro.Library.Interleaving
import Hybro.Library.PythonText

/-! # The room event log without transactions

`MongoRoomEventStore` on its fallback path: the `room_events` and `room_event_seq`
collections with their unique indexes, the atomic operations on them, and `append`
with its healing as a program over these operations.
-/

namespace Hybro.Delivery

open Interleaving PythonText

variable {V : Type}

/-! ## Collections -/

/-- One document of `room_events`; `id` is `_id`. -/
structure RoomEvent (V : Type) where
  id : String
  roomId : String
  roomSeq : Nat
  kind : String
  eventId : Option String
  parentEventId : Option String
  runId : Option String
  ts : Option String
  payloadPublic : List (String × V)
  persistState : String
  deriving DecidableEq

/-- One document of `room_event_seq`. -/
structure RoomCounter where
  seq : Nat := 0
  healedThrough : Nat := 0

structure RoomLog (V : Type) where
  events : List (RoomEvent V)
  counters : String → RoomCounter
  /-- Which thread inserted which document. The code has no such record. -/
  inserted : List (Nat × RoomEvent V)

namespace RoomLog

variable (log : RoomLog V)

def empty : RoomLog V := ⟨[], fun _ => {}, []⟩

/-- One of the two unique indexes refuses the document. -/
def Occupied (event : RoomEvent V) : Prop :=
  ∃ other ∈ log.events,
    other.id = event.id ∨ (other.roomId = event.roomId ∧ other.roomSeq = event.roomSeq)

instance (event : RoomEvent V) : Decidable (log.Occupied event) :=
  inferInstanceAs (Decidable (∃ other ∈ log.events, _))

def eventAt (roomId : String) (roomSeq : Nat) : Option (RoomEvent V) :=
  log.events.find? fun event => event.roomId = roomId ∧ event.roomSeq = roomSeq

def Filled (roomId : String) (roomSeq : Nat) : Prop :=
  ∃ event ∈ log.events, event.roomId = roomId ∧ event.roomSeq = roomSeq

def insert (i : Nat) (event : RoomEvent V) : RoomLog V :=
  { log with events := event :: log.events, inserted := (i, event) :: log.inserted }

def setCounter (roomId : String) (counter : RoomCounter) : RoomLog V :=
  { log with counters := Function.update log.counters roomId counter }

end RoomLog

/-! ## Operations -/

inductive LogOp (V : Type)
  | findOne (id roomId : String)
  | increment (roomId : String)
  | insertOne (event : RoomEvent V)
  | findCounter (roomId : String)
  | findSeqs (roomId : String) (first last limit : Nat)
  | maxHealed (roomId : String) (through : Nat)
  | raise (message : String)

/-- An insert answers whether it was made; `raise` has no reply. -/
abbrev LogOp.Res {V : Type} : LogOp V → Type
  | .findOne .. => Option (RoomEvent V)
  | .increment _ => Nat
  | .insertOne _ => Bool
  | .findCounter _ => RoomCounter
  | .findSeqs .. => List Nat
  | .maxHealed .. => Unit
  | .raise _ => Empty

/-- One atomic operation of thread `i`. -/
def LogOp.outcomes (i : Nat) : (op : LogOp V) → RoomLog V → List (op.Res × RoomLog V)
  | .findOne id roomId, log =>
      [(log.events.find? fun event => event.id = id ∧ event.roomId = roomId, log)]
  | .increment roomId, log =>
      let counter := log.counters roomId
      [(counter.seq + 1, log.setCounter roomId { counter with seq := counter.seq + 1 })]
  | .insertOne event, log =>
      if log.Occupied event then [(false, log)] else [(true, log.insert i event)]
  | .findCounter roomId, log => [(log.counters roomId, log)]
  | .findSeqs roomId first last limit, log =>
      [(((log.events.filter fun event => event.roomId = roomId ∧
          first ≤ event.roomSeq ∧ event.roomSeq ≤ last).take limit).map (·.roomSeq), log)]
  | .maxHealed roomId through, log =>
      let counter := log.counters roomId
      [((), log.setCounter roomId
        { counter with healedThrough := max counter.healedThrough through })]
  | .raise _, _ => []

abbrev LogProg (V : Type) := Prog (LogOp V) LogOp.Res

def LogProg.raise {α : Type} (message : String) : LogProg V α :=
  .act (.raise message) fun reply => nomatch reply

def findOne (id roomId : String) : LogProg V (Option (RoomEvent V)) :=
  .act (.findOne id roomId) .done

def increment (roomId : String) : LogProg V Nat :=
  .act (.increment roomId) .done

def insertOne (event : RoomEvent V) : LogProg V Bool :=
  .act (.insertOne event) .done

def findCounter (roomId : String) : LogProg V RoomCounter :=
  .act (.findCounter roomId) .done

def findSeqs (roomId : String) (first last limit : Nat) : LogProg V (List Nat) :=
  .act (.findSeqs roomId first last limit) .done

def maxHealed (roomId : String) (through : Nat) : LogProg V Unit :=
  .act (.maxHealed roomId through) .done

/-! ## Healing -/

def tombstoneId (roomId : String) (roomSeq : Nat) : String :=
  "skip:" ++ roomId ++ ":" ++ toString roomSeq

def tombstone (roomId : String) (roomSeq : Nat) : RoomEvent V where
  id := tombstoneId roomId roomSeq
  roomId := roomId
  roomSeq := roomSeq
  kind := "skipped"
  eventId := none
  parentEventId := none
  runId := none
  ts := none
  payloadPublic := []
  persistState := "settled"

/-- `_fill_skipped`; also one round of the loop in `_heal_skipped`. -/
def fillSkipped (roomId : String) (roomSeq : Nat) : LogProg V Unit := do
  let _ ← insertOne (tombstone roomId roomSeq)

def fillMissing (roomId : String) (existingSeqs : List Nat) : List Nat → LogProg V Unit
  | [] => .done ()
  | missing :: rest =>
      if missing ∈ existingSeqs then fillMissing roomId existingSeqs rest
      else do
        fillSkipped roomId missing
        fillMissing roomId existingSeqs rest

def healSkipped (skipGrace : Int) (roomId : String) (allocatedSeq : Nat) : LogProg V Unit :=
  if skipGrace ≤ 0 then .done ()
  else if (allocatedSeq : Int) - skipGrace ≤ 0 then .done ()
  else do
    let healThrough := ((allocatedSeq : Int) - skipGrace).toNat
    let counter ← findCounter roomId
    let healedThrough := counter.healedThrough
    if healThrough ≤ healedThrough then return ()
    else
      let scanFrom := healedThrough + 1
      let existingSeqs ←
        findSeqs roomId scanFrom healThrough (healThrough - healedThrough)
      fillMissing roomId existingSeqs (List.range' scanFrom (healThrough + 1 - scanFrom))
      maxHealed roomId healThrough

/-! ## Appending -/

structure RoomEventAppend where
  roomSeq : Nat
  roomEventId : String
  persisted : Bool := true
  deriving DecidableEq

/-- The arguments of one `append`, with the hex text of the `uuid4` it may draw. -/
structure AppendCall (V : Type) where
  conversationId : String
  kind : String
  payloadPublic : List (String × V)
  eventId : Option String := none
  idempotencyKey : Option String := none
  parentEventId : Option String := none
  runId : Option String := none
  persistState : String := "settled"
  ts : Option String := none
  uuidHex : String := ""
  deriving DecidableEq

def AppendCall.id (call : AppendCall V) : String :=
  (((nonEmptyText call.idempotencyKey).or (nonEmptyText call.eventId)).getD
    (call.conversationId ++ ":" ++ call.kind ++ ":" ++ call.uuidHex))

/-- `_room_event_doc` with its sequence number. -/
def AppendCall.event (call : AppendCall V) (roomSeq : Nat) : RoomEvent V where
  id := call.id
  roomId := call.conversationId
  roomSeq := roomSeq
  kind := call.kind
  eventId := call.eventId
  parentEventId := call.parentEventId
  runId := call.runId
  ts := call.ts
  payloadPublic := call.payloadPublic
  persistState := call.persistState

def fallbackInsertAttempts : Nat := 3

/-- One round of the loop for each attempt that is left. -/
def insertAttempts (skipGrace : Int) (call : AppendCall V) : Nat → LogProg V RoomEventAppend
  | 0 => LogProg.raise "room event fallback allocation repeatedly collided before persistence"
  | attempts + 1 => do
      let roomSeq ← increment call.conversationId
      let inserted ← insertOne (call.event roomSeq)
      if inserted then
        healSkipped skipGrace call.conversationId roomSeq
        return ⟨roomSeq, call.id, true⟩
      else
        match ← findOne call.id call.conversationId with
        | some existing =>
            fillSkipped call.conversationId roomSeq
            return ⟨existing.roomSeq, call.id, true⟩
        | none => insertAttempts skipGrace call attempts

def appendFallback (skipGrace : Int) (call : AppendCall V) : LogProg V RoomEventAppend := do
  match ← findOne call.id call.conversationId with
  | some existing => return ⟨existing.roomSeq, call.id, true⟩
  | none => insertAttempts skipGrace call fallbackInsertAttempts

/-- Any number of appends to any rooms, from those that are admitted. -/
def roomLogSystem (skipGrace : Int) (admitted : AppendCall V → Prop) :
    System (LogOp V) LogOp.Res where
  State := RoomLog V
  Call := AppendCall V
  Result := RoomEventAppend
  exec i _ op log reply log' := (reply, log') ∈ op.outcomes i log
  environment := Eq
  admits _ call := admitted call
  body _ := appendFallback skipGrace
  initial log := log = RoomLog.empty

end Hybro.Delivery
