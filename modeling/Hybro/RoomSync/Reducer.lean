import Mathlib.Data.List.Basic
import Mathlib.Logic.Relation

/-! # The room reducer

`RoomReducer` of the client in its sequenced mode: `connected` frames carry a
`room_seq`. A handler runs until it awaits `deps.onDelta`, and goes on from there
when that is fulfilled. What the reducer does is noted in a history, the latest
entry first. What a delta holds and what a snapshot does to the stores are left open.
-/

namespace Hybro.RoomSync

/-! ## Frames -/

structure DeltaFrame (β : Type) where
  roomSeq : Option Nat
  data : β

/-- The frames of a connection. Of a snapshot it is given whether the stores accept it. -/
inductive SyncFrame (β : Type)
  | connected (roomSeq : Nat)
  | snapshot (roomSeq : Nat) (applies : Bool)
  | delta (frame : DeltaFrame β)
  | heartbeat (roomSeq : Option Nat)

inductive SyncEvent
  | connected (roomSeq : Nat)
  | received (roomSeq : Option Nat)
  | applied (watermark : Nat)
  | handed (roomSeq : Nat)
  | fulfilled (roomSeq : Nat)
  | dropped (roomSeq : Nat)
  | rejected (roomSeq : Nat) (abandoned : List Nat)
  | requested
  deriving DecidableEq

/-! ## The reducer -/

def preSnapshotBufferLimit : Nat := 400

structure RoomReducer (β : Type) where
  snapshotApplied : Bool := false
  lastRoomSeq : Option Nat := none
  /-- The highest watermark folded into the stores, which survives reconnects. -/
  appliedRoomSeq : Option Nat := none
  highestObservedRoomSeq : Option Nat := none
  preSnapshotBuffer : List (DeltaFrame β) := []
  reorderBuffer : List (Nat × DeltaFrame β) := []
  reorderTimer : Bool := false
  bootstrapTimer : Bool := false
  heartbeatGapTimer : Bool := false
  bootstrapRequested : Bool := false

structure Room (β : Type) where
  reducer : RoomReducer β := {}
  history : List SyncEvent := []

section Reducer

variable {β : Type}

def Room.note (room : Room β) (event : SyncEvent) : Room β :=
  { room with history := event :: room.history }

def Room.update (room : Room β) (f : RoomReducer β → RoomReducer β) : Room β :=
  { room with reducer := f room.reducer }

/-- `Math.max(known ?? seq, seq)` -/
def maxSeq (known : Option Nat) (seq : Nat) : Nat :=
  max (known.getD seq) seq

def requestSnapshot (room : Room β) : Room β :=
  room.note .requested

def requestBootstrapSnapshotOnce (room : Room β) : Room β :=
  if room.reducer.bootstrapRequested || room.reducer.snapshotApplied then room
  else requestSnapshot (room.update ({ · with bootstrapRequested := true }))

def clearReorderTimerIfEmpty (reducer : RoomReducer β) : RoomReducer β :=
  if reducer.reorderBuffer.isEmpty then { reducer with reorderTimer := false } else reducer

def reconcileObservedWatermark (reducer : RoomReducer β) : RoomReducer β :=
  { reducer with
    heartbeatGapTimer :=
      match reducer.highestObservedRoomSeq, reducer.lastRoomSeq with
      | some observed, some applied => applied < observed
      | _, _ => false }

def onConnected (room : Room β) (roomSeq : Nat) : Room β :=
  (room.update fun reducer =>
    { appliedRoomSeq := reducer.appliedRoomSeq
      lastRoomSeq := some roomSeq
      highestObservedRoomSeq := some roomSeq
      bootstrapTimer := true }).note (.connected roomSeq)

def onHeartbeat (room : Room β) (roomSeq : Option Nat) : Room β :=
  match roomSeq with
  | none => room
  | some seq =>
      if room.reducer.snapshotApplied then
        room.update fun reducer => reconcileObservedWatermark
          { reducer with
            highestObservedRoomSeq := some (maxSeq reducer.highestObservedRoomSeq seq) }
      else room

def bufferDelta (room : Room β) (frame : DeltaFrame β) (seq : Nat) : Room β :=
  if room.reducer.preSnapshotBuffer.length < preSnapshotBufferLimit then
    room.update fun reducer =>
      { reducer with preSnapshotBuffer := reducer.preSnapshotBuffer ++ [frame] }
  else room.note (.dropped seq)

def reorderDelta (room : Room β) (frame : DeltaFrame β) (seq : Nat) : Room β :=
  if room.reducer.reorderBuffer.any (·.1 = seq) then room
  else room.update fun reducer =>
    { reducer with
      reorderBuffer := reducer.reorderBuffer ++ [(seq, frame)]
      reorderTimer := true }

/-- `onDelta` up to the call of `deps.onDelta`, with the `room_seq` that it hands over. -/
def onDelta (room : Room β) (frame : DeltaFrame β) : Room β × Option Nat :=
  match frame.roomSeq with
  | none => (requestBootstrapSnapshotOnce room, none)
  | some seq =>
      if room.reducer.snapshotApplied = false then
        (requestBootstrapSnapshotOnce (bufferDelta room frame seq), none)
      else
        match room.reducer.lastRoomSeq with
        | none => (reorderDelta room frame seq, none)
        | some last =>
            if seq ≤ last then (room, none)
            else if seq = last + 1 then (room.note (.handed seq), some seq)
            else (reorderDelta room frame seq, none)

def drainReorderBuffer (room : Room β) : Room β × Option Nat :=
  if room.reducer.reorderBuffer.isEmpty then (room.update clearReorderTimerIfEmpty, none)
  else
    let expected := room.reducer.lastRoomSeq.getD 0 + 1
    match room.reducer.reorderBuffer.find? (·.1 = expected) with
    | none => (room, none)
    | some (_, next) =>
        onDelta (room.update fun reducer => clearReorderTimerIfEmpty
          { reducer with reorderBuffer := reducer.reorderBuffer.filter (·.1 ≠ expected) }) next

/-! ## Handlers that wait -/

/-- What a handler does after the `onDelta` that it awaits has returned. -/
inductive Continuation (β : Type)
  | returns
  | replays (watermark : Nat) (rest : List (DeltaFrame β))
  | reconciles

/-- The deltas that are still to be replayed. -/
def Continuation.rest : Continuation β → List (DeltaFrame β)
  | .returns => []
  | .replays _ rest => rest
  | .reconciles => []

/-- A handler that awaits `deps.onDelta`. -/
structure Awaiting (β : Type) where
  seq : Nat
  next : Continuation β

/-- The last lines of `onSnapshot`. -/
def endSnapshot (room : Room β) : Room β × Option (Awaiting β) :=
  match drainReorderBuffer room with
  | (room, some seq) => (room, some ⟨seq, .reconciles⟩)
  | (room, none) => (room.update reconcileObservedWatermark, none)

/-- The replay loop of `onSnapshot`. -/
def replayBuffered (watermark : Nat) (room : Room β) :
    List (DeltaFrame β) → Room β × Option (Awaiting β)
  | [] => endSnapshot room
  | delta :: rest =>
      if delta.roomSeq.any (· ≤ watermark) then replayBuffered watermark room rest
      else
        match onDelta room delta with
        | (room, some seq) => (room, some ⟨seq, .replays watermark rest⟩)
        | (room, none) => replayBuffered watermark room rest

def continueWith (room : Room β) : Continuation β → Room β × Option (Awaiting β)
  | .returns => (room, none)
  | .replays watermark rest => replayBuffered watermark room rest
  | .reconciles => (room.update reconcileObservedWatermark, none)

/-- `onDelta` after `deps.onDelta` is fulfilled. -/
def onFulfilled (room : Room β) (awaiting : Awaiting β) : Room β × Option (Awaiting β) :=
  let applied := (room.update fun reducer => reconcileObservedWatermark
    { reducer with
      lastRoomSeq := some awaiting.seq
      appliedRoomSeq := some (maxSeq reducer.appliedRoomSeq awaiting.seq)
      highestObservedRoomSeq := some (maxSeq reducer.highestObservedRoomSeq awaiting.seq) }).note
        (.fulfilled awaiting.seq)
  match drainReorderBuffer applied with
  | (room, some seq) => (room, some ⟨seq, awaiting.next⟩)
  | (room, none) => continueWith room awaiting.next

/-- `deps.onDelta` throws, and with it the handler. -/
def onRejected (room : Room β) (awaiting : Awaiting β) : Room β :=
  room.note (.rejected awaiting.seq (awaiting.next.rest.filterMap (·.roomSeq)))

def withSnapshot (watermark : Nat) (reducer : RoomReducer β) : RoomReducer β :=
  clearReorderTimerIfEmpty
    { reducer with
      snapshotApplied := true
      lastRoomSeq := some watermark
      appliedRoomSeq := some (maxSeq reducer.appliedRoomSeq watermark)
      highestObservedRoomSeq := some (maxSeq reducer.highestObservedRoomSeq watermark)
      reorderBuffer := reducer.reorderBuffer.filter (watermark < ·.1)
      bootstrapTimer := false
      preSnapshotBuffer := [] }

def onSnapshot (room : Room β) (watermark : Nat) (applies : Bool) :
    Room β × Option (Awaiting β) :=
  if room.reducer.appliedRoomSeq.any (watermark < ·) || !applies then (requestSnapshot room, none)
  else
    replayBuffered watermark ((room.update (withSnapshot watermark)).note (.applied watermark))
      room.reducer.preSnapshotBuffer

def handle (room : Room β) : SyncFrame β → Room β × Option (Awaiting β)
  | .connected roomSeq => (onConnected room roomSeq, none)
  | .snapshot roomSeq applies => onSnapshot room roomSeq applies
  | .heartbeat roomSeq => (onHeartbeat room roomSeq, none)
  | .delta frame =>
      match onDelta (room.note (.received frame.roomSeq)) frame with
      | (room, some seq) => (room, some ⟨seq, .returns⟩)
      | (room, none) => (room, none)

/-! ## Timers -/

def reorderTimerFired (room : Room β) : Room β :=
  requestSnapshot (room.update ({ · with reorderTimer := false }))

def bootstrapTimerFired (room : Room β) : Room β :=
  let fired := room.update ({ · with bootstrapTimer := false })
  if room.reducer.snapshotApplied then fired else requestSnapshot fired

def heartbeatGapTimerFired (room : Room β) : Room β :=
  let fired := room.update ({ · with heartbeatGapTimer := false })
  match room.reducer.highestObservedRoomSeq, room.reducer.lastRoomSeq with
  | some observed, some last => if last < observed then requestSnapshot fired else fired
  | _, _ => fired

end Reducer

/-! ## Connections -/

/-- The reducer, the newest connection and the handlers that wait, one for a connection. -/
structure SyncState (β : Type) where
  room : Room β := {}
  connection : Nat := 0
  awaiting : Nat → Option (Awaiting β) := fun _ => none

def SyncState.settle {β : Type} (state : SyncState β) (connection : Nat)
    (outcome : Room β × Option (Awaiting β)) : SyncState β :=
  { state with
    room := outcome.1
    awaiting := fun other => if other = connection then outcome.2 else state.awaiting other }

inductive SyncLabel (β : Type)
  | handled (connection : Nat) (frame : SyncFrame β)
  | fulfilled (connection : Nat)
  | rejected (connection : Nat)
  | timer

def SyncFrame.isConnected {β : Type} : SyncFrame β → Bool
  | .connected _ => true
  | _ => false

/-- A connection hands its frames over one after the other; a newer connection does not wait for
the handlers of an older one. -/
inductive SyncStep {β : Type} : SyncState β → SyncLabel β → SyncState β → Prop
  | opened {state : SyncState β} {connection : Nat} (roomSeq : Nat)
      (hnew : state.connection < connection) (hidle : state.awaiting connection = none) :
      SyncStep state (.handled connection (.connected roomSeq))
        { state.settle connection (handle state.room (.connected roomSeq)) with
          connection := connection }
  | handled {state : SyncState β} {connection : Nat} {frame : SyncFrame β}
      (hframe : frame.isConnected = false) (hpositive : 1 ≤ connection)
      (hopen : connection ≤ state.connection) (hidle : state.awaiting connection = none) :
      SyncStep state (.handled connection frame)
        (state.settle connection (handle state.room frame))
  | fulfilled {state : SyncState β} {connection : Nat} {awaiting : Awaiting β}
      (h : state.awaiting connection = some awaiting) :
      SyncStep state (.fulfilled connection)
        (state.settle connection (onFulfilled state.room awaiting))
  | rejected {state : SyncState β} {connection : Nat} {awaiting : Awaiting β}
      (h : state.awaiting connection = some awaiting) :
      SyncStep state (.rejected connection)
        (state.settle connection (onRejected state.room awaiting, none))
  | reorderTimer {state : SyncState β} (h : state.room.reducer.reorderTimer = true) :
      SyncStep state .timer { state with room := reorderTimerFired state.room }
  | bootstrapTimer {state : SyncState β} (h : state.room.reducer.bootstrapTimer = true) :
      SyncStep state .timer { state with room := bootstrapTimerFired state.room }
  | heartbeatGapTimer {state : SyncState β} (h : state.room.reducer.heartbeatGapTimer = true) :
      SyncStep state .timer { state with room := heartbeatGapTimerFired state.room }

def SyncState.Waits {β : Type} (state : SyncState β) (handler : Awaiting β) : Prop :=
  ∃ connection, state.awaiting connection = some handler

/-- A handler that was overtaken writes its older `room_seq` over `lastRoomSeq`. -/
def Overwrites {β : Type} (state : SyncState β) : SyncLabel β → Prop
  | .fulfilled connection => ∃ handler last, state.awaiting connection = some handler ∧
      state.room.reducer.lastRoomSeq = some last ∧ handler.seq < last
  | .handled _ _ | .rejected _ | .timer => False

/-- The counter is not overwritten after a snapshot. -/
def Orderly {β : Type} (state : SyncState β) (label : SyncLabel β) : Prop :=
  state.room.reducer.snapshotApplied = true → ¬ Overwrites state label

end Hybro.RoomSync
