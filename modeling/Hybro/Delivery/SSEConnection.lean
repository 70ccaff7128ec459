import Mathlib.Data.List.Basic

/-! # One SSE connection

The queue of a connection, the sends into it and the one consumer that reads from it.
`send_frame` never waits, so each call is one step; `next_frame` waits for a frame, for the
data of a heartbeat and for a recovery snapshot. Entries of the queue remember which send they
come from.
-/

namespace Hybro.Delivery

/-- A frame by its type; `data` is everything else in it. -/
structure Frame (Data : Type) where
  type : Option String
  data : Data
  deriving DecidableEq

variable {Data : Type}

def Frame.isSnapshot (frame : Frame Data) : Bool :=
  frame.type = some "snapshot"

/-- A frame in the queue, with the number of its `send_frame` call if it has one. -/
structure Entry (Data : Type) where
  frame : Frame Data
  sent : Option Nat
  deriving DecidableEq

structure SSEConnection (Data : Type) where
  queueMaxsize : Int := 100
  queue : List (Entry Data) := []
  needsResync : Bool := false
  framesDropped : Nat := 0
  resyncBackoffUntil : Option Int := none
  deriving DecidableEq

namespace SSEConnection

variable (connection : SSEConnection Data)

/-- `Queue.full`: a queue without a positive size is unbounded. -/
def full : Bool :=
  0 < connection.queueMaxsize && connection.queueMaxsize ≤ connection.queue.length

/-- `put_nowait`, where `none` is `QueueFull`. -/
def putNowait (entry : Entry Data) : Option (SSEConnection Data) :=
  if connection.full then none
  else some { connection with queue := connection.queue ++ [entry] }

def keepUnlessSnapshot (entry : Entry Data) : SSEConnection Data :=
  if entry.frame.isSnapshot then { connection with framesDropped := connection.framesDropped + 1 }
  else
    match connection.putNowait entry with
    | some connection => connection
    | none => { connection with framesDropped := connection.framesDropped + 1 }

def evictPendingSnapshots : SSEConnection Data :=
  connection.queue.foldl keepUnlessSnapshot { connection with queue := [] }

/-- `send_frame` on a connection that is not closed, and whether the frame is in the queue. -/
def sendFrame (entry : Entry Data) (droppable : Option Bool) : SSEConnection Data × Bool :=
  match connection.putNowait entry with
  | some connection => (connection, true)
  | none =>
      let marked := { connection with
        needsResync := true, framesDropped := connection.framesDropped + 1 }
      if droppable.getD entry.frame.isSnapshot then (marked, false)
      else
        let evicted := marked.evictPendingSnapshots
        match evicted.putNowait entry with
        | some connection => (connection, true)
        | none => (evicted, false)

/-- `_maybe_enqueue_resync_snapshot` up to the call of the provider, if it is called; times are
in milliseconds. -/
def beginResync (hasProvider : Bool) (now : Int) : Option (SSEConnection Data) :=
  if !connection.needsResync || !hasProvider then none
  else if connection.resyncBackoffUntil.any (now < ·) then none
  else some { connection with resyncBackoffUntil := some (now + 2000) }

/-- The rest of it; without data the provider has failed, is late or has nothing. -/
def finishResync (data : Option Data) : SSEConnection Data :=
  match data with
  | none => connection
  | some data =>
      match connection.putNowait ⟨⟨some "snapshot", data⟩, none⟩ with
      | none => connection
      | some connection => { connection with needsResync := false, resyncBackoffUntil := none }

end SSEConnection

/-! ## The consumer -/

/-- Where the consumer waits: between two calls of `next_frame`, for the queue, for the data of
a heartbeat, or for the provider, with the frame it will return and the number of sends when
the provider was called. -/
inductive Consumer (Data : Type)
  | idle
  | getting
  | beating
  | resyncing (frame : Entry Data) (asked : Nat)
  deriving DecidableEq

/-- A call of `send_frame`. -/
structure Sent (Data : Type) where
  frame : Frame Data
  droppable : Option Bool
  deriving DecidableEq

/-- A delta is a frame other than a snapshot that its sender does not call droppable. -/
def Sent.isDelta (sent : Sent Data) : Bool :=
  !sent.frame.isSnapshot && sent.droppable ≠ some true

/-- A send whose delta the connection lost, with the number of frames delivered before. -/
structure Dropped where
  sent : Nat
  delivered : Nat
  deriving DecidableEq

/-- A connection and its consumer, with what was sent, delivered and dropped so far. -/
structure Stream (Data : Type) where
  connection : SSEConnection Data
  consumer : Consumer Data
  sent : List (Sent Data)
  delivered : List (Entry Data)
  dropped : List Dropped
  deriving DecidableEq

namespace Stream

variable (stream : Stream Data)

def send (sent : Sent Data) : Stream Data :=
  let index := stream.sent.length
  let (connection, queued) := stream.connection.sendFrame ⟨sent.frame, some index⟩ sent.droppable
  { stream with
    connection := connection
    sent := stream.sent ++ [sent]
    dropped :=
      if sent.isDelta && !queued then stream.dropped ++ [⟨index, stream.delivered.length⟩]
      else stream.dropped }

/-- `next_frame` returns. -/
def deliver (connection : SSEConnection Data) (entry : Entry Data) : Stream Data :=
  { stream with
    connection := connection, consumer := .idle, delivered := stream.delivered ++ [entry] }

/-- The consumer has its frame; before it returns, it may ask for a recovery snapshot. -/
def hand (connection : SSEConnection Data) (entry : Entry Data) (hasProvider : Bool)
    (now : Int) : Stream Data :=
  match connection.beginResync hasProvider now with
  | none => stream.deliver connection entry
  | some connection =>
      { stream with
        connection := connection, consumer := .resyncing entry stream.sent.length }

def lose (entry : Entry Data) : Stream Data :=
  { stream with
    consumer := .idle
    dropped :=
      match entry.sent with
      | some index =>
          if entry.frame.isSnapshot then stream.dropped
          else stream.dropped ++ [⟨index, stream.delivered.length⟩]
      | none => stream.dropped }

end Stream

/-- What happens next. `cancel` ends a call of `next_frame` wherever it waits. -/
inductive Move (Data : Type)
  | send (sent : Sent Data)
  | call
  | take (now : Int)
  | timeout
  | beat (data : Data) (now : Int)
  | answer (data : Option Data)
  | cancel

def Stream.move (hasProvider : Bool) (stream : Stream Data) : Move Data → Option (Stream Data)
  | .send sent => some (stream.send sent)
  | .call =>
      match stream.consumer with
      | .idle => some { stream with consumer := .getting }
      | _ => none
  | .take now =>
      match stream.consumer, stream.connection.queue with
      | .getting, entry :: rest =>
          some (stream.hand { stream.connection with queue := rest } entry hasProvider now)
      | _, _ => none
  | .timeout =>
      match stream.consumer with
      | .getting => some { stream with consumer := .beating }
      | _ => none
  | .beat data now =>
      match stream.consumer with
      | .beating =>
          some (stream.hand stream.connection ⟨⟨some "heartbeat", data⟩, none⟩ hasProvider now)
      | _ => none
  | .answer data =>
      match stream.consumer with
      | .resyncing entry _ => some (stream.deliver (stream.connection.finishResync data) entry)
      | _ => none
  | .cancel =>
      match stream.consumer with
      | .idle => none
      | .resyncing entry _ => some (stream.lose entry)
      | _ => some { stream with consumer := .idle }

/-- The provider answers with a snapshot that covers every frame sent before it was called. -/
def Stream.Covers (covers : Data → Nat → Prop) (stream : Stream Data) : Move Data → Prop
  | .answer (some data) =>
      match stream.consumer with
      | .resyncing _ asked => ∀ n < asked, covers data n
      | _ => True
  | _ => True

def Stream.opened (queueMaxsize : Int) : Stream Data where
  connection := { queueMaxsize := queueMaxsize }
  consumer := .idle
  sent := []
  delivered := []
  dropped := []

/-- The streams that sends and calls of the consumer lead to, in any order. -/
inductive Streams (hasProvider : Bool) (covers : Data → Nat → Prop) : Stream Data → Prop
  | opened (queueMaxsize : Int) : Streams hasProvider covers (.opened queueMaxsize)
  | move (stream next : Stream Data) (m : Move Data) (h : Streams hasProvider covers stream)
      (hcovers : stream.Covers covers m) (hmove : stream.move hasProvider m = some next) :
      Streams hasProvider covers next

end Hybro.Delivery
