import Hybro.Library.FairLock
import Hybro.Delivery.EventBus

/-! # Connections and room subscriptions of one server

`SSETransportImpl` as tasks of one event loop. A task runs without interruption from one
await to the next that suspends it. The locks `_lock` and `_admission_locks_lock` are
only held where nothing is awaited, so that taking them never suspends a task; the
admission lock of a room does, and so do the calls of the event bus.
-/

namespace Hybro.Delivery

open OrderedMap

/-! ## State -/

structure AdmissionLockState where
  lock : FairLock := {}
  users : Nat := 0
  deriving DecidableEq

/-- Where `_admit_connection` awaits: the admission lock, or the readiness of the room's
subscription. `admitted` is only passed within a step: the lock has been taken. -/
inductive AdmissionPoint
  | waiting (lock : Nat)
  | admitted (lock : Nat)
  | subscribing (lock generation : Nat)
  deriving DecidableEq

/-- Where a cleanup task awaits: its first run, the admission lock, or the end of the
cancelled subscription task. `admitted` is only passed within a step. -/
inductive CleanupPoint
  | scheduled
  | waiting (lock : Nat)
  | admitted (lock : Nat)
  | unsubscribing (lock : Nat)
  deriving DecidableEq

inductive TransportTask
  | unborn
  | admission (conversationId connectionId : String) (point : AdmissionPoint)
  | cleanup (conversationId : String) (point : CleanupPoint)
  | done
  deriving DecidableEq

def TransportTask.isPending : TransportTask → Bool
  | .admission .. | .cleanup .. => true
  | _ => false

/-- Lock objects and tasks are known by their numbers. -/
structure SSETransport where
  bus : CrossInstanceEventBus
  roomConnections : String → List String := fun _ => []
  connectionRooms : String → Option String := fun _ => none
  lockStates : Nat → AdmissionLockState := fun _ => {}
  nextLock : Nat := 0
  admissionLocks : String → Option Nat := fun _ => none
  roomCleanupTasks : String → Option Nat := fun _ => none
  draining : Bool := false
  tasks : Nat → TransportTask := fun _ => .unborn
  nextTask : Nat := 0

namespace SSETransport

variable (s : SSETransport) (task : Nat) (room connectionId : String) (lock : Nat)

def setTask (now : TransportTask) : SSETransport :=
  { s with tasks := Function.update s.tasks task now }

def setLock (state : AdmissionLockState) : SSETransport :=
  { s with lockStates := Function.update s.lockStates lock state }

/-! ## The admission lock of a room -/

def admissionLock : SSETransport × Nat :=
  match s.admissionLocks room with
  | some lock => (s, lock)
  | none =>
      ({ s.setLock s.nextLock {} with
        nextLock := s.nextLock + 1
        admissionLocks := Function.update s.admissionLocks room (some s.nextLock) }, s.nextLock)

/-- `_admission` up to its lock: the state, the lock and whether it is taken at once. -/
def enterAdmission : SSETransport × Nat × Bool :=
  let (s, lock) := s.admissionLock room
  let state := s.lockStates lock
  let (acquired, taken) := state.lock.acquire task
  (s.setLock lock { lock := acquired, users := state.users + 1 }, lock, taken)

def activeCleanup : Option Nat :=
  (s.roomCleanupTasks room).filter fun cleanup => (s.tasks cleanup).isPending

/-- `_admission` from the end of its body on; `left` is the lock as the task leaves it. -/
def leaveAdmission (left : FairLock) : SSETransport :=
  let users := (s.lockStates lock).users - 1
  let s := s.setLock lock { lock := left, users := users }
  if users = 0 ∧ s.roomConnections room = [] ∧
      (s.activeCleanup room = none ∨ s.activeCleanup room = some task) ∧
      s.admissionLocks room = some lock then
    { s with admissionLocks := Function.update s.admissionLocks room none }
  else s

def finishHolder : SSETransport :=
  (s.leaveAdmission task room lock (s.lockStates lock).lock.release).setTask task .done

/-! ## Cleanup -/

def scheduleRoomCleanup : SSETransport :=
  match s.activeCleanup room with
  | some _ => s
  | none =>
      { s.setTask s.nextTask (.cleanup room .scheduled) with
        nextTask := s.nextTask + 1
        roomCleanupTasks := Function.update s.roomCleanupTasks room (some s.nextTask) }

/-- The body of `_unsubscribe_if_room_still_empty` under the lock. Without a subscription
there is nothing to wait for. -/
def unsubscribeIfEmpty : SSETransport :=
  if s.roomConnections room ≠ [] then s.finishHolder task room lock
  else
    let unsubscribed := { s with bus := s.bus.unsubscribeRoom room }
    if (get s.bus.roomTasks room).isSome then
      unsubscribed.setTask task (.cleanup room (.unsubscribing lock))
    else unsubscribed.finishHolder task room lock

/-- The cleanup task from its first run on. -/
def startCleanup : SSETransport :=
  let (s, lock, taken) := s.enterAdmission task room
  if taken then
    (s.setTask task (.cleanup room (.admitted lock))).unsubscribeIfEmpty task room lock
  else s.setTask task (.cleanup room (.waiting lock))

/-! ## Connections -/

def register : SSETransport :=
  { s with
    roomConnections := Function.update s.roomConnections room
      (if connectionId ∈ s.roomConnections room then s.roomConnections room
        else s.roomConnections room ++ [connectionId])
    connectionRooms := Function.update s.connectionRooms connectionId (some room)
    }.finishHolder task room lock

/-- `except BaseException` after the first admission of a room has started. -/
def refuse : SSETransport :=
  (s.finishHolder task room lock).scheduleRoomCleanup room

/-- The body of `_admit_connection` under the lock, up to the await of the readiness. -/
def admitUnderLock : SSETransport :=
  if s.draining then s.finishHolder task room lock
  else if s.roomConnections room ≠ [] then s.register task room connectionId lock
  else
    match s.bus.subscribeRoom room with
    | none => s.refuse task room lock
    | some (bus, generation) =>
        let subscribed := { s with bus := bus }
        if bus.readinessOf generation = some .ready then
          subscribed.register task room connectionId lock
        else subscribed.setTask task (.admission room connectionId (.subscribing lock generation))

/-- `_admit_connection` from its start on, in a new task. -/
def admitConnection : SSETransport :=
  let task := s.nextTask
  let s := { s with nextTask := s.nextTask + 1 }
  if s.draining then s.setTask task .done
  else
    let (s, lock, taken) := s.enterAdmission task room
    if taken then
      (s.setTask task (.admission room connectionId (.admitted lock))).admitUnderLock task room
        connectionId lock
    else s.setTask task (.admission room connectionId (.waiting lock))

/-- `_remove_connections_local`, and whether the room has become empty. -/
def removeConnectionsLocal (connectionIds : List String) : SSETransport × Bool :=
  if s.roomConnections room = [] then (s, false)
  else
    let left := (s.roomConnections room).filter (· ∉ connectionIds)
    ({ s with
      roomConnections := Function.update s.roomConnections room left
      connectionRooms := fun connectionId =>
        if connectionId ∈ connectionIds ∧ s.connectionRooms connectionId = some room then none
        else s.connectionRooms connectionId }, left = [])

/-- `remove_connection`, and the end of a broadcast with failed sends. -/
def removeConnections (connectionIds : List String) : SSETransport :=
  let (s, becameEmpty) := s.removeConnectionsLocal room connectionIds
  if becameEmpty then s.scheduleRoomCleanup room else s

def disconnect : SSETransport :=
  match s.connectionRooms connectionId with
  | none => s
  | some room => s.removeConnections room [connectionId]

/-! ## Tasks that go on -/

def wakeWaiter : SSETransport :=
  match s.tasks task with
  | .admission room connectionId (.waiting lock) =>
      let state := s.lockStates lock
      ((s.setLock lock { state with lock := state.lock.wake task }).setTask task
        (.admission room connectionId (.admitted lock))).admitUnderLock task room connectionId lock
  | .cleanup room (.waiting lock) =>
      let state := s.lockStates lock
      ((s.setLock lock { state with lock := state.lock.wake task }).setTask task
        (.cleanup room (.admitted lock))).unsubscribeIfEmpty task room lock
  | _ => s

def abandonWait : SSETransport :=
  (s.leaveAdmission task room lock ((s.lockStates lock).lock.abandon task)).setTask task .done

/-- `_finish_room_cleanup`, the callback of a task that is done. -/
def finishRoomCleanup : SSETransport :=
  if s.roomCleanupTasks room = some task then
    { s with roomCleanupTasks := Function.update s.roomCleanupTasks room none }
  else s

end SSETransport

/-! ## Steps -/

inductive TransportStep (loses : Bool) (s : SSETransport) : SSETransport → Prop
  | admission (room connectionId : String) : TransportStep loses s (s.admitConnection room connectionId)
  | wake (task lock : Nat)
      (hwaiting : (∃ room connectionId, s.tasks task = .admission room connectionId (.waiting lock)) ∨
        ∃ room, s.tasks task = .cleanup room (.waiting lock))
      (hwake : (s.lockStates lock).lock.mayWake task) :
      TransportStep loses s (s.wakeWaiter task)
  | cancelWaiting (task : Nat) (room connectionId : String) (lock : Nat)
      (hwaiting : s.tasks task = .admission room connectionId (.waiting lock)) :
      TransportStep loses s (s.abandonWait task room lock)
  | subscribed (task : Nat) (room connectionId : String) (lock generation : Nat)
      (hsubscribing : s.tasks task = .admission room connectionId (.subscribing lock generation))
      (hready : s.bus.readinessOf generation = some .ready) :
      TransportStep loses s (s.register task room connectionId lock)
  /-- The subscription has failed, or the admission is cancelled while it waits for it. -/
  | notSubscribed (task : Nat) (room connectionId : String) (lock generation : Nat)
      (hsubscribing : s.tasks task = .admission room connectionId (.subscribing lock generation)) :
      TransportStep loses s (s.refuse task room lock)
  | removeConnections (room : String) (connectionIds : List String) :
      TransportStep loses s (s.removeConnections room connectionIds)
  | disconnect (connectionId : String) : TransportStep loses s (s.disconnect connectionId)
  | startCleanup (task : Nat) (room : String) (hscheduled : s.tasks task = .cleanup room .scheduled) :
      TransportStep loses s (s.startCleanup task room)
  /-- The cancelled subscription task has ended, or the wait for it is cancelled or fails. -/
  | unsubscribed (task : Nat) (room : String) (lock : Nat)
      (hunsubscribing : s.tasks task = .cleanup room (.unsubscribing lock)) :
      TransportStep loses s (s.finishHolder task room lock)
  | finishRoomCleanup (task : Nat) (room : String) (hdone : s.tasks task = .done) :
      TransportStep loses s (s.finishRoomCleanup task room)
  | setDraining (draining : Bool) : TransportStep loses s { s with draining := draining }
  | loop (bus : CrossInstanceEventBus) (hloop : LoopStep loses s.bus bus) :
      TransportStep loses s { s with bus := bus }

inductive ReachableTransport (loses : Bool) : SSETransport → Prop
  | start (limit : Nat) : ReachableTransport loses { bus := { subscriptionLimit := limit } }
  | step {s s' : SSETransport} (h : ReachableTransport loses s) (hs : TransportStep loses s s') :
      ReachableTransport loses s'

end Hybro.Delivery
