import Mathlib.Logic.Function.Basic
import Mathlib.Data.Fintype.Basic
import Mathlib.Data.List.Count

/-! # The internal event bus

`BoundedInternalEventBus`: publications put events into the bounded queue of each handler, one
worker for each handler takes them out, and a start or a stop holds the lifecycle lock. A step is
what happens between two points at which a task may be suspended; where nothing that is read
meanwhile changes at such a point, it is no step of its own.
-/

namespace Hybro.Eventing

/-! ## State -/

/-- `_QueuedEvent`, without the future of its publisher. -/
structure QueuedEvent (E : Type) where
  publication : Nat
  event : E

inductive WorkerTask (E : Type)
  | absent
  | waiting
  | handling (item : QueuedEvent E)

def WorkerTask.isLive {E : Type} : WorkerTask E → Bool
  | .absent => false
  | _ => true

inductive Fate
  | handed
  | discarded
  deriving DecidableEq

/-- `_HandlerState`. What was put, how it left, and the dead letters of a full queue are kept as a
record. -/
structure HandlerState (E : Type) where
  queue : List (QueuedEvent E) := []
  unfinished : Nat := 0
  task : WorkerTask E := .absent
  cancelled : Bool := false
  put : List (QueuedEvent E) := []
  left : List (QueuedEvent E × Fate) := []
  refused : List (QueuedEvent E) := []

/-- A call of `publish` or `handle_remote_message`. -/
inductive Publication (E : Type) (n : Nat)
  | fresh
  | enqueueing (event : E) (handlers : List (Fin n))
  | ended (event : E) (returned : Bool)

def Publication.isOpen {E : Type} {n : Nat} : Publication E n → Bool
  | .enqueueing .. => true
  | _ => false

/-- Where the holder of the lifecycle lock is. -/
inductive Phase
  | idle
  | starting
  | startCanceling
  | stopBegun
  | stopCanceling
  deriving DecidableEq

structure Registered (E : Type) (n : Nat) where
  handlersOf : E → List (Fin n)
  /-- Each registration makes a handler state of its own. -/
  distinct : ∀ event, (handlersOf event).Nodup
  queueMaxsize : Nat

structure Bus (E : Type) (n : Nat) where
  started : Bool := false
  accepting : Bool := false
  starting : Bool := false
  stopping : Bool := false
  activePublications : Nat := 0
  handlers : Fin n → HandlerState E := fun _ => {}
  publications : Nat → Publication E n := fun _ => .fresh
  phase : Phase := .idle
  /-- Some stop did not wait until the queues were empty. -/
  overran : Bool := false

/-! ## Handlers -/

namespace HandlerState

variable {E : Type}

/-- `queue.put` -/
def enqueue (h : HandlerState E) (item : QueuedEvent E) : HandlerState E :=
  { h with queue := h.queue ++ [item], unfinished := h.unfinished + 1, put := h.put ++ [item] }

/-- The dead letter `queue_full` -/
def refuse (h : HandlerState E) (item : QueuedEvent E) : HandlerState E :=
  { h with refused := h.refused ++ [item] }

def handOver (h : HandlerState E) (item : QueuedEvent E) (rest : List (QueuedEvent E)) :
    HandlerState E :=
  { h with queue := rest, task := .handling item, left := h.left ++ [(item, .handed)] }

/-- `task_done` and the worker's next state. -/
def finish (h : HandlerState E) (task : WorkerTask E) : HandlerState E :=
  { h with unfinished := h.unfinished - 1, task := task }

def spawn (h : HandlerState E) : HandlerState E := { h with task := .waiting, cancelled := false }

def cancel (h : HandlerState E) : HandlerState E := { h with cancelled := h.task.isLive }

/-- `_settle_queued_completions` -/
def settle (h : HandlerState E) : HandlerState E :=
  { h with
    queue := []
    left := h.left ++ h.queue.map (·, .discarded)
    unfinished := h.unfinished - h.queue.length }

end HandlerState

/-! ## Steps -/

/-- Every choice of an action is the environment's: who goes on, and which waits time out. -/
inductive Action (E : Type) (n : Nat)
  | publish (publication : Nat) (event : E)
  | put (publication : Nat)
  | timeOut (publication : Nat)
  | finish (publication : Nat)
  | abort (publication : Nat)
  | take (handler : Fin n)
  | handled (handler : Fin n)
  | endWorker (handler : Fin n)
  | start
  | startSucceeds
  | startFails
  | startSettles
  | stop
  | stopDrained
  | stopOverran
  | stopSettles

namespace Bus

variable {E : Type} {n : Nat}

def setHandler (s : Bus E n) (i : Fin n) (h : HandlerState E) : Bus E n :=
  { s with handlers := Function.update s.handlers i h }

def setPublication (s : Bus E n) (p : Nat) (publication : Publication E n) : Bus E n :=
  { s with publications := Function.update s.publications p publication }

def finishPublication (s : Bus E n) (p : Nat) (event : E) (returned : Bool) : Bus E n :=
  { s.setPublication p (.ended event returned) with activePublications := s.activePublications - 1 }

def onHandlers (s : Bus E n) (f : HandlerState E → HandlerState E) : Bus E n :=
  { s with handlers := fun i => f (s.handlers i) }

def nextTask (s : Bus E n) : WorkerTask E :=
  if s.stopping ∨ ¬s.started then .absent else .waiting

def step (registered : Registered E n) (s : Bus E n) : Action E n → Option (Bus E n)
  | .publish p event =>
      match s.publications p with
      | .fresh =>
          if s.started ∧ s.accepting ∧ ¬s.stopping then
            some { s.setPublication p (.enqueueing event (registered.handlersOf event)) with
              activePublications := s.activePublications + 1 }
          else none
      | _ => none
  | .put p =>
      match s.publications p with
      | .enqueueing event (i :: rest) =>
          if (s.handlers i).queue.length < registered.queueMaxsize then
            some ((s.setHandler i ((s.handlers i).enqueue ⟨p, event⟩)).setPublication p
              (.enqueueing event rest))
          else none
      | _ => none
  | .timeOut p =>
      match s.publications p with
      | .enqueueing event (i :: rest) =>
          some ((s.setHandler i ((s.handlers i).refuse ⟨p, event⟩)).setPublication p
            (.enqueueing event rest))
      | _ => none
  | .finish p =>
      match s.publications p with
      | .enqueueing event [] => some (s.finishPublication p event true)
      | _ => none
  | .abort p =>
      match s.publications p with
      | .enqueueing event _ => some (s.finishPublication p event false)
      | _ => none
  | .take i =>
      match (s.handlers i).task, (s.handlers i).queue with
      | .waiting, item :: rest =>
          if (s.handlers i).cancelled then none
          else some (s.setHandler i ((s.handlers i).handOver item rest))
      | _, _ => none
  | .handled i =>
      match (s.handlers i).task with
      | .handling _ => some (s.setHandler i ((s.handlers i).finish s.nextTask))
      | _ => none
  | .endWorker i =>
      if (s.handlers i).cancelled then
        match (s.handlers i).task with
        | .absent => none
        | .waiting => some (s.setHandler i { s.handlers i with task := .absent })
        | .handling _ => some (s.setHandler i ((s.handlers i).finish .absent))
      else none
  | .start =>
      if s.phase = .idle ∧ ¬(s.started ∧ s.accepting) ∧
          ∀ i, (s.handlers i).task.isLive = false then
        some { s.onHandlers .spawn with
          accepting := false, stopping := false, starting := true, started := true
          phase := .starting }
      else none
  | .startSucceeds =>
      if s.phase = .starting then
        some { s with starting := false, started := true, accepting := true, phase := .idle }
      else none
  | .startFails =>
      if s.phase = .starting then
        some { s.onHandlers .cancel with
          starting := false, started := false, accepting := false, phase := .startCanceling }
      else none
  | .startSettles =>
      if s.phase = .startCanceling then some { s.onHandlers .settle with phase := .idle } else none
  | .stop =>
      if s.phase = .idle then
        some { s with stopping := true, accepting := false, phase := .stopBegun }
      else none
  | .stopDrained =>
      if s.phase = .stopBegun ∧ s.activePublications = 0 ∧ ∀ i, (s.handlers i).unfinished = 0 then
        some { s.onHandlers .cancel with phase := .stopCanceling }
      else none
  | .stopOverran =>
      if s.phase = .stopBegun ∧ s.activePublications = 0 then
        some { s.onHandlers .cancel with overran := true, phase := .stopCanceling }
      else none
  | .stopSettles =>
      if s.phase = .stopCanceling then
        some { s.onHandlers .settle with started := false, phase := .idle }
      else none

inductive Reachable (registered : Registered E n) : Bus E n → Prop
  | init : Reachable registered {}
  | step {s s' : Bus E n} {action : Action E n} (h : Reachable registered s)
      (hstep : s.step registered action = some s') : Reachable registered s'

end Bus

end Hybro.Eventing
