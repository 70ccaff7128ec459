import Hybro.Orchestrator.ModelRuntime

/-! # The timeout of an attempt

The kernel pulls every event of the stream in a task of its own. The attempt's
`asyncio.timeout` is entered by the task that pulls the first event of the provider; when
it expires it cancels that task, and does nothing when the task is done.
-/

namespace Hybro.Orchestrator

/-- Where the generator stands within an attempt: before the timeout scope, inside the
scope that a task has entered, after a filtered finish, or at the end of the attempt. -/
inductive AttemptPoint
  | beforeScope
  | inScope (owner : Nat)
  | filtered
  | ended
  deriving DecidableEq

/-- Tasks are numbered in the order in which they are made. The last one, `task`, either
waits for its event or is done, like all tasks before it. -/
structure PulledAttempt where
  attempt : Nat
  task : Nat
  waiting : Bool := false
  point : AttemptPoint := .beforeScope
  yielded : List ModelStreamEvent
  deriving DecidableEq

namespace PulledAttempt

variable (s : PulledAttempt)

def yield (event : ModelStreamEvent) (point : AttemptPoint) : PulledAttempt :=
  { s with waiting := false, point := point, yielded := s.yielded ++ [event] }

/-- `asyncio.create_task(anext(stream))`, as far as the new task runs at once. -/
def pull : PulledAttempt :=
  let s := { s with task := s.task + 1 }
  match s.point with
  | .beforeScope => { s with waiting := true, point := .inScope s.task }
  | .inScope _ => { s with waiting := true }
  | .filtered =>
      s.yield (terminalError s.attempt "content_filter" (some "content_filter")) .ended
  | .ended => s

def receive (event : GatewayTurnEvent) : PulledAttempt :=
  match s.point, s.waiting with
  | .inScope owner, true =>
      if event.isFiltered then
        s.yield (attemptFailed s.attempt "content_filter" false none) .filtered
      else s.yield (toModelEvent s.attempt event) (.inScope owner)
  | _, _ => s

/-- The timeout expires: a waiting owner is cancelled, which ends the scope with
`TimeoutError`. `canRetry` is what the handler of the exception finds. -/
def expire (canRetry : Bool) : PulledAttempt :=
  match s.point with
  | .inScope owner =>
      if owner = s.task ∧ s.waiting = true then
        let exc : GatewayException := { type := .timeoutError }
        s.yield (attemptFailed s.attempt (classified exc).errorClass canRetry exc.errorCode) .ended
      else s
  | _ => s

end PulledAttempt

/-- The attempt as it is announced to the kernel by a pull of task `task`. -/
def announced (attempt task : Nat) : PulledAttempt where
  attempt := attempt
  task := task
  yielded := [attemptStarted attempt]

/-- The kernel has pulled all events that the provider gives in time, and pulls again. -/
def stalled (attempt task : Nat) (events : List GatewayTurnEvent) : PulledAttempt :=
  (events.foldl (fun s event => s.pull.receive event) (announced attempt task)).pull

/-- A pull that waits when the timeout expires gets the failure of the attempt. -/
def TimesOut (attempt task : Nat) (events : List GatewayTurnEvent) (canRetry : Bool) : Prop :=
  (stalled attempt task events).waiting = true →
    ((stalled attempt task events).expire canRetry).waiting = false ∧
    ((stalled attempt task events).expire canRetry).yielded =
      (stalled attempt task events).yielded ++ [attemptFailed attempt "timeout" canRetry none]

/-! ## Where the provider stalls -/

/-- After an event the scope belongs to a task that is done. -/
structure Orphaned (s : PulledAttempt) : Prop where
  idle : s.waiting = false
  owned : ∃ owner ≤ s.task, s.point = .inScope owner

structure Closed (s : PulledAttempt) : Prop where
  idle : s.waiting = false
  point : s.point = .filtered ∨ s.point = .ended

variable {s : PulledAttempt} {event : GatewayTurnEvent} {events : List GatewayTurnEvent}

theorem Orphaned.pull (h : Orphaned s) :
    s.pull.waiting = true ∧ s.pull.task = s.task + 1 ∧ s.pull.point = s.point := by
  obtain ⟨owner, -, hpoint⟩ := h.owned
  simp [PulledAttempt.pull, hpoint]

theorem Orphaned.receive (h : Orphaned s) (hevent : event.isFiltered = false) :
    Orphaned (s.pull.receive event) := by
  obtain ⟨hwaiting, htask, hpoint⟩ := h.pull
  obtain ⟨owner, howner, hscope⟩ := h.owned
  have hreceive : s.pull.receive event =
      s.pull.yield (toModelEvent s.pull.attempt event) (.inScope owner) := by
    unfold PulledAttempt.receive
    simp [hwaiting, hpoint, hscope, hevent]
  rw [hreceive]
  refine ⟨rfl, owner, ?_, rfl⟩
  change owner ≤ s.pull.task
  omega

theorem Orphaned.filtered (h : Orphaned s) (hevent : event.isFiltered = true) :
    Closed (s.pull.receive event) := by
  obtain ⟨hwaiting, htask, hpoint⟩ := h.pull
  obtain ⟨owner, howner, hscope⟩ := h.owned
  have hreceive : s.pull.receive event =
      s.pull.yield (attemptFailed s.pull.attempt "content_filter" false none) .filtered := by
    unfold PulledAttempt.receive
    simp [hwaiting, hpoint, hscope, hevent]
  rw [hreceive]
  exact ⟨rfl, .inl rfl⟩

theorem Closed.pull (h : Closed s) : Closed s.pull := by
  unfold PulledAttempt.pull
  rcases h.point with hpoint | hpoint
  · simp only [hpoint]
    exact ⟨rfl, .inr rfl⟩
  · simp only [hpoint]
    exact ⟨h.idle, .inr rfl⟩

theorem Closed.receive (h : Closed s) : Closed (s.receive event) := by
  unfold PulledAttempt.receive
  rw [h.idle]
  rcases h.point with hpoint | hpoint
  · simpa only [hpoint] using h
  · simpa only [hpoint] using h

theorem Orphaned.stays (h : Orphaned s) (hopen : events.any GatewayTurnEvent.isFiltered = false) :
    Orphaned (events.foldl (fun s event => s.pull.receive event) s) := by
  induction events generalizing s with
  | nil => exact h
  | cons event rest ih =>
      rw [List.any_cons, Bool.or_eq_false_iff] at hopen
      exact ih (h.receive hopen.1) hopen.2

theorem Closed.stays (h : Closed s) :
    Closed (events.foldl (fun s event => s.pull.receive event) s) := by
  induction events generalizing s with
  | nil => exact h
  | cons event rest ih => exact ih h.pull.receive

theorem Orphaned.closes (h : Orphaned s) (hfiltered : events.any GatewayTurnEvent.isFiltered = true) :
    Closed (events.foldl (fun s event => s.pull.receive event) s) := by
  induction events generalizing s with
  | nil => cases hfiltered
  | cons event rest ih =>
      rw [List.any_cons, Bool.or_eq_true] at hfiltered
      cases hevent : event.isFiltered with
      | true => exact (h.filtered hevent).stays
      | false =>
          rw [hevent] at hfiltered
          exact ih (h.receive hevent) (by simpa using hfiltered)

theorem announced_receive (attempt task : Nat) (event : GatewayTurnEvent) :
    (event.isFiltered = false → Orphaned ((announced attempt task).pull.receive event)) ∧
    (event.isFiltered = true → Closed ((announced attempt task).pull.receive event)) := by
  constructor
  · intro hevent
    simp only [PulledAttempt.receive, PulledAttempt.pull, announced, hevent, Bool.false_eq_true,
      if_false]
    exact ⟨rfl, task + 1, Nat.le_refl _, rfl⟩
  · intro hevent
    simp only [PulledAttempt.receive, PulledAttempt.pull, announced, hevent, if_true]
    exact ⟨rfl, .inl rfl⟩

/-- A stalled stream times out exactly when the provider has given no event yet. A filtered
finish has ended the attempt, so that nobody waits for the provider. -/
theorem times_out_iff (attempt task : Nat) (events : List GatewayTurnEvent) (canRetry : Bool) :
    TimesOut attempt task events canRetry ↔
      events = [] ∨ events.any GatewayTurnEvent.isFiltered = true := by
  cases events with
  | nil =>
      refine iff_of_true ?_ (.inl rfl)
      intro _
      have hexpire : (stalled attempt task []).expire canRetry =
          (stalled attempt task []).yield (attemptFailed attempt "timeout" canRetry none) .ended :=
        if_pos ⟨rfl, rfl⟩
      rw [hexpire]
      exact ⟨rfl, rfl⟩
  | cons event rest =>
      have hfirst := announced_receive attempt task event
      cases hfiltered : (event :: rest).any GatewayTurnEvent.isFiltered with
      | true =>
          refine iff_of_true ?_ (.inr rfl)
          have hclosed : Closed ((event :: rest).foldl (fun s event => s.pull.receive event)
              (announced attempt task)) := by
            cases hevent : event.isFiltered with
            | true => exact (hfirst.2 hevent).stays
            | false =>
                rw [List.any_cons, hevent, Bool.false_or] at hfiltered
                exact (hfirst.1 hevent).closes hfiltered
          intro hwaiting
          have hidle := hclosed.pull.idle
          rw [show (stalled attempt task (event :: rest)).waiting = false from hidle] at hwaiting
          cases hwaiting
      | false =>
          refine iff_of_false ?_ (by simp)
          rw [List.any_cons, Bool.or_eq_false_iff] at hfiltered
          have horphaned := (hfirst.1 hfiltered.1).stays hfiltered.2
          obtain ⟨hwaiting, htask, hpoint⟩ := horphaned.pull
          obtain ⟨owner, howner, hscope⟩ := horphaned.owned
          have hexpire : (stalled attempt task (event :: rest)).expire canRetry =
              stalled attempt task (event :: rest) := by
            have hstalled : (stalled attempt task (event :: rest)).point = .inScope owner :=
              hpoint.trans hscope
            unfold PulledAttempt.expire
            rw [hstalled]
            refine if_neg ?_
            rintro ⟨hsame, -⟩
            have hlast : (stalled attempt task (event :: rest)).task = _ := htask
            rw [hlast] at hsame
            change owner ≤ (rest.foldl (fun s event => s.pull.receive event)
              ((announced attempt task).pull.receive event)).task at howner
            omega
          intro htimesOut
          have hblocked := (htimesOut hwaiting).1
          rw [hexpire] at hblocked
          rw [show (stalled attempt task (event :: rest)).waiting = true from hwaiting] at hblocked
          cases hblocked

/-- A provider that stalls after one word is waited for although the timeout has expired. -/
theorem not_times_out_after_word : ¬TimesOut 1 1 [{ kind := .textDelta, delta := some "word" }] true := by
  unfold TimesOut
  decide

end Hybro.Orchestrator
