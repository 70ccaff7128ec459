import Hybro.Orchestrator.ModelRuntimeRules

/-! # The stream of a whole model turn

The rules of one event, put together for the events of an attempt, of an attempt with its
failure and of all attempts.
-/

namespace Hybro.Orchestrator

variable {assembler next : ModelStreamAssembler} {event : ModelStreamEvent}
  {first second : List ModelStreamEvent} {attempt : Nat} {started ended : List String}

/-! ## Sequences of events -/

def Takes (assembler : ModelStreamAssembler) (events : List ModelStreamEvent) : Prop :=
  ∃ next, assembler.acceptAll events = .ok next

theorem acceptAll_cons : assembler.acceptAll (event :: second) =
    (assembler.accept event >>= fun next => next.acceptAll second) := rfl

theorem acceptAll_append : assembler.acceptAll (first ++ second) =
    (assembler.acceptAll first >>= fun next => next.acceptAll second) := by
  induction first generalizing assembler with
  | nil => rfl
  | cons event rest ih =>
      rw [List.cons_append, acceptAll_cons, acceptAll_cons]
      cases assembler.accept event with
      | error message => rfl
      | ok mid => exact ih

theorem Takes.nil : Takes assembler [] := ⟨assembler, rfl⟩

theorem Takes.cons (haccept : assembler.accept event = .ok next) (h : Takes next second) :
    Takes assembler (event :: second) := by
  obtain ⟨last, hlast⟩ := h
  refine ⟨last, ?_⟩
  rw [acceptAll_cons, haccept]
  exact hlast

theorem Takes.append (haccept : assembler.acceptAll first = .ok next) (h : Takes next second) :
    Takes assembler (first ++ second) := by
  obtain ⟨last, hlast⟩ := h
  refine ⟨last, ?_⟩
  rw [acceptAll_append, haccept]
  exact hlast

theorem Takes.tail (h : Takes assembler (event :: second))
    (haccept : assembler.accept event = .ok next) : Takes next second := by
  obtain ⟨last, hlast⟩ := h
  rw [acceptAll_cons, haccept] at hlast
  exact ⟨last, hlast⟩

theorem Takes.rest (h : Takes assembler (first ++ second))
    (haccept : assembler.acceptAll first = .ok next) : Takes next second := by
  obtain ⟨last, hlast⟩ := h
  rw [acceptAll_append, haccept] at hlast
  exact ⟨last, hlast⟩

/-- `finish` and `error` -/
def ModelStreamEvent.isTerminal (event : ModelStreamEvent) : Bool :=
  event.kind == .finish || event.kind == .error

theorem accept_terminal (hterminal : event.isTerminal = true)
    (haccept : assembler.accept event = .ok next) :
    next.finishReason.isSome ∨ next.terminalErrorClass.isSome := by
  unfold ModelStreamAssembler.accept at haccept
  split_ifs at haccept
  unfold ModelStreamAssembler.handle at haccept
  cases hkind : event.kind with
  | finish =>
      simp only [hkind, ModelStreamAssembler.acceptFinish] at haccept
      split at haccept
      · cases haccept
      · cases haccept
        exact .inl rfl
  | error =>
      simp only [hkind, ModelStreamAssembler.acceptError] at haccept
      split_ifs at haccept with hclass
      cases haccept
      exact .inr (Option.isSome_iff_ne_none.mpr hclass)
  | _ => simp [ModelStreamEvent.isTerminal, hkind] at hterminal

variable (first) in
theorem Takes.terminal_last (h : Takes assembler (first ++ event :: second))
    (hterminal : event.isTerminal = true) : second = [] := by
  obtain ⟨last, hlast⟩ := h
  rw [acceptAll_append, bind_eq_ok] at hlast
  obtain ⟨before, -, hrest⟩ := hlast
  rw [acceptAll_cons, bind_eq_ok] at hrest
  obtain ⟨after, hafter, hrest⟩ := hrest
  cases second with
  | nil => rfl
  | cons later rest =>
      rw [acceptAll_cons, bind_eq_ok] at hrest
      obtain ⟨never, hnever, -⟩ := hrest
      unfold ModelStreamAssembler.accept at hnever
      rw [if_pos (accept_terminal hterminal hafter)] at hnever
      cases hnever

/-! ## The events of one attempt -/

def finishes (events : List GatewayTurnEvent) : Bool :=
  events.any fun event => event.kind == .finish && !event.isFiltered

theorem forward_cons {event : GatewayTurnEvent} {rest : List GatewayTurnEvent}
    (h : event.isFiltered = false) : forward attempt (event :: rest) =
      (toModelEvent attempt event :: (forward attempt rest).1, (forward attempt rest).2) := by
  simp [forward, h]

theorem forward_filtered {event : GatewayTurnEvent} {rest : List GatewayTurnEvent}
    (h : event.isFiltered = true) : forward attempt (event :: rest) =
      ([attemptFailed attempt "content_filter" false none,
        terminalError attempt "content_filter" (some "content_filter")], true) := by
  simp [forward, h]

theorem Running.ends (h : Running assembler attempt started ended) (errorClass : String)
    (failedCode errorCode : Option String) : Takes assembler
      [attemptFailed attempt errorClass false failedCode,
        terminalError attempt errorClass errorCode] := by
  obtain ⟨failed, hfail, hfailed⟩ := h.fail errorClass false failedCode
  obtain ⟨last, herror, -⟩ := accept_terminalError hfailed.unfinished hfailed.noError
    (.inr (hfailed.failed.trans hfailed.current.symm)) attempt errorClass errorCode
  exact .cons hfail (.cons herror .nil)

/-- What has been sent of an attempt is taken. Unless its finish was among it, the attempt
goes on. -/
theorem Running.forward (h : Running assembler attempt started ended)
    {events : List GatewayTurnEvent} (hlegal : legalFrom started ended events = true) :
    (forward attempt events).2 = true ∧ finishes events = false ∧
      Takes assembler (forward attempt events).1 ∨
    (forward attempt events).2 = false ∧ finishes events = true ∧
      Takes assembler (forward attempt events).1 ∧
      (∃ before event, (forward attempt events).1 = before ++ [event] ∧ event.kind = .finish) ∨
    (forward attempt events).2 = false ∧ finishes events = false ∧
      ∃ next started ended, assembler.acceptAll (forward attempt events).1 = .ok next ∧
        Running next attempt started ended := by
  induction events generalizing assembler started ended with
  | nil => exact .inr (.inr ⟨rfl, rfl, assembler, started, ended, rfl, h⟩)
  | cons event rest ih =>
      cases hfiltered : event.isFiltered with
      | true =>
          rw [forward_filtered hfiltered]
          have hkind : event.kind = .finish := by
            simp only [GatewayTurnEvent.isFiltered, Bool.and_eq_true, beq_iff_eq] at hfiltered
            exact hfiltered.1
          obtain ⟨rfl, -⟩ := h.finish hlegal hkind
          refine .inl ⟨rfl, ?_, h.ends _ _ _⟩
          simp [finishes, hfiltered]
      | false =>
          rw [forward_cons hfiltered]
          by_cases hkind : event.kind = .finish
          · obtain ⟨rfl, next, haccept, -⟩ := h.finish hlegal hkind
            refine .inr (.inl ⟨rfl, ?_, .cons haccept .nil, [], _, rfl, ?_⟩)
            · simp [finishes, hkind, hfiltered]
            · simp [toModelEvent, hkind]
          · obtain ⟨mid, started', ended', haccept, hmid, hrest⟩ := h.step hlegal hkind
            have hfinishes : finishes (event :: rest) = finishes rest := by
              simp [finishes, hkind]
            rw [hfinishes]
            rcases ih hmid hrest with ⟨hreturned, hnone, htakes⟩ | ⟨hreturned, hfinish, htakes, before,
              last, hsent, hlast⟩ | ⟨hreturned, hnone, next, started'', ended'', hnext, hrunning⟩
            · exact .inl ⟨hreturned, hnone, .cons haccept htakes⟩
            · refine .inr (.inl ⟨hreturned, hfinish, .cons haccept htakes,
                toModelEvent attempt event :: before, last, ?_, hlast⟩)
              exact congrArg (toModelEvent attempt event :: ·) hsent
            · refine .inr (.inr ⟨hreturned, hnone, next, started'', ended'', ?_, hrunning⟩)
              rw [acceptAll_cons, haccept]
              exact hnext

/-! ## One attempt and what follows it -/

variable {maxRetryDelay : Nat} {request : ModelTurnRequest} {runs : Nat → AttemptRun}
  {run : AttemptRun}

/-- The events of an attempt are those of a legal one, as far as they go. -/
def AttemptRun.Legal (run : AttemptRun) : Prop :=
  legalFrom [] [] run.events = true

/-- The stream of the attempt does not fail any more once it has passed on its finish. -/
def AttemptRun.FinishesLast (request : ModelTurnRequest) (run : AttemptRun) : Prop :=
  finishes (run.stream request).1 = true →
    (run.stream request).2 = .exhausted ∨ (run.stream request).2 = .cancelled

structure AttemptRun.Retries (maxRetryDelay : Nat) (request : ModelTurnRequest) (attempt : Nat)
    (run : AttemptRun) (exc : GatewayException) : Prop where
  started : request.deadlinePassed run.startedAt = false
  unfiltered : (run.stream request).1.any GatewayTurnEvent.isFiltered = false
  raised : (run.stream request).2 = .raised exc
  retryable : run.canRetry maxRetryDelay request attempt exc = true
  inTime : request.tooLate run.scheduledAt (run.delay maxRetryDelay attempt exc) = false
  slept : run.sleep = .slept
  woken : request.deadlinePassed run.wokenAt = false

variable (request) in
theorem AttemptRun.Legal.stream (h : run.Legal) :
    legalFrom [] [] (run.stream request).1 = true := by
  unfold AttemptRun.stream
  split_ifs
  · rfl
  · rfl
  · exact h

theorem forward_returned (attempt : Nat) (events : List GatewayTurnEvent) :
    (forward attempt events).2 = events.any GatewayTurnEvent.isFiltered := by
  induction events with
  | nil => rfl
  | cons event rest ih =>
      cases hfiltered : event.isFiltered with
      | true => rw [forward_filtered hfiltered, List.any_cons, hfiltered, Bool.true_or]
      | false => rw [forward_cons hfiltered, ih, List.any_cons, hfiltered, Bool.false_or]

theorem turn_of_passed (h : request.deadlinePassed run.startedAt = true) (stream : Option TurnStream) :
    run.turn maxRetryDelay request attempt stream = ([deadlineError none], true) :=
  if_pos h

theorem turn_of_returned (hstarted : request.deadlinePassed run.startedAt = false)
    (h : (forward attempt (run.stream request).1).2 = true) (stream : Option TurnStream) :
    run.turn maxRetryDelay request attempt stream =
      (attemptStarted attempt :: (forward attempt (run.stream request).1).1, true) := by
  unfold AttemptRun.turn
  simp [hstarted, h]

theorem turn_of_ended (hstarted : request.deadlinePassed run.startedAt = false)
    (h : (forward attempt (run.stream request).1).2 = false) (stream : Option TurnStream) :
    run.turn maxRetryDelay request attempt stream =
      match (run.stream request).2 with
      | .exhausted => (attemptStarted attempt :: (forward attempt (run.stream request).1).1, true)
      | .cancelled => (attemptStarted attempt :: (forward attempt (run.stream request).1).1, false)
      | .signalAborted =>
          (attemptStarted attempt :: (forward attempt (run.stream request).1).1 ++
            abortedEvents attempt, true)
      | .raised exc =>
          (attemptStarted attempt :: (forward attempt (run.stream request).1).1 ++
            (run.fail maxRetryDelay request attempt exc stream).1,
            (run.fail maxRetryDelay request attempt exc stream).2) := by
  unfold AttemptRun.turn
  cases hending : (run.stream request).2 <;> simp [hstarted, h, hending]

theorem fail_ne_nil (exc : GatewayException) (stream : Option TurnStream) :
    (run.fail maxRetryDelay request attempt exc stream).1 ≠ [] := by
  unfold AttemptRun.fail
  split <;> exact List.cons_ne_nil _ _

theorem Running.failure (h : Running assembler attempt started ended) (exc : GatewayException)
    (stream : Option TurnStream)
    (hnext : ∀ events returned, stream = some (events, returned) →
      run.canRetry maxRetryDelay request attempt exc = true →
      request.tooLate run.scheduledAt (run.delay maxRetryDelay attempt exc) = false →
      run.sleep = .slept → request.deadlinePassed run.wokenAt = false →
      ∀ ready, Ready ready (attempt + 1) → Takes ready events) :
    Takes assembler (run.fail maxRetryDelay request attempt exc stream).1 := by
  unfold AttemptRun.fail
  cases hfilter : stream.filter fun _ => run.canRetry maxRetryDelay request attempt exc with
  | none => exact h.ends _ _ _
  | some next =>
      obtain ⟨events, returned⟩ := next
      obtain ⟨hstream, hretry⟩ := Option.filter_eq_some_iff.mp hfilter
      obtain ⟨failed, hfail, hfailed⟩ := h.fail (classified exc).errorClass true exc.errorCode
      obtain ⟨ready, hschedule, hready⟩ := hfailed.schedule
      refine .cons hfail ?_
      have herror : Takes ready [deadlineError attempt] := by
        obtain ⟨last, haccept, -⟩ := accept_terminalError hready.unfinished hready.noError
          (by
            rcases hready.due with ⟨hnone, -⟩ | ⟨number, hcurrent, hlast, -⟩
            · exact .inl hnone
            · exact .inr (hlast.trans hcurrent.symm)) (some attempt) "timeout" (some "deadline")
        exact .cons haccept .nil
      unfold AttemptRun.retry
      dsimp only
      cases hlate : request.tooLate run.scheduledAt (run.delay maxRetryDelay attempt exc) with
      | true => exact .cons hschedule herror
      | false =>
          simp only [Bool.false_eq_true, if_false]
          cases hsleep : run.sleep with
          | cancelled => exact .cons hschedule .nil
          | signalAborted =>
              obtain ⟨mid, hstart, hrunning⟩ := hready.start
              exact .cons hschedule (.cons hstart (hrunning.ends _ _ _))
          | slept =>
              cases hwoken : request.deadlinePassed run.wokenAt with
              | true => exact .cons hschedule herror
              | false =>
                  exact .cons hschedule
                    (hnext events returned hstream hretry hlate hsleep hwoken ready hready)

theorem Ready.turn (h : Ready assembler attempt) (hlegal : run.Legal)
    (hlast : request.deadlinePassed run.startedAt = false → run.FinishesLast request)
    (stream : Option TurnStream)
    (hnext : ∀ events returned exc, stream = some (events, returned) →
      run.Retries maxRetryDelay request attempt exc →
      ∀ ready, Ready ready (attempt + 1) → Takes ready events) :
    Takes assembler (run.turn maxRetryDelay request attempt stream).1 := by
  cases hstarted : request.deadlinePassed run.startedAt with
  | true =>
      rw [turn_of_passed hstarted]
      obtain ⟨last, haccept, -⟩ := accept_terminalError h.unfinished h.noError
        (by
          rcases h.due with ⟨hnone, -⟩ | ⟨number, hcurrent, hfailed, -⟩
          · exact .inl hnone
          · exact .inr (hfailed.trans hcurrent.symm)) none "timeout" (some "deadline")
      exact .cons haccept .nil
  | false =>
      obtain ⟨mid, hstart, hrunning⟩ := h.start
      rcases hrunning.forward (hlegal.stream request) with
        ⟨hreturned, -, htakes⟩ | ⟨hreturned, hfinish, htakes, -⟩ |
        ⟨hreturned, -, next, started, ended, haccept, hnext'⟩
      · rw [turn_of_returned hstarted hreturned]
        exact .cons hstart htakes
      · rw [turn_of_ended hstarted hreturned]
        rcases hlast hstarted hfinish with hending | hending
        · rw [hending]
          exact .cons hstart htakes
        · rw [hending]
          exact .cons hstart htakes
      · rw [turn_of_ended hstarted hreturned]
        have htakes : Takes mid (forward attempt (run.stream request).1).1 := ⟨next, haccept⟩
        cases hending : (run.stream request).2 with
        | exhausted => exact .cons hstart htakes
        | cancelled => exact .cons hstart htakes
        | signalAborted => exact .cons hstart (.append haccept (hnext'.ends _ _ _))
        | raised exc =>
            refine .cons hstart (.append haccept (hnext'.failure exc stream ?_))
            intro events returned hstream hretry hlate hsleep hwoken
            refine hnext events returned exc hstream
              ⟨hstarted, ?_, hending, hretry, hlate, hsleep, hwoken⟩
            rw [← forward_returned attempt]
            exact hreturned

/-! ## All attempts -/

structure Reached (maxRetryDelay : Nat) (request : ModelTurnRequest) (runs : Nat → AttemptRun)
    (first retries attempt : Nat) : Prop where
  after : first ≤ attempt
  allowed : attempt ≤ first + retries
  retried : ∀ earlier, first ≤ earlier → earlier < attempt →
    ∃ exc, (runs earlier).Retries maxRetryDelay request earlier exc
  inTime : request.deadlinePassed (runs attempt).startedAt = false

theorem Reached.earlier {first retries : Nat} {exc : GatewayException}
    (h : Reached maxRetryDelay request runs (first + 1) retries attempt)
    (hretries : (runs first).Retries maxRetryDelay request first exc) :
    Reached maxRetryDelay request runs first (retries + 1) attempt where
  after := by have := h.after; omega
  allowed := by have := h.allowed; omega
  retried := by
    intro earlier hfirst hearlier
    by_cases hsame : earlier = first
    · subst hsame
      exact ⟨exc, hretries⟩
    · exact h.retried earlier (by omega) hearlier
  inTime := h.inTime

/-- When every attempt that is reached finishes last, the assembler takes the stream. -/
theorem Ready.attempts {retries : Nat} (h : Ready assembler attempt)
    (hlegal : ∀ number, (runs number).Legal)
    (hlast : ∀ number, Reached maxRetryDelay request runs attempt retries number →
      (runs number).FinishesLast request) :
    Takes assembler (attemptsFrom maxRetryDelay request runs retries attempt).1 := by
  induction retries generalizing assembler attempt with
  | zero =>
      refine h.turn (hlegal attempt) ?_ none nofun
      intro hstarted
      exact hlast attempt ⟨Nat.le_refl _, Nat.le_refl _, fun _ _ _ => by omega, hstarted⟩
  | succ retries ih =>
      refine h.turn (hlegal attempt) ?_ _ ?_
      · intro hstarted
        exact hlast attempt ⟨Nat.le_refl _, by omega, fun _ _ _ => by omega, hstarted⟩
      · intro events returned exc hstream hretries ready hready
        have hevents : events = (attemptsFrom maxRetryDelay request runs retries (attempt + 1)).1 :=
          congrArg Prod.fst (Option.some.inj hstream).symm
        rw [hevents]
        exact ih hready fun number hreached => hlast number (hreached.earlier hretries)

theorem turn_finishes_last (h : Ready assembler attempt) (hlegal : run.Legal)
    (hstarted : request.deadlinePassed run.startedAt = false) (stream : Option TurnStream)
    (htakes : Takes assembler (run.turn maxRetryDelay request attempt stream).1) :
    run.FinishesLast request := by
  intro hfinish
  obtain ⟨mid, hstart, hrunning⟩ := h.start
  rcases hrunning.forward (hlegal.stream request) with
    ⟨-, hnone, -⟩ | ⟨hreturned, -, -, before, event, hsent, hkind⟩ | ⟨-, hnone, -⟩
  · rw [hfinish] at hnone
    cases hnone
  · rw [turn_of_ended hstarted hreturned] at htakes
    have hterminal : event.isTerminal = true := by simp [ModelStreamEvent.isTerminal, hkind]
    cases hending : (run.stream request).2 with
    | exhausted => exact .inl rfl
    | cancelled => exact .inr rfl
    | signalAborted =>
        rw [hending] at htakes
        simp only [hsent, ← List.cons_append, List.append_assoc] at htakes
        have hnil := Takes.terminal_last (attemptStarted attempt :: before) htakes hterminal
        cases hnil
    | raised exc =>
        rw [hending] at htakes
        simp only [hsent, ← List.cons_append, List.append_assoc] at htakes
        have hnil := Takes.terminal_last (attemptStarted attempt :: before) htakes hterminal
        exact absurd hnil (fail_ne_nil exc stream)
  · rw [hfinish] at hnone
    cases hnone

theorem turn_of_retries {exc : GatewayException}
    (hretries : run.Retries maxRetryDelay request attempt exc) (stream : TurnStream) :
    run.turn maxRetryDelay request attempt (some stream) =
      (attemptStarted attempt :: (forward attempt (run.stream request).1).1 ++
        (attemptFailed attempt (classified exc).errorClass true exc.errorCode ::
          retryScheduled (attempt + 1) (classified exc).errorClass :: stream.1), stream.2) := by
  have hreturned : (forward attempt (run.stream request).1).2 = false := by
    rw [forward_returned]
    exact hretries.unfiltered
  have hfilter : (some stream).filter (fun _ => run.canRetry maxRetryDelay request attempt exc) =
      some stream := by
    rw [Option.filter_some, if_pos hretries.retryable]
  have hfail : run.fail maxRetryDelay request attempt exc (some stream) =
      (attemptFailed attempt (classified exc).errorClass true exc.errorCode ::
        retryScheduled (attempt + 1) (classified exc).errorClass :: stream.1, stream.2) := by
    unfold AttemptRun.fail
    rw [hfilter]
    simp [AttemptRun.retry, hretries.inTime, hretries.slept, hretries.woken]
  rw [turn_of_ended hretries.started hreturned, hretries.raised]
  dsimp only
  rw [hfail]

theorem Ready.retry {exc : GatewayException} (h : Ready assembler attempt) (hlegal : run.Legal)
    (hretries : run.Retries maxRetryDelay request attempt exc) (stream : TurnStream)
    (htakes : Takes assembler (run.turn maxRetryDelay request attempt (some stream)).1) :
    ∃ ready, Ready ready (attempt + 1) ∧ Takes ready stream.1 := by
  rw [turn_of_retries hretries] at htakes
  obtain ⟨mid, hstart, hrunning⟩ := h.start
  rcases hrunning.forward (hlegal.stream request) with
    ⟨hreturned, -, -⟩ | ⟨-, -, -, before, event, hsent, hkind⟩ |
    ⟨-, -, next, started, ended, haccept, hnext⟩
  · rw [forward_returned, hretries.unfiltered] at hreturned
    cases hreturned
  · have hterminal : event.isTerminal = true := by simp [ModelStreamEvent.isTerminal, hkind]
    simp only [hsent, ← List.cons_append, List.append_assoc] at htakes
    have hnil := Takes.terminal_last (attemptStarted attempt :: before) htakes hterminal
    cases hnil
  · have hrest := (htakes.tail hstart).rest haccept
    obtain ⟨failed, hfail, hfailed⟩ := hnext.fail (classified exc).errorClass true exc.errorCode
    obtain ⟨ready, hschedule, hready⟩ := hfailed.schedule
    exact ⟨ready, hready, (hrest.tail hfail).tail hschedule⟩

theorem Ready.attempts_finish_last {retries number : Nat} (h : Ready assembler attempt)
    (hlegal : ∀ number, (runs number).Legal)
    (htakes : Takes assembler (attemptsFrom maxRetryDelay request runs retries attempt).1)
    (hreached : Reached maxRetryDelay request runs attempt retries number) :
    (runs number).FinishesLast request := by
  induction retries generalizing assembler attempt with
  | zero =>
      have hsame : number = attempt := by
        have := hreached.after
        have := hreached.allowed
        omega
      subst hsame
      exact turn_finishes_last h (hlegal number) hreached.inTime none htakes
  | succ retries ih =>
      by_cases hsame : number = attempt
      · subst hsame
        exact turn_finishes_last h (hlegal number) hreached.inTime _ htakes
      · have hafter : attempt < number := by
          have := hreached.after
          omega
        obtain ⟨exc, hretries⟩ := hreached.retried attempt (Nat.le_refl _) hafter
        obtain ⟨ready, hready, hrest⟩ := h.retry (hlegal attempt) hretries _ htakes
        refine ih hready hrest ⟨hafter, ?_, ?_, hreached.inTime⟩
        · have := hreached.allowed
          omega
        · exact fun earlier hfirst hearlier => hreached.retried earlier (by omega) hearlier

/-! ## What else holds of every stream -/

def lastAttempt (events : List ModelStreamEvent) : Option Nat :=
  (events.filterMap fun event => if event.kind = .attemptStarted then event.attempt else none).getLast?

def startedAttempts (events : List ModelStreamEvent) : Nat :=
  events.countP (·.kind == .attemptStarted)

theorem startedAttempts_forward (attempt : Nat) (events : List GatewayTurnEvent) :
    startedAttempts (forward attempt events).1 = 0 := by
  induction events with
  | nil => rfl
  | cons event rest ih =>
      cases hfiltered : event.isFiltered with
      | true =>
          rw [forward_filtered hfiltered]
          rfl
      | false =>
          rw [forward_cons hfiltered]
          unfold startedAttempts at ih ⊢
          rw [List.countP_cons, ih]
          cases hkind : event.kind <;> simp [toModelEvent, hkind]

theorem startedAttempts_append : startedAttempts (first ++ second) =
    startedAttempts first + startedAttempts second :=
  List.countP_append

/-- The failure of an attempt starts as many attempts as the stream of the next one, or
one that is aborted at once. -/
theorem startedAttempts_fail (exc : GatewayException) (stream : Option TurnStream) :
    startedAttempts (run.fail maxRetryDelay request attempt exc stream).1 ≤
      match stream with
      | none => 0
      | some stream => max 1 (startedAttempts stream.1) := by
  unfold AttemptRun.fail
  cases hfilter : stream.filter fun _ => run.canRetry maxRetryDelay request attempt exc with
  | none => exact Nat.zero_le _
  | some next =>
      obtain ⟨hstream, -⟩ := Option.filter_eq_some_iff.mp hfilter
      subst hstream
      unfold AttemptRun.retry
      dsimp only
      cases request.tooLate run.scheduledAt (run.delay maxRetryDelay attempt exc) with
      | true => exact Nat.zero_le _
      | false =>
          simp only [Bool.false_eq_true, if_false]
          cases run.sleep with
          | cancelled => exact Nat.zero_le _
          | signalAborted => exact Nat.le_max_left _ _
          | slept =>
              cases request.deadlinePassed run.wokenAt with
              | true => exact Nat.zero_le _
              | false => exact Nat.le_max_right _ _

theorem startedAttempts_turn (stream : Option TurnStream) :
    startedAttempts (run.turn maxRetryDelay request attempt stream).1 ≤
      match stream with
      | none => 1
      | some stream => 1 + max 1 (startedAttempts stream.1) := by
  have hsent : startedAttempts (attemptStarted attempt :: (forward attempt (run.stream request).1).1) =
      1 := by
    have hforward := startedAttempts_forward attempt (run.stream request).1
    unfold startedAttempts at hforward ⊢
    rw [List.countP_cons, hforward]
    rfl
  have hone : 1 ≤ match stream with
      | none => 1
      | some stream => 1 + max 1 (startedAttempts stream.1) := by
    cases stream with
    | none => exact Nat.le_refl _
    | some stream => exact Nat.le_add_right _ _
  cases hstarted : request.deadlinePassed run.startedAt with
  | true =>
      rw [turn_of_passed hstarted]
      exact Nat.zero_le _
  | false =>
      cases hreturned : (forward attempt (run.stream request).1).2 with
      | true =>
          rw [turn_of_returned hstarted hreturned]
          exact Nat.le_trans (Nat.le_of_eq hsent) hone
      | false =>
          rw [turn_of_ended hstarted hreturned]
          cases (run.stream request).2 with
          | exhausted => exact Nat.le_trans (Nat.le_of_eq hsent) hone
          | cancelled => exact Nat.le_trans (Nat.le_of_eq hsent) hone
          | signalAborted =>
              dsimp only
              rw [startedAttempts_append, hsent]
              exact hone
          | raised exc =>
              dsimp only
              rw [startedAttempts_append, hsent]
              have hfail : startedAttempts
                  (run.fail maxRetryDelay request attempt exc stream).1 ≤ _ :=
                startedAttempts_fail exc stream
              cases stream with
              | none => exact Nat.add_le_add_left hfail 1
              | some stream => exact Nat.add_le_add_left hfail 1

/-- At most `retries` attempts are started after the first. -/
theorem startedAttempts_attemptsFrom (retries attempt : Nat) :
    startedAttempts (attemptsFrom maxRetryDelay request runs retries attempt).1 ≤ 1 + retries := by
  induction retries generalizing attempt with
  | zero => exact startedAttempts_turn none
  | succ retries ih =>
      refine Nat.le_trans (startedAttempts_turn (some _)) ?_
      have := ih (attempt + 1)
      dsimp only
      omega

/-- How a stream ends that has no finish: with an error, or because the provider's last
stream has just stopped. -/
def EndsWell (request : ModelTurnRequest) (runs : Nat → AttemptRun) (stream : TurnStream) : Prop :=
  stream.2 = true → (∀ event ∈ stream.1, event.kind ≠ .finish) →
    (∃ event, stream.1.getLast? = some event ∧ event.kind = .error) ∨
    ∃ number, lastAttempt stream.1 = some number ∧
      ((runs number).stream request).2 = .exhausted

variable (first) in
theorem EndsWell.append {stream : TurnStream} (h : EndsWell request runs stream) :
    EndsWell request runs (first ++ stream.1, stream.2) := by
  intro hreturned hnone
  rcases h hreturned fun event hevent => hnone event (List.mem_append_right _ hevent) with
    ⟨event, hlast, hkind⟩ | ⟨number, hlast, hexhausted⟩
  · refine .inl ⟨event, ?_, hkind⟩
    rw [List.getLast?_append, hlast]
    rfl
  · refine .inr ⟨number, ?_, hexhausted⟩
    unfold lastAttempt at hlast ⊢
    rw [List.filterMap_append, List.getLast?_append, hlast]
    rfl

variable (first) in
theorem EndsWell.error {errorClass : String} {number : Option Nat} {errorCode : Option String} :
    EndsWell request runs (first ++ [terminalError number errorClass errorCode], true) := by
  intro _ _
  exact .inl ⟨_, List.getLast?_concat, rfl⟩

theorem forward_filtered_last {events : List GatewayTurnEvent}
    (h : (forward attempt events).2 = true) :
    ∃ before, (forward attempt events).1 =
      before ++ [terminalError attempt "content_filter" (some "content_filter")] := by
  induction events with
  | nil => cases h
  | cons event rest ih =>
      cases hfiltered : event.isFiltered with
      | true =>
          rw [forward_filtered hfiltered]
          exact ⟨[_], rfl⟩
      | false =>
          rw [forward_cons hfiltered] at h ⊢
          obtain ⟨before, hbefore⟩ := ih h
          exact ⟨toModelEvent attempt event :: before, congrArg (_ :: ·) hbefore⟩

theorem endsWell_fail (exc : GatewayException) (stream : Option TurnStream)
    (hnext : ∀ next, stream = some next → EndsWell request runs next) :
    EndsWell request runs (run.fail maxRetryDelay request attempt exc stream) := by
  unfold AttemptRun.fail
  cases hfilter : stream.filter fun _ => run.canRetry maxRetryDelay request attempt exc with
  | none => exact EndsWell.error [_]
  | some next =>
      obtain ⟨hstream, -⟩ := Option.filter_eq_some_iff.mp hfilter
      unfold AttemptRun.retry
      dsimp only
      cases request.tooLate run.scheduledAt (run.delay maxRetryDelay attempt exc) with
      | true => exact EndsWell.error [_, _]
      | false =>
          simp only [Bool.false_eq_true, if_false]
          cases run.sleep with
          | cancelled => exact nofun
          | signalAborted => exact EndsWell.error [_, _, _, _]
          | slept =>
              cases request.deadlinePassed run.wokenAt with
              | true => exact EndsWell.error [_, _]
              | false => exact (hnext next hstream).append [_, _]

theorem endsWell_turn (stream : Option TurnStream)
    (hnext : ∀ next, stream = some next → EndsWell request runs next) :
    EndsWell request runs ((runs attempt).turn maxRetryDelay request attempt stream) := by
  cases hstarted : request.deadlinePassed (runs attempt).startedAt with
  | true =>
      rw [turn_of_passed hstarted]
      exact EndsWell.error []
  | false =>
      cases hreturned : (forward attempt ((runs attempt).stream request).1).2 with
      | true =>
          rw [turn_of_returned hstarted hreturned]
          obtain ⟨before, hbefore⟩ := forward_filtered_last hreturned
          rw [hbefore]
          exact EndsWell.error (attemptStarted attempt :: before)
      | false =>
          rw [turn_of_ended hstarted hreturned]
          cases hending : ((runs attempt).stream request).2 with
          | exhausted =>
              intro _ _
              refine .inr ⟨attempt, ?_, hending⟩
              have hnone := startedAttempts_forward attempt ((runs attempt).stream request).1
              have hsent : (forward attempt ((runs attempt).stream request).1).1.filterMap (fun event =>
                  if event.kind = .attemptStarted then event.attempt else none) = [] := by
                rw [List.filterMap_eq_nil_iff]
                intro event hevent
                have hkind := List.countP_eq_zero.mp hnone event hevent
                rw [if_neg (by simpa using hkind)]
              unfold lastAttempt
              rw [List.filterMap_cons, hsent]
              rfl
          | cancelled => exact nofun
          | signalAborted =>
              have haborted : EndsWell request runs (abortedEvents attempt, true) :=
                EndsWell.error [_]
              exact haborted.append _
          | raised exc =>
              exact (endsWell_fail exc stream hnext).append _

theorem endsWell_attemptsFrom (retries attempt : Nat) :
    EndsWell request runs (attemptsFrom maxRetryDelay request runs retries attempt) := by
  induction retries generalizing attempt with
  | zero => exact endsWell_turn none nofun
  | succ retries ih =>
      refine endsWell_turn _ ?_
      intro next hnext
      cases hnext
      exact ih (attempt + 1)

/-! ## The agreement with the assembler -/

structure StreamAgrees (maxRetryDelay : Nat) (request : ModelTurnRequest)
    (runs : Nat → AttemptRun) : Prop where
  accepted : Takes {} (gatewayStreamTurn maxRetryDelay request runs).1
  oneTerminal : ∀ before event after,
    (gatewayStreamTurn maxRetryDelay request runs).1 = before ++ event :: after →
      event.isTerminal = true → after = []
  attempts : startedAttempts (gatewayStreamTurn maxRetryDelay request runs).1 ≤
    1 + min request.maxProviderRetries request.remainingProviderRetries
  ends : EndsWell request runs (gatewayStreamTurn maxRetryDelay request runs)

/-- The runtime and the assembler agree exactly when no attempt that the runtime comes to
fails after its finish event. -/
theorem stream_agrees_iff (hlegal : ∀ number, (runs number).Legal) :
    StreamAgrees maxRetryDelay request runs ↔
      ∀ number, Reached maxRetryDelay request runs 1 request.maxRetries number →
        (runs number).FinishesLast request := by
  have hready : Ready {} 1 := ⟨rfl, rfl, .inl ⟨rfl, rfl⟩⟩
  constructor
  · intro h number hreached
    exact hready.attempts_finish_last hlegal h.accepted hreached
  · intro h
    have htakes := hready.attempts hlegal h
    refine ⟨htakes, ?_, startedAttempts_attemptsFrom _ _, endsWell_attemptsFrom _ _⟩
    intro before event after hsplit hterminal
    unfold gatewayStreamTurn at hsplit
    rw [hsplit] at htakes
    exact htakes.terminal_last _ hterminal

def plainRequest : ModelTurnRequest where
  maxProviderRetries := 0
  providerTimeout := 1000

def oneWordRun (ending : StreamEnding) : AttemptRun where
  events := [{ kind := .textDelta, delta := some "word" },
    { kind := .finish, finishReason := some .stop }]
  ending := ending

theorem oneWordRun_legal (ending : StreamEnding) : (oneWordRun ending).Legal := by
  have hword : legalFrom [] [] (oneWordRun .exhausted).events = true := by decide
  exact hword

/-- The first attempt breaks off within the word, and the second one says it. -/
def retriedRuns (number : Nat) : AttemptRun :=
  if number = 1 then
    { events := [{ kind := .textDelta, delta := some "wo" }]
      ending := .raised { type := .timeoutError } }
  else oneWordRun .exhausted

theorem retriedRuns_legal (number : Nat) : (retriedRuns number).Legal := by
  unfold retriedRuns
  split
  · have hpart : legalFrom [] [] (retriedRuns 1).events = true := by decide
    exact hpart
  · exact oneWordRun_legal .exhausted

theorem stream_agrees_retriedRuns :
    StreamAgrees 30000 { plainRequest with maxProviderRetries := 1, remainingProviderRetries := 1 }
        retriedRuns ∧
      startedAttempts (gatewayStreamTurn 30000
        { plainRequest with maxProviderRetries := 1, remainingProviderRetries := 1 }
        retriedRuns).1 = 2 := by
  refine ⟨(stream_agrees_iff retriedRuns_legal).mpr ?_, by decide +kernel⟩
  intro number _
  unfold AttemptRun.FinishesLast retriedRuns
  split
  · intro hfinishes
    revert hfinishes
    decide
  · exact fun _ => .inl rfl

/-- The stream of an answer times out after its finish: the good answer is refused. -/
theorem stream_disagrees_after_finish :
    (∀ number : Nat, ((fun _ => oneWordRun (.raised { type := .timeoutError })) number).Legal) ∧
    ¬StreamAgrees 30000 plainRequest (fun _ => oneWordRun (.raised { type := .timeoutError })) := by
  refine ⟨fun _ => oneWordRun_legal _, ?_⟩
  intro h
  obtain ⟨last, hlast⟩ := h.accepted
  have hrefused : ({} : ModelStreamAssembler).acceptAll (gatewayStreamTurn 30000 plainRequest
      (fun _ => oneWordRun (.raised { type := .timeoutError }))).1 =
        .error "stream event received after terminal event" := by decide +kernel
  rw [hrefused] at hlast
  cases hlast

end Hybro.Orchestrator
