import Mathlib.Algebra.Group.Nat.Defs
import Mathlib.Data.List.Infix
import Hybro.Orchestrator.SurvivingAttempt

/-! # Retries around a gateway of single attempts

`GatewayModelRuntime.stream_turn` as the list of the events that it yields. What an
attempt meets (the clock, the provider's stream, the cancellation signal) is a value, one
for each attempt. Times are in milliseconds.
-/

namespace Hybro.Orchestrator

/-! ## The gateway -/

inductive GatewayFinishReason
  | stop
  | toolCalls
  | length
  | contentFilter
  | error
  deriving DecidableEq

def GatewayFinishReason.value : GatewayFinishReason → String
  | .stop => "stop"
  | .toolCalls => "tool_calls"
  | .length => "length"
  | .contentFilter => "content_filter"
  | .error => "error"

inductive GatewayTurnEventKind
  | textDelta
  | reasoningDelta
  | toolCallStart
  | toolCallArgumentsDelta
  | toolCallEnd
  | usage
  | finish
  deriving DecidableEq

structure GatewayTurnEvent where
  kind : GatewayTurnEventKind
  providerRequestId : Option String := none
  callId : Option String := none
  toolName : Option String := none
  delta : Option String := none
  usage : Option UsageRecord := none
  finishReason : Option GatewayFinishReason := none
  deriving DecidableEq

structure ClassifiedGatewayError where
  errorClass : String
  retryable : Bool
  retryAfter : Option Nat := none
  deriving DecidableEq

inductive GatewayExceptionType
  | llmProviderFailure (classification : ClassifiedGatewayError)
  | timeoutError
  | structuredActionError
  | other
  deriving DecidableEq

/-- What the code reads of an exception; `code` and `message` are in lower case where
they are searched. -/
structure GatewayException where
  type : GatewayExceptionType
  statusCode : Option Int := none
  code : String := ""
  loweredCode : String := ""
  loweredMessage : String := ""
  retryAfter : Option Nat := none
  deriving DecidableEq

/-- `token in message` -/
def mentions (message token : String) : Bool :=
  decide (token.toList <:+: message.toList)

/-- `classify_gateway_error`, apart from `asyncio.CancelledError`, which is never passed. -/
def classifyGatewayError (exc : GatewayException) : ClassifiedGatewayError :=
  match exc.type with
  | .llmProviderFailure classification => classification
  | .timeoutError => ⟨"timeout", true, none⟩
  | _ =>
      let status := exc.statusCode
      if status = some 401 ∨ status = some 403 then ⟨"authentication", false, none⟩
      else if status = some 429 then ⟨"rate_limit", true, exc.retryAfter⟩
      else if status.any fun status => 500 ≤ status ∧ status ≤ 599 then
        ⟨"provider_5xx", true, exc.retryAfter⟩
      else if status = some 400 ∨ status = some 404 ∨ status = some 409 ∨ status = some 422 then
        let overflow := mentions exc.loweredMessage "context" &&
          ["length", "window", "maximum", "too long"].any (mentions exc.loweredMessage)
        ⟨if overflow then "context_overflow" else "invalid_request", false, none⟩
      else if mentions exc.loweredCode "content_filter" ∨
          mentions exc.loweredMessage "content filter" then
        ⟨"content_filter", false, none⟩
      else if ["connection", "network", "dns"].any (mentions exc.loweredMessage) then
        ⟨"network", true, none⟩
      else ⟨"unknown", false, none⟩

def classified (exc : GatewayException) : ClassifiedGatewayError :=
  if exc.type = .structuredActionError then ⟨"invalid_request", false, none⟩
  else classifyGatewayError exc

/-! ## What an attempt meets -/

/-- How a stream of the gateway ends: without an exception, with one, by the cancellation
signal, or by the cancellation of the task that reads it. -/
inductive StreamEnding
  | exhausted
  | raised (exc : GatewayException)
  | signalAborted
  | cancelled
  deriving DecidableEq

inductive SleepEnding
  | slept
  | signalAborted
  | cancelled
  deriving DecidableEq

/-- The fields follow the code: `self._now()` at each place, the signal before the stream,
the stream, the random share of the delay, and the sleep before the next attempt. -/
structure AttemptRun where
  startedAt : Timestamp := 0
  signalCancelled : Bool := false
  timeoutAt : Timestamp := 0
  events : List GatewayTurnEvent := []
  ending : StreamEnding := .exhausted
  jitter : Nat := 0
  failedAt : Timestamp := 0
  scheduledAt : Timestamp := 0
  sleep : SleepEnding := .slept
  wokenAt : Timestamp := 0

/-- The fields of the request and of its model that the runtime reads itself. -/
structure ModelTurnRequest where
  maxProviderRetries : Nat
  remainingProviderRetries : Nat := 0
  providerTimeout : Nat
  absoluteDeadlineAt : Option Timestamp := none

namespace ModelTurnRequest

variable (request : ModelTurnRequest)

def maxRetries : Nat :=
  min request.maxProviderRetries request.remainingProviderRetries

/-- `self._now() >= request.absolute_deadline_at` -/
def deadlinePassed (now : Timestamp) : Bool :=
  request.absoluteDeadlineAt.any fun deadline => deadline ≤ now

/-- `remaining <= 0 or delay >= remaining` -/
def tooLate (now : Timestamp) (delay : Nat) : Bool :=
  request.absoluteDeadlineAt.any fun deadline =>
    let remaining : Int := (deadline : Int) - now
    remaining ≤ 0 ∨ remaining ≤ delay

def attemptTimeout (now : Timestamp) : Int :=
  match request.absoluteDeadlineAt with
  | none => request.providerTimeout
  | some deadline => min (request.providerTimeout : Int) ((deadline : Int) - now)

end ModelTurnRequest

def retryDelay (maxRetryDelay attempt jitter : Nat) (retryAfter : Option Nat) : Nat :=
  match retryAfter with
  | some retryAfter => min retryAfter maxRetryDelay
  | none => min (min (250 * 2 ^ (attempt - 1)) maxRetryDelay + jitter) maxRetryDelay

/-! ## The events -/

def toModelEvent (attempt : Nat) (event : GatewayTurnEvent) : ModelStreamEvent where
  kind :=
    match event.kind with
    | .textDelta => .textDelta
    | .reasoningDelta => .reasoningDelta
    | .toolCallStart => .toolCallStart
    | .toolCallArgumentsDelta => .toolCallArgumentsDelta
    | .toolCallEnd => .toolCallEnd
    | .usage => .usage
    | .finish => .finish
  attempt := some attempt
  providerRequestId := event.providerRequestId
  callId := event.callId
  toolName := event.toolName
  delta := event.delta
  usage := event.usage
  finishReason := event.finishReason.map (·.value)

def attemptStarted (attempt : Nat) : ModelStreamEvent where
  kind := .attemptStarted
  attempt := some attempt

def attemptFailed (attempt : Nat) (errorClass : String) (retryable : Bool)
    (errorCode : Option String) : ModelStreamEvent where
  kind := .attemptFailed
  attempt := some attempt
  errorClass := some errorClass
  retryable := some retryable
  errorCode := errorCode

def retryScheduled (attempt : Nat) (errorClass : String) : ModelStreamEvent where
  kind := .retryScheduled
  attempt := some attempt
  errorClass := some errorClass
  retryable := some true

def terminalError (attempt : Option Nat) (errorClass : String) (errorCode : Option String) :
    ModelStreamEvent where
  kind := .error
  attempt := attempt
  errorClass := some errorClass
  retryable := some false
  errorCode := errorCode

def deadlineError (attempt : Option Nat) : ModelStreamEvent :=
  terminalError attempt "timeout" (some "deadline")

/-- `str(getattr(exc, "code", "") or "") or None` -/
def GatewayException.errorCode (exc : GatewayException) : Option String :=
  if exc.code = "" then none else some exc.code

def abortedEvents (attempt : Nat) : List ModelStreamEvent :=
  [attemptFailed attempt "aborted" false none, terminalError attempt "aborted" (some "aborted")]

/-- A finish by content filter, which fails the attempt. -/
def GatewayTurnEvent.isFiltered (event : GatewayTurnEvent) : Bool :=
  event.kind == .finish && event.finishReason == some .contentFilter

def forward (attempt : Nat) : List GatewayTurnEvent → List ModelStreamEvent × Bool
  | [] => ([], false)
  | event :: rest =>
      if event.isFiltered then
        ([attemptFailed attempt "content_filter" false none,
          terminalError attempt "content_filter" (some "content_filter")], true)
      else
        let (sent, returned) := forward attempt rest
        (toModelEvent attempt event :: sent, returned)

/-! ## The runtime -/

variable (maxRetryDelay : Nat) (request : ModelTurnRequest) (runs : Nat → AttemptRun)

/-- What the gateway does in an attempt; without time for it, it is not asked. -/
def AttemptRun.stream (run : AttemptRun) : List GatewayTurnEvent × StreamEnding :=
  if run.signalCancelled then ([], .signalAborted)
  else if request.attemptTimeout run.timeoutAt ≤ 0 then ([], .raised { type := .timeoutError })
  else (run.events, run.ending)

def AttemptRun.delay (run : AttemptRun) (attempt : Nat) (exc : GatewayException) : Nat :=
  retryDelay maxRetryDelay attempt run.jitter (classified exc).retryAfter

/-- `can_retry`, where `attempt <= max_retries`. -/
def AttemptRun.canRetry (run : AttemptRun) (attempt : Nat) (exc : GatewayException) : Bool :=
  (classified exc).retryable &&
    !request.tooLate run.failedAt (run.delay maxRetryDelay attempt exc)

abbrev TurnStream := List ModelStreamEvent × Bool

/-- From the schedule of a retry on; `next` is the stream of the next attempt. -/
def AttemptRun.retry (run : AttemptRun) (attempt : Nat) (exc : GatewayException)
    (next : TurnStream) : TurnStream :=
  let scheduled := retryScheduled (attempt + 1) (classified exc).errorClass
  if request.tooLate run.scheduledAt (run.delay maxRetryDelay attempt exc) then
    ([scheduled, deadlineError attempt], true)
  else
    match run.sleep with
    | .cancelled => ([scheduled], false)
    | .signalAborted =>
        (scheduled :: attemptStarted (attempt + 1) :: abortedEvents (attempt + 1), true)
    | .slept =>
        if request.deadlinePassed run.wokenAt then ([scheduled, deadlineError attempt], true)
        else (scheduled :: next.1, next.2)

/-- `except Exception` -/
def AttemptRun.fail (run : AttemptRun) (attempt : Nat) (exc : GatewayException)
    (next : Option TurnStream) : TurnStream :=
  let errorClass := (classified exc).errorClass
  match next.filter fun _ => run.canRetry maxRetryDelay request attempt exc with
  | none =>
      ([attemptFailed attempt errorClass false exc.errorCode,
        terminalError attempt errorClass exc.errorCode], true)
  | some next =>
      let (events, returned) := run.retry maxRetryDelay request attempt exc next
      (attemptFailed attempt errorClass true exc.errorCode :: events, returned)

def AttemptRun.turn (run : AttemptRun) (attempt : Nat) (next : Option TurnStream) : TurnStream :=
  if request.deadlinePassed run.startedAt then ([deadlineError none], true)
  else
    let (events, ending) := run.stream request
    let (sent, returned) := forward attempt events
    let sent := attemptStarted attempt :: sent
    if returned then (sent, true)
    else
      match ending with
      | .exhausted => (sent, true)
      | .cancelled => (sent, false)
      | .signalAborted => (sent ++ abortedEvents attempt, true)
      | .raised exc =>
          let (rest, returned) := run.fail maxRetryDelay request attempt exc next
          (sent ++ rest, returned)

/-- The loop, when `retries` more attempts are allowed: `attempt <= max_retries` means
that this is not 0. -/
def attemptsFrom : (retries attempt : Nat) → TurnStream
  | 0, attempt => (runs attempt).turn maxRetryDelay request attempt none
  | retries + 1, attempt =>
      (runs attempt).turn maxRetryDelay request attempt (some (attemptsFrom retries (attempt + 1)))

/-- `stream_turn` -/
def gatewayStreamTurn : TurnStream :=
  attemptsFrom maxRetryDelay request runs request.maxRetries 1

end Hybro.Orchestrator
