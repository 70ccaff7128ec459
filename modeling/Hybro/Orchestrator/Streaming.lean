import Hybro.Orchestrator.Models

/-! # Model stream assembly

The normalized events of one model turn and the assembler that turns them into
one outcome. `json.loads` is a parameter.
-/

namespace Hybro.Orchestrator

inductive ModelStreamEventKind
  | attemptStarted
  | retryScheduled
  | attemptFailed
  | textDelta
  | reasoningDelta
  | toolCallStart
  | toolCallArgumentsDelta
  | toolCallEnd
  | usage
  | finish
  | error
  deriving DecidableEq

structure ModelStreamEvent where
  kind : ModelStreamEventKind
  attempt : Option Nat := none
  providerRequestId : Option String := none
  errorClass : Option String := none
  retryable : Option Bool := none
  errorCode : Option String := none
  callId : Option String := none
  toolName : Option String := none
  delta : Option String := none
  usage : Option UsageRecord := none
  finishReason : Option String := none
  deriving DecidableEq

/-- `event.delta or ""` -/
def ModelStreamEvent.text (event : ModelStreamEvent) : String := event.delta.getD ""

/-- `_ALLOWED_FINISH_REASONS` -/
def parseFinishReason : Option String → Option FinishReason
  | some "stop" => some .stop
  | some "tool_calls" => some .toolCalls
  | some "length" => some .length
  | some "content_filter" => some .contentFilter
  | some "error" => some .error
  | some "aborted" => some .aborted
  | _ => none

inductive ModelAssemblyOutcomeKind
  | assistant
  | contextOverflow
  | providerError
  | aborted
  deriving DecidableEq

structure ModelAssemblyOutcome where
  kind : ModelAssemblyOutcomeKind
  assistant : Option AssistantMessage := none
  errorClass : Option String := none
  providerRequestId : Option String := none
  errorCode : Option String := none
  deriving DecidableEq

/-- The dictionaries keep their insertion order. -/
structure ModelStreamAssembler where
  text : List String := []
  toolNames : List (String × String) := []
  toolArguments : List (String × List String) := []
  closedCalls : List String := []
  usage : Option UsageRecord := none
  usageByAttempt : List (Nat × UsageRecord) := []
  finishReason : Option FinishReason := none
  terminalErrorClass : Option String := none
  terminalErrorCode : Option String := none
  attempt : Option Nat := none
  failedAttempt : Option Nat := none
  scheduledAttempt : Option Nat := none
  retryEvents : List ModelStreamEvent := []
  providerRequestId : Option String := none
  deriving DecidableEq

namespace ModelStreamAssembler

variable (assembler : ModelStreamAssembler) (event : ModelStreamEvent)

def clearAttemptOutput : ModelStreamAssembler :=
  { assembler with text := [], toolNames := [], toolArguments := [], closedCalls := [], usage := none }

def acceptAttemptStarted : Except String ModelStreamAssembler :=
  if event.attempt = none then
    throw "attempt_started requires an attempt number"
  else if assembler.attempt.isSome ∧ event.attempt ≠ assembler.scheduledAttempt then
    throw "next model attempt must match the scheduled retry"
  else if assembler.attempt = none ∧ event.attempt ≠ some 1 then
    throw "first model attempt must be 1"
  else
    return { assembler.clearAttemptOutput with
      attempt := event.attempt, failedAttempt := none, scheduledAttempt := none }

def acceptAttemptFailed : Except String ModelStreamAssembler :=
  if assembler.attempt = none ∨ event.attempt ≠ assembler.attempt then
    throw "attempt_failed must identify the active model attempt"
  else if assembler.failedAttempt.isSome then
    throw "model attempt failed more than once"
  else
    return { assembler.clearAttemptOutput with
      failedAttempt := event.attempt, retryEvents := assembler.retryEvents ++ [event] }

def acceptRetryScheduled : Except String ModelStreamAssembler :=
  if assembler.failedAttempt ≠ assembler.attempt then
    throw "retry_scheduled must follow a failed model attempt"
  else if assembler.attempt = none then
    throw "TypeError"
  else if event.attempt ≠ assembler.attempt.map (· + 1) then
    throw "retry_scheduled must identify the next model attempt"
  else if assembler.scheduledAttempt.isSome then
    throw "model retry scheduled more than once"
  else if assembler.retryEvents.getLast?.any fun failedEvent =>
      event.errorClass != failedEvent.errorClass || event.retryable != failedEvent.retryable then
    throw "scheduled retry must preserve failed-attempt classification"
  else
    return { assembler with
      scheduledAttempt := event.attempt, retryEvents := assembler.retryEvents ++ [event] }

def acceptTextDelta : Except String ModelStreamAssembler :=
  if assembler.failedAttempt.isSome ∧ assembler.failedAttempt = assembler.attempt then
    throw "output received after attempt failure"
  else
    return { assembler with text := assembler.text ++ [event.text] }

def acceptToolCallStart : Except String ModelStreamAssembler :=
  match event.callId, event.toolName with
  | some callId, some toolName =>
      if callId = "" ∨ toolName = "" then
        throw "tool_call_start requires call_id and tool_name"
      else if (assembler.toolNames.lookup callId).isSome then
        throw "duplicate tool_call_start"
      else
        return { assembler with
          toolNames := assembler.toolNames ++ [(callId, toolName)]
          toolArguments := assembler.toolArguments ++ [(callId, [])] }
  | _, _ => throw "tool_call_start requires call_id and tool_name"

def acceptToolCallArgumentsDelta : Except String ModelStreamAssembler :=
  let callId := event.callId.getD ""
  if callId = "" ∨ (assembler.toolArguments.lookup callId).isNone then
    throw "arguments delta precedes tool call start"
  else
    return { assembler with
      toolArguments := assembler.toolArguments.map fun (id, parts) =>
        (id, if id = callId then parts ++ [event.text] else parts) }

def acceptToolCallEnd : Except String ModelStreamAssembler :=
  let callId := event.callId.getD ""
  if callId = "" ∨ (assembler.toolArguments.lookup callId).isNone then
    throw "tool_call_end precedes tool call start"
  else if callId ∈ assembler.closedCalls then
    throw "duplicate tool_call_end"
  else
    return { assembler with closedCalls := assembler.closedCalls ++ [callId] }

def acceptUsage : Except String ModelStreamAssembler :=
  match event.usage with
  | none => throw "usage event has no usage"
  | some usage =>
      let attempt := assembler.attempt.getD 1
      let recorded := { assembler with
        usageByAttempt := setKey attempt usage assembler.usageByAttempt }
      return if assembler.failedAttempt = some attempt then recorded
        else { recorded with usage := some usage }

def acceptFinish : Except String ModelStreamAssembler :=
  match parseFinishReason event.finishReason with
  | none => throw "unsupported finish reason"
  | some reason => return { assembler with finishReason := some reason }

def acceptError : Except String ModelStreamAssembler :=
  if event.errorClass = none then
    throw "terminal error requires error_class"
  else if assembler.attempt.isSome ∧ assembler.failedAttempt ≠ assembler.attempt then
    throw "terminal error must follow attempt_failed"
  else
    return { assembler with
      terminalErrorClass := event.errorClass, terminalErrorCode := event.errorCode }

/-- `_accept_{event.kind}` -/
def handle : Except String ModelStreamAssembler :=
  match event.kind with
  | .attemptStarted => assembler.acceptAttemptStarted event
  | .attemptFailed => assembler.acceptAttemptFailed event
  | .retryScheduled => assembler.acceptRetryScheduled event
  | .textDelta => assembler.acceptTextDelta event
  | .reasoningDelta => return assembler
  | .toolCallStart => assembler.acceptToolCallStart event
  | .toolCallArgumentsDelta => assembler.acceptToolCallArgumentsDelta event
  | .toolCallEnd => assembler.acceptToolCallEnd event
  | .usage => assembler.acceptUsage event
  | .finish => assembler.acceptFinish event
  | .error => assembler.acceptError event

def accept : Except String ModelStreamAssembler :=
  if assembler.finishReason.isSome ∨ assembler.terminalErrorClass.isSome then
    throw "stream event received after terminal event"
  else
    { assembler with providerRequestId := event.providerRequestId <|> assembler.providerRequestId }.handle
      event

def buildToolCall (loads : String → Option JsonValue) (callId : String) :
    Except String ToolCall :=
  let raw := String.join ((assembler.toolArguments.lookup callId).getD [])
  match loads (if raw = "" then "\x7b\x7d" else raw) with
  | some (.obj arguments) =>
      return ⟨callId, (assembler.toolNames.lookup callId).getD "", arguments⟩
  | some _ => throw "tool arguments must be an object"
  | none => throw "malformed arguments for tool call"

def buildToolCalls (loads : String → Option JsonValue) : List String → Except String (List ToolCall)
  | [] => return []
  | callId :: rest => do
      let call ← assembler.buildToolCall loads callId
      let calls ← buildToolCalls loads rest
      return call :: calls

def errorOutcome (errorClass : String) (errorCode : Option String) : ModelAssemblyOutcome where
  kind :=
    if errorClass = "context_overflow" then .contextOverflow
    else if errorClass = "aborted" then .aborted else .providerError
  errorClass := some errorClass
  providerRequestId := assembler.providerRequestId
  errorCode := errorCode

def assistantOutcome (loads : String → Option JsonValue) (messageId : String)
    (createdAt : Timestamp) (reason : FinishReason) : Except String ModelAssemblyOutcome := do
  let calls ← if reason = .toolCalls then assembler.buildToolCalls loads assembler.closedCalls
    else pure []
  return {
    kind := .assistant
    assistant := some {
      messageId := messageId
      content := if assembler.text = [] then [] else [.text (String.join assembler.text)]
      toolCalls := calls
      finishReason := reason
      usage := assembler.usage
      createdAt := createdAt }
    providerRequestId := assembler.providerRequestId }

def buildOutcome (loads : String → Option JsonValue) (messageId : String)
    (createdAt : Timestamp) : Except String ModelAssemblyOutcome :=
  match assembler.terminalErrorClass with
  | some errorClass => return assembler.errorOutcome errorClass assembler.terminalErrorCode
  | none =>
      match assembler.finishReason with
      | none => throw "stream did not finish"
      | some .aborted => return assembler.errorOutcome "aborted" none
      | some .contentFilter => return assembler.errorOutcome "content_filter" none
      | some .error => return assembler.errorOutcome "unknown" none
      | some reason =>
          if assembler.toolNames.any fun (callId, _) => !assembler.closedCalls.contains callId then
            throw "stream finished with a truncated tool call"
          else
            assembler.assistantOutcome loads messageId createdAt reason

end ModelStreamAssembler

/-! ## The surviving attempt -/

def ModelStreamEvent.clears (event : ModelStreamEvent) : Bool :=
  event.kind == .attemptStarted || event.kind == .attemptFailed

def survivingEvents : List ModelStreamEvent → List ModelStreamEvent
  | [] => []
  | event :: rest =>
      if rest.any ModelStreamEvent.clears then survivingEvents rest
      else if event.clears then rest else event :: rest

def abandonedEvents : List ModelStreamEvent → List ModelStreamEvent
  | [] => []
  | event :: rest =>
      if rest.any ModelStreamEvent.clears then event :: abandonedEvents rest
      else if event.clears then [event] else []

theorem abandoned_append_surviving (events : List ModelStreamEvent) :
    abandonedEvents events ++ survivingEvents events = events := by
  induction events with
  | nil => rfl
  | cons event rest ih =>
      simp only [abandonedEvents, survivingEvents]
      split
      · simp [ih]
      · split <;> simp

def textDeltas (events : List ModelStreamEvent) : List String :=
  (events.filter (·.kind == .textDelta)).map ModelStreamEvent.text

theorem textDeltas_append (first second : List ModelStreamEvent) :
    textDeltas (first ++ second) = textDeltas first ++ textDeltas second := by
  simp [textDeltas]

namespace ModelStreamAssembler

def acceptAll (assembler : ModelStreamAssembler) : List ModelStreamEvent →
    Except String ModelStreamAssembler
  | [] => return assembler
  | event :: rest => do
      let next ← assembler.accept event
      next.acceptAll rest

variable {assembler next : ModelStreamAssembler} {event : ModelStreamEvent}

theorem acceptAttemptStarted_text (h : assembler.acceptAttemptStarted event = .ok next) :
    next.text = [] := by
  unfold acceptAttemptStarted at h
  split_ifs at h
  cases h
  rfl

theorem acceptAttemptFailed_text (h : assembler.acceptAttemptFailed event = .ok next) :
    next.text = [] := by
  unfold acceptAttemptFailed at h
  split_ifs at h
  cases h
  rfl

theorem acceptRetryScheduled_text (h : assembler.acceptRetryScheduled event = .ok next) :
    next.text = assembler.text := by
  unfold acceptRetryScheduled at h
  split_ifs at h
  cases h
  rfl

theorem acceptTextDelta_text (h : assembler.acceptTextDelta event = .ok next) :
    next.text = assembler.text ++ [event.text] := by
  unfold acceptTextDelta at h
  split_ifs at h
  cases h
  rfl

theorem acceptToolCall_text (h : assembler.acceptToolCallStart event = .ok next ∨
      assembler.acceptToolCallArgumentsDelta event = .ok next ∨
      assembler.acceptToolCallEnd event = .ok next) : next.text = assembler.text := by
  rcases h with h | h | h
  · unfold acceptToolCallStart at h
    split at h
    · split_ifs at h
      cases h
      rfl
    · cases h
  · simp only [acceptToolCallArgumentsDelta] at h
    split_ifs at h
    cases h
    rfl
  · simp only [acceptToolCallEnd] at h
    split_ifs at h
    cases h
    rfl

theorem acceptRest_text (h : assembler.acceptUsage event = .ok next ∨
      assembler.acceptFinish event = .ok next ∨ assembler.acceptError event = .ok next) :
    next.text = assembler.text := by
  rcases h with h | h | h
  · unfold acceptUsage at h
    split at h
    · cases h
    · cases h
      simp only
      split_ifs <;> rfl
  · unfold acceptFinish at h
    split at h <;> cases h
    rfl
  · unfold acceptError at h
    split_ifs at h
    cases h
    rfl

theorem accept_text (h : assembler.accept event = .ok next) :
    next.text = if event.clears then [] else assembler.text ++ textDeltas [event] := by
  unfold accept at h
  split_ifs at h
  unfold handle at h
  cases hkind : event.kind with
  | attemptStarted =>
      simp only [hkind] at h
      simp [ModelStreamEvent.clears, hkind, acceptAttemptStarted_text h]
  | attemptFailed =>
      simp only [hkind] at h
      simp [ModelStreamEvent.clears, hkind, acceptAttemptFailed_text h]
  | textDelta =>
      simp only [hkind] at h
      simp [ModelStreamEvent.clears, textDeltas, hkind, acceptTextDelta_text h]
  | reasoningDelta =>
      simp only [hkind] at h
      cases h
      simp [ModelStreamEvent.clears, textDeltas, hkind]
  | retryScheduled =>
      simp only [hkind] at h
      simp [ModelStreamEvent.clears, textDeltas, hkind, acceptRetryScheduled_text h]
  | toolCallStart =>
      simp only [hkind] at h
      simp [ModelStreamEvent.clears, textDeltas, hkind, acceptToolCall_text (Or.inl h)]
  | toolCallArgumentsDelta =>
      simp only [hkind] at h
      simp [ModelStreamEvent.clears, textDeltas, hkind, acceptToolCall_text (Or.inr (Or.inl h))]
  | toolCallEnd =>
      simp only [hkind] at h
      simp [ModelStreamEvent.clears, textDeltas, hkind, acceptToolCall_text (Or.inr (Or.inr h))]
  | usage =>
      simp only [hkind] at h
      simp [ModelStreamEvent.clears, textDeltas, hkind, acceptRest_text (Or.inl h)]
  | finish =>
      simp only [hkind] at h
      simp [ModelStreamEvent.clears, textDeltas, hkind, acceptRest_text (Or.inr (Or.inl h))]
  | error =>
      simp only [hkind] at h
      simp [ModelStreamEvent.clears, textDeltas, hkind, acceptRest_text (Or.inr (Or.inr h))]

end ModelStreamAssembler

end Hybro.Orchestrator
