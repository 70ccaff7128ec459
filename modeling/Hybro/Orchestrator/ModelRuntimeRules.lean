import Hybro.Orchestrator.ModelRuntime

/-! # What the runtime yields is what the assembler takes

An attempt whose stream ends with its finish event is accepted event by event. One that
fails after its finish event is not, since the assembler takes nothing after a finish.
-/

namespace Hybro.Orchestrator

/-! ## Legal attempts -/

/-- The events of one attempt, given the calls that were started and ended before: a call
is started once, ended at most once, and a finish is the last event. -/
def legalFrom (started ended : List String) : List GatewayTurnEvent → Bool
  | [] => true
  | event :: rest =>
      match event.kind, event.callId with
      | .textDelta, _ => legalFrom started ended rest
      | .reasoningDelta, _ => legalFrom started ended rest
      | .toolCallStart, some callId =>
          callId != "" && !event.toolName.all (· == "") && !started.contains callId &&
            legalFrom (started ++ [callId]) ended rest
      | .toolCallArgumentsDelta, some callId =>
          callId != "" && started.contains callId && legalFrom started ended rest
      | .toolCallEnd, some callId =>
          callId != "" && started.contains callId && !ended.contains callId &&
            legalFrom started (ended ++ [callId]) rest
      | .usage, _ => event.usage.isSome && legalFrom started ended rest
      | .finish, _ => event.finishReason.isSome && rest.isEmpty
      | _, none => false

/-! ## The assembler during an attempt -/

structure Ready (assembler : ModelStreamAssembler) (attempt : Nat) : Prop where
  unfinished : assembler.finishReason = none
  noError : assembler.terminalErrorClass = none
  due : assembler.attempt = none ∧ attempt = 1 ∨
    ∃ last, assembler.attempt = some last ∧ assembler.failedAttempt = some last ∧
      assembler.scheduledAttempt = some attempt

structure Running (assembler : ModelStreamAssembler) (attempt : Nat)
    (started ended : List String) : Prop where
  unfinished : assembler.finishReason = none
  noError : assembler.terminalErrorClass = none
  current : assembler.attempt = some attempt
  notFailed : assembler.failedAttempt = none
  notScheduled : assembler.scheduledAttempt = none
  names : assembler.toolNames.map (·.1) = started
  arguments : assembler.toolArguments.map (·.1) = started
  closed : assembler.closedCalls = ended

structure Failed (assembler : ModelStreamAssembler) (attempt : Nat) (errorClass : String)
    (retryable : Bool) : Prop where
  unfinished : assembler.finishReason = none
  noError : assembler.terminalErrorClass = none
  current : assembler.attempt = some attempt
  failed : assembler.failedAttempt = some attempt
  notScheduled : assembler.scheduledAttempt = none
  last : ∃ event, assembler.retryEvents.getLast? = some event ∧
    event.errorClass = some errorClass ∧ event.retryable = some retryable

variable {assembler next : ModelStreamAssembler} {attempt : Nat} {started ended : List String}
  {event : ModelStreamEvent}

theorem accept_eq_handle (hunfinished : assembler.finishReason = none)
    (hnoError : assembler.terminalErrorClass = none) :
    assembler.accept event = ({ assembler with
      providerRequestId := event.providerRequestId <|> assembler.providerRequestId
      } : ModelStreamAssembler).handle event := by
  unfold ModelStreamAssembler.accept
  rw [if_neg]
  simp [hunfinished, hnoError]

theorem Ready.start (h : Ready assembler attempt) :
    ∃ next, assembler.accept (attemptStarted attempt) = .ok next ∧ Running next attempt [] [] := by
  rw [accept_eq_handle h.unfinished h.noError]
  have hstart : ({ assembler with
      providerRequestId := (attemptStarted attempt).providerRequestId <|>
        assembler.providerRequestId } : ModelStreamAssembler).acceptAttemptStarted
          (attemptStarted attempt) = .ok { assembler.clearAttemptOutput with
            attempt := some attempt, failedAttempt := none, scheduledAttempt := none } := by
    unfold ModelStreamAssembler.acceptAttemptStarted
    rcases h.due with ⟨hnone, rfl⟩ | ⟨last, hlast, -, hscheduled⟩
    · simp [attemptStarted, hnone, ModelStreamAssembler.clearAttemptOutput]
      rfl
    · simp [attemptStarted, hlast, hscheduled, ModelStreamAssembler.clearAttemptOutput]
      rfl
  exact ⟨_, hstart, h.unfinished, h.noError, rfl, rfl, rfl, rfl, rfl, rfl⟩

theorem lookup_isSome_iff {β : Type} {entries : List (String × β)} {key : String} :
    (entries.lookup key).isSome ↔ key ∈ entries.map (·.1) := by
  induction entries with
  | nil => simp
  | cons entry rest ih =>
      obtain ⟨other, value⟩ := entry
      rw [List.lookup_cons, List.map_cons, List.mem_cons, ← ih]
      cases hkey : key == other with
      | true => simp [beq_iff_eq.mp hkey]
      | false => simp [beq_eq_false_iff_ne.mp hkey]

section

variable (h : Running assembler attempt started ended)
include h

theorem Running.textDelta : assembler.acceptTextDelta event =
    .ok { assembler with text := assembler.text ++ [event.text] } := by
  unfold ModelStreamAssembler.acceptTextDelta
  rw [if_neg]
  · rfl
  · simp [h.notFailed]

theorem Running.toolCallStart {callId toolName : String} (hcall : event.callId = some callId)
    (hname : event.toolName = some toolName) (hcallId : callId ≠ "") (htoolName : toolName ≠ "")
    (hnew : callId ∉ started) : assembler.acceptToolCallStart event =
      .ok { assembler with
        toolNames := assembler.toolNames ++ [(callId, toolName)]
        toolArguments := assembler.toolArguments ++ [(callId, [])] } := by
  have hlookup : ¬(assembler.toolNames.lookup callId).isSome := by
    rw [lookup_isSome_iff, h.names]
    exact hnew
  unfold ModelStreamAssembler.acceptToolCallStart
  rw [hcall, hname]
  dsimp only
  rw [if_neg (not_or.mpr ⟨hcallId, htoolName⟩), if_neg hlookup]
  rfl

theorem Running.known {callId : String} (hknown : callId ∈ started) :
    (assembler.toolArguments.lookup callId).isNone = false := by
  have hlookup : (assembler.toolArguments.lookup callId).isSome := by
    rw [lookup_isSome_iff, h.arguments]
    exact hknown
  cases hargs : assembler.toolArguments.lookup callId with
  | none => simp [hargs] at hlookup
  | some texts => rfl

theorem Running.toolCallArgumentsDelta {callId : String} (hcall : event.callId = some callId)
    (hcallId : callId ≠ "") (hknown : callId ∈ started) :
    assembler.acceptToolCallArgumentsDelta event = .ok { assembler with
      toolArguments := assembler.toolArguments.map fun (id, parts) =>
        (id, if id = callId then parts ++ [event.text] else parts) } := by
  unfold ModelStreamAssembler.acceptToolCallArgumentsDelta
  rw [hcall]
  dsimp only [Option.getD_some]
  rw [if_neg]
  · rfl
  · simp [hcallId, h.known hknown]

theorem Running.toolCallEnd {callId : String} (hcall : event.callId = some callId)
    (hcallId : callId ≠ "") (hknown : callId ∈ started) (hopen : callId ∉ ended) :
    assembler.acceptToolCallEnd event =
      .ok { assembler with closedCalls := assembler.closedCalls ++ [callId] } := by
  unfold ModelStreamAssembler.acceptToolCallEnd
  rw [hcall]
  dsimp only [Option.getD_some]
  rw [if_neg, if_neg]
  · rfl
  · rw [h.closed]
    exact hopen
  · simp [hcallId, h.known hknown]

variable (event) in
theorem Running.usage {usage : UsageRecord} (husage : event.usage = some usage) :
    ∃ recorded, assembler.acceptUsage event =
      .ok { assembler with usageByAttempt := recorded, usage := some usage } := by
  unfold ModelStreamAssembler.acceptUsage
  rw [husage]
  dsimp only
  rw [h.notFailed, if_neg nofun]
  exact ⟨_, rfl⟩

theorem Running.step {event : GatewayTurnEvent}
    {rest : List GatewayTurnEvent} (hlegal : legalFrom started ended (event :: rest) = true)
    (hkind : event.kind ≠ .finish) :
    ∃ next started' ended', assembler.accept (toModelEvent attempt event) = .ok next ∧
      Running next attempt started' ended' ∧ legalFrom started' ended' rest = true := by
  rw [accept_eq_handle h.unfinished h.noError]
  have hrunning : Running { assembler with
      providerRequestId := (toModelEvent attempt event).providerRequestId <|>
        assembler.providerRequestId } attempt started ended := { h with }
  unfold ModelStreamAssembler.handle
  cases hevent : event.kind with
  | textDelta =>
      simp only [legalFrom, hevent] at hlegal
      simp only [toModelEvent, hevent] at hrunning ⊢
      exact ⟨_, started, ended, hrunning.textDelta, { hrunning with }, hlegal⟩
  | reasoningDelta =>
      simp only [legalFrom, hevent] at hlegal
      simp only [toModelEvent, hevent] at hrunning ⊢
      exact ⟨_, started, ended, rfl, hrunning, hlegal⟩
  | toolCallStart =>
      cases hcall : event.callId with
      | none => simp [legalFrom, hevent, hcall] at hlegal
      | some callId =>
          simp only [legalFrom, hevent, hcall, Bool.and_eq_true, bne_iff_ne,
            Bool.not_eq_true'] at hlegal
          obtain ⟨⟨⟨hcallId, htool⟩, hnew⟩, hlegal⟩ := hlegal
          cases hname : event.toolName with
          | none => simp [hname] at htool
          | some toolName =>
              simp only [toModelEvent, hevent] at hrunning ⊢
              refine ⟨_, started ++ [callId], ended,
                hrunning.toolCallStart hcall hname hcallId ?_ ?_, ?_, hlegal⟩
              · simpa [hname] using htool
              · simpa using hnew
              · refine { hrunning with names := ?_, arguments := ?_ }
                · simp [h.names]
                · simp [h.arguments]
  | toolCallArgumentsDelta =>
      cases hcall : event.callId with
      | none => simp [legalFrom, hevent, hcall] at hlegal
      | some callId =>
          simp only [legalFrom, hevent, hcall, Bool.and_eq_true, bne_iff_ne,
            List.contains_iff_mem] at hlegal
          obtain ⟨⟨hcallId, hknown⟩, hlegal⟩ := hlegal
          simp only [toModelEvent, hevent] at hrunning ⊢
          refine ⟨_, started, ended, hrunning.toolCallArgumentsDelta hcall hcallId hknown, ?_, hlegal⟩
          refine { hrunning with arguments := ?_ }
          simpa [List.map_map, Function.comp_def] using h.arguments
  | toolCallEnd =>
      cases hcall : event.callId with
      | none => simp [legalFrom, hevent, hcall] at hlegal
      | some callId =>
          simp only [legalFrom, hevent, hcall, Bool.and_eq_true, bne_iff_ne,
            List.contains_iff_mem, Bool.not_eq_true'] at hlegal
          obtain ⟨⟨⟨hcallId, hknown⟩, hopen⟩, hlegal⟩ := hlegal
          simp only [toModelEvent, hevent] at hrunning ⊢
          refine ⟨_, started, ended ++ [callId],
            hrunning.toolCallEnd hcall hcallId hknown (by simpa using hopen), ?_, hlegal⟩
          refine { hrunning with closed := ?_ }
          simp [h.closed]
  | usage =>
      simp only [legalFrom, hevent, Bool.and_eq_true] at hlegal
      obtain ⟨husage, hlegal⟩ := hlegal
      obtain ⟨usage, husage⟩ := Option.isSome_iff_exists.mp husage
      simp only [toModelEvent, hevent] at hrunning ⊢
      obtain ⟨recorded, haccept⟩ := hrunning.usage {
        kind := .usage
        attempt := some attempt
        providerRequestId := event.providerRequestId
        callId := event.callId
        toolName := event.toolName
        delta := event.delta
        usage := event.usage
        finishReason := event.finishReason.map (·.value) } husage
      exact ⟨_, started, ended, haccept, { hrunning with }, hlegal⟩
  | finish => exact absurd hevent hkind

theorem Running.finish {event : GatewayTurnEvent}
    {rest : List GatewayTurnEvent} (hlegal : legalFrom started ended (event :: rest) = true)
    (hkind : event.kind = .finish) :
    rest = [] ∧ ∃ next, assembler.accept (toModelEvent attempt event) = .ok next ∧
      next.finishReason.isSome := by
  rw [accept_eq_handle h.unfinished h.noError]
  simp only [legalFrom, hkind, Bool.and_eq_true, List.isEmpty_iff] at hlegal
  obtain ⟨hreason, hlast⟩ := hlegal
  obtain ⟨reason, hreason⟩ := Option.isSome_iff_exists.mp hreason
  refine ⟨hlast, ?_⟩
  simp only [ModelStreamAssembler.handle, toModelEvent, hkind, hreason,
    ModelStreamAssembler.acceptFinish]
  cases reason <;> exact ⟨_, rfl, rfl⟩

theorem Running.fail (errorClass : String) (retryable : Bool) (errorCode : Option String) :
    ∃ next, assembler.accept (attemptFailed attempt errorClass retryable errorCode) = .ok next ∧
      Failed next attempt errorClass retryable := by
  rw [accept_eq_handle h.unfinished h.noError]
  refine ⟨{ assembler.clearAttemptOutput with
    failedAttempt := some attempt
    retryEvents := assembler.retryEvents ++
      [attemptFailed attempt errorClass retryable errorCode] }, ?_, ?_⟩
  · have hcurrent : ¬(assembler.attempt = none ∨ some attempt ≠ assembler.attempt) := by
      simp [h.current]
    have hnotFailed : ¬assembler.failedAttempt.isSome = true := by simp [h.notFailed]
    exact (if_neg hcurrent).trans (if_neg hnotFailed)
  · exact ⟨h.unfinished, h.noError, h.current, rfl, h.notScheduled,
      _, List.getLast?_concat, rfl, rfl⟩

end

theorem Failed.schedule {errorClass : String} (h : Failed assembler attempt errorClass true) :
    ∃ next, assembler.accept (retryScheduled (attempt + 1) errorClass) = .ok next ∧
      Ready next (attempt + 1) := by
  rw [accept_eq_handle h.unfinished h.noError]
  obtain ⟨event, hlast, hclass, hretryable⟩ := h.last
  refine ⟨{ assembler with
      scheduledAttempt := some (attempt + 1)
      retryEvents := assembler.retryEvents ++ [retryScheduled (attempt + 1) errorClass] }, ?_, ?_⟩
  · have hfollows : ¬assembler.failedAttempt ≠ assembler.attempt := by simp [h.failed, h.current]
    have hstarted : ¬assembler.attempt = none := by simp [h.current]
    have hnumber : ¬some (attempt + 1) ≠ assembler.attempt.map (· + 1) := by simp [h.current]
    have honce : ¬assembler.scheduledAttempt.isSome = true := by simp [h.notScheduled]
    have hsame : ¬(assembler.retryEvents.getLast?.any fun failedEvent =>
        some errorClass != failedEvent.errorClass || some true != failedEvent.retryable) = true := by
      simp [hlast, hclass, hretryable]
    exact (if_neg hfollows).trans ((if_neg hstarted).trans ((if_neg hnumber).trans
      ((if_neg honce).trans (if_neg hsame))))
  · exact ⟨h.unfinished, h.noError, .inr ⟨attempt, h.current, h.failed, rfl⟩⟩

theorem accept_terminalError (hunfinished : assembler.finishReason = none)
    (hnoError : assembler.terminalErrorClass = none)
    (hfailed : assembler.attempt = none ∨ assembler.failedAttempt = assembler.attempt)
    (number : Option Nat) (errorClass : String) (errorCode : Option String) :
    ∃ next, assembler.accept (terminalError number errorClass errorCode) = .ok next ∧
      next.terminalErrorClass.isSome := by
  rw [accept_eq_handle hunfinished hnoError]
  refine ⟨{ assembler with
    terminalErrorClass := some errorClass, terminalErrorCode := errorCode }, ?_, rfl⟩
  have hclass : ¬(terminalError number errorClass errorCode).errorClass = none := nofun
  have hrunning : ¬(assembler.attempt.isSome ∧ assembler.failedAttempt ≠ assembler.attempt) := by
    rcases hfailed with hnone | hsame
    · simp [hnone]
    · simp [hsame]
  change ModelStreamAssembler.acceptError _ (terminalError number errorClass errorCode) = _
  unfold ModelStreamAssembler.acceptError
  rw [if_neg hclass, if_neg hrunning]
  rfl

end Hybro.Orchestrator
