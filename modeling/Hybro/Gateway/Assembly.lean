import Hybro.Gateway.CodexStream
import Hybro.Orchestrator.ModelRuntimeStream

/-! # Events that an assembler accepts

An event fits the ones before it when it starts a new call, or continues or ends a started
one. The assembler of a first attempt accepts every list of events that fit.
-/

namespace Hybro.Gateway

open Orchestrator

variable {events : List ModelStreamEvent} {event : ModelStreamEvent}

/-! ## Calls of a list of events -/

def argumentsOf (callId : String) (events : List ModelStreamEvent) : String :=
  String.join (argumentTexts events callId)

@[simp] theorem startedCalls_snoc :
    startedCalls (events ++ [event]) = startedCalls events ++
      if event.kind = .toolCallStart then
        (event.callId.bind fun callId => event.toolName.map fun name => (callId, name)).toList
      else [] := by
  rw [startedCalls_append]
  by_cases h : event.kind = .toolCallStart
  · cases hcall : event.callId.bind fun callId => event.toolName.map fun name => (callId, name) <;>
      simp [startedCalls, h, hcall]
  · simp [startedCalls, h]

@[simp] theorem endedCalls_snoc :
    endedCalls (events ++ [event]) = endedCalls events ++
      if event.kind = .toolCallEnd then event.callId.toList else [] := by
  rw [endedCalls_append]
  by_cases h : event.kind = .toolCallEnd
  · cases hid : event.callId <;> simp [endedCalls, h, hid]
  · simp [endedCalls, h]

@[simp] theorem join_append (first second : List String) :
    String.join (first ++ second) = String.join first ++ String.join second := by
  apply String.toList_injective
  simp [String.toList_join]

@[simp] theorem argumentsOf_snoc (callId : String) :
    argumentsOf callId (events ++ [event]) = argumentsOf callId events ++
      if event.kind = .toolCallArgumentsDelta ∧ event.callId = some callId then event.text
      else "" := by
  unfold argumentsOf
  rw [argumentTexts_append, join_append]
  congr 1
  by_cases h : event.kind = .toolCallArgumentsDelta ∧ event.callId = some callId <;>
    simp [argumentTexts, h, String.join]

def startedIds (events : List ModelStreamEvent) : List String :=
  (startedCalls events).map (·.1)

theorem lookup_startedCalls {callId : String} :
    ((startedCalls events).lookup callId).isSome = true ↔ callId ∈ startedIds events := by
  rw [List.lookup_isSome_iff]
  unfold startedIds
  constructor
  · rintro ⟨entry, hmem, hkey⟩
    exact List.mem_map.mpr ⟨entry, hmem, (beq_iff_eq.mp hkey).symm⟩
  · intro hmem
    obtain ⟨entry, hentry, hkey⟩ := List.mem_map.mp hmem
    exact ⟨entry, hentry, beq_iff_eq.mpr hkey.symm⟩

theorem startedIds_grow {callId : String} (h : callId ∈ startedIds events) :
    callId ∈ startedIds (events ++ [event]) := by
  unfold startedIds
  rw [startedCalls_snoc, List.map_append]
  exact List.mem_append_left _ h

/-! ## Events that fit -/

def Fits (events : List ModelStreamEvent) (event : ModelStreamEvent) : Prop :=
  match event.kind with
  | .toolCallStart => ∃ callId name, event.callId = some callId ∧ event.toolName = some name ∧
      callId ≠ "" ∧ name ≠ "" ∧ callId ∉ startedIds events
  | .toolCallArgumentsDelta => ∃ callId, event.callId = some callId ∧ callId ≠ "" ∧
      callId ∈ startedIds events
  | .toolCallEnd => ∃ callId, event.callId = some callId ∧ callId ≠ "" ∧
      callId ∈ startedIds events ∧ callId ∉ endedCalls events
  | .usage => event.usage.isSome
  | .finish => (parseFinishReason event.finishReason).isSome
  | .textDelta | .reasoningDelta => True
  | _ => False

inductive AllFit : List ModelStreamEvent → Prop
  | nil : AllFit []
  | snoc {events : List ModelStreamEvent} {event : ModelStreamEvent} :
      AllFit events → Fits events event → AllFit (events ++ [event])

theorem AllFit.starts_nodup (h : AllFit events) : (startedIds events).Nodup := by
  induction h with
  | nil => exact List.nodup_nil
  | @snoc events event _ hfits ih =>
      by_cases hkind : event.kind = .toolCallStart
      · simp only [Fits, hkind] at hfits
        obtain ⟨callId, name, hid, hname, -, -, hfresh⟩ := hfits
        have hstarted : startedIds (events ++ [event]) = startedIds events ++ [callId] := by
          simp [startedIds, hkind, hid, hname]
        rw [hstarted]
        exact ih.append (List.nodup_singleton callId) (by simpa using hfresh)
      · simpa [startedIds, hkind] using ih

theorem AllFit.ends (h : AllFit events) :
    (endedCalls events).Nodup ∧ ∀ callId ∈ endedCalls events, callId ∈ startedIds events := by
  induction h with
  | nil => exact ⟨List.nodup_nil, by simp [endedCalls]⟩
  | @snoc events event _ hfits ih =>
      by_cases hkind : event.kind = .toolCallEnd
      · simp only [Fits, hkind] at hfits
        obtain ⟨callId, hid, -, hstarted, hunended⟩ := hfits
        simp only [endedCalls_snoc, hkind, if_true, hid, Option.toList_some]
        refine ⟨ih.1.append (List.nodup_singleton callId) (by simpa using hunended), ?_⟩
        intro other hmem
        rcases List.mem_append.mp hmem with hmem | hmem
        · exact startedIds_grow (ih.2 other hmem)
        · rw [List.mem_singleton.mp hmem]
          exact startedIds_grow hstarted
      · simp only [endedCalls_snoc, hkind, if_false, List.append_nil]
        exact ⟨ih.1, fun callId hmem => startedIds_grow (ih.2 callId hmem)⟩

theorem AllFit.arguments_eq (h : AllFit events) {callId : String}
    (hunknown : callId ∉ startedIds events) : argumentsOf callId events = "" := by
  induction h with
  | nil => rfl
  | @snoc events event _ hfits ih =>
      have hbefore : callId ∉ startedIds events := fun hmem => hunknown (startedIds_grow hmem)
      rw [argumentsOf_snoc, ih hbefore, if_neg]
      · rfl
      · rintro ⟨hkind, hid⟩
        simp only [Fits, hkind] at hfits
        obtain ⟨other, hother, -, hstarted⟩ := hfits
        have hsame : callId = other := Option.some.inj (hid.symm.trans hother)
        exact hbefore (hsame ▸ hstarted)

/-! ## Acceptance -/

structure FirstAttempt (assembler : ModelStreamAssembler) : Prop where
  attempt : assembler.attempt = some 1
  failed : assembler.failedAttempt = none
  error : assembler.terminalErrorClass = none

variable {assembler : ModelStreamAssembler}

theorem accept_fits (h : Holds assembler events) (hfirst : FirstAttempt assembler)
    (hopen : assembler.finishReason = none) (hfits : Fits events event) :
    ∃ next, assembler.accept event = .ok next ∧ FirstAttempt next ∧
      next.finishReason = if event.kind = .finish then parseFinishReason event.finishReason
        else none := by
  have hlive : assembler.accept event =
      { assembler with
        providerRequestId := event.providerRequestId <|> assembler.providerRequestId }.handle
          event := by
    unfold ModelStreamAssembler.accept
    rw [if_neg (by simp [hopen, hfirst.error])]
  have hknown : ∀ callId ∈ startedIds events,
      (assembler.toolArguments.lookup callId).isNone = false := by
    intro callId hmem
    rw [h.arguments, Option.isNone_map, Option.isNone_eq_false_iff]
    exact lookup_startedCalls.mpr hmem
  rw [hlive]
  unfold Fits at hfits
  cases hkind : event.kind with
  | textDelta =>
      refine ⟨{ assembler with
        text := assembler.text ++ [event.text]
        providerRequestId := event.providerRequestId <|> assembler.providerRequestId }, ?_,
        ⟨hfirst.attempt, hfirst.failed, hfirst.error⟩, hopen⟩
      simp [ModelStreamAssembler.handle, hkind, ModelStreamAssembler.acceptTextDelta, hfirst.failed,
        pure, Except.pure]
  | reasoningDelta =>
      refine ⟨{ assembler with
        providerRequestId := event.providerRequestId <|> assembler.providerRequestId }, ?_,
        ⟨hfirst.attempt, hfirst.failed, hfirst.error⟩, hopen⟩
      simp [ModelStreamAssembler.handle, hkind, pure, Except.pure]
  | toolCallStart =>
      simp only [hkind] at hfits
      obtain ⟨callId, name, hid, hname, hidNe, hnameNe, hfresh⟩ := hfits
      have hunknown : assembler.toolNames.lookup callId = none := by
        rw [h.names, ← Option.not_isSome_iff_eq_none, lookup_startedCalls]
        exact hfresh
      refine ⟨{ assembler with
        toolNames := assembler.toolNames ++ [(callId, name)]
        toolArguments := assembler.toolArguments ++ [(callId, [])]
        providerRequestId := event.providerRequestId <|> assembler.providerRequestId }, ?_,
        ⟨hfirst.attempt, hfirst.failed, hfirst.error⟩, hopen⟩
      simp [ModelStreamAssembler.handle, hkind, hid, hname,
        ModelStreamAssembler.acceptToolCallStart, hidNe, hnameNe, hunknown, pure, Except.pure]
  | toolCallArgumentsDelta =>
      simp only [hkind] at hfits
      obtain ⟨callId, hid, hidNe, hstarted⟩ := hfits
      refine ⟨{ assembler with
        toolArguments := assembler.toolArguments.map fun entry =>
          (entry.1, if entry.1 = callId then entry.2 ++ [event.text] else entry.2)
        providerRequestId := event.providerRequestId <|> assembler.providerRequestId }, ?_,
        ⟨hfirst.attempt, hfirst.failed, hfirst.error⟩, hopen⟩
      simp [ModelStreamAssembler.handle, hkind, hid,
        ModelStreamAssembler.acceptToolCallArgumentsDelta, hidNe, hknown callId hstarted, pure,
        Except.pure]
  | toolCallEnd =>
      simp only [hkind] at hfits
      obtain ⟨callId, hid, hidNe, hstarted, hunended⟩ := hfits
      refine ⟨{ assembler with
        closedCalls := assembler.closedCalls ++ [callId]
        providerRequestId := event.providerRequestId <|> assembler.providerRequestId }, ?_,
        ⟨hfirst.attempt, hfirst.failed, hfirst.error⟩, hopen⟩
      simp [ModelStreamAssembler.handle, hkind, hid, ModelStreamAssembler.acceptToolCallEnd, hidNe,
        hknown callId hstarted, h.closed, hunended, pure, Except.pure]
  | usage =>
      simp only [hkind] at hfits
      obtain ⟨usage, husage⟩ := Option.isSome_iff_exists.mp hfits
      refine ⟨{ assembler with
        usageByAttempt := setKey 1 usage assembler.usageByAttempt
        usage := some usage
        providerRequestId := event.providerRequestId <|> assembler.providerRequestId }, ?_,
        ⟨hfirst.attempt, hfirst.failed, hfirst.error⟩, hopen⟩
      simp [ModelStreamAssembler.handle, hkind, husage, ModelStreamAssembler.acceptUsage,
        hfirst.attempt, hfirst.failed, pure, Except.pure]
  | finish =>
      simp only [hkind] at hfits
      obtain ⟨reason, hreason⟩ := Option.isSome_iff_exists.mp hfits
      refine ⟨{ assembler with
        finishReason := some reason
        providerRequestId := event.providerRequestId <|> assembler.providerRequestId }, ?_,
        ⟨hfirst.attempt, hfirst.failed, hfirst.error⟩, by simp [hreason]⟩
      simp [ModelStreamAssembler.handle, hkind, hreason, ModelStreamAssembler.acceptFinish, pure,
        Except.pure]
  | attemptStarted | attemptFailed | retryScheduled | error => simp [hkind] at hfits

theorem Fits.clears (h : Fits events event) : event.clears = false := by
  unfold Fits at h
  cases hkind : event.kind <;> simp [ModelStreamEvent.clears, hkind] at h ⊢

theorem accept_allFit (h : AllFit events) (hunfinished : ∀ event ∈ events, event.kind ≠ .finish) :
    ∃ assembler, ({} : ModelStreamAssembler).acceptAll (attemptStarted 1 :: events) = .ok assembler ∧
      Holds assembler events ∧ FirstAttempt assembler ∧ assembler.finishReason = none := by
  induction h with
  | nil => exact ⟨{ attempt := some 1 }, rfl, .nothing rfl rfl rfl rfl, ⟨rfl, rfl, rfl⟩, rfl⟩
  | @snoc events event _ hfits ih =>
      have hbefore : ∀ other ∈ events, other.kind ≠ .finish := by
        intro other hmem
        exact hunfinished other (List.mem_append_left _ hmem)
      obtain ⟨assembler, haccept, hholds, hfirst, hopen⟩ := ih hbefore
      have hkind : event.kind ≠ .finish := hunfinished event (by simp)
      obtain ⟨next, hnext, hnextFirst, hnextOpen⟩ := accept_fits hholds hfirst hopen hfits
      refine ⟨next, ?_, hholds.accept hfits.clears hnext, hnextFirst, ?_⟩
      · rw [← List.cons_append, acceptAll_append, haccept]
        exact congrArg (· >>= fun next => pure next) hnext
      · rw [hnextOpen, if_neg hkind]

end Hybro.Gateway
