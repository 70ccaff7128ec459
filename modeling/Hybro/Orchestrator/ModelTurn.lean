import Hybro.Library.ExceptBind
import Hybro.Orchestrator.PublicText
import Hybro.Orchestrator.Streaming

/-! # One model turn of the kernel

The kernel feeds the event stream of a model turn to an assembler and, next to it,
to one sanitizer that lives for the whole turn; the durable answer takes its text
from the sanitizer.
-/

namespace Hybro.Orchestrator

open TextPattern

variable (unicode : UnicodeDatabase) (loads : String → Option JsonValue)

/-! ## The public text of a stream -/

def PublicTextSanitizer.observe (sanitizer : PublicTextSanitizer) (event : ModelStreamEvent) :
    Except String PublicTextSanitizer :=
  match event.kind with
  | .textDelta =>
      if event.text = "" then .ok sanitizer
      else (sanitizer.feed unicode event.text.toList).map Prod.fst
  | .toolCallStart | .finish | .error => (sanitizer.flush unicode).map Prod.fst
  | _ => .ok sanitizer

def PublicTextSanitizer.observeAll (sanitizer : PublicTextSanitizer) :
    List ModelStreamEvent → Except String PublicTextSanitizer
  | [] => .ok sanitizer
  | event :: rest => do
      let next ← sanitizer.observe unicode event
      next.observeAll rest

def publicTextOf (secrets : List Text) (events : List ModelStreamEvent) : Except String Text := do
  let sanitizer ← (PublicTextSanitizer.fresh secrets).observeAll unicode events
  sanitizer.finish unicode

/-! ## The turn -/

structure ModelTurn where
  assembler : ModelStreamAssembler := {}
  sanitizer : PublicTextSanitizer

/-- The loop over the stream in `_run_normal`. -/
def ModelTurn.consume (turn : ModelTurn) : List ModelStreamEvent → Except String ModelTurn
  | [] => .ok turn
  | event :: rest => do
      let assembler ← turn.assembler.accept event
      let sanitizer ← turn.sanitizer.observe unicode event
      ModelTurn.consume ⟨assembler, sanitizer⟩ rest

def ContentPart.isText : ContentPart → Bool
  | .text _ => true
  | _ => false

def withPublicText (outcome : ModelAssemblyOutcome) (publicText : Text) : ModelAssemblyOutcome :=
  match outcome.assistant with
  | none => outcome
  | some assistant =>
      { outcome with
        assistant := some { assistant with
          content := (if publicText = [] then [] else [.text (String.ofList publicText)]) ++
            assistant.content.filter fun part => !part.isText } }

def streamTurn (secrets : List Text) (messageId : String) (createdAt : Timestamp)
    (events : List ModelStreamEvent) : Except String ModelAssemblyOutcome := do
  let turn ← ModelTurn.consume unicode { sanitizer := .fresh secrets } events
  let publicText ← turn.sanitizer.finish unicode
  let outcome ← turn.assembler.buildOutcome loads messageId createdAt
  return withPublicText outcome publicText

def AssistantMessage.publicText (message : AssistantMessage) : Text :=
  message.content.flatMap fun part =>
    match part with
    | .text text => text.toList
    | _ => []

/-! ## Running a stream -/

section

variable {unicode loads}

theorem observeAll_append {sanitizer : PublicTextSanitizer}
    {first second : List ModelStreamEvent} :
    sanitizer.observeAll unicode (first ++ second) =
      (sanitizer.observeAll unicode first >>= fun next => next.observeAll unicode second) := by
  induction first generalizing sanitizer with
  | nil => rfl
  | cons event rest ih =>
      simp only [List.cons_append, PublicTextSanitizer.observeAll]
      cases sanitizer.observe unicode event with
      | error message => rfl
      | ok next => exact ih

theorem consume_sanitizer {turn last : ModelTurn} {events : List ModelStreamEvent}
    (h : turn.consume unicode events = .ok last) :
    turn.sanitizer.observeAll unicode events = .ok last.sanitizer := by
  induction events generalizing turn with
  | nil =>
      cases h
      rfl
  | cons event rest ih =>
      simp only [ModelTurn.consume, bind_eq_ok] at h
      obtain ⟨assembler, -, sanitizer, hsanitizer, hrest⟩ := h
      simp only [PublicTextSanitizer.observeAll, hsanitizer]
      exact ih hrest

theorem publicText_withPublicText {outcome : ModelAssemblyOutcome} {publicText : Text}
    {assistant : AssistantMessage}
    (h : (withPublicText outcome publicText).assistant = some assistant) :
    assistant.publicText = publicText := by
  unfold withPublicText at h
  cases hassistant : outcome.assistant with
  | none =>
      rw [hassistant] at h
      simp only at h
      rw [hassistant] at h
      cases h
  | some built =>
      simp only [hassistant, Option.some.injEq] at h
      have hother : (built.content.filter fun part => !part.isText).flatMap (fun part =>
          match part with
          | .text text => text.toList
          | _ => []) = [] := by
        simp only [List.flatMap_eq_nil_iff, List.mem_filter]
        rintro part ⟨-, hpart⟩
        cases part with
        | text text => cases hpart
        | data _ _ _ => rfl
        | artifactRef _ _ => rfl
      rw [← h]
      unfold AssistantMessage.publicText
      simp only [List.flatMap_append, hother, List.append_nil]
      split <;> simp_all

theorem streamTurn_publicText {secrets : List Text} {messageId : String} {createdAt : Timestamp}
    {events : List ModelStreamEvent} {outcome : ModelAssemblyOutcome}
    {assistant : AssistantMessage}
    (h : streamTurn unicode loads secrets messageId createdAt events = .ok outcome)
    (hassistant : outcome.assistant = some assistant) :
    publicTextOf unicode secrets events = .ok assistant.publicText := by
  simp only [streamTurn, bind_eq_ok] at h
  obtain ⟨turn, hturn, publicText, hpublic, built, -, hbuilt⟩ := h
  cases hbuilt
  have hsanitizer := consume_sanitizer hturn
  rw [publicText_withPublicText hassistant]
  simp only [publicTextOf, bind_eq_ok]
  exact ⟨_, hsanitizer, hpublic⟩

/-! ## Abandoned attempts -/

def NoAbandonedText (events : List ModelStreamEvent) : Prop :=
  ∀ event ∈ abandonedEvents events, event.kind = .textDelta → event.text = ""

theorem observeAll_silent {sanitizer : PublicTextSanitizer} {events : List ModelStreamEvent}
    (hpending : sanitizer.pending = [])
    (h : ∀ event ∈ events, event.kind = .textDelta → event.text = "") :
    sanitizer.observeAll unicode events = .ok sanitizer := by
  induction events with
  | nil => rfl
  | cons event rest ih =>
      have hflush : sanitizer.flush unicode = .ok (sanitizer, []) := by
        simp [PublicTextSanitizer.flush, hpending]
      have hobserve : sanitizer.observe unicode event = .ok sanitizer := by
        unfold PublicTextSanitizer.observe
        cases hkind : event.kind with
        | textDelta => simp [h event List.mem_cons_self hkind]
        | toolCallStart => simp [hflush, Except.map]
        | finish => simp [hflush, Except.map]
        | error => simp [hflush, Except.map]
        | _ => rfl
      simp only [PublicTextSanitizer.observeAll, hobserve]
      exact ih fun event hevent => h event (List.mem_cons_of_mem _ hevent)

theorem publicTextOf_surviving {secrets : List Text} {events : List ModelStreamEvent}
    (h : NoAbandonedText events) :
    publicTextOf unicode secrets events = publicTextOf unicode secrets (survivingEvents events) := by
  have hsilent : (PublicTextSanitizer.fresh secrets).observeAll unicode (abandonedEvents events) =
      .ok (PublicTextSanitizer.fresh secrets) := observeAll_silent rfl h
  unfold publicTextOf
  conv_lhs => rw [← abandoned_append_surviving events]
  rw [observeAll_append, hsilent]
  rfl

def rawText (events : List ModelStreamEvent) : Text :=
  (textDeltas events).flatMap String.toList

theorem rawText_append (first second : List ModelStreamEvent) :
    rawText (first ++ second) = rawText first ++ rawText second := by
  simp [rawText, textDeltas_append]

theorem noAbandonedText_iff {events : List ModelStreamEvent} :
    NoAbandonedText events ↔ rawText (abandonedEvents events) = [] := by
  unfold NoAbandonedText rawText textDeltas
  simp only [List.flatMap_eq_nil_iff, List.mem_map, List.mem_filter, beq_iff_eq]
  constructor
  · rintro h text ⟨event, ⟨hevent, hkind⟩, rfl⟩
    rw [h event hevent hkind]
    rfl
  · intro h event hevent hkind
    have hnil := h event.text ⟨event, ⟨hevent, hkind⟩, rfl⟩
    exact String.toList_eq_nil_iff.mp hnil

end

def TextSurvives (secrets : List Text) (events : List ModelStreamEvent)
    (assistant : AssistantMessage) : Prop :=
  publicTextOf unicode secrets (survivingEvents events) = .ok assistant.publicText

def NothingRedacted (secrets : List Text) (events : List ModelStreamEvent) : Prop :=
  publicTextOf unicode secrets events = .ok (rawText events) ∧
    publicTextOf unicode secrets (survivingEvents events) = .ok (rawText (survivingEvents events))

/-- The answer of a turn is the surviving attempt's when no abandoned attempt has
streamed text, and only then unless redaction hides the difference. -/
theorem model_turn_text (secrets : List Text) (messageId : String) (createdAt : Timestamp)
    (events : List ModelStreamEvent) (outcome : ModelAssemblyOutcome)
    (assistant : AssistantMessage)
    (hturn : streamTurn unicode loads secrets messageId createdAt events = .ok outcome)
    (hassistant : outcome.assistant = some assistant) :
    (NoAbandonedText events → TextSurvives unicode secrets events assistant) ∧
    (NothingRedacted unicode secrets events →
      (TextSurvives unicode secrets events assistant ↔ NoAbandonedText events)) := by
  have hpublic := streamTurn_publicText hturn hassistant
  have hsurvives : NoAbandonedText events → TextSurvives unicode secrets events assistant := by
    intro h
    unfold TextSurvives
    rw [← publicTextOf_surviving h, hpublic]
  refine ⟨hsurvives, ?_⟩
  rintro ⟨hall, hsurviving⟩
  constructor
  · intro h
    unfold TextSurvives at h
    have hsame : rawText events = rawText (survivingEvents events) := by
      have h1 := Except.ok.inj (hpublic.symm.trans hall)
      have h2 := Except.ok.inj (h.symm.trans hsurviving)
      rw [← h1, ← h2]
    have hsplit := rawText_append (abandonedEvents events) (survivingEvents events)
    rw [abandoned_append_surviving, hsame] at hsplit
    rw [noAbandonedText_iff]
    simpa using hsplit
  · exact hsurvives

def retriedEvents (abandoned : String) : List ModelStreamEvent :=
  [{ kind := .attemptStarted, attempt := some 1 },
    { kind := .textDelta, delta := some abandoned },
    { kind := .attemptFailed, attempt := some 1, errorClass := some "network", retryable := some true },
    { kind := .retryScheduled, attempt := some 2, errorClass := some "network", retryable := some true },
    { kind := .attemptStarted, attempt := some 2 },
    { kind := .textDelta, delta := some "b" },
    { kind := .finish, finishReason := some "stop" }]

def answer (text : String) : AssistantMessage :=
  ⟨"message", [.text text], [], .stop, none, 0⟩

theorem model_turn_text_silentFailure :
    streamTurn asciiDatabase (fun _ => none) [] "message" 0 (retriedEvents "") =
      .ok { kind := .assistant, assistant := some (answer "b") } ∧
    TextSurvives asciiDatabase [] (retriedEvents "") (answer "b") := by
  have hturn : streamTurn asciiDatabase (fun _ => none) [] "message" 0 (retriedEvents "") =
      .ok { kind := .assistant, assistant := some (answer "b") } := by decide +kernel
  have htext := model_turn_text asciiDatabase (fun _ => none) [] "message" 0 (retriedEvents "") _
    (answer "b") hturn rfl
  refine ⟨hturn, htext.1 ?_⟩
  unfold NoAbandonedText
  decide

/-- The text of the failed attempt stays in the answer. -/
theorem abandoned_text_kept :
    ¬ ∀ (unicode : UnicodeDatabase) (loads : String → Option JsonValue) (secrets : List Text)
      (messageId : String) (createdAt : Timestamp) (events : List ModelStreamEvent)
      (outcome : ModelAssemblyOutcome) (assistant : AssistantMessage),
      streamTurn unicode loads secrets messageId createdAt events = .ok outcome →
      outcome.assistant = some assistant → TextSurvives unicode secrets events assistant := by
  intro h
  have hturn : streamTurn asciiDatabase (fun _ => none) [] "message" 0 (retriedEvents "a") =
      .ok { kind := .assistant, assistant := some (answer "ab") } := by decide +kernel
  have hsurvives := h asciiDatabase (fun _ => none) [] "message" 0 (retriedEvents "a") _ _ hturn rfl
  have hexpected : publicTextOf asciiDatabase [] (survivingEvents (retriedEvents "a")) =
      .ok "b".toList := by decide +kernel
  unfold TextSurvives at hsurvives
  rw [hexpected] at hsurvives
  exact absurd (Except.ok.inj hsurvives) (by decide)

end Hybro.Orchestrator
