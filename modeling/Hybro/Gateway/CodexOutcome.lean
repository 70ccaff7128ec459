import Hybro.Gateway.CodexRules

/-! # The turn of a Codex stream

An accepted stream makes one turn: an assembler accepts its events up to the one finish, the
deltas are the complete texts, and a turn that was not cut off is answered with the declared
calls.
-/

namespace Hybro.Gateway

open Orchestrator CodexStream

variable {loads : String → Option JsonValue} {stream : CodexStream} {before : List Emission}
  {last : Emission} {index : Nat} {slot : Slot} {assembler : ModelStreamAssembler}
  {events : List ModelStreamEvent}

theorem streamed_fresh (tools : List String) (choice : String) (maxTokens : Nat)
    (requestId : JsonValue) : Streamed loads { tools, choice, maxTokens, requestId } [] where
  fits := .nil
  unfinished := by simp
  slots := by
    intro index slot hlookup
    cases hlookup
  outputs := by simp
  callIds := rfl
  owner := by simp [modelEvents, startedCalls]
  distinct := by
    intro index other slot otherSlot hlookup
    cases hlookup

/-! ## Texts -/

/-- The deltas of an item are the complete text that it was last given, and what came later. -/
structure TextsAgree (stream : CodexStream) (emitted : List Emission) : Prop where
  messages : ∀ index slot text, stream.slots.lookup index = some slot → slot.kind = .message →
    slot.final = some text → outputText index emitted = text ++ slot.later
  calls : ∀ index slot callId arguments, stream.slots.lookup index = some slot →
    slot.kind = .functionCall → slot.callId = some callId → slot.final = some arguments →
    argumentsOf callId (modelEvents emitted) = arguments ++ slot.later

theorem finish_silent (before : List Emission) (hkind : last.event.kind = .finish) :
    startedCalls (modelEvents (before ++ [last])) = startedCalls (modelEvents before) ∧
      endedCalls (modelEvents (before ++ [last])) = endedCalls (modelEvents before) ∧
      (∀ callId, argumentsOf callId (modelEvents (before ++ [last])) =
        argumentsOf callId (modelEvents before)) ∧
      ∀ index, outputText index (before ++ [last]) = outputText index before := by
  simp [hkind]

theorem Streamed.textsAgree (h : Streamed loads stream before) (hkind : last.event.kind = .finish) :
    TextsAgree stream (before ++ [last]) := by
  obtain ⟨-, -, harguments, houtput⟩ := finish_silent before hkind
  constructor
  · intro index slot text hlookup hmessage hfinal
    have hslot := h.slots index slot hlookup
    rw [houtput, hslot.text hmessage, hslot.final text hfinal]
  · intro index slot callId arguments hlookup hcall hid hfinal
    have hslot := h.slots index slot hlookup
    obtain ⟨otherId, name, hstreamed⟩ := hslot.call hcall
    obtain rfl := Option.some.inj (hid.symm.trans hstreamed.hasId)
    rw [harguments, hstreamed.arguments, hslot.final arguments hfinal]

/-! ## Calls -/

def Declares (loads : String → Option JsonValue) (stream : CodexStream) (call : ToolCall) : Prop :=
  ∃ index slot arguments, stream.slots.lookup index = some slot ∧ slot.kind = .functionCall ∧
    slot.callId = some call.callId ∧ slot.name = some call.toolName ∧
    slot.final = some arguments ∧ loads arguments = some (.obj call.arguments)

def AllEnded (stream : CodexStream) : Prop :=
  ∀ index slot, stream.slots.lookup index = some slot → slot.ended = true

theorem Streamed.ended_call (h : Streamed loads stream before) (hended : AllEnded stream)
    (hloads : loads "" = none) {callId name : String}
    (hstarted : (callId, name) ∈ startedCalls (modelEvents before)) :
    ∃ index slot fields, stream.slots.lookup index = some slot ∧ slot.kind = .functionCall ∧
      slot.callId = some callId ∧ slot.name = some name ∧
      slot.final = some (argumentsOf callId (modelEvents before)) ∧
      callId ∈ endedCalls (modelEvents before) ∧
      rawArguments (argumentTexts (modelEvents before) callId) =
        argumentsOf callId (modelEvents before) ∧
      loads (argumentsOf callId (modelEvents before)) = some (.obj fields) := by
  obtain ⟨index, slot, hlookup, hkind, hid, hname⟩ := h.owner callId name hstarted
  have hslot := h.slots index slot hlookup
  have hslotEnded : slot.ended = true := hended index slot hlookup
  obtain ⟨otherId, otherName, hstreamed⟩ := hslot.call hkind
  obtain rfl := Option.some.inj (hid.symm.trans hstreamed.hasId)
  obtain ⟨fields, hobject⟩ := hstreamed.object hslotEnded
  obtain ⟨hfinal, hlater⟩ := hslot.ended hslotEnded (by simp [hkind])
  obtain ⟨final, hfinal⟩ := Option.isSome_iff_exists.mp hfinal
  have htext : slot.text = final := by
    rw [hslot.final final hfinal, hlater, String.append_empty]
  have hnonempty : slot.text ≠ "" := by
    intro hempty
    rw [hempty, hloads] at hobject
    cases hobject
  refine ⟨index, slot, fields, hlookup, hkind, hid, hname, ?_, hstreamed.ended.mpr hslotEnded, ?_,
    ?_⟩
  · rw [hstreamed.arguments, htext, hfinal]
  · unfold rawArguments
    rw [if_neg]
    · rfl
    · exact fun hempty => hnonempty (hstreamed.arguments ▸ hempty)
  · rw [hstreamed.arguments, hobject]

theorem Streamed.ended_of_started (h : Streamed loads stream before) (hended : AllEnded stream)
    (hloads : loads "" = none) {callId : String} (hid : callId ∈ startedIds (modelEvents before)) :
    callId ∈ endedCalls (modelEvents before) := by
  obtain ⟨⟨_, name⟩, hmem, rfl⟩ := List.mem_map.mp hid
  obtain ⟨-, -, -, -, -, -, -, -, hmemEnds, -⟩ := h.ended_call hended hloads hmem
  exact hmemEnds

theorem buildToolCalls_ok {callIds : List String}
    (h : ∀ callId ∈ callIds, ∃ call, assembler.buildToolCall loads callId = .ok call) :
    ∃ calls, assembler.buildToolCalls loads callIds = .ok calls := by
  induction callIds with
  | nil => exact ⟨[], rfl⟩
  | cons callId rest ih =>
      obtain ⟨call, hcall⟩ := h callId List.mem_cons_self
      obtain ⟨calls, hcalls⟩ := ih fun other hmem => h other (List.mem_cons_of_mem _ hmem)
      refine ⟨call :: calls, ?_⟩
      unfold ModelStreamAssembler.buildToolCalls
      rw [hcall, hcalls]
      rfl

theorem buildOutcome_ok (h : Holds assembler events) (hfirst : FirstAttempt assembler)
    {reason : FinishReason} (hfinish : assembler.finishReason = some reason)
    (hreason : reason = .stop ∨ reason = .toolCalls)
    (hclosed : ∀ callId ∈ startedIds events, callId ∈ endedCalls events)
    (hbuild : ∃ calls, assembler.buildToolCalls loads assembler.closedCalls = .ok calls)
    (messageId : String) (createdAt : Timestamp) :
    ∃ outcome assistant, assembler.buildOutcome loads messageId createdAt = .ok outcome ∧
      outcome.kind = .assistant ∧ outcome.assistant = some assistant ∧
      assistant.finishReason = reason := by
  obtain ⟨calls, hcalls⟩ := hbuild
  have htruncated : (assembler.toolNames.any fun entry =>
      !assembler.closedCalls.contains entry.1) = false := by
    rw [List.any_eq_false]
    intro entry hmem
    have hended : entry.1 ∈ endedCalls events :=
      hclosed entry.1 (List.mem_map.mpr ⟨entry, h.names ▸ hmem, rfl⟩)
    simp [h.closed, hended]
  unfold ModelStreamAssembler.buildOutcome
  rw [hfirst.error, hfinish]
  rcases hreason with rfl | rfl
  · simp only [htruncated]
    exact ⟨_, _, rfl, rfl, rfl, rfl⟩
  · simp only [htruncated, ModelStreamAssembler.assistantOutcome, hcalls]
    exact ⟨_, _, rfl, rfl, rfl, rfl⟩

/-! ## The turn -/

theorem Streamed.buildToolCalls (h : Streamed loads stream before) (hended : AllEnded stream)
    (hloads : loads "" = none) (hholds : Holds assembler (modelEvents before)) :
    ∃ calls, assembler.buildToolCalls loads assembler.closedCalls = .ok calls ∧
      (calls.map (·.callId)).Nodup ∧ ∀ call, call ∈ calls ↔ Declares loads stream call := by
  have hclosed : assembler.closedCalls = endedCalls (modelEvents before) := hholds.closed
  have hknown : ∀ callId ∈ assembler.closedCalls,
      ((startedCalls (modelEvents before)).lookup callId).isSome := by
    intro callId hmem
    exact lookup_startedCalls.mpr (h.fits.ends.2 callId (hclosed ▸ hmem))
  have hbuilds : ∀ callId ∈ assembler.closedCalls,
      ∃ call, assembler.buildToolCall loads callId = .ok call := by
    intro callId hmem
    obtain ⟨name, hname⟩ := Option.isSome_iff_exists.mp (hknown callId hmem)
    obtain ⟨-, -, fields, -, -, -, -, -, -, hraw, hobject⟩ :=
      h.ended_call hended hloads (mem_of_lookup hname)
    refine ⟨⟨callId, (assembler.toolNames.lookup callId).getD "", fields⟩, ?_⟩
    have harguments : (assembler.toolArguments.lookup callId).getD [] =
        argumentTexts (modelEvents before) callId := by
      rw [hholds.arguments, hname]
      rfl
    have hread : loads (rawArguments (argumentTexts (modelEvents before) callId)) =
        some (.obj fields) := hraw ▸ hobject
    unfold rawArguments at hread
    simp only [ModelStreamAssembler.buildToolCall, harguments, hread]
    rfl
  obtain ⟨calls, hcalls⟩ := buildToolCalls_ok hbuilds
  obtain ⟨hids, hmade⟩ := hholds.buildToolCalls hknown hcalls
  refine ⟨calls, hcalls, ?_, ?_⟩
  · rw [hids, hclosed]
    exact h.fits.ends.1
  · have hdeclares : ∀ call ∈ calls, Declares loads stream call := by
      intro call hmem
      obtain ⟨hstarted, harguments⟩ := hmade call hmem
      obtain ⟨index, slot, fields, hlookup, hkind, hid, hname, hfinal, -, hraw, -⟩ :=
        h.ended_call hended hloads hstarted
      exact ⟨index, slot, _, hlookup, hkind, hid, hname, hfinal, hraw ▸ harguments⟩
    intro call
    refine ⟨hdeclares call, ?_⟩
    rintro ⟨index, slot, arguments, hlookup, hkind, hid, hname, hfinal, hobject⟩
    obtain ⟨callId, name, hstreamed⟩ := (h.slots index slot hlookup).call hkind
    obtain rfl := Option.some.inj (hid.symm.trans hstreamed.hasId)
    have hclosedId : call.callId ∈ assembler.closedCalls :=
      hclosed ▸ hstreamed.ended.mpr (hended index slot hlookup)
    rw [← hids] at hclosedId
    obtain ⟨other, hother, hotherId⟩ := List.mem_map.mp hclosedId
    -- a built call with this identifier was declared by the same item
    obtain ⟨otherIndex, otherSlot, otherArguments, hotherLookup, hotherKind, hotherSlotId,
      hotherName, hotherFinal, hotherObject⟩ := hdeclares other hother
    have hindex : otherIndex = index := h.distinct otherIndex index otherSlot slot hotherLookup
      hlookup hotherKind hkind (hotherSlotId.trans (hotherId ▸ hid.symm))
    subst hindex
    obtain rfl := Option.some.inj (hotherLookup.symm.trans hlookup)
    obtain rfl := Option.some.inj (hotherFinal.symm.trans hfinal)
    have hsameName : other.toolName = call.toolName := Option.some.inj (hotherName.symm.trans hname)
    have hsameArguments : other.arguments = call.arguments := by
      simpa using hotherObject.symm.trans hobject
    obtain ⟨otherId, otherTool, otherFields⟩ := other
    obtain ⟨callId, tool, fields⟩ := call
    simp only at hotherId hsameName hsameArguments
    rw [← hotherId, ← hsameName, ← hsameArguments]
    exact hother

theorem Streamed.answered (h : Streamed loads stream before) (hended : AllEnded stream)
    (hloads : loads "" = none) (hholds : Holds assembler (modelEvents before))
    (hfirst : FirstAttempt assembler)
    (hfinish : assembler.finishReason =
      some (if stream.callIds = [] then .stop else .toolCalls))
    (messageId : String) (createdAt : Timestamp) :
    ∃ outcome assistant, assembler.buildOutcome loads messageId createdAt = .ok outcome ∧
      outcome.kind = .assistant ∧ outcome.assistant = some assistant ∧
      (assistant.toolCalls.map (·.callId)).Nodup ∧
      ∀ call, call ∈ assistant.toolCalls ↔ Declares loads stream call := by
  obtain ⟨calls, hcalls, hnodup, hdeclared⟩ := h.buildToolCalls hended hloads hholds
  obtain ⟨outcome, assistant, hbuilt, houtcome, hassistant, hfinished⟩ := buildOutcome_ok hholds
    hfirst hfinish (by split <;> simp) (fun callId hid => h.ended_of_started hended hloads hid)
    ⟨calls, hcalls⟩ messageId createdAt
  obtain ⟨-, -, htools, hnone⟩ := assistant_of_buildOutcome hbuilt hassistant
  have hassistantCalls : assistant.toolCalls = calls := by
    by_cases hempty : stream.callIds = []
    · -- without calls the turn stopped, and there is nothing to build
      rw [if_pos hempty] at hfinished
      rw [hnone (by rw [hfinished]; decide)]
      cases calls with
      | nil => rfl
      | cons call rest =>
          have hids := (hholds.buildToolCalls (fun callId hmem => lookup_startedCalls.mpr
            (h.fits.ends.2 callId (hholds.closed ▸ hmem))) hcalls).1
          have hmem : call.callId ∈ assembler.closedCalls := hids ▸ List.mem_cons_self
          have hstarted := h.fits.ends.2 call.callId (hholds.closed ▸ hmem)
          rw [h.callIds, hempty] at hstarted
          cases hstarted
    · rw [if_neg hempty] at hfinished
      exact Except.ok.inj ((htools hfinished).symm.trans hcalls)
  rw [← hassistantCalls] at hnodup hdeclared
  exact ⟨outcome, assistant, hbuilt, houtcome, hassistant, hnodup, hdeclared⟩

structure TurnAssembled (loads : String → Option JsonValue) (stream : CodexStream)
    (emitted : List Emission) (reason : GatewayFinishReason) (assembler : ModelStreamAssembler) :
    Prop where
  finish : ∃ before last, emitted = before ++ [last] ∧ last.event.kind = .finish ∧
    last.event.finishReason = some reason ∧ ∀ emission ∈ before, emission.event.kind ≠ .finish
  accepted : ({} : ModelStreamAssembler).acceptAll (attemptStarted 1 :: modelEvents emitted) =
    .ok assembler
  texts : TextsAgree stream emitted
  complete : reason ≠ .length → ∀ index slot, stream.slots.lookup index = some slot →
    slot.kind ≠ .reasoning → slot.final.isSome ∧ slot.later = ""
  ended : reason ≠ .length →
    ∀ callId ∈ stream.callIds, (endedCalls (modelEvents emitted)).count callId = 1
  answered : reason ≠ .length → ∀ messageId createdAt, ∃ outcome assistant,
    assembler.buildOutcome loads messageId createdAt = .ok outcome ∧ outcome.kind = .assistant ∧
      outcome.assistant = some assistant ∧ (assistant.toolCalls.map (·.callId)).Nodup ∧
      ∀ call, call ∈ assistant.toolCalls ↔ Declares loads stream call

theorem holds_of_finish {event : ModelStreamEvent} (h : Holds assembler (events ++ [event]))
    (hkind : event.kind = .finish) : Holds assembler events := by
  have hstarts : startedCalls (events ++ [event]) = startedCalls events := by simp [hkind]
  have hends : endedCalls (events ++ [event]) = endedCalls events := by simp [hkind]
  have htexts : ∀ callId, argumentTexts (events ++ [event]) callId = argumentTexts events callId := by
    intro callId
    rw [argumentTexts_append]
    simp [argumentTexts, hkind]
  refine ⟨?_, ?_, ?_, ?_, ?_, ?_⟩
  · rw [h.text, textDeltas_append]
    simp [textDeltas, hkind]
  · rw [h.names, hstarts]
  · rw [h.closed, hends]
  · intro callId
    rw [h.arguments, hstarts, htexts]
  · intro callId hnone
    rw [← htexts]
    exact h.silent callId (hstarts ▸ hnone)
  · intro callId hmem
    rw [← hstarts]
    exact h.known callId (hends ▸ hmem)

/-- Every accepted stream is one turn. `json.loads` refuses the empty text. -/
theorem consumeAll_assembled (loads : String → Option JsonValue) (hloads : loads "" = none)
    (tools : List String) (choice : String) (maxTokens : Nat) (requestId : JsonValue)
    (inputs : List JsonValue) (final : CodexStream) (emitted : List Emission)
    (h : CodexStream.consumeAll loads { tools, choice, maxTokens, requestId } inputs =
      .ok (final, emitted))
    (hstopped : final.stopped = true) :
    ∃ reason assembler, TurnAssembled loads final emitted reason assembler := by
  obtain ⟨before, reason, hfinishes⟩ := consumeAll_ok rfl h hstopped
  obtain ⟨last, hemitted, hkind, hreason⟩ := hfinishes.last
  change emitted = before ++ [last] at hemitted
  have hstreamed : Streamed loads final before := by
    simpa using hfinishes.streamed [] (streamed_fresh tools choice maxTokens requestId)
  have hunfinished : ∀ event ∈ modelEvents before, event.kind ≠ .finish := by
    intro event hmem
    obtain ⟨emission, hemission, rfl⟩ := List.mem_map.mp hmem
    rw [Ne, toModelEvent_finish]
    exact hstreamed.unfinished emission hemission
  obtain ⟨opened, haccept, hholds, hfirst, hopen⟩ := accept_allFit hstreamed.fits hunfinished
  obtain ⟨parsed, hparsed, hparsedReason⟩ : ∃ parsed, parseFinishReason (some reason.value) =
      some parsed ∧ (reason = .stop → parsed = .stop) ∧ (reason = .toolCalls → parsed = .toolCalls) := by
    cases reason <;> exact ⟨_, rfl, by simp, by simp⟩
  have hlastReason : (toModelEvent 1 last.event).finishReason = some reason.value := by
    simp [toModelEvent, hreason]
  have hlastKind : (toModelEvent 1 last.event).kind = .finish := toModelEvent_finish.mpr hkind
  have hfits : Fits (modelEvents before) (toModelEvent 1 last.event) := by
    unfold Fits
    simp [hlastKind, hlastReason, hparsed]
  obtain ⟨assembler, hnext, hnextFirst, hnextReason⟩ := accept_fits hholds hfirst hopen hfits
  rw [if_pos hlastKind, hlastReason, hparsed] at hnextReason
  have hnextHolds : Holds assembler (modelEvents before) :=
    holds_of_finish (hholds.accept hfits.clears hnext) hlastKind
  have hall : reason ≠ .length →
      reason = (if final.callIds = [] then .stop else .toolCalls) ∧ AllEnded final :=
    fun hne => hfinishes.reason.resolve_left hne
  refine ⟨reason, assembler, ?_, ?_, ?_, ?_, ?_, ?_⟩
  · exact ⟨before, last, hemitted, hkind, hreason, hstreamed.unfinished⟩
  · rw [hemitted, modelEvents_snoc, ← List.cons_append, acceptAll_append, haccept]
    exact congrArg (· >>= fun next => pure next) hnext
  · rw [hemitted]
    exact hstreamed.textsAgree hkind
  · intro hne index slot hlookup hslotKind
    exact (hstreamed.slots index slot hlookup).ended ((hall hne).2 index slot hlookup) hslotKind
  · intro hne callId hmem
    rw [hemitted, (finish_silent before hkind).2.1]
    have hstarted : callId ∈ startedIds (modelEvents before) := hstreamed.callIds ▸ hmem
    exact List.count_eq_one_of_mem hstreamed.fits.ends.1
      (hstreamed.ended_of_started (hall hne).2 hloads hstarted)
  · intro hne messageId createdAt
    obtain ⟨hreasonEq, hended⟩ := hall hne
    have hparsedEq : parsed = if final.callIds = [] then .stop else .toolCalls := by
      by_cases hempty : final.callIds = []
      · rw [if_pos hempty] at hreasonEq ⊢
        exact hparsedReason.1 hreasonEq
      · rw [if_neg hempty] at hreasonEq ⊢
        exact hparsedReason.2 hreasonEq
    exact hstreamed.answered hended hloads hnextHolds hnextFirst (hparsedEq ▸ hnextReason) messageId
      createdAt

def callEvents : List JsonValue :=
  let item : List (String × JsonValue) := [("type", .str "function_call"), ("id", .str "item"),
    ("call_id", .str "call"), ("name", .str "search"), ("arguments", .str "\x7b\x7d")]
  [.obj [("type", .str "response.output_item.done"), ("output_index", .num 0), ("item", .obj item)],
    .obj [("type", .str "response.completed"),
      ("response", .obj [("id", .str "response"), ("output", .arr [.obj item])])]]

/-- `json.loads` of the texts of that response. -/
def callLoads (text : String) : Option JsonValue :=
  if text = "\x7b\x7d" then some (.obj []) else none

theorem consumeAll_assembled_call : ∃ final emitted reason assembler,
    CodexStream.consumeAll callLoads { tools := ["search"], choice := "auto", maxTokens := 100 }
      callEvents = .ok (final, emitted) ∧
      TurnAssembled callLoads final emitted reason assembler := by
  have hrun : ((CodexStream.consumeAll callLoads
      { tools := ["search"], choice := "auto", maxTokens := 100 } callEvents).toOption.any
        (·.1.stopped)) = true := by decide +kernel
  obtain ⟨⟨final, emitted⟩, hresult, hstopped⟩ := (Option.any_eq_true ..).mp hrun
  cases hconsume : CodexStream.consumeAll callLoads
      { tools := ["search"], choice := "auto", maxTokens := 100 } callEvents with
  | error message =>
      rw [hconsume] at hresult
      cases hresult
  | ok result =>
      rw [hconsume] at hresult
      obtain rfl := Option.some.inj hresult
      obtain ⟨reason, assembler, hturn⟩ := consumeAll_assembled callLoads (by decide) ["search"]
        "auto" 100 .null callEvents final emitted hconsume hstopped
      exact ⟨final, emitted, reason, assembler, rfl, hturn⟩

/-- A message is completed as incomplete, one more delta comes, and the response is cut off. -/
def cutOffEvents : List JsonValue :=
  [.obj [("type", .str "response.output_item.done"), ("output_index", .num 0),
      ("item", .obj [("type", .str "message"), ("id", .str "item"), ("status", .str "incomplete"),
        ("content", .arr [.obj [("type", .str "output_text"), ("text", .str "A")]])])],
    .obj [("type", .str "response.output_text.delta"), ("output_index", .num 0),
      ("delta", .str "B")],
    .obj [("type", .str "response.incomplete"),
      ("response", .obj [("incomplete_details", .obj [("reason", .str "max_output_tokens")])])]]

theorem cutOff_streams_more : ∃ final emitted slot,
    CodexStream.consumeAll callLoads { tools := [], choice := "auto", maxTokens := 100 }
      cutOffEvents = .ok (final, emitted) ∧
    final.stopped = true ∧ final.slots.lookup 0 = some slot ∧ slot.kind = .message ∧
      slot.final = some "A" ∧ outputText 0 emitted = "AB" := by
  refine ⟨_, _, _, rfl, rfl, rfl, rfl, rfl, ?_⟩
  decide +kernel

end Hybro.Gateway
