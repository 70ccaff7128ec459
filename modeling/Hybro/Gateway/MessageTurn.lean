import Hybro.Gateway.CodexOutcome
import Hybro.Gateway.MessageRules

/-! # The turn of a message stream

The events of an accepted stream say what its wire says: the text is the text of the blocks, and
the calls are the announced ones with their arguments, each ended once. An assembler accepts them
and answers with that text and those calls.
-/

namespace Hybro.Gateway

open Orchestrator MessageStream

/-! ## Lists of events -/

def turnEvents (emitted : List GatewayTurnEvent) : List ModelStreamEvent :=
  emitted.map (toModelEvent 1)

@[simp] theorem turnEvents_snoc (emitted : List GatewayTurnEvent) (emission : GatewayTurnEvent) :
    turnEvents (emitted ++ [emission]) = turnEvents emitted ++ [toModelEvent 1 emission] := by
  simp [turnEvents]

def answerText (events : List ModelStreamEvent) : String := String.join (textDeltas events)

@[simp] theorem toModelEvent_textDelta {attempt : Nat} {event : GatewayTurnEvent} :
    (toModelEvent attempt event).kind = .textDelta ↔ event.kind = .textDelta := by
  cases h : event.kind <;> simp [toModelEvent, h]

@[simp] theorem answerText_snoc (events : List ModelStreamEvent) (event : ModelStreamEvent) :
    answerText (events ++ [event]) =
      answerText events ++ if event.kind = .textDelta then event.text else "" := by
  unfold answerText
  rw [textDeltas_append, join_append]
  congr 1
  by_cases h : event.kind = .textDelta <;> simp [textDeltas, h, String.join]

def wireCalls (seen : List JsonValue) : List WireCall := seen.filterMap wireCall

def wirePartials (key : JsonValue) (seen : List JsonValue) : List String :=
  seen.filterMap (wirePartial key)

/-- The arguments of a call: the streamed parts, or else the input it was announced with. -/
def wireArguments (dumps : JsonValue → String) (seen : List JsonValue) (call : WireCall) : String :=
  if wirePartials call.key seen = [] then dumps (.obj call.input)
  else String.join (wirePartials call.key seen)

def wireAnswer (seen : List JsonValue) : String := String.join (seen.map wireText)

@[simp] theorem wireAnswer_snoc (seen : List JsonValue) (event : JsonValue) :
    wireAnswer (seen ++ [event]) = wireAnswer seen ++ wireText event := by
  simp [wireAnswer, String.join]

theorem wireCalls_snoc_none {seen : List JsonValue} {event : JsonValue} (h : wireCall event = none) :
    wireCalls (seen ++ [event]) = wireCalls seen := by
  simp [wireCalls, h]

theorem wireCalls_snoc_some {seen : List JsonValue} {event : JsonValue} {call : WireCall}
    (h : wireCall event = some call) : wireCalls (seen ++ [event]) = wireCalls seen ++ [call] := by
  simp [wireCalls, h]

theorem wirePartials_snoc_none {seen : List JsonValue} {event key : JsonValue}
    (h : wirePartial key event = none) :
    wirePartials key (seen ++ [event]) = wirePartials key seen := by
  simp [wirePartials, h]

theorem wireArguments_snoc {dumps : JsonValue → String} {seen : List JsonValue} {event : JsonValue}
    {call : WireCall} (h : wirePartial call.key event = none) :
    wireArguments dumps (seen ++ [event]) call = wireArguments dumps seen call := by
  unfold wireArguments
  rw [wirePartials_snoc_none h]

theorem lookup_filter_ne {α : Type} (entries : List (JsonValue × α)) (key other : JsonValue) :
    (entries.filter (·.1 ≠ key)).lookup other =
      if other = key then none else entries.lookup other := by
  induction entries with
  | nil => simp
  | cons entry entries ih =>
      by_cases hentry : entry.1 = key
      · rw [List.filter_cons_of_neg (by simpa using hentry), ih, lookup_entry]
        by_cases hother : other = key
        · simp [hother]
        · simp [hother, hentry]
      · rw [List.filter_cons_of_pos (by simpa using hentry), lookup_entry, lookup_entry, ih]
        by_cases hother : other = key
        · rw [hother, if_neg (Ne.symm hentry), if_pos rfl]
          simp
        · simp [hother]

/-! ## The invariant -/

def openBlock (call : WireCall) (partials : List String) : Block where
  kind := .toolUse
  callId := some call.callId
  name := some call.name
  initialInput := call.input
  sawArguments := !partials.isEmpty

inductive CallTold (dumps : JsonValue → String) (stream : MessageStream) (seen : List JsonValue)
    (events : List ModelStreamEvent) (call : WireCall) : Prop
  | opened
      (hblock : stream.blocks.lookup call.key =
        some (openBlock call (wirePartials call.key seen)))
      (hended : call.callId ∉ endedCalls events)
      (harguments : argumentsOf call.callId events = String.join (wirePartials call.key seen)) :
      CallTold dumps stream seen events call
  | closed (hblock : stream.blocks.lookup call.key = none)
      (hended : call.callId ∈ endedCalls events)
      (harguments : argumentsOf call.callId events = wireArguments dumps seen call) :
      CallTold dumps stream seen events call

structure Told (dumps : JsonValue → String) (stream : MessageStream) (seen : List JsonValue)
    (emitted : List GatewayTurnEvent) : Prop where
  fits : AllFit (turnEvents emitted)
  unfinished : ∀ emission ∈ emitted, emission.kind ≠ .finish
  text : answerText (turnEvents emitted) = wireAnswer seen
  starts : startedCalls (turnEvents emitted) =
    (wireCalls seen).map fun call => (call.callId, call.name)
  ids : stream.callIds = (wireCalls seen).map (·.callId)
  keys : ∀ call ∈ wireCalls seen, call.key ∈ stream.seenIndices
  keysNodup : ((wireCalls seen).map (·.key)).Nodup
  blocks : ∀ key block, stream.blocks.lookup key = some block → key ∈ stream.seenIndices
  tools : ∀ key block, stream.blocks.lookup key = some block → block.kind = .toolUse →
    ∃ call ∈ wireCalls seen, call.key = key
  unseen : ∀ key, key ∉ stream.seenIndices → wirePartials key seen = []
  calls : ∀ call ∈ wireCalls seen, CallTold dumps stream seen (turnEvents emitted) call

section Rules

variable {dumps : JsonValue → String} {stream next : MessageStream} {seen : List JsonValue}
  {emitted more : List GatewayTurnEvent} {event : JsonValue} {call other : WireCall}

theorem Told.startedIds_eq (h : Told dumps stream seen emitted) :
    startedIds (turnEvents emitted) = (wireCalls seen).map (·.callId) := by
  rw [startedIds, h.starts, List.map_map]
  rfl

theorem Told.ids_nodup (h : Told dumps stream seen emitted) :
    ((wireCalls seen).map (·.callId)).Nodup := h.startedIds_eq ▸ h.fits.starts_nodup

theorem Told.call_of_id (h : Told dumps stream seen emitted) (hcall : call ∈ wireCalls seen)
    (hother : other ∈ wireCalls seen) (hid : call.callId = other.callId) : call = other :=
  List.inj_on_of_nodup_map h.ids_nodup hcall hother hid

theorem Told.call_of_key (h : Told dumps stream seen emitted) (hcall : call ∈ wireCalls seen)
    (hother : other ∈ wireCalls seen) (hkey : call.key = other.key) : call = other :=
  List.inj_on_of_nodup_map h.keysNodup hcall hother hkey

theorem CallTold.block (h : CallTold dumps stream seen (turnEvents emitted) call) {block : Block}
    (hblock : stream.blocks.lookup call.key = some block) :
    block = openBlock call (wirePartials call.key seen) ∧
      call.callId ∉ endedCalls (turnEvents emitted) ∧
      argumentsOf call.callId (turnEvents emitted) =
        String.join (wirePartials call.key seen) := by
  cases h with
  | opened hopen hended harguments =>
      rw [hopen] at hblock
      exact ⟨(Option.some.inj hblock).symm, hended, harguments⟩
  | closed hnone =>
      rw [hnone] at hblock
      cases hblock

theorem CallTold.frame {events : List ModelStreamEvent}
    (h : CallTold dumps stream seen (turnEvents emitted) call)
    (hblock : next.blocks.lookup call.key = stream.blocks.lookup call.key)
    (hended : call.callId ∈ endedCalls events ↔ call.callId ∈ endedCalls (turnEvents emitted))
    (harguments : argumentsOf call.callId events = argumentsOf call.callId (turnEvents emitted))
    (hsilent : wirePartial call.key event = none) :
    CallTold dumps next (seen ++ [event]) events call := by
  cases h with
  | opened hopen hnot hstreamed =>
      refine .opened ?_ (hended.not.mpr hnot) ?_
      · rw [hblock, hopen, wirePartials_snoc_none hsilent]
      · rw [harguments, hstreamed, wirePartials_snoc_none hsilent]
  | closed hnone hmem hstreamed =>
      refine .closed (hblock.trans hnone) (hended.mpr hmem) ?_
      rw [harguments, hstreamed, wireArguments_snoc hsilent]

/-! ## Texts -/

/-- What events do to a list of events that bring a text and concern the calls of `own` only. -/
structure Brings (text : String) (own : String → Prop) (emitted more : List GatewayTurnEvent) :
    Prop where
  fits : AllFit (turnEvents (emitted ++ more))
  unfinished : ∀ emission ∈ more, emission.kind ≠ .finish
  text : answerText (turnEvents (emitted ++ more)) = answerText (turnEvents emitted) ++ text
  starts : startedCalls (turnEvents (emitted ++ more)) = startedCalls (turnEvents emitted)
  ends : ∀ other, ¬own other →
    (other ∈ endedCalls (turnEvents (emitted ++ more)) ↔ other ∈ endedCalls (turnEvents emitted))
  arguments : ∀ other, ¬own other →
    argumentsOf other (turnEvents (emitted ++ more)) = argumentsOf other (turnEvents emitted)

theorem Texts.brings {text : String} (h : Texts text more) (hfits : AllFit (turnEvents emitted)) :
    Brings text (fun _ => False) emitted more := by
  cases h with
  | none => constructor <;> simp [hfits]
  | @one emission hkind =>
      constructor
      · rw [turnEvents_snoc]
        have hevent : (toModelEvent 1 emission).kind = .textDelta := toModelEvent_textDelta.mpr hkind
        exact hfits.snoc (by simp [Fits, hevent])
      all_goals simp [hkind]

theorem Told.goesOn {own : String → Prop} (h : Told dumps stream seen emitted)
    (hbrings : Brings (wireText event) own emitted more) (hcall : wireCall event = none)
    (hseen : ∀ key ∈ stream.seenIndices, key ∈ next.seenIndices)
    (hids : next.callIds = stream.callIds)
    (hblocks : ∀ key block, next.blocks.lookup key = some block → key ∈ next.seenIndices ∧
      (block.kind = .toolUse → ∃ call ∈ wireCalls seen, call.key = key))
    (hunseen : ∀ key, key ∉ stream.seenIndices → wirePartial key event = none)
    (hcalls : ∀ call ∈ wireCalls seen,
      CallTold dumps next (seen ++ [event]) (turnEvents (emitted ++ more)) call) :
    Told dumps next (seen ++ [event]) (emitted ++ more) := by
  have hsame : wireCalls (seen ++ [event]) = wireCalls seen := wireCalls_snoc_none hcall
  constructor
  · exact hbrings.fits
  · intro emission hmem
    rcases List.mem_append.mp hmem with hmem | hmem
    · exact h.unfinished emission hmem
    · exact hbrings.unfinished emission hmem
  · rw [hbrings.text, h.text, wireAnswer_snoc]
  · rw [hbrings.starts, h.starts, hsame]
  · rw [hids, h.ids, hsame]
  · rw [hsame]
    exact fun call hmem => hseen _ (h.keys call hmem)
  · rw [hsame]
    exact h.keysNodup
  · exact fun key block hblock => (hblocks key block hblock).1
  · rw [hsame]
    exact fun key block hblock => (hblocks key block hblock).2
  · intro key hkey
    have hnew : key ∉ stream.seenIndices := fun hmem => hkey (hseen key hmem)
    rw [wirePartials_snoc_none (hunseen key hnew)]
    exact h.unseen key hnew
  · rwa [hsame]

theorem Told.texts (h : Told dumps stream seen emitted) (hcall : wireCall event = none)
    (hpartials : ∀ key, wirePartial key event = none) (htexts : Texts (wireText event) more)
    (hseen : ∀ key ∈ stream.seenIndices, key ∈ next.seenIndices)
    (hids : next.callIds = stream.callIds)
    (hblocks : ∀ key block, next.blocks.lookup key = some block →
      stream.blocks.lookup key = some block ∨ (block.kind = .text ∧ key ∈ next.seenIndices))
    (hkept : ∀ call ∈ wireCalls seen,
      next.blocks.lookup call.key = stream.blocks.lookup call.key) :
    Told dumps next (seen ++ [event]) (emitted ++ more) := by
  have hbrings := htexts.brings h.fits
  refine h.goesOn hbrings hcall hseen hids ?_ (fun key _ => hpartials key) ?_
  · intro key block hblock
    rcases hblocks key block hblock with hold | ⟨htext, hnew⟩
    · exact ⟨hseen key (h.blocks key block hold), h.tools key block hold⟩
    · refine ⟨hnew, fun htool => ?_⟩
      rw [htext] at htool
      cases htool
  · intro call hmem
    exact (h.calls call hmem).frame (hkept call hmem) (hbrings.ends call.callId id)
      (hbrings.arguments call.callId id) (hpartials call.key)

theorem Told.same (h : Told dumps stream seen emitted) (hcall : wireCall event = none)
    (hpartials : ∀ key, wirePartial key event = none) (htexts : Texts (wireText event) more)
    (hsame : SameBlocks stream next) : Told dumps next (seen ++ [event]) (emitted ++ more) := by
  refine h.texts hcall hpartials htexts ?_ hsame.calls ?_ ?_
  · exact fun key hmem => hsame.seen ▸ hmem
  · exact fun key block hblock => .inl (hsame.blocks ▸ hblock)
  · exact fun key _ => by rw [hsame.blocks]

theorem Told.openText (h : Told dumps stream seen emitted) (hcall : wireCall event = none)
    (hpartials : ∀ key, wirePartial key event = none) (htexts : Texts (wireText event) more)
    {key : JsonValue} (hnew : key ∉ stream.seenIndices)
    (hblocks : next.blocks = setKey key { kind := .text } stream.blocks)
    (hseen : next.seenIndices = stream.seenIndices ++ [key])
    (hids : next.callIds = stream.callIds) : Told dumps next (seen ++ [event]) (emitted ++ more) := by
  refine h.texts hcall hpartials htexts ?_ hids ?_ ?_
  · intro other hmem
    rw [hseen]
    exact List.mem_append_left _ hmem
  · intro other block hblock
    rw [hblocks] at hblock
    by_cases hother : other = key
    · rw [hother, lookup_setKey_self] at hblock
      obtain rfl := Option.some.inj hblock
      right
      exact ⟨rfl, by simp [hseen, hother]⟩
    · rw [lookup_setKey_of_ne hother] at hblock
      left
      exact hblock
  · intro call hmem
    have hne : call.key ≠ key := fun hkey => hnew (hkey ▸ h.keys call hmem)
    rw [hblocks, lookup_setKey_of_ne hne]

theorem Told.closeText (h : Told dumps stream seen emitted) (hsilent : Silent event)
    {key : JsonValue} {block : Block} (hblock : stream.blocks.lookup key = some block)
    (htext : block.kind = .text) (hblocks : next.blocks = stream.blocks.filter (·.1 ≠ key))
    (hseen : next.seenIndices = stream.seenIndices) (hids : next.callIds = stream.callIds) :
    Told dumps next (seen ++ [event]) emitted := by
  have htold : Told dumps next (seen ++ [event]) (emitted ++ []) := by
    refine h.texts hsilent.call hsilent.partials (hsilent.text ▸ .none) ?_ hids ?_ ?_
    · exact fun other hmem => hseen ▸ hmem
    · intro other block hother
      rw [hblocks, lookup_filter_ne] at hother
      split at hother
      · cases hother
      · left
        exact hother
    · intro call hmem
      have hne : call.key ≠ key := by
        intro hkey
        -- the block of an announced call is no text
        have hkind := congrArg Block.kind ((h.calls call hmem).block (hkey ▸ hblock)).1
        rw [htext] at hkind
        cases hkind
      rw [hblocks, lookup_filter_ne, if_neg hne]
  rwa [List.append_nil] at htold

/-! ## Calls -/

theorem Told.openTool (h : Told dumps stream seen emitted) (hcall : wireCall event = some call)
    (hpartials : ∀ key, wirePartial key event = none) (htext : wireText event = "")
    (hnew : call.key ∉ stream.seenIndices) (hfresh : call.callId ∉ stream.callIds)
    (hblocks : next.blocks = setKey call.key (openBlock call []) stream.blocks)
    (hseen : next.seenIndices = stream.seenIndices ++ [call.key])
    (hids : next.callIds = stream.callIds ++ [call.callId])
    {emission : GatewayTurnEvent} (hkind : emission.kind = .toolCallStart)
    (hid : emission.callId = some call.callId) (hname : emission.toolName = some call.name)
    (hidNe : call.callId ≠ "") (hnameNe : call.name ≠ "") :
    Told dumps next (seen ++ [event]) (emitted ++ [emission]) := by
  have hevent : (toModelEvent 1 emission).kind = .toolCallStart :=
    toModelEvent_toolCallStart.mpr hkind
  have hcalls : wireCalls (seen ++ [event]) = wireCalls seen ++ [call] := wireCalls_snoc_some hcall
  have hunknown : call.callId ∉ startedIds (turnEvents emitted) := by
    rw [h.startedIds_eq, ← h.ids]
    exact hfresh
  have hstarts : startedCalls (turnEvents (emitted ++ [emission])) =
      startedCalls (turnEvents emitted) ++ [(call.callId, call.name)] := by
    simp [hkind, hid, hname]
  have hends : endedCalls (turnEvents (emitted ++ [emission])) = endedCalls (turnEvents emitted) := by
    simp [hkind]
  have harguments : ∀ callId, argumentsOf callId (turnEvents (emitted ++ [emission])) =
      argumentsOf callId (turnEvents emitted) := by
    intro callId
    simp [hkind]
  have hnone : wirePartials call.key (seen ++ [event]) = [] := by
    rw [wirePartials_snoc_none (hpartials call.key)]
    exact h.unseen call.key hnew
  constructor
  · rw [turnEvents_snoc]
    exact h.fits.snoc (by simp [Fits, hevent, hid, hname, hidNe, hnameNe, hunknown])
  · intro other hmem
    rcases List.mem_append.mp hmem with hmem | hmem
    · exact h.unfinished other hmem
    · simp [List.mem_singleton.mp hmem, hkind]
  · simp [hkind, h.text, htext]
  · rw [hstarts, h.starts, hcalls, List.map_append]
    rfl
  · rw [hids, h.ids, hcalls, List.map_append]
    rfl
  · intro other hmem
    rw [hcalls] at hmem
    rw [hseen]
    rcases List.mem_append.mp hmem with hmem | hmem
    · exact List.mem_append_left _ (h.keys other hmem)
    · simp [List.mem_singleton.mp hmem]
  · rw [hcalls, List.map_append]
    refine h.keysNodup.append (List.nodup_singleton call.key) ?_
    intro key hold hlast
    obtain ⟨other, hother, rfl⟩ := List.mem_map.mp hold
    have hkey : other.key = call.key := List.mem_singleton.mp hlast
    exact hnew (hkey ▸ h.keys other hother)
  · intro key block hblock
    rw [hblocks] at hblock
    rw [hseen]
    by_cases hkey : key = call.key
    · simp [hkey]
    · rw [lookup_setKey_of_ne hkey] at hblock
      exact List.mem_append_left _ (h.blocks key block hblock)
  · intro key block hblock htool
    rw [hblocks] at hblock
    rw [hcalls]
    by_cases hkey : key = call.key
    · exact ⟨call, by simp, hkey.symm⟩
    · rw [lookup_setKey_of_ne hkey] at hblock
      obtain ⟨other, hother, hotherKey⟩ := h.tools key block hblock htool
      exact ⟨other, List.mem_append_left _ hother, hotherKey⟩
  · intro key hmem
    rw [wirePartials_snoc_none (hpartials key)]
    exact h.unseen key fun hold => hmem (hseen ▸ List.mem_append_left _ hold)
  · intro other hmem
    rw [hcalls] at hmem
    rcases List.mem_append.mp hmem with hmem | hmem
    · have hne : other.key ≠ call.key := fun hkey => hnew (hkey ▸ h.keys other hmem)
      refine (h.calls other hmem).frame ?_ (by rw [hends]) (harguments other.callId)
        (hpartials other.key)
      rw [hblocks, lookup_setKey_of_ne hne]
    · rw [List.mem_singleton.mp hmem]
      refine .opened ?_ ?_ ?_
      · rw [hblocks, lookup_setKey_self, hnone]
      · rw [hends]
        exact fun hended => hunknown (h.fits.ends.2 call.callId hended)
      · rw [harguments, hnone]
        exact h.fits.arguments_eq hunknown

theorem Told.concerning (h : Told dumps stream seen emitted) (hmem : call ∈ wireCalls seen)
    (hbrings : Brings "" (· = call.callId) emitted more) (hcall : wireCall event = none)
    (htext : wireText event = "")
    (hpartials : ∀ key, key ≠ call.key → wirePartial key event = none)
    (hseen : next.seenIndices = stream.seenIndices) (hids : next.callIds = stream.callIds)
    (hblocks : ∀ key, key ≠ call.key → next.blocks.lookup key = stream.blocks.lookup key)
    (hown : CallTold dumps next (seen ++ [event]) (turnEvents (emitted ++ more)) call) :
    Told dumps next (seen ++ [event]) (emitted ++ more) := by
  refine h.goesOn (htext ▸ hbrings) hcall (fun key hkey => hseen ▸ hkey) hids ?_ ?_ ?_
  · intro key block hblock
    rw [hseen]
    by_cases hkey : key = call.key
    · rw [hkey]
      exact ⟨h.keys call hmem, fun _ => ⟨call, hmem, rfl⟩⟩
    · rw [hblocks key hkey] at hblock
      exact ⟨h.blocks key block hblock, h.tools key block hblock⟩
  · exact fun key hunseen => hpartials key fun hkey => hunseen (hkey ▸ h.keys call hmem)
  · intro other hother
    by_cases hsame : other = call
    · rw [hsame]
      exact hown
    · have hkey : other.key ≠ call.key := fun hkey => hsame (h.call_of_key hother hmem hkey)
      have hid : other.callId ≠ call.callId := fun hid => hsame (h.call_of_id hother hmem hid)
      exact (h.calls other hother).frame (hblocks other.key hkey) (hbrings.ends other.callId hid)
        (hbrings.arguments other.callId hid) (hpartials other.key hkey)

theorem AllFit.starts_ne {events : List ModelStreamEvent} (h : AllFit events) {callId : String}
    (hmem : callId ∈ startedIds events) : callId ≠ "" := by
  induction h with
  | nil => cases hmem
  | @snoc events event _ hfits ih =>
      by_cases hkind : event.kind = .toolCallStart
      · simp only [Fits, hkind] at hfits
        obtain ⟨other, name, hid, hname, hidNe, -, -⟩ := hfits
        have hstarted : startedIds (events ++ [event]) = startedIds events ++ [other] := by
          simp [startedIds, hkind, hid, hname]
        rw [hstarted] at hmem
        rcases List.mem_append.mp hmem with hmem | hmem
        · exact ih hmem
        · rw [List.mem_singleton.mp hmem]
          exact hidNe
      · exact ih (by simpa [startedIds, hkind] using hmem)

theorem Told.started (h : Told dumps stream seen emitted) (hmem : call ∈ wireCalls seen) :
    call.callId ∈ startedIds (turnEvents emitted) := by
  rw [h.startedIds_eq]
  exact List.mem_map_of_mem hmem

theorem concerns_delta {callId : String} (hfits : AllFit (turnEvents emitted))
    (hstarted : callId ∈ startedIds (turnEvents emitted)) {emission : GatewayTurnEvent}
    (hkind : emission.kind = .toolCallArgumentsDelta) (hid : emission.callId = some callId) :
    Brings "" (· = callId) emitted [emission] ∧
      endedCalls (turnEvents (emitted ++ [emission])) = endedCalls (turnEvents emitted) ∧
      argumentsOf callId (turnEvents (emitted ++ [emission])) =
        argumentsOf callId (turnEvents emitted) ++ emission.delta.getD "" := by
  have hevent : (toModelEvent 1 emission).kind = .toolCallArgumentsDelta :=
    toModelEvent_toolCallArgumentsDelta.mpr hkind
  refine ⟨⟨?_, ?_, ?_, ?_, ?_, ?_⟩, ?_, ?_⟩
  · rw [turnEvents_snoc]
    exact hfits.snoc (by simp [Fits, hevent, hid, hstarted, hfits.starts_ne hstarted])
  · simp [hkind]
  · simp [hkind]
  · simp [hkind]
  · simp [hkind]
  · intro other hother
    simp [hid, Ne.symm hother]
  all_goals simp [hkind, hid]

theorem concerns_end {callId : String} (hfits : AllFit (turnEvents emitted))
    (hstarted : callId ∈ startedIds (turnEvents emitted))
    (hunended : callId ∉ endedCalls (turnEvents emitted)) {emission : GatewayTurnEvent}
    (hkind : emission.kind = .toolCallEnd) (hid : emission.callId = some callId) :
    Brings "" (· = callId) emitted [emission] ∧
      callId ∈ endedCalls (turnEvents (emitted ++ [emission])) ∧
      argumentsOf callId (turnEvents (emitted ++ [emission])) =
        argumentsOf callId (turnEvents emitted) := by
  have hevent : (toModelEvent 1 emission).kind = .toolCallEnd := toModelEvent_toolCallEnd.mpr hkind
  refine ⟨⟨?_, ?_, ?_, ?_, ?_, ?_⟩, ?_, ?_⟩
  · rw [turnEvents_snoc]
    exact hfits.snoc (by simp [Fits, hevent, hid, hstarted, hunended, hfits.starts_ne hstarted])
  · simp [hkind]
  · simp [hkind]
  · simp [hkind]
  · intro other hother
    simp [hkind, hid, hother]
  · simp [hkind]
  · simp [hkind, hid]
  · simp [hkind]

theorem Brings.append {own : String → Prop} {last : List GatewayTurnEvent}
    (hfirst : Brings "" own emitted more) (hsecond : Brings "" own (emitted ++ more) last) :
    Brings "" own emitted (more ++ last) := by
  constructor
  · rw [← List.append_assoc]
    exact hsecond.fits
  · intro emission hmem
    rcases List.mem_append.mp hmem with hmem | hmem
    · exact hfirst.unfinished emission hmem
    · exact hsecond.unfinished emission hmem
  · rw [← List.append_assoc, hsecond.text, hfirst.text, String.append_empty, String.append_empty]
  · rw [← List.append_assoc, hsecond.starts, hfirst.starts]
  · intro other hother
    rw [← List.append_assoc, hsecond.ends other hother, hfirst.ends other hother]
  · intro other hother
    rw [← List.append_assoc, hsecond.arguments other hother, hfirst.arguments other hother]

theorem Told.open_call (h : Told dumps stream seen emitted) {key : JsonValue} {block : Block}
    (hblock : stream.blocks.lookup key = some block) (htool : block.kind = .toolUse) :
    ∃ call ∈ wireCalls seen, call.key = key ∧
      block = openBlock call (wirePartials call.key seen) ∧
      call.callId ∉ endedCalls (turnEvents emitted) ∧
      argumentsOf call.callId (turnEvents emitted) = String.join (wirePartials call.key seen) := by
  obtain ⟨call, hmem, rfl⟩ := h.tools key block hblock htool
  exact ⟨call, hmem, rfl, (h.calls call hmem).block hblock⟩

theorem Told.arguments (h : Told dumps stream seen emitted) {key : JsonValue} {block : Block}
    (hblock : stream.blocks.lookup key = some block) (htool : block.kind = .toolUse)
    {emission : GatewayTurnEvent} (hcall : wireCall event = none) (htext : wireText event = "")
    (hpartials : ∀ other, wirePartial other event =
      if other = key then some (emission.delta.getD "") else none)
    (hblocks : next.blocks = setKey key { block with sawArguments := true } stream.blocks)
    (hseen : next.seenIndices = stream.seenIndices) (hids : next.callIds = stream.callIds)
    (hkind : emission.kind = .toolCallArgumentsDelta) (hid : emission.callId = block.callId) :
    Told dumps next (seen ++ [event]) (emitted ++ [emission]) := by
  obtain ⟨call, hmem, rfl, rfl, hunended, hstreamed⟩ := h.open_call hblock htool
  obtain ⟨hconcerns, hends, harguments⟩ := concerns_delta h.fits (h.started hmem) hkind hid
  have hpartialsNow : wirePartials call.key (seen ++ [event]) =
      wirePartials call.key seen ++ [emission.delta.getD ""] := by
    simp [wirePartials, hpartials]
  refine h.concerning hmem hconcerns hcall htext ?_ hseen hids ?_ (.opened ?_ ?_ ?_)
  · intro other hother
    rw [hpartials, if_neg hother]
  · intro other hother
    rw [hblocks, lookup_setKey_of_ne hother]
  · rw [hblocks, lookup_setKey_self, hpartialsNow]
    simp [openBlock]
  · rw [hends]
    exact hunended
  · rw [harguments, hstreamed, hpartialsNow, join_append]
    simp [String.join]

theorem Told.closeTool (h : Told dumps stream seen emitted) (hsilent : Silent event)
    {key : JsonValue} {block : Block} (hblock : stream.blocks.lookup key = some block)
    (htool : block.kind = .toolUse) (hblocks : next.blocks = stream.blocks.filter (·.1 ≠ key))
    (hseen : next.seenIndices = stream.seenIndices) (hids : next.callIds = stream.callIds)
    (hends : Ends block.callId
      (if block.sawArguments then none else some (dumps (.obj block.initialInput))) more) :
    Told dumps next (seen ++ [event]) (emitted ++ more) := by
  obtain ⟨call, hmem, rfl, rfl, hunended, hstreamed⟩ := h.open_call hblock htool
  have hwire : wireArguments dumps (seen ++ [event]) call = wireArguments dumps seen call :=
    wireArguments_snoc (hsilent.partials call.key)
  have hended : Brings "" (· = call.callId) emitted more ∧
      call.callId ∈ endedCalls (turnEvents (emitted ++ more)) ∧
      argumentsOf call.callId (turnEvents (emitted ++ more)) = wireArguments dumps seen call := by
    by_cases hnone : wirePartials call.key seen = []
    · -- without streamed arguments the first input is filled in
      have hsaw : (openBlock call (wirePartials call.key seen)).sawArguments = false := by
        simp [openBlock, hnone]
      rw [hsaw] at hends
      cases hends with
      | @filled delta ending _ hdelta hdeltaId hfilled hkind hid =>
          obtain ⟨hfirst, hstill, harguments⟩ :=
            concerns_delta h.fits (h.started hmem) hdelta hdeltaId
          have hstarted : call.callId ∈ startedIds (turnEvents (emitted ++ [delta])) := by
            rw [startedIds, hfirst.starts]
            exact h.started hmem
          obtain ⟨hsecond, hmemEnds, hsame⟩ :=
            concerns_end hfirst.fits hstarted (by rw [hstill]; exact hunended) hkind hid
          have hjoined : emitted ++ [delta, ending] = emitted ++ [delta] ++ [ending] := by simp
          refine ⟨hfirst.append hsecond, hjoined ▸ hmemEnds, ?_⟩
          rw [hjoined, hsame, harguments, hstreamed, hnone, hfilled, wireArguments, if_pos hnone]
          simp [openBlock, String.join]
    · have hsaw : (openBlock call (wirePartials call.key seen)).sawArguments = true := by
        simp [openBlock, hnone]
      rw [hsaw] at hends
      cases hends with
      | plain hkind hid =>
          obtain ⟨hconcerns, hmemEnds, hsame⟩ :=
            concerns_end h.fits (h.started hmem) hunended hkind hid
          refine ⟨hconcerns, hmemEnds, ?_⟩
          rw [hsame, hstreamed, wireArguments, if_neg hnone]
  obtain ⟨hconcerns, hmemEnds, harguments⟩ := hended
  refine h.concerning hmem hconcerns hsilent.call hsilent.text (fun other _ => hsilent.partials other)
    hseen hids ?_ (.closed ?_ hmemEnds ?_)
  · intro other hother
    rw [hblocks, lookup_filter_ne, if_neg hother]
  · rw [hblocks, lookup_filter_ne, if_pos rfl]
  · rw [harguments, hwire]

/-! ## Streams -/

theorem Told.counted (h : Told dumps stream seen emitted) {emission : GatewayTurnEvent}
    (hkind : emission.kind = .usage) (husage : emission.usage.isSome) :
    Told dumps stream seen (emitted ++ [emission]) := by
  have hevent : (toModelEvent 1 emission).kind = .usage := by simp [toModelEvent, hkind]
  have hcount : (toModelEvent 1 emission).usage.isSome := by simpa [toModelEvent] using husage
  have hfits : AllFit (turnEvents (emitted ++ [emission])) := by
    rw [turnEvents_snoc]
    exact h.fits.snoc (by simp [Fits, hevent, hcount])
  refine { h with fits := hfits, unfinished := ?_, text := ?_, starts := ?_, calls := ?_ }
  · intro other hmem
    rcases List.mem_append.mp hmem with hmem | hmem
    · exact h.unfinished other hmem
    · simp [List.mem_singleton.mp hmem, hkind]
  · simp [hkind, h.text]
  · simp [hkind, h.starts]
  · intro call hmem
    cases h.calls call hmem with
    | opened hblock hended harguments => exact .opened hblock (by simpa [hkind]) (by simpa [hkind])
    | closed hblock hended harguments => exact .closed hblock (by simpa [hkind]) (by simpa [hkind])

/-- The stream is stopped for a reason; everything before the finish says what the wire says. -/
structure Stops (dumps : JsonValue → String) (stream next : MessageStream)
    (inputs : List JsonValue) (more before : List GatewayTurnEvent)
    (reason : GatewayFinishReason) : Prop where
  last : ∃ emission, more = before ++ [emission] ∧ emission.kind = .finish ∧
    emission.finishReason = some reason
  closed : next.blocks = []
  inventory : reason = .stop ∨ reason = .toolCalls → (reason = .toolCalls ↔ next.callIds ≠ [])
  told : ∀ seen emitted, Told dumps stream seen emitted →
    Told dumps next (seen ++ inputs) (emitted ++ before)

theorem Consumed.told (h : Consumed dumps stream event next more) :
    (next.stopped = stream.stopped ∧ ∀ seen emitted, Told dumps stream seen emitted →
      Told dumps next (seen ++ [event]) (emitted ++ more)) ∨
    ∃ before reason, next.stopped = true ∧ Stops dumps stream next [event] more before reason := by
  cases h with
  | quiet hsilent hsame =>
      left
      refine ⟨hsame.stopped, fun seen emitted htold => ?_⟩
      exact htold.same hsilent.call hsilent.partials (hsilent.text ▸ .none) hsame
  | text hcall hpartials htexts hsame =>
      left
      exact ⟨hsame.stopped, fun seen emitted htold => htold.same hcall hpartials htexts hsame⟩
  | openText hcall hpartials htexts hnew hblocks hseen hcalls hstopped =>
      left
      exact ⟨hstopped, fun seen emitted htold =>
        htold.openText hcall hpartials htexts hnew hblocks hseen hcalls⟩
  | openTool hcall hpartials htext hnew hfresh hblocks hseen hcalls hstopped hkind hid hname hidNe
      hnameNe =>
      left
      exact ⟨hstopped, fun seen emitted htold => htold.openTool hcall hpartials htext hnew hfresh
        hblocks hseen hcalls hkind hid hname hidNe hnameNe⟩
  | arguments hblock htool hcall htext hpartials hblocks hseen hcalls hstopped hkind hid =>
      left
      exact ⟨hstopped, fun seen emitted htold => htold.arguments hblock htool hcall htext hpartials
        hblocks hseen hcalls hkind hid⟩
  | closeText hsilent hblock htext hblocks hseen hcalls hstopped =>
      left
      refine ⟨hstopped, fun seen emitted htold => ?_⟩
      rw [List.append_nil]
      exact htold.closeText hsilent hblock htext hblocks hseen hcalls
  | closeTool hsilent hblock htool hblocks hseen hcalls hstopped hends =>
      left
      exact ⟨hstopped, fun seen emitted htold =>
        htold.closeTool hsilent hblock htool hblocks hseen hcalls hends⟩
  | @stop _ reason counted finished hsilent hclosed hstopped hopen hblocks hseen hcalls hinventory
      husage hkind hreason =>
      right
      refine ⟨[counted], reason, hstopped, ⟨finished, rfl, hkind, hreason⟩, hblocks, ?_, ?_⟩
      · rw [hcalls]
        exact hinventory
      · intro seen emitted htold
        have hquiet : Told dumps next (seen ++ [event]) (emitted ++ []) := by
          refine htold.texts hsilent.call hsilent.partials (hsilent.text ▸ .none) ?_ hcalls ?_ ?_
          · exact fun key hmem => hseen ▸ hmem
          · intro key block hblock
            rw [hblocks] at hblock
            cases hblock
          · intro call _
            rw [hblocks, hclosed]
        rw [List.append_nil] at hquiet
        exact hquiet.counted husage.1 husage.2

variable {validIndex : JsonValue → Bool} {reason : GatewayFinishReason}
  {before : List GatewayTurnEvent} {inputs : List JsonValue}

theorem consumeMessage_stopped (hstopped : stream.stopped = true)
    (h : stream.consume dumps validIndex event = .ok (next, more)) :
    next = stream ∧ more = [] ∧ Silent event := by
  unfold MessageStream.consume at h
  rw [bind_eq_ok] at h
  obtain ⟨type, htype, h⟩ := h
  split at h
  · have hofType := ofType_eq (subscript_ok htype)
    unfold MessageStream.consumeKind at h
    split at h
    · cases h
    · split at h
      next hping =>
        cases h
        exact ⟨rfl, rfl, silent_of_type (by simp [hofType, hping]) (by simp [hofType, hping])⟩
      next => cases h
  · cases h

theorem Told.silent (h : Told dumps stream seen emitted) (hsilent : Silent event) :
    Told dumps stream (seen ++ [event]) emitted := by
  have htold : Told dumps stream (seen ++ [event]) (emitted ++ []) :=
    h.same hsilent.call hsilent.partials (hsilent.text ▸ .none) (.refl stream)
  rwa [List.append_nil] at htold

theorem consumeAll_stopped (hstopped : stream.stopped = true)
    (h : stream.consumeAll dumps validIndex inputs = .ok (next, more)) :
    next = stream ∧ more = [] ∧ ∀ seen emitted, Told dumps stream seen emitted →
      Told dumps stream (seen ++ inputs) emitted := by
  induction inputs generalizing more with
  | nil =>
      cases h
      exact ⟨rfl, rfl, fun seen emitted htold => by rwa [List.append_nil]⟩
  | cons input inputs ih =>
      unfold MessageStream.consumeAll at h
      simp only [bind_eq_ok] at h
      obtain ⟨⟨consumed, first⟩, hfirst, ⟨last, rest⟩, hrest, h⟩ := h
      cases h
      obtain ⟨rfl, rfl, hsilent⟩ := consumeMessage_stopped hstopped hfirst
      obtain ⟨rfl, rfl, htold⟩ := ih hrest
      refine ⟨rfl, rfl, fun seen emitted h => ?_⟩
      rw [← List.singleton_append, ← List.append_assoc]
      exact htold (seen ++ [input]) emitted (h.silent hsilent)

theorem consumeAll_stops (hopen : stream.stopped = false)
    (h : stream.consumeAll dumps validIndex inputs = .ok (next, more))
    (hstopped : next.stopped = true) :
    ∃ before reason, Stops dumps stream next inputs more before reason := by
  induction inputs generalizing stream more with
  | nil =>
      cases h
      exact absurd (hopen.symm.trans hstopped) (by decide)
  | cons input inputs ih =>
      unfold MessageStream.consumeAll at h
      simp only [bind_eq_ok] at h
      obtain ⟨⟨consumed, first⟩, hfirst, ⟨last, rest⟩, hrest, h⟩ := h
      cases h
      rcases (consumeMessage_ok hfirst).told with ⟨hsame, htold⟩ | ⟨before, reason, hstop, hstops⟩
      · obtain ⟨before, reason, hstops⟩ := ih (hsame.trans hopen) hrest
        obtain ⟨emission, hlast, hkind, hreason⟩ := hstops.last
        refine ⟨first ++ before, reason, ⟨emission, ?_, hkind, hreason⟩, hstops.closed,
          hstops.inventory, ?_⟩
        · rw [hlast, List.append_assoc]
        · intro seen emitted h
          rw [← List.singleton_append, ← List.append_assoc, ← List.append_assoc]
          exact hstops.told (seen ++ [input]) (emitted ++ first) (htold seen emitted h)
      · obtain ⟨rfl, rfl, hquiet⟩ := consumeAll_stopped hstop hrest
        obtain ⟨emission, hlast, hkind, hreason⟩ := hstops.last
        refine ⟨before, reason, ⟨emission, ?_, hkind, hreason⟩, hstops.closed, hstops.inventory, ?_⟩
        · rw [List.append_nil, hlast]
        · intro seen emitted h
          rw [← List.singleton_append, ← List.append_assoc]
          exact hquiet (seen ++ [input]) (emitted ++ before) (hstops.told seen emitted h)

theorem told_fresh (stream : MessageStream) (hblocks : stream.blocks = [])
    (hids : stream.callIds = []) : Told dumps stream [] [] where
  fits := .nil
  unfinished := by simp
  text := rfl
  starts := rfl
  ids := hids
  keys := by simp [wireCalls]
  keysNodup := List.nodup_nil
  blocks := by simp [hblocks]
  tools := by simp [hblocks]
  unseen := fun _ _ => rfl
  calls := by simp [wireCalls]

/-! ## Answers -/

/-- The call of the answer is this call of the wire; no arguments at all are read as none given. -/
def Makes (loads : String → Option JsonValue) (dumps : JsonValue → String)
    (seen : List JsonValue) (call : WireCall) (made : ToolCall) : Prop :=
  made.callId = call.callId ∧ made.toolName = call.name ∧
    loads (rawArguments [wireArguments dumps seen call]) = some (.obj made.arguments)

variable {loads : String → Option JsonValue} {assembler : ModelStreamAssembler}

theorem rawArguments_join (texts : List String) :
    rawArguments texts = rawArguments [String.join texts] := by
  have hjoin : String.join [String.join texts] = String.join texts := by
    apply String.toList_injective
    simp [String.toList_join]
  unfold rawArguments
  rw [hjoin]

theorem Told.call_closed (h : Told dumps stream seen emitted) (hclosed : stream.blocks = [])
    (hmem : call ∈ wireCalls seen) :
    call.callId ∈ endedCalls (turnEvents emitted) ∧
      argumentsOf call.callId (turnEvents emitted) = wireArguments dumps seen call := by
  cases h.calls call hmem with
  | opened hblock =>
      rw [hclosed] at hblock
      cases hblock
  | closed _ hended harguments => exact ⟨hended, harguments⟩

theorem Told.makes (h : Told dumps stream seen emitted) (hclosed : stream.blocks = [])
    {made : ToolCall} (hmade : MadeBy loads (turnEvents emitted) made) :
    ∃ call ∈ wireCalls seen, Makes loads dumps seen call made := by
  obtain ⟨hstarted, hloads⟩ := hmade
  rw [h.starts] at hstarted
  obtain ⟨call, hmem, hpair⟩ := List.mem_map.mp hstarted
  obtain ⟨hid, hname⟩ := Prod.mk.inj hpair
  refine ⟨call, hmem, hid.symm, hname.symm, ?_⟩
  rw [← (h.call_closed hclosed hmem).2, hid]
  rw [rawArguments_join] at hloads
  exact hloads

theorem Told.buildToolCalls (h : Told dumps stream seen emitted) (hclosed : stream.blocks = [])
    (hholds : Holds assembler (turnEvents emitted))
    (hread : ∀ call ∈ wireCalls seen, ∃ made, Makes loads dumps seen call made) :
    ∃ calls, assembler.buildToolCalls loads assembler.closedCalls = .ok calls ∧
      (calls.map (·.callId)).Nodup ∧
      ∀ made, made ∈ calls ↔ ∃ call ∈ wireCalls seen, Makes loads dumps seen call made := by
  have hknown : ∀ callId ∈ assembler.closedCalls,
      ((startedCalls (turnEvents emitted)).lookup callId).isSome := by
    intro callId hmem
    exact lookup_startedCalls.mpr (h.fits.ends.2 callId (hholds.closed ▸ hmem))
  have hbuilds : ∀ callId ∈ assembler.closedCalls,
      ∃ made, assembler.buildToolCall loads callId = .ok made := by
    intro callId hmem
    have hstarted := hknown callId hmem
    obtain ⟨name, hname⟩ := Option.isSome_iff_exists.mp hstarted
    have hwire : callId ∈ (wireCalls seen).map (·.callId) :=
      h.startedIds_eq ▸ lookup_startedCalls.mp hstarted
    obtain ⟨call, hcall, rfl⟩ := List.mem_map.mp hwire
    obtain ⟨made, -, -, hloads⟩ := hread call hcall
    rw [← (h.call_closed hclosed hcall).2] at hloads
    have hloads : loads (rawArguments (argumentTexts (turnEvents emitted) call.callId)) =
        some (.obj made.arguments) := by
      rw [rawArguments_join]
      exact hloads
    have harguments : (assembler.toolArguments.lookup call.callId).getD [] =
        argumentTexts (turnEvents emitted) call.callId := by
      rw [hholds.arguments, hname]
      rfl
    refine ⟨⟨call.callId, (assembler.toolNames.lookup call.callId).getD "", made.arguments⟩, ?_⟩
    unfold rawArguments at hloads
    simp only [ModelStreamAssembler.buildToolCall, harguments, hloads]
    rfl
  obtain ⟨calls, hcalls⟩ := buildToolCalls_ok hbuilds
  obtain ⟨hids, hmade⟩ := hholds.buildToolCalls hknown hcalls
  refine ⟨calls, hcalls, ?_, ?_⟩
  · rw [hids, hholds.closed]
    exact h.fits.ends.1
  · intro made
    constructor
    · intro hmem
      exact h.makes hclosed (hmade made hmem)
    · rintro ⟨call, hcall, hid, hname, harguments⟩
      have hended : call.callId ∈ calls.map (·.callId) := by
        rw [hids, hholds.closed]
        exact (h.call_closed hclosed hcall).1
      obtain ⟨other, hother, hotherId⟩ := List.mem_map.mp hended
      obtain ⟨otherCall, hotherCall, hsameId, hotherName, hotherArguments⟩ :=
        h.makes hclosed (hmade other hother)
      obtain rfl : otherCall = call := h.call_of_id hotherCall hcall (hsameId.symm.trans hotherId)
      have hfields : other.arguments = made.arguments := by
        simpa using hotherArguments.symm.trans harguments
      have hsame : other = made := by
        cases other
        cases made
        simp_all
      exact hsame ▸ hother

def Says (content : List ContentPart) (text : String) : Prop :=
  content = [] ∧ text = "" ∨ content = [.text text]

theorem Told.answered (h : Told dumps stream seen emitted) (hclosed : stream.blocks = [])
    (hholds : Holds assembler (turnEvents emitted)) (hfirst : FirstAttempt assembler)
    {parsed : FinishReason} (hfinish : assembler.finishReason = some parsed)
    (hparsed : parsed = .stop ∨ parsed = .toolCalls)
    (hinventory : parsed = .toolCalls ↔ wireCalls seen ≠ [])
    (hread : ∀ call ∈ wireCalls seen, ∃ made, Makes loads dumps seen call made)
    (messageId : String) (createdAt : Timestamp) :
    ∃ outcome assistant, assembler.buildOutcome loads messageId createdAt = .ok outcome ∧
      outcome.kind = .assistant ∧ outcome.assistant = some assistant ∧
      Says assistant.content (wireAnswer seen) ∧ (assistant.toolCalls.map (·.callId)).Nodup ∧
      ∀ made, made ∈ assistant.toolCalls ↔
        ∃ call ∈ wireCalls seen, Makes loads dumps seen call made := by
  obtain ⟨calls, hcalls, hnodup, hmade⟩ := h.buildToolCalls hclosed hholds hread
  have hends : ∀ callId ∈ startedIds (turnEvents emitted),
      callId ∈ endedCalls (turnEvents emitted) := by
    intro callId hmem
    rw [h.startedIds_eq] at hmem
    obtain ⟨call, hcall, rfl⟩ := List.mem_map.mp hmem
    exact (h.call_closed hclosed hcall).1
  obtain ⟨outcome, assistant, hbuilt, houtcome, hassistant, hfinished⟩ := buildOutcome_ok hholds
    hfirst hfinish hparsed hends ⟨calls, hcalls⟩ messageId createdAt
  obtain ⟨-, hcontent, htools, hnone⟩ := assistant_of_buildOutcome hbuilt hassistant
  have hassistantCalls : assistant.toolCalls = calls := by
    by_cases hcalling : parsed = .toolCalls
    · exact Except.ok.inj ((htools (hfinished.trans hcalling)).symm.trans hcalls)
    · -- no call was announced, and none is made
      have hwire : wireCalls seen = [] := not_not.mp fun hne => hcalling (hinventory.mpr hne)
      rw [hnone (by rw [hfinished]; exact hcalling)]
      cases calls with
      | nil => rfl
      | cons made rest =>
          obtain ⟨call, hcall, -⟩ := (hmade made).mp List.mem_cons_self
          rw [hwire] at hcall
          cases hcall
  rw [← hassistantCalls] at hnodup hmade
  refine ⟨outcome, assistant, hbuilt, houtcome, hassistant, ?_, hnodup, hmade⟩
  have htext : String.join assembler.text = wireAnswer seen := by
    rw [hholds.text, ← h.text]
    rfl
  rw [hcontent]
  split
  · rename_i hempty
    left
    refine ⟨rfl, ?_⟩
    rw [← htext, hempty]
    rfl
  · right
    rw [htext]

end Rules

structure MessageAssembled (loads : String → Option JsonValue) (dumps : JsonValue → String)
    (inputs : List JsonValue) (emitted : List GatewayTurnEvent) (reason : GatewayFinishReason)
    (assembler : ModelStreamAssembler) : Prop where
  finish : ∃ before last, emitted = before ++ [last] ∧ last.kind = .finish ∧
    last.finishReason = some reason ∧ ∀ emission ∈ before, emission.kind ≠ .finish
  accepted : ({} : ModelStreamAssembler).acceptAll (attemptStarted 1 :: turnEvents emitted) =
    .ok assembler
  text : answerText (turnEvents emitted) = wireAnswer inputs
  starts : startedCalls (turnEvents emitted) =
    (wireCalls inputs).map fun call => (call.callId, call.name)
  calls : ∀ call ∈ wireCalls inputs, (endedCalls (turnEvents emitted)).count call.callId = 1 ∧
    argumentsOf call.callId (turnEvents emitted) = wireArguments dumps inputs call
  inventory : reason = .stop ∨ reason = .toolCalls → (reason = .toolCalls ↔ wireCalls inputs ≠ [])
  answered : reason = .stop ∨ reason = .toolCalls →
    (∀ call ∈ wireCalls inputs, ∃ made, Makes loads dumps inputs call made) →
    ∀ messageId createdAt, ∃ outcome assistant,
      assembler.buildOutcome loads messageId createdAt = .ok outcome ∧
        outcome.kind = .assistant ∧ outcome.assistant = some assistant ∧
        Says assistant.content (wireAnswer inputs) ∧ (assistant.toolCalls.map (·.callId)).Nodup ∧
        ∀ made, made ∈ assistant.toolCalls ↔
          ∃ call ∈ wireCalls inputs, Makes loads dumps inputs call made

theorem turnEvents_finish (before : List GatewayTurnEvent) {last : GatewayTurnEvent}
    (hkind : last.kind = .finish) :
    answerText (turnEvents (before ++ [last])) = answerText (turnEvents before) ∧
      startedCalls (turnEvents (before ++ [last])) = startedCalls (turnEvents before) ∧
      endedCalls (turnEvents (before ++ [last])) = endedCalls (turnEvents before) ∧
      ∀ callId, argumentsOf callId (turnEvents (before ++ [last])) =
        argumentsOf callId (turnEvents before) := by
  simp [hkind]

/-- Every message that is accepted up to its stop is one turn, with the text and the calls that
the wire brought. -/
theorem message_assembled (loads : String → Option JsonValue) (dumps : JsonValue → String)
    (validIndex : JsonValue → Bool) (toolNames : List String) (toolChoice : String)
    (providerRequestId : Option String) (inputs : List JsonValue) (final : MessageStream)
    (emitted : List GatewayTurnEvent)
    (h : MessageStream.consumeAll dumps validIndex { toolNames, toolChoice, providerRequestId }
      inputs = .ok (final, emitted))
    (hstopped : final.stopped = true) :
    ∃ reason assembler, MessageAssembled loads dumps inputs emitted reason assembler := by
  obtain ⟨before, reason, hstops⟩ := consumeAll_stops rfl h hstopped
  obtain ⟨last, rfl, hkind, hreason⟩ := hstops.last
  have htold : Told dumps final inputs before := by
    simpa using hstops.told [] [] (told_fresh _ rfl rfl)
  have hunfinished : ∀ event ∈ turnEvents before, event.kind ≠ .finish := by
    intro event hmem
    obtain ⟨emission, hemission, rfl⟩ := List.mem_map.mp hmem
    rw [Ne, toModelEvent_finish]
    exact htold.unfinished emission hemission
  obtain ⟨opened, haccept, hholds, hfirst, hopen⟩ := accept_allFit htold.fits hunfinished
  obtain ⟨parsed, hparsed, hstop, hcalling⟩ : ∃ parsed,
      parseFinishReason (some reason.value) = some parsed ∧ (parsed = .stop ↔ reason = .stop) ∧
        (parsed = .toolCalls ↔ reason = .toolCalls) := by
    cases reason <;> exact ⟨_, rfl, by simp, by simp⟩
  have hlastReason : (toModelEvent 1 last).finishReason = some reason.value := by
    simp [toModelEvent, hreason]
  have hlastKind : (toModelEvent 1 last).kind = .finish := toModelEvent_finish.mpr hkind
  have hfits : Fits (turnEvents before) (toModelEvent 1 last) := by
    unfold Fits
    simp [hlastKind, hlastReason, hparsed]
  obtain ⟨assembler, hnext, hnextFirst, hnextReason⟩ := accept_fits hholds hfirst hopen hfits
  rw [if_pos hlastKind, hlastReason, hparsed] at hnextReason
  have hnextHolds : Holds assembler (turnEvents before) :=
    holds_of_finish (hholds.accept hfits.clears hnext) hlastKind
  have hcallIds : final.callIds ≠ [] ↔ wireCalls inputs ≠ [] := by
    rw [htold.ids]
    simp
  obtain ⟨htext, hstarts, hends, harguments⟩ := turnEvents_finish before hkind
  refine ⟨reason, assembler, ?_, ?_, ?_, ?_, ?_, ?_, ?_⟩
  · exact ⟨before, last, rfl, hkind, hreason, htold.unfinished⟩
  · rw [turnEvents_snoc, ← List.cons_append, acceptAll_append, haccept]
    exact congrArg (· >>= fun next => pure next) hnext
  · rw [htext, htold.text]
  · rw [hstarts, htold.starts]
  · intro call hmem
    obtain ⟨hended, hall⟩ := htold.call_closed hstops.closed hmem
    rw [hends, harguments]
    exact ⟨List.count_eq_one_of_mem htold.fits.ends.1 hended, hall⟩
  · exact fun hgood => (hstops.inventory hgood).trans hcallIds
  · intro hgood hread messageId createdAt
    have hparsedGood : parsed = .stop ∨ parsed = .toolCalls := by rwa [hstop, hcalling]
    have hinventory : parsed = .toolCalls ↔ wireCalls inputs ≠ [] := by
      rw [hcalling, hstops.inventory hgood, hcallIds]
    exact htold.answered hstops.closed hnextHolds hnextFirst hnextReason hparsedGood hinventory
      hread messageId createdAt

def messageEvents : List JsonValue :=
  [.obj [("type", .str "message_start"), ("message", .obj [("usage", .obj
      [("input_tokens", .num 5)])])],
    .obj [("type", .str "content_block_start"), ("index", .num 0),
      ("content_block", .obj [("type", .str "text"), ("text", .str "")])],
    .obj [("type", .str "content_block_delta"), ("index", .num 0),
      ("delta", .obj [("type", .str "text_delta"), ("text", .str "A")])],
    .obj [("type", .str "content_block_start"), ("index", .num 1),
      ("content_block", .obj [("type", .str "tool_use"), ("id", .str "call"),
        ("name", .str "search"), ("input", .obj [])])],
    .obj [("type", .str "content_block_delta"), ("index", .num 1),
      ("delta", .obj [("type", .str "input_json_delta"), ("partial_json", .str "\x7b")])],
    .obj [("type", .str "content_block_delta"), ("index", .num 1),
      ("delta", .obj [("type", .str "input_json_delta"), ("partial_json", .str "\x7d")])],
    .obj [("type", .str "content_block_stop"), ("index", .num 0)],
    .obj [("type", .str "content_block_stop"), ("index", .num 1)],
    .obj [("type", .str "message_delta"), ("delta", .obj [("stop_reason", .str "tool_use")]),
      ("usage", .obj [("output_tokens", .num 7)])],
    .obj [("type", .str "message_stop")], .obj [("type", .str "ping")]]

theorem message_assembled_call : ∃ final emitted reason assembler,
    MessageStream.consumeAll (fun _ => "\x7b\x7d") (fun _ => true)
      { toolNames := ["search"], toolChoice := "auto" } messageEvents = .ok (final, emitted) ∧
      MessageAssembled callLoads (fun _ => "\x7b\x7d") messageEvents emitted reason assembler := by
  have hrun : ((MessageStream.consumeAll (fun _ => "\x7b\x7d") (fun _ => true)
      { toolNames := ["search"], toolChoice := "auto" } messageEvents).toOption.any
        (·.1.stopped)) = true := by decide +kernel
  obtain ⟨⟨final, emitted⟩, hresult, hstopped⟩ := (Option.any_eq_true ..).mp hrun
  cases hconsume : MessageStream.consumeAll (fun _ => "\x7b\x7d") (fun _ => true)
      { toolNames := ["search"], toolChoice := "auto" } messageEvents with
  | error message =>
      rw [hconsume] at hresult
      cases hresult
  | ok result =>
      rw [hconsume] at hresult
      obtain rfl := Option.some.inj hresult
      obtain ⟨reason, assembler, hturn⟩ := message_assembled callLoads (fun _ => "\x7b\x7d")
        (fun _ => true) ["search"] "auto" none messageEvents final emitted hconsume hstopped
      exact ⟨final, emitted, reason, assembler, rfl, hturn⟩

end Hybro.Gateway
