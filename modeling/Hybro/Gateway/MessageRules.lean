import Hybro.Gateway.Assembly
import Hybro.Gateway.MessageStream

/-! # The steps of a message stream

What an event of the wire says by itself, and what the stream does with an event that it
accepts.
-/

namespace Hybro.Gateway

open Orchestrator MessageStream

/-! ## What the wire says -/

/-- `value[key]`, if it is there. -/
def fieldOf (value : JsonValue) (key : String) : JsonValue :=
  match value with
  | .obj fields => (fields.lookup key).getD .null
  | _ => .null

def textOf : JsonValue → String
  | .str text => text
  | _ => ""

def ofType (value : JsonValue) (type : String) : Bool := fieldOf value "type" = .str type

/-- The text of the answer that an event brings. -/
def wireText (event : JsonValue) : String :=
  if ofType event "content_block_start" && ofType (fieldOf event "content_block") "text" then
    textOf (fieldOf (fieldOf event "content_block") "text")
  else if ofType event "content_block_delta" && ofType (fieldOf event "delta") "text_delta" then
    textOf (fieldOf (fieldOf event "delta") "text")
  else ""

structure WireCall where
  key : JsonValue
  callId : String
  name : String
  input : List (String × JsonValue)

def wireCall (event : JsonValue) : Option WireCall :=
  if ofType event "content_block_start" && ofType (fieldOf event "content_block") "tool_use" then
    let block := fieldOf event "content_block"
    match hashed (fieldOf event "index"), fieldOf block "id", fieldOf block "name",
      fieldOf block "input" with
    | .ok key, .str callId, .str name, .obj input => some ⟨key, callId, name, input⟩
    | _, _, _, _ => none
  else none

/-- The part of the arguments that an event brings for the block with that key. -/
def wirePartial (key : JsonValue) (event : JsonValue) : Option String :=
  if ofType event "content_block_delta" && ofType (fieldOf event "delta") "input_json_delta" &&
      hashed (fieldOf event "index") = .ok key then
    some (textOf (fieldOf (fieldOf event "delta") "partial_json"))
  else none

structure Silent (event : JsonValue) : Prop where
  text : wireText event = ""
  call : wireCall event = none
  partials : ∀ key, wirePartial key event = none

theorem silent_of_type {event : JsonValue} (hstart : ofType event "content_block_start" = false)
    (hdelta : ofType event "content_block_delta" = false) : Silent event := by
  constructor
  · simp [wireText, hstart, hdelta]
  · simp [wireCall, hstart]
  · simp [wirePartial, hdelta]

/-! ## Reading -/

theorem subscript_ok {value item : JsonValue} {key : String} (h : subscript value key = .ok item) :
    fieldOf value key = item := by
  cases value with
  | obj fields =>
      unfold subscript at h
      dsimp only at h
      cases hfield : fields.lookup key with
      | none => simp [hfield] at h
      | some found =>
          simp only [hfield, Option.map_some, Option.getD_some, Except.ok.injEq] at h
          simp [fieldOf, hfield, h]
  | _ => cases h

theorem deltaText_ok {value : JsonValue} {text : Option String} (h : deltaText value = .ok text) :
    text.getD "" = textOf value := by
  cases value <;> cases h <;> rfl

/-! ## Steps -/

variable {dumps : JsonValue → String} {validIndex : JsonValue → Bool}
  {stream mid next : MessageStream} {event index key raw : JsonValue}
  {emitted events more : List GatewayTurnEvent}

structure SameBlocks (stream next : MessageStream) : Prop where
  blocks : next.blocks = stream.blocks
  seen : next.seenIndices = stream.seenIndices
  calls : next.callIds = stream.callIds
  stopped : next.stopped = stream.stopped

theorem SameBlocks.refl (stream : MessageStream) : SameBlocks stream stream := ⟨rfl, rfl, rfl, rfl⟩

theorem SameBlocks.trans (hfirst : SameBlocks stream mid) (hsecond : SameBlocks mid next) :
    SameBlocks stream next :=
  ⟨hsecond.blocks.trans hfirst.blocks, hsecond.seen.trans hfirst.seen,
    hsecond.calls.trans hfirst.calls, hsecond.stopped.trans hfirst.stopped⟩

structure Emits (stream next : MessageStream) (event emission : GatewayTurnEvent) : Prop where
  same : SameBlocks stream next
  finish : next.finish = stream.finish
  kind : emission.kind = event.kind
  callId : emission.callId = event.callId
  toolName : emission.toolName = event.toolName
  delta : emission.delta = event.delta
  usage : emission.usage = event.usage
  finishReason : emission.finishReason = event.finishReason
  payload : eventHasRequiredPayload event = true

theorem messageEvent_ok {index : Option JsonValue} {event : GatewayTurnEvent}
    (h : stream.event validIndex index event = .ok (next, events)) :
    ∃ emission, events = [emission] ∧ Emits stream next event emission := by
  unfold MessageStream.event at h
  dsimp only at h
  split at h
  · cases h
  · split at h
    next hpayload =>
      cases h
      simp only [Bool.and_eq_true] at hpayload
      exact ⟨_, rfl, ⟨rfl, rfl, rfl, rfl⟩, rfl, rfl, rfl, rfl, rfl, rfl, rfl, hpayload.1⟩
    next => cases h

theorem mergeCounter_ok {usage : JsonValue} {name : String}
    (h : stream.mergeCounter usage name = .ok next) :
    SameBlocks stream next ∧ next.finish = stream.finish := by
  unfold MessageStream.mergeCounter at h
  rw [bind_eq_ok] at h
  obtain ⟨value, -, h⟩ := h
  split at h
  · cases h
    exact ⟨.refl _, rfl⟩
  · split at h
    · cases h
    · cases h
      exact ⟨⟨rfl, rfl, rfl, rfl⟩, rfl⟩
  · cases h

theorem mergeUsage_ok {usage : JsonValue} (h : stream.mergeUsage usage = .ok next) :
    SameBlocks stream next ∧ next.finish = stream.finish := by
  unfold MessageStream.mergeUsage at h
  generalize usageNames = names at h
  induction names generalizing stream with
  | nil =>
      cases h
      exact ⟨.refl _, rfl⟩
  | cons name names ih =>
      rw [List.foldlM_cons, bind_eq_ok] at h
      obtain ⟨counted, hcounted, h⟩ := h
      have hfirst := mergeCounter_ok hcounted
      have hrest := ih h
      exact ⟨hfirst.1.trans hrest.1, hrest.2.trans hfirst.2⟩

inductive Texts : String → List GatewayTurnEvent → Prop
  | none : Texts "" []
  | one {emission : GatewayTurnEvent} (hkind : emission.kind = .textDelta) :
      Texts (emission.delta.getD "") [emission]

inductive Ends (callId : Option String) : Option String → List GatewayTurnEvent → Prop
  | plain {ending : GatewayTurnEvent} (hkind : ending.kind = .toolCallEnd)
      (hid : ending.callId = callId) : Ends callId none [ending]
  | filled {delta ending : GatewayTurnEvent} {arguments : String}
      (hdelta : delta.kind = .toolCallArgumentsDelta) (hdeltaId : delta.callId = callId)
      (harguments : delta.delta = some arguments) (hkind : ending.kind = .toolCallEnd)
      (hid : ending.callId = callId) : Ends callId (some arguments) [delta, ending]

inductive Consumed (dumps : JsonValue → String) (stream : MessageStream) (event : JsonValue) :
    MessageStream → List GatewayTurnEvent → Prop
  | quiet {next : MessageStream} (hsilent : Silent event) (hsame : SameBlocks stream next) :
      Consumed dumps stream event next []
  | text {next : MessageStream} {emitted : List GatewayTurnEvent}
      (hcall : wireCall event = none) (hpartials : ∀ key, wirePartial key event = none)
      (htexts : Texts (wireText event) emitted) (hsame : SameBlocks stream next) :
      Consumed dumps stream event next emitted
  | openText {key : JsonValue} {next : MessageStream} {emitted : List GatewayTurnEvent}
      (hcall : wireCall event = none) (hpartials : ∀ key, wirePartial key event = none)
      (htexts : Texts (wireText event) emitted) (hnew : key ∉ stream.seenIndices)
      (hblocks : next.blocks = setKey key { kind := .text } stream.blocks)
      (hseen : next.seenIndices = stream.seenIndices ++ [key])
      (hcalls : next.callIds = stream.callIds) (hstopped : next.stopped = stream.stopped) :
      Consumed dumps stream event next emitted
  | openTool {call : WireCall} {next : MessageStream} {emission : GatewayTurnEvent}
      (hcall : wireCall event = some call) (hpartials : ∀ key, wirePartial key event = none)
      (htext : wireText event = "") (hnew : call.key ∉ stream.seenIndices)
      (hfresh : call.callId ∉ stream.callIds)
      (hblocks : next.blocks = setKey call.key
        { kind := .toolUse, callId := some call.callId, name := some call.name
          initialInput := call.input } stream.blocks)
      (hseen : next.seenIndices = stream.seenIndices ++ [call.key])
      (hcalls : next.callIds = stream.callIds ++ [call.callId])
      (hstopped : next.stopped = stream.stopped)
      (hkind : emission.kind = .toolCallStart) (hid : emission.callId = some call.callId)
      (hname : emission.toolName = some call.name) (hidNe : call.callId ≠ "")
      (hnameNe : call.name ≠ "") :
      Consumed dumps stream event next [emission]
  | arguments {key : JsonValue} {block : Block} {next : MessageStream}
      {emission : GatewayTurnEvent}
      (hblock : stream.blocks.lookup key = some block) (htool : block.kind = .toolUse)
      (hcall : wireCall event = none) (htext : wireText event = "")
      (hpartials : ∀ other, wirePartial other event =
        if other = key then some (emission.delta.getD "") else none)
      (hblocks : next.blocks = setKey key { block with sawArguments := true } stream.blocks)
      (hseen : next.seenIndices = stream.seenIndices) (hcalls : next.callIds = stream.callIds)
      (hstopped : next.stopped = stream.stopped)
      (hkind : emission.kind = .toolCallArgumentsDelta) (hid : emission.callId = block.callId) :
      Consumed dumps stream event next [emission]
  | closeText {key : JsonValue} {block : Block} {next : MessageStream} (hsilent : Silent event)
      (hblock : stream.blocks.lookup key = some block) (htext : block.kind = .text)
      (hblocks : next.blocks = stream.blocks.filter (·.1 ≠ key))
      (hseen : next.seenIndices = stream.seenIndices) (hcalls : next.callIds = stream.callIds)
      (hstopped : next.stopped = stream.stopped) :
      Consumed dumps stream event next []
  | closeTool {key : JsonValue} {block : Block} {next : MessageStream}
      {emitted : List GatewayTurnEvent} (hsilent : Silent event)
      (hblock : stream.blocks.lookup key = some block) (htool : block.kind = .toolUse)
      (hblocks : next.blocks = stream.blocks.filter (·.1 ≠ key))
      (hseen : next.seenIndices = stream.seenIndices) (hcalls : next.callIds = stream.callIds)
      (hstopped : next.stopped = stream.stopped)
      (hends : Ends block.callId
        (if block.sawArguments then none else some (dumps (.obj block.initialInput))) emitted) :
      Consumed dumps stream event next emitted
  | stop {next : MessageStream} {reason : GatewayFinishReason}
      {counted finished : GatewayTurnEvent} (hsilent : Silent event)
      (hclosed : stream.blocks = []) (hstopped : next.stopped = true)
      (hopen : stream.stopped = false) (hblocks : next.blocks = []) (hseen : next.seenIndices = stream.seenIndices)
      (hcalls : next.callIds = stream.callIds)
      (hinventory : reason = .stop ∨ reason = .toolCalls →
        (reason = .toolCalls ↔ stream.callIds ≠ []))
      (husage : counted.kind = .usage ∧ counted.usage.isSome)
      (hkind : finished.kind = .finish) (hreason : finished.finishReason = some reason) :
      Consumed dumps stream event next [counted, finished]

/-! ## Every accepted event -/

theorem ofType_eq {value : JsonValue} {kind : String} (h : fieldOf value "type" = .str kind)
    (type : String) : ofType value type = decide (kind = type) := by
  simp [ofType, h]

theorem blockKind_text {value : JsonValue} (h : blockKind (fieldOf value "type") = some .text) :
    fieldOf value "type" = .str "text" := by
  unfold blockKind at h
  split at h
  · assumption
  · cases h
  · cases h

theorem blockKind_toolUse {value : JsonValue}
    (h : blockKind (fieldOf value "type") = some .toolUse) :
    fieldOf value "type" = .str "tool_use" := by
  unfold blockKind at h
  split at h
  · cases h
  · assumption
  · cases h

/-- Without its text, or with one that is empty or no text at all, a block starts silently. -/
theorem textOf_falsy {value : JsonValue} (h : truthy value = false) : textOf value = "" := by
  cases value with
  | str text => simpa [truthy, textOf] using h
  | _ => rfl

theorem startText_ok (h : stream.startText validIndex raw = .ok (next, events)) :
    Texts (textOf (fieldOf raw "text")) events ∧ SameBlocks stream next := by
  unfold MessageStream.startText at h
  rw [bind_eq_ok] at h
  obtain ⟨text, htext, h⟩ := h
  rw [subscript_ok htext]
  split at h
  · rw [bind_eq_ok] at h
    obtain ⟨delta, hdelta, h⟩ := h
    obtain ⟨emission, rfl, hemits⟩ := messageEvent_ok h
    have htexts := Texts.one hemits.kind
    rw [hemits.delta, deltaText_ok hdelta] at htexts
    exact ⟨htexts, hemits.same⟩
  · rename_i hfalsy
    cases h
    rw [textOf_falsy (by simpa using hfalsy)]
    exact ⟨.none, .refl _⟩

theorem startBlock_ok {kind : String} (htype : fieldOf event "type" = .str kind)
    (hkind : kind = "content_block_start") (hindex : fieldOf event "index" = index)
    (hraw : fieldOf event "content_block" = raw)
    (h : stream.startBlock validIndex index raw = .ok (next, events)) :
    Consumed dumps stream event next events := by
  have hstart : ofType event "content_block_start" = true := by
    rw [ofType_eq htype, hkind]
    rfl
  have hdelta : ofType event "content_block_delta" = false := by
    rw [ofType_eq htype, hkind]
    rfl
  have hpartials : ∀ key, wirePartial key event = none := fun key => by simp [wirePartial, hdelta]
  unfold MessageStream.startBlock at h
  rw [bind_eq_ok] at h
  obtain ⟨key, hkey, h⟩ := h
  split at h
  · cases h
  · rename_i hnew
    rw [not_or] at hnew
    dsimp only at h
    rw [bind_eq_ok] at h
    obtain ⟨type, hblockType, h⟩ := h
    obtain rfl := subscript_ok hblockType
    split at h
    · -- a text block
      rename_i htext
      have hofText := ofType_eq (blockKind_text htext)
      obtain ⟨htexts, hsame⟩ := startText_ok h
      have hcall : wireCall event = none := by simp [wireCall, hraw, hofText]
      have hwire : wireText event = textOf (fieldOf raw "text") := by
        simp [wireText, hstart, hraw, hofText]
      exact .openText hcall hpartials (hwire ▸ htexts) hnew.1 hsame.blocks hsame.seen hsame.calls
        hsame.stopped
    · -- a tool call
      rename_i htool
      have hofTool := ofType_eq (blockKind_toolUse htool)
      unfold MessageStream.startTool at h
      simp only [bind_eq_ok] at h
      obtain ⟨id, hid, name, hname, input, hinput, h⟩ := h
      split at h
      · rename_i callId name input
        split at h
        · cases h
        · rename_i hdeclaration
          rw [not_or] at hdeclaration
          obtain ⟨emission, rfl, hemits⟩ := messageEvent_ok h
          have hpayload := hemits.payload
          simp only [eventHasRequiredPayload, Option.getD_some, ne_eq, decide_not, Bool.and_eq_true,
            Bool.not_eq_eq_eq_not, Bool.not_true, decide_eq_false_iff_not] at hpayload
          have hcall : wireCall event = some ⟨key, callId, name, input⟩ := by
            simp [wireCall, hstart, hraw, hofTool, hindex, hkey, subscript_ok hid,
              subscript_ok hname, subscript_ok hinput]
          have hwire : wireText event = "" := by simp [wireText, hraw, hofTool, hdelta]
          exact .openTool hcall hpartials hwire hnew.1 hdeclaration.1 hemits.same.blocks
            hemits.same.seen hemits.same.calls hemits.same.stopped hemits.kind hemits.callId
            hemits.toolName hpayload.1 hpayload.2
      · cases h
    · cases h

theorem endTool_ok {block : Block} (h : stream.endTool dumps validIndex index block = .ok (next, events)) :
    SameBlocks stream next ∧
      Ends block.callId (if block.sawArguments then none else some (dumps (.obj block.initialInput)))
        events := by
  unfold MessageStream.endTool at h
  split at h
  · rename_i hsaw
    obtain ⟨ending, rfl, hemits⟩ := messageEvent_ok h
    rw [if_pos hsaw]
    exact ⟨hemits.same, .plain hemits.kind hemits.callId⟩
  · rename_i hsaw
    simp only [bind_eq_ok] at h
    obtain ⟨⟨filled, first⟩, hfilled, ⟨ended, last⟩, hended, h⟩ := h
    cases h
    obtain ⟨delta, rfl, hdelta⟩ := messageEvent_ok hfilled
    obtain ⟨ending, rfl, hending⟩ := messageEvent_ok hended
    rw [if_neg hsaw]
    exact ⟨hdelta.same.trans hending.same,
      .filled hdelta.kind hdelta.callId hdelta.delta hending.kind hending.callId⟩

theorem stopBlock_ok {block : Block} (hsilent : Silent event)
    (hblock : stream.blocks.lookup key = some block)
    (h : stream.stopBlock dumps validIndex index key block = .ok (next, events)) :
    Consumed dumps stream event next events := by
  unfold MessageStream.stopBlock at h
  dsimp only at h
  split at h
  · rename_i htext
    cases h
    exact .closeText hsilent hblock htext rfl rfl rfl rfl
  · rename_i htool
    obtain ⟨hsame, hends⟩ := endTool_ok h
    exact .closeTool hsilent hblock htool hsame.blocks hsame.seen hsame.calls hsame.stopped hends

theorem blockDelta_ok {block : Block} {delta : JsonValue}
    (htype : fieldOf event "type" = .str "content_block_delta")
    (hindex : fieldOf event "index" = index) (hkey : hashed index = .ok key)
    (hdelta : fieldOf event "delta" = delta) (hblock : stream.blocks.lookup key = some block)
    (h : stream.blockDelta validIndex index key block delta = .ok (next, events)) :
    Consumed dumps stream event next events := by
  have hofType := ofType_eq htype
  have hcall : wireCall event = none := by simp [wireCall, hofType]
  unfold MessageStream.blockDelta at h
  rw [bind_eq_ok] at h
  obtain ⟨type, hdeltaType, h⟩ := h
  have hdeltaType := subscript_ok hdeltaType
  split at h
  · -- a part of a text
    have hofDelta := ofType_eq hdeltaType
    simp only [bind_eq_ok] at h
    obtain ⟨raw, hraw, text, htext, h⟩ := h
    obtain ⟨emission, rfl, hemits⟩ := messageEvent_ok h
    have hwire : wireText event = text.getD "" := by
      simp [wireText, hofType, hdelta, hofDelta, subscript_ok hraw, deltaText_ok htext]
    have hpartials : ∀ other, wirePartial other event = none := fun other => by
      simp [wirePartial, hdelta, hofDelta]
    have htexts := Texts.one hemits.kind
    rw [hemits.delta] at htexts
    exact .text hcall hpartials (hwire ▸ htexts) hemits.same
  · -- a part of the arguments of a call
    rename_i htool _
    have hofDelta := ofType_eq hdeltaType
    simp only [bind_eq_ok] at h
    obtain ⟨raw, hraw, text, htext, h⟩ := h
    obtain ⟨emission, rfl, hemits⟩ := messageEvent_ok h
    have hwire : wireText event = "" := by simp [wireText, hofType, hdelta, hofDelta]
    have hpartials : ∀ other, wirePartial other event =
        if other = key then some (emission.delta.getD "") else none := by
      intro other
      have htextOf : textOf (fieldOf delta "partial_json") = emission.delta.getD "" := by
        rw [hemits.delta, deltaText_ok htext, subscript_ok hraw]
      simp [wirePartial, hofType, hdelta, hofDelta, hindex, hkey, htextOf, eq_comm]
    exact .arguments hblock htool hcall hwire hpartials hemits.same.blocks hemits.same.seen
      hemits.same.calls hemits.same.stopped hemits.kind hemits.callId
  · cases h

theorem content_ok {kind : String} (htype : fieldOf event "type" = .str kind)
    (h : stream.content dumps validIndex kind event = .ok (next, events)) :
    Consumed dumps stream event next events := by
  have hofType := ofType_eq htype
  unfold MessageStream.content at h
  rw [bind_eq_ok] at h
  obtain ⟨index, hindex, h⟩ := h
  have hindex := subscript_ok hindex
  split at h
  · rename_i hstart
    rw [bind_eq_ok] at h
    obtain ⟨raw, hraw, h⟩ := h
    exact startBlock_ok htype hstart hindex (subscript_ok hraw) h
  · rename_i hstart
    rw [bind_eq_ok] at h
    obtain ⟨key, hkey, h⟩ := h
    split at h
    · cases h
    · rename_i block hblock
      have hnoStart : ofType event "content_block_start" = false := by simp [hofType, hstart]
      split at h
      · rename_i hstop
        have hnoDelta : ofType event "content_block_delta" = false := by simp [hofType, hstop]
        exact stopBlock_ok (silent_of_type hnoStart hnoDelta) hblock h
      · split at h
        · rename_i hdelta
          rw [bind_eq_ok] at h
          obtain ⟨delta, hfield, h⟩ := h
          exact blockDelta_ok (hdelta ▸ htype) hindex hkey (subscript_ok hfield) hblock h
        · rename_i hdelta
          have hnoDelta : ofType event "content_block_delta" = false := by simp [hofType, hdelta]
          cases h
          exact .quiet (silent_of_type hnoStart hnoDelta) (.refl _)

theorem completeMessage_ok (hsilent : Silent event) (hopen : stream.stopped = false)
    (h : stream.complete validIndex = .ok (next, events)) :
    Consumed dumps stream event next events := by
  unfold MessageStream.complete at h
  split at h
  · cases h
  · rename_i reason _
    split at h
    · cases h
    · rename_i hblocks
      have hclosed : stream.blocks = [] := not_not.mp hblocks
      simp only [bind_eq_ok] at h
      obtain ⟨_, hinventory, usage, -, ⟨counted, first⟩, hcounted, ⟨finished, last⟩, hfinished, h⟩ := h
      cases h
      obtain ⟨usageEvent, rfl, husage⟩ := messageEvent_ok hcounted
      obtain ⟨finishEvent, rfl, hfinish⟩ := messageEvent_ok hfinished
      have hsame := husage.same.trans hfinish.same
      refine .stop hsilent hclosed hsame.stopped hopen (hsame.blocks.trans hclosed) hsame.seen
        hsame.calls ?_ ⟨husage.kind, by rw [husage.usage]; rfl⟩ hfinish.kind hfinish.finishReason
      intro hreason
      unfold MessageStream.checkInventory at hinventory
      rw [if_pos hreason] at hinventory
      split at hinventory
      · cases hinventory
      · rename_i hagrees
        rcases hreason with rfl | rfl <;> simpa using hagrees

theorem consumeMessage_ok (h : stream.consume dumps validIndex event = .ok (next, events)) :
    Consumed dumps stream event next events := by
  unfold MessageStream.consume at h
  rw [bind_eq_ok] at h
  obtain ⟨type, htype, h⟩ := h
  have htype := subscript_ok htype
  split at h
  · rename_i kind
    have hofType := ofType_eq htype
    unfold MessageStream.consumeKind at h
    split at h
    · cases h
    · split at h
      · rename_i hping
        cases h
        exact .quiet (silent_of_type (by simp [hofType, hping]) (by simp [hofType, hping])) (.refl _)
      · split at h
        · cases h
        · rename_i hopen
          have hopen : stream.stopped = false := by simpa using hopen
          split at h
          · -- the message starts
            rename_i hstart
            rw [bind_eq_ok] at h
            obtain ⟨message, -, h⟩ := h
            unfold MessageStream.startMessage at h
            split at h
            · cases h
            · simp only [bind_eq_ok] at h
              obtain ⟨usage, -, merged, hmerged, h⟩ := h
              cases h
              have hsame := (mergeUsage_ok hmerged).1
              exact .quiet
                (silent_of_type (by simp [hofType, hstart]) (by simp [hofType, hstart]))
                ⟨hsame.blocks, hsame.seen, hsame.calls, hsame.stopped⟩
          · split at h
            · cases h
            · split at h
              · exact content_ok htype h
              · rename_i hcontent
                have hnoStart : ofType event "content_block_start" = false := by
                  rw [hofType, decide_eq_false_iff_not]
                  rintro rfl
                  exact hcontent (by decide)
                have hnoDelta : ofType event "content_block_delta" = false := by
                  rw [hofType, decide_eq_false_iff_not]
                  rintro rfl
                  exact hcontent (by decide)
                have hsilent := silent_of_type hnoStart hnoDelta
                split at h
                · unfold MessageStream.messageDelta at h
                  simp only [bind_eq_ok] at h
                  obtain ⟨usage, -, merged, hmerged, delta, -, reason, -, h⟩ := h
                  have hsame := (mergeUsage_ok hmerged).1
                  split at h
                  · cases h
                    exact .quiet hsilent hsame
                  · simp only [bind_eq_ok] at h
                    obtain ⟨finish, -, h⟩ := h
                    cases h
                    exact .quiet hsilent ⟨hsame.blocks, hsame.seen, hsame.calls, hsame.stopped⟩
                · split at h
                  · exact completeMessage_ok hsilent hopen h
                  · cases h
                    exact .quiet hsilent (.refl _)
  · cases h

end Hybro.Gateway
