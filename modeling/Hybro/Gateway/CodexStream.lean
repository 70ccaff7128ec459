import Hybro.Orchestrator.ModelRuntime

/-! # Codex response streams

`CodexStream` turns the events of a Responses stream, one parsed JSON value each, into the
events of one gateway turn. `json.loads` is a parameter; the numbers of an event are integers.
-/

namespace Hybro.Gateway

open Orchestrator

/-! ## Reading parsed JSON -/

/-- `value[key]` -/
def subscript (value : JsonValue) (key : String) : Except String JsonValue :=
  match value with
  | .obj fields => ((fields.lookup key).map Except.ok).getD (throw key)
  | _ => throw "value has no text keys"

/-- `value.get(key, default)` -/
def getKey (value : JsonValue) (key : String) (default : JsonValue := .null) :
    Except String JsonValue :=
  match value with
  | .obj fields => return (fields.lookup key).getD default
  | _ => throw "value has no attribute get"

/-- `{**value, key: item}` -/
def withKey (value : JsonValue) (key : String) (item : JsonValue) : Except String JsonValue :=
  match value with
  | .obj fields => return .obj (setKey key item fields)
  | _ => throw "value is not a mapping"

def truthy : JsonValue → Bool
  | .null => false
  | .bool value => value
  | .num value => value ≠ 0
  | .str value => value ≠ ""
  | .arr items => !items.isEmpty
  | .obj fields => !fields.isEmpty

/-- What a `for` loop goes through. -/
def iterate : JsonValue → Except String (List JsonValue)
  | .arr items => return items
  | .obj fields => return fields.map (.str ·.1)
  | .str value => return value.toList.map fun c => .str (String.singleton c)
  | _ => throw "value is not iterable"

/-- The output index that a dictionary key stands for: `True` is `1`. -/
def slotKey : JsonValue → Option Nat
  | .num value => if 0 ≤ value then some value.toNat else none
  | .bool value => some value.toNat
  | _ => none

/-! ## Slots -/

inductive ItemKind
  | functionCall
  | message
  | reasoning
  deriving DecidableEq

def itemKind : JsonValue → Option ItemKind
  | .str "function_call" => some .functionCall
  | .str "message" => some .message
  | .str "reasoning" => some .reasoning
  | _ => none

structure Slot where
  kind : ItemKind
  itemId : String
  callId : Option String := none
  name : Option String := none
  text : String := ""
  ended : Bool := false
  /-- The complete text that the item was last given, and what was streamed after it. The code
  keeps neither. -/
  final : Option String := none
  later : String := ""
  deriving DecidableEq

structure CodexStream where
  tools : List String
  choice : String
  maxTokens : Nat
  requestId : JsonValue := .null
  slots : List (Nat × Slot) := []
  callIds : List String := []
  stopped : Bool := false
  outputBytes : Nat := 0
  deriving DecidableEq

/-- A gateway event and the output index it was emitted for. The code tells the index of the
events of a function call only. -/
structure Emission where
  output : Option Nat := none
  event : GatewayTurnEvent
  deriving DecidableEq

def eventHasRequiredPayload (event : GatewayTurnEvent) : Bool :=
  match event.kind with
  | .toolCallStart => event.callId.getD "" ≠ "" && event.toolName.getD "" ≠ ""
  | .toolCallArgumentsDelta | .toolCallEnd => event.callId.getD "" ≠ ""
  | .usage => event.usage.isSome
  | .finish => event.finishReason.isSome
  | .textDelta | .reasoningDelta => true

/-- `provider_request_id: str | None` -/
def providerRequestId : JsonValue → Except String (Option String)
  | .null => return none
  | .str value => return some value
  | _ => throw "provider_request_id is not a text"

namespace CodexStream

variable (loads : String → Option JsonValue)

def event (stream : CodexStream) (output : Option Nat) (event : GatewayTurnEvent) :
    Except String (CodexStream × List Emission) := do
  let outputBytes := stream.outputBytes + (event.delta.getD "").utf8ByteSize
  if min (2 * 1024 * 1024) (stream.maxTokens * 4) < outputBytes then
    throw "Codex local output byte limit exceeded"
  else if eventHasRequiredPayload event then
    let requestId ← providerRequestId stream.requestId
    return ({ stream with outputBytes := outputBytes },
      [⟨output, { event with providerRequestId := requestId }⟩])
  else throw "event lacks its payload"

/-- `self.slots[index] = slot` -/
def withSlot (stream : CodexStream) (index : Nat) (slot : Slot) : CodexStream :=
  { stream with slots := setKey index slot stream.slots }

def deltaEvent (slot : Slot) (delta : String) : GatewayTurnEvent :=
  match slot.kind with
  | .functionCall => { kind := .toolCallArgumentsDelta, callId := slot.callId, delta := some delta }
  | .message => { kind := .textDelta, delta := some delta }
  | .reasoning => { kind := .reasoningDelta, delta := some delta }

def append (stream : CodexStream) (index : Nat) (delta : JsonValue) :
    Except String (CodexStream × List Emission) :=
  match stream.slots.lookup index, delta with
  | some slot, .str delta =>
      if slot.ended then throw "Invalid output delta"
      else
        let appended := stream.withSlot index
          { slot with text := slot.text ++ delta, later := slot.later ++ delta }
        if delta = "" then return (appended, [])
        else appended.event (some index) (deltaEvent slot delta)
  | _, _ => throw "Invalid output delta"

def noted (stream : CodexStream) (index : Nat) (complete : String) : CodexStream :=
  match stream.slots.lookup index with
  | none => stream
  | some slot => stream.withSlot index { slot with final := some complete, later := "" }

def backfill (stream : CodexStream) (index : Nat) (complete : JsonValue) :
    Except String (CodexStream × List Emission) :=
  match stream.slots.lookup index, complete with
  | some slot, .str complete =>
      if PythonText.startsWith complete slot.text then do
        let (appended, events) ← stream.append index
          (.str (String.ofList (complete.toList.drop slot.text.toList.length)))
        return (appended.noted index complete, events)
      else throw "Final output disagrees with deltas"
  | _, _ => throw "Final output disagrees with deltas"

def declare (stream : CodexStream) (index : Nat) (itemId : String) (item : JsonValue) :
    Except String (CodexStream × List Emission) := do
  match ← subscript item "call_id", ← subscript item "name" with
  | .str callId, .str name =>
      if callId = "" ∨ callId ∈ stream.callIds ∨ name ∉ stream.tools ∨ stream.choice = "none" ∨
          (stream.choice ≠ "auto" ∧ stream.choice ≠ "required" ∧ stream.choice ≠ name) then
        throw "Invalid function declaration"
      else
        let slot : Slot := { kind := .functionCall, itemId, callId := some callId, name := some name }
        let declared := { stream.withSlot index slot with callIds := stream.callIds ++ [callId] }
        let (started, events) ← declared.event (some index)
          { kind := .toolCallStart, callId := some callId, toolName := some name }
        let arguments ← getKey item "arguments"
        if truthy arguments then
          let (appended, more) ← started.append index arguments
          return (appended, events ++ more)
        else return (started, events)
  | _, _ => throw "Invalid function declaration"

def start (stream : CodexStream) (index item : JsonValue) :
    Except String (CodexStream × List Emission) := do
  match index with
  | .num number =>
      if number < 0 ∨ (stream.slots.lookup number.toNat).isSome then throw "Invalid output index"
      else
        match ← subscript item "id", itemKind (← subscript item "type") with
        | .str itemId, some kind =>
            if itemId = "" then throw "Invalid output item ID"
            else if kind = .functionCall then stream.declare number.toNat itemId item
            else return (stream.withSlot number.toNat { kind, itemId }, [])
        | _, _ => throw "Unsupported output item"
  | _ => throw "Invalid output index"

/-- The part of `end` that starts an item which was never announced. -/
def opened (stream : CodexStream) (index item : JsonValue) :
    Except String (CodexStream × List Emission) := do
  if ((slotKey index).bind fun key => stream.slots.lookup key).isSome then return (stream, [])
  else stream.start index (← withKey item "arguments" (.str ""))

def partText (part : JsonValue) : Except String String := do
  let type ← subscript part "type"
  match ← subscript part (if type = .str "output_text" then "text" else "refusal") with
  | .str text => return text
  | _ => throw "expected a text"

def joinParts : List JsonValue → Except String String
  | [] => return ""
  | part :: parts => do
      let text ← partText part
      let rest ← joinParts parts
      return text ++ rest

def messageText (item : JsonValue) : Except String String := do
  joinParts (← iterate (← getKey item "content" (.arr [])))

/-- `self.slots[index].text` -/
def slotText (stream : CodexStream) (index : Nat) : String :=
  ((stream.slots.lookup index).map (·.text)).getD ""

/-- `slot.ended = not incomplete` -/
def settled (stream : CodexStream) (index : Nat) (incomplete : Bool) : CodexStream :=
  match stream.slots.lookup index with
  | none => stream
  | some slot => stream.withSlot index { slot with ended := !incomplete }

def endCall (stream : CodexStream) (index : Nat) (slot : Slot) (item : JsonValue)
    (incomplete : Bool) : Except String (CodexStream × List Emission) := do
  let callId ← subscript item "call_id"
  let name ← subscript item "name"
  if some callId = slot.callId.map .str ∧ some name = slot.name.map .str then
    let (filled, events) ← stream.backfill index (← subscript item "arguments")
    if incomplete then return (filled.settled index true, events)
    else
      match loads (filled.slotText index) with
      | some (.obj _) =>
          let (ended, last) ← filled.event (some index) { kind := .toolCallEnd, callId := slot.callId }
          return (ended.settled index false, events ++ last)
      | _ => throw "Function arguments must be an object"
  else throw "Function identity changed"

def endMessage (stream : CodexStream) (index : Nat) (item : JsonValue) (incomplete : Bool) :
    Except String (CodexStream × List Emission) := do
  let complete ← messageText item
  let (filled, events) ← stream.backfill index (.str complete)
  return (filled.settled index incomplete, events)

/-- `end` -/
def endItem (stream : CodexStream) (index item : JsonValue) (incomplete : Bool := false) :
    Except String (CodexStream × List Emission) := do
  let (stream, events) ← stream.opened index item
  match (slotKey index).bind fun key => (stream.slots.lookup key).map (key, ·) with
  | none => throw "Invalid output item completion"
  | some (key, slot) =>
      if slot.ended ∨ itemKind (← subscript item "type") ≠ some slot.kind ∨
          (← subscript item "id") ≠ .str slot.itemId then
        throw "Invalid output item completion"
      else
        let incomplete := incomplete || (← getKey item "status") = .str "incomplete"
        match slot.kind with
        | .functionCall =>
            let (ended, more) ← stream.endCall loads key slot item incomplete
            return (ended, events ++ more)
        | .message =>
            let (ended, more) ← stream.endMessage key item incomplete
            return (ended, events ++ more)
        | .reasoning => return (stream.settled key incomplete, events)

/-! ## Events -/

def expectedKind : String → Option ItemKind
  | "response.output_text.delta" | "response.refusal.delta" => some .message
  | "response.reasoning_summary_text.delta" | "response.reasoning_text.delta"
  | "response.reasoning_summary_part.done" => some .reasoning
  | "response.function_call_arguments.delta" | "response.function_call_arguments.done" =>
      some .functionCall
  | _ => none

def consumeDelta (stream : CodexStream) (kind : String) (expected : ItemKind)
    (event : JsonValue) : Except String (CodexStream × List Emission) := do
  let index ← subscript event "output_index"
  match (slotKey index).bind fun key => (stream.slots.lookup key).map (key, ·) with
  | none => throw "output_index"
  | some (key, slot) =>
      if slot.kind ≠ expected ∨
          (← getKey event "item_id" (.str slot.itemId)) ≠ .str slot.itemId then
        throw "Output slot mismatch"
      else if kind = "response.function_call_arguments.done" then
        stream.backfill key (← subscript event "arguments")
      else if kind = "response.reasoning_summary_part.done" then stream.append key (.str "\n\n")
      else stream.append key (← subscript event "delta")

def terminalResponse (kind : String) (response : JsonValue) : Except String JsonValue := do
  let status ← getKey response "status"
  if kind = "response.incomplete" then
    if status ≠ .null ∧ status ≠ .str "incomplete" then throw "Conflicting terminal status"
    else withKey response "status" (.str "incomplete")
  else if status = .null then withKey response "status" (.str "completed")
  else return response

def counter : JsonValue → Except String Nat
  | .num value => if 0 ≤ value then return value.toNat else throw "Invalid usage"
  | _ => throw "Invalid usage"

/-- `value or {}` -/
def orEmpty (value : JsonValue) : JsonValue :=
  if truthy value then value else .obj []

def usage (raw : JsonValue) : Except String (Option UsageRecord) := do
  if raw = .null then return none
  else
    let details := orEmpty (← getKey raw "input_tokens_details")
    let inputTokens ← counter (← subscript raw "input_tokens")
    let outputTokens ← counter (← subscript raw "output_tokens")
    let cacheReadTokens ← counter (← getKey details "cached_tokens" (.num 0))
    let cacheWriteTokens ← counter (← getKey details "cache_write_tokens" (.num 0))
    return some { inputTokens, outputTokens, cacheReadTokens, cacheWriteTokens }

def statusReason (stream : CodexStream) (response : JsonValue) :
    Except String GatewayFinishReason := do
  let status ← getKey response "status"
  if status = .str "completed" then
    return if stream.callIds = [] then .stop else .toolCalls
  else if status = .str "incomplete" then
    let details := orEmpty (← getKey response "incomplete_details")
    if (← getKey details "reason") = .str "max_output_tokens" then return .length
    else throw "stream failure"
  else throw "stream failure"

def endUnended (stream : CodexStream) (incomplete : Bool) (index : Nat) (item : JsonValue) :
    Except String (CodexStream × List Emission) :=
  if (stream.slots.lookup index).any (·.ended) then return (stream, [])
  else stream.endItem loads (.num index) item incomplete

def endRest (stream : CodexStream) (incomplete : Bool) (index : Nat) :
    List JsonValue → Except String (CodexStream × List Emission)
  | [] => return (stream, [])
  | item :: items => do
      let (ended, events) ← stream.endUnended loads incomplete index item
      let (last, more) ← ended.endRest incomplete (index + 1) items
      return (last, events ++ more)

/-- A response that is not cut off is finished only with every item ended. -/
def finishReason (stream : CodexStream) (length : Bool) : Except String GatewayFinishReason :=
  if length then return .length
  else if stream.slots.any fun (_, slot) => !slot.ended then throw "Unfinished output item"
  else if stream.choice ≠ "auto" ∧ stream.choice ≠ "none" ∧ stream.callIds = [] then
    throw "Required function missing"
  else return if stream.callIds = [] then .stop else .toolCalls

def usageEvents (stream : CodexStream) (usage : Option UsageRecord) :
    Except String (CodexStream × List Emission) :=
  match usage with
  | none => return (stream, [])
  | some usage => stream.event none { kind := .usage, usage := some usage }

def complete (stream : CodexStream) (response : JsonValue) :
    Except String (CodexStream × List Emission) := do
  let stream := { stream with requestId := ← getKey response "id" stream.requestId }
  let status ← stream.statusReason response
  let usage ← usage (← getKey response "usage")
  -- usage above the limit is no failure, but the answer counts as cut off
  let length := status = .length || usage.any (stream.maxTokens < ·.outputTokens)
  let (filled, events) ← stream.endRest loads length 0
    (← iterate (← getKey response "output" (.arr [])))
  let reason ← filled.finishReason length
  let (counted, more) ← filled.usageEvents usage
  let (finished, last) ← { counted with stopped := true }.event none
    { kind := .finish, finishReason := some reason }
  return (finished, events ++ more ++ last)

def consumeKind (stream : CodexStream) (kind : String) (event : JsonValue) :
    Except String (CodexStream × List Emission) := do
  if kind = "error" ∨ kind = "response.failed" then throw "stream failure"
  else if kind = "response.created" then
    return ({ stream with requestId := ← subscript (← subscript event "response") "id" }, [])
  else if kind = "response.output_item.added" then
    stream.start (← subscript event "output_index") (← subscript event "item")
  else if kind = "response.output_item.done" then
    stream.endItem loads (← subscript event "output_index") (← subscript event "item")
  else
    match expectedKind kind with
    | some expected => stream.consumeDelta kind expected event
    | none =>
        if kind = "response.completed" ∨ kind = "response.incomplete" ∨ kind = "response.done" then
          stream.complete loads (← terminalResponse kind (← subscript event "response"))
        else return (stream, [])

def consume (stream : CodexStream) (event : JsonValue) :
    Except String (CodexStream × List Emission) := do
  let kind ← subscript event "type"
  if stream.stopped then throw "Event after terminal response"
  else
    match kind with
    | .str kind => stream.consumeKind loads kind event
    | .arr _ | .obj _ => throw "unhashable type"
    | _ => return (stream, [])

def consumeAll (stream : CodexStream) : List JsonValue →
    Except String (CodexStream × List Emission)
  | [] => return (stream, [])
  | event :: events => do
      let (next, emitted) ← stream.consume loads event
      let (last, more) ← next.consumeAll events
      return (last, emitted ++ more)

end CodexStream

end Hybro.Gateway
