import Hybro.Gateway.CodexStream

/-! # Anthropic message streams

`_MessageStream` turns the events of a Messages stream, one parsed JSON value each, into the
events of one gateway turn. `json.dumps` and the check of a tool index are parameters; the
numbers of an event are integers.
-/

namespace Hybro.Gateway

open Orchestrator

/-! ## Blocks -/

inductive BlockKind
  | text
  | toolUse
  deriving DecidableEq

def blockKind : JsonValue → Option BlockKind
  | .str "text" => some .text
  | .str "tool_use" => some .toolUse
  | _ => none

structure Block where
  kind : BlockKind
  callId : Option String := none
  name : Option String := none
  initialInput : List (String × JsonValue) := []
  sawArguments : Bool := false
  deriving DecidableEq

/-- A value as the key of a dictionary: `True` is `1`. -/
def hashed : JsonValue → Except String JsonValue
  | .bool value => return .num value.toNat
  | .arr _ | .obj _ => throw "unhashable type"
  | value => return value

/-- `delta: str | None` -/
def deltaText : JsonValue → Except String (Option String)
  | .str text => return some text
  | .null => return none
  | _ => throw "delta is not a text"

structure MessageStream where
  toolNames : List String
  toolChoice : String := "auto"
  providerRequestId : Option String := none
  started : Bool := false
  stopped : Bool := false
  blocks : List (JsonValue × Block) := []
  seenIndices : List JsonValue := []
  callIds : List String := []
  usage : List (String × Nat) := []
  finish : Option GatewayFinishReason := none
  outputBytes : Nat := 0
  deriving DecidableEq

/-- `_finish_reason` -/
def messageFinishReason : JsonValue → Except String GatewayFinishReason
  | .str "end_turn" | .str "stop_sequence" => return .stop
  | .str "tool_use" => return .toolCalls
  | .str "max_tokens" | .str "model_context_window_exceeded" => return .length
  | .str "refusal" => return .contentFilter
  | .arr _ | .obj _ => throw "unhashable type"
  | _ => return .error

def usageNames : List String :=
  ["input_tokens", "output_tokens", "cache_read_input_tokens", "cache_creation_input_tokens"]

namespace MessageStream

variable (dumps : JsonValue → String) (validIndex : JsonValue → Bool)

/-- `event`, with the tool index if one is given. -/
def event (stream : MessageStream) (index : Option JsonValue) (event : GatewayTurnEvent) :
    Except String (MessageStream × List GatewayTurnEvent) :=
  let outputBytes := stream.outputBytes + (event.delta.getD "").utf8ByteSize
  if 2 * 1024 * 1024 < outputBytes then throw "Messages output exceeds size limit"
  else if eventHasRequiredPayload event && index.all (fun value => value ≠ .null && validIndex value)
    then
      return ({ stream with outputBytes := outputBytes },
        [{ event with providerRequestId := stream.providerRequestId }])
  else throw "event lacks its payload"

/-- One counter of the usage; `null` is no update. -/
def mergeCounter (stream : MessageStream) (usage : JsonValue) (name : String) :
    Except String MessageStream := do
  match ← getKey usage name with
  | .null => return stream
  | .num value =>
      if value < 0 then throw "Invalid Messages usage counter"
      else return { stream with usage := setKey name value.toNat stream.usage }
  | _ => throw "Invalid Messages usage counter"

def mergeUsage (stream : MessageStream) (usage : JsonValue) : Except String MessageStream :=
  usageNames.foldlM (fun stream name => stream.mergeCounter usage name) stream

def startMessage (stream : MessageStream) (message : JsonValue) :
    Except String (MessageStream × List GatewayTurnEvent) := do
  if stream.started then throw "Duplicate message_start"
  else
    let merged ← { stream with started := true }.mergeUsage (← subscript message "usage")
    return (merged, [])

/-- `self.blocks[index] = block` -/
def withBlock (stream : MessageStream) (index : JsonValue) (block : Block) : MessageStream :=
  { stream with blocks := setKey index block stream.blocks }

def startText (stream : MessageStream) (raw : JsonValue) :
    Except String (MessageStream × List GatewayTurnEvent) := do
  let text ← subscript raw "text"
  if truthy text then
    let delta ← deltaText text
    stream.event validIndex none { kind := .textDelta, delta := delta }
  else return (stream, [])

def startTool (stream : MessageStream) (index : JsonValue) (key raw : JsonValue) :
    Except String (MessageStream × List GatewayTurnEvent) := do
  match ← subscript raw "id", ← subscript raw "name", ← subscript raw "input" with
  | .str callId, .str name, .obj input =>
      if callId ∈ stream.callIds ∨ name ∉ stream.toolNames ∨ stream.toolChoice = "none" ∨
          (stream.toolChoice ≠ "auto" ∧ stream.toolChoice ≠ "required" ∧
            stream.toolChoice ≠ name) then
        throw "Invalid Messages tool declaration"
      else
        let block : Block :=
          { kind := .toolUse, callId := some callId, name := some name, initialInput := input }
        let declared := { stream.withBlock key block with callIds := stream.callIds ++ [callId] }
        declared.event validIndex (some index)
          { kind := .toolCallStart, callId := some callId, toolName := some name }
  | _, _, _ => throw "Invalid Messages tool declaration"

def startBlock (stream : MessageStream) (index raw : JsonValue) :
    Except String (MessageStream × List GatewayTurnEvent) := do
  let key ← hashed index
  if key ∈ stream.seenIndices ∨ stream.finish.isSome then throw "Invalid Messages block sequence"
  else
    let seen := { stream with seenIndices := stream.seenIndices ++ [key] }
    match blockKind (← subscript raw "type") with
    | some .text => (seen.withBlock key { kind := .text }).startText validIndex raw
    | some .toolUse => seen.startTool validIndex index key raw
    | none => throw "Unsupported Messages content block"

def endTool (stream : MessageStream) (index : JsonValue) (block : Block) :
    Except String (MessageStream × List GatewayTurnEvent) := do
  if block.sawArguments then
    stream.event validIndex (some index) { kind := .toolCallEnd, callId := block.callId }
  else
    let (filled, events) ← stream.event validIndex (some index)
      { kind := .toolCallArgumentsDelta, callId := block.callId
        delta := some (dumps (.obj block.initialInput)) }
    let (ended, more) ← filled.event validIndex (some index)
      { kind := .toolCallEnd, callId := block.callId }
    return (ended, events ++ more)

/-- `content_block_stop` -/
def stopBlock (stream : MessageStream) (index key : JsonValue) (block : Block) :
    Except String (MessageStream × List GatewayTurnEvent) :=
  let closed := { stream with blocks := stream.blocks.filter (·.1 ≠ key) }
  match block.kind with
  | .text => return (closed, [])
  | .toolUse => closed.endTool dumps validIndex index block

/-- `content_block_delta` -/
def blockDelta (stream : MessageStream) (index key : JsonValue) (block : Block)
    (delta : JsonValue) : Except String (MessageStream × List GatewayTurnEvent) := do
  match ← subscript delta "type", block.kind with
  | .str "text_delta", .text =>
      let text ← deltaText (← subscript delta "text")
      stream.event validIndex none { kind := .textDelta, delta := text }
  | .str "input_json_delta", .toolUse =>
      let partialJson ← deltaText (← subscript delta "partial_json")
      (stream.withBlock key { block with sawArguments := true }).event validIndex (some index)
        { kind := .toolCallArgumentsDelta, callId := block.callId, delta := partialJson }
  | _, _ => throw "Unsupported Messages content delta"

def content (stream : MessageStream) (kind : String) (event : JsonValue) :
    Except String (MessageStream × List GatewayTurnEvent) := do
  let index ← subscript event "index"
  if kind = "content_block_start" then
    stream.startBlock validIndex index (← subscript event "content_block")
  else
    let key ← hashed index
    match stream.blocks.lookup key with
    | none => throw "index"
    | some block =>
        if kind = "content_block_stop" then stream.stopBlock dumps validIndex index key block
        else if kind = "content_block_delta" then
          stream.blockDelta validIndex index key block (← subscript event "delta")
        else return (stream, [])

def messageDelta (stream : MessageStream) (event : JsonValue) :
    Except String (MessageStream × List GatewayTurnEvent) := do
  let merged ← stream.mergeUsage (← getKey event "usage" (.obj []))
  match ← getKey (← subscript event "delta") "stop_reason" with
  | .null => return (merged, [])
  | reason => return ({ merged with finish := some (← messageFinishReason reason) }, [])

/-- A turn that stopped or calls tools has the calls that this and the choice of tools ask for. -/
def checkInventory (stream : MessageStream) (reason : GatewayFinishReason) : Except String Unit :=
  if reason = .stop ∨ reason = .toolCalls then
    if decide (reason = .toolCalls) = stream.callIds.isEmpty then
      throw "Messages stop reason disagrees with tool inventory"
    else if stream.toolChoice ≠ "auto" ∧ stream.toolChoice ≠ "none" ∧ stream.callIds = [] then
      throw "Required tool call missing"
    else return ()
  else return ()

def usageRecord (stream : MessageStream) : Except String UsageRecord :=
  let cacheReadTokens := (stream.usage.lookup "cache_read_input_tokens").getD 0
  let cacheWriteTokens := (stream.usage.lookup "cache_creation_input_tokens").getD 0
  match stream.usage.lookup "input_tokens", stream.usage.lookup "output_tokens" with
  | some inputTokens, some outputTokens =>
      return { inputTokens := inputTokens + cacheReadTokens + cacheWriteTokens, outputTokens
               cacheReadTokens, cacheWriteTokens }
  | _, _ => throw "usage"

def complete (stream : MessageStream) : Except String (MessageStream × List GatewayTurnEvent) := do
  match stream.finish with
  | none => throw "Incomplete Messages stream"
  | some reason =>
      if stream.blocks ≠ [] then throw "Incomplete Messages stream"
      else
        stream.checkInventory reason
        let usage ← stream.usageRecord
        let (counted, events) ← { stream with stopped := true }.event validIndex none
          { kind := .usage, usage := some usage }
        let (finished, last) ← counted.event validIndex none
          { kind := .finish, finishReason := some reason }
        return (finished, events ++ last)

def consumeKind (stream : MessageStream) (kind : String) (event : JsonValue) :
    Except String (MessageStream × List GatewayTurnEvent) := do
  if kind = "error" then throw "provider failure"
  else if kind = "ping" then return (stream, [])
  else if stream.stopped then throw "Messages event after message_stop"
  else if kind = "message_start" then stream.startMessage (← subscript event "message")
  else if !stream.started then throw "Messages event before message_start"
  else if PythonText.startsWith kind "content_block_" then
    stream.content dumps validIndex kind event
  else if kind = "message_delta" then stream.messageDelta event
  else if kind = "message_stop" then stream.complete validIndex
  else return (stream, [])

def consume (stream : MessageStream) (event : JsonValue) :
    Except String (MessageStream × List GatewayTurnEvent) := do
  match ← subscript event "type" with
  | .str kind => stream.consumeKind dumps validIndex kind event
  | _ => throw "the type of an event is a text"

def consumeAll (stream : MessageStream) : List JsonValue →
    Except String (MessageStream × List GatewayTurnEvent)
  | [] => return (stream, [])
  | event :: events => do
      let (next, emitted) ← stream.consume dumps validIndex event
      let (last, more) ← next.consumeAll events
      return (last, emitted ++ more)

end MessageStream

end Hybro.Gateway
