import Mathlib.Data.List.Sort
import Hybro.Library.JsonText
import Hybro.Orchestrator.Transcript

/-! # Bounded model context

`ContextCompiler`: without a summary the whole transcript is sent or a compaction asked
for. With one, the latest groups of messages that fit are kept beside the first user
message. A group starts at tool calls and lasts until all of them have their results.
-/

namespace Hybro.Orchestrator

open JsonText

/-! ## Token estimates -/

mutual

/-- `json.dumps(payload, separators=(",", ":"))` -/
def compactDumps : JsonValue → String
  | .null => "null"
  | .bool true => "true"
  | .bool false => "false"
  | .num value => toString value
  | .str text => quote text
  | .arr items => array (compactDumpsItems items)
  | .obj fields => object (compactDumpsFields fields)

def compactDumpsItems : List JsonValue → List String
  | [] => []
  | item :: rest => compactDumps item :: compactDumpsItems rest

def compactDumpsFields : List (String × JsonValue) → List (String × String)
  | [] => []
  | (key, value) :: rest => (key, compactDumps value) :: compactDumpsFields rest

end

def textPartDump (text : String) : JsonValue :=
  .obj [("kind", .str "text"), ("text", .str text)]

/-- `part.model_dump(mode="json")` -/
def AssistantPart.modelDump : AssistantPart → JsonValue
  | .text content => textPartDump content
  | .toolCall callId toolName arguments =>
      .obj [("kind", .str "tool_call"), ("call_id", .str callId), ("tool_name", .str toolName),
        ("arguments", .obj arguments)]

def ModelToolResultPart.modelDump (part : ModelToolResultPart) : JsonValue :=
  .obj [("kind", .str "tool_result"), ("call_id", .str part.callId),
    ("tool_name", .str part.toolName), ("content", .arr [textPartDump part.text]),
    ("is_error", .bool part.isError)]

/-- `message.model_dump(mode="json")` -/
def ModelMessage.modelDump : ModelMessage → JsonValue
  | .user text => .obj [("role", .str "user"), ("content", .arr [textPartDump text])]
  | .assistant content =>
      .obj [("role", .str "assistant"), ("content", .arr (content.map AssistantPart.modelDump))]
  | .tool part => .obj [("role", .str "tool"), ("content", .arr [part.modelDump])]

/-- A third of the UTF-8 bytes, rounded up. -/
def estimateText (text : String) : Nat :=
  max 1 ((text.utf8ByteSize + 2) / 3)

def estimateMessages (messages : List ModelMessage) : Nat :=
  estimateText (compactDumps (.arr (messages.map ModelMessage.modelDump))) + 4 * messages.length

/-- `model_dump` of a tool definition is a parameter. -/
def estimateTools {Tool : Type} (modelDump : Tool → JsonValue) (tools : List Tool) : Nat :=
  estimateText (compactDumps (.arr (tools.map modelDump)))

/-! ## Groups -/

/-- The ids of `message.tool_calls`, none where the message is not an assistant's. -/
def AgentMessage.callIds : AgentMessage → List String
  | .assistant message => message.toolCalls.map (·.callId)
  | _ => []

def unresolvedCallIds (messages : List AgentMessage) : List String :=
  (messages.flatMap AgentMessage.callIds).filter fun callId =>
    !(messages.filterMap AgentMessage.answeredCall).contains callId

def AgentMessage.openCalls (callIds : List String) : AgentMessage → List String
  | .assistant message => message.toolCalls.map (·.callId) ++ callIds
  | .toolResult message => callIds.filter (· ≠ message.callId)
  | _ => callIds

/-- The inner loop: the indexes of the group, and the messages after it. -/
def takeGroup (callIds : List String) (index : Nat) :
    List AgentMessage → List Nat × List AgentMessage
  | [] => ([], [])
  | current :: rest =>
      if callIds = [] then ([], current :: rest)
      else
        let (group, remaining) := takeGroup (current.openCalls callIds) (index + 1) rest
        (index :: group, remaining)

/-- The outer loop from one index on. A round takes a message, which is the fuel. -/
def groupsFrom : Nat → Nat → List AgentMessage → List (List Nat)
  | 0, _, _ => []
  | _ + 1, _, [] => []
  | fuel + 1, index, message :: rest =>
      if message.callIds = [] then [index] :: groupsFrom fuel (index + 1) rest
      else
        let (group, remaining) := takeGroup message.callIds (index + 1) rest
        (index :: group) :: groupsFrom fuel (index + 1 + group.length) remaining

def pairSafeTailIndexes (messages : List AgentMessage) : List (List Nat) :=
  groupsFrom messages.length 0 messages

/-! ## Compilation -/

inductive ContextKind
  | ready
  | needsCompaction
  | contextUnfit
  deriving DecidableEq

structure CompiledContext where
  kind : ContextKind
  messages : List ModelMessage
  estimatedInputTokens : Nat
  reservedOutputTokens : Nat
  retainedTranscriptIndexes : List Nat
  compacted : Bool := false
  deriving DecidableEq

structure ContextRun where
  transcript : List AgentMessage
  renderedSystemPrompt : String
  contextWindow : Nat
  maxOutputTokens : Nat

/-- `isinstance(message, UserMessage)` -/
def AgentMessage.isUser : AgentMessage → Bool
  | .user _ => true
  | _ => false

def transcriptAt (transcript : List AgentMessage) (indexes : List Nat) : List AgentMessage :=
  indexes.filterMap (transcript[·]?)

/-- `sorted({*group, *selected})` -/
def sortedIndexes (group selected : List Nat) : List Nat :=
  (group ++ selected).dedup.insertionSort (· ≤ ·)

structure Selection where
  selected : List Nat
  selectedMessages : List ModelMessage
  deriving DecidableEq

variable (dumps : JsonValue → String)

/-- `agent_messages_to_model(messages, prepare_orchestration_context=True)` -/
def contextMessages (messages : List AgentMessage) : Except String (List ModelMessage) :=
  agentMessagesToModel dumps true true messages

/-- `selected_messages` before the selection. -/
def firstUserMessages (transcript : List AgentMessage) :
    Option Nat → Except String (List ModelMessage)
  | none => return []
  | some index => contextMessages dumps (transcriptAt transcript [index])

/-- One round of the selection. The group of the first user message is passed over. -/
def selectGroup (transcript : List AgentMessage) (available : Int) (firstUser : Option Nat)
    (selection : Selection) (group : List Nat) : Except String Selection :=
  if firstUser.any group.contains then return selection
  else do
    let candidateIndexes := sortedIndexes group selection.selected
    let candidate ← contextMessages dumps (transcriptAt transcript candidateIndexes)
    if (estimateMessages candidate : Int) > available then return selection
    else return { selected := candidateIndexes, selectedMessages := candidate }

variable {Tool : Type} (modelDump : Tool → JsonValue)

def mandatoryTokens (run : ContextRun) (tools : List Tool) (background : List ModelMessage) : Nat :=
  estimateText run.renderedSystemPrompt + estimateTools modelDump tools +
    estimateMessages background + run.maxOutputTokens

def summaryMessage (summary : String) : ModelMessage :=
  .user ("[summary] " ++ summary)

/-- The branch of `compile` that has a summary. -/
def compileSummary (run : ContextRun) (background : List ModelMessage) (mandatory : Nat)
    (summary : String) : Except String CompiledContext :=
  let reserve := run.maxOutputTokens
  let summaryTokens := estimateMessages [summaryMessage summary]
  let available : Int := (run.contextWindow : Int) - mandatory - summaryTokens
  if available < 0 then
    return {
      kind := .contextUnfit
      messages := []
      estimatedInputTokens := mandatory - reserve + summaryTokens
      reservedOutputTokens := reserve
      retainedTranscriptIndexes := []
      compacted := true }
  else do
    let retained := pairSafeTailIndexes run.transcript
    let firstUser := run.transcript.findIdx? AgentMessage.isUser
    let selectedMessages ← firstUserMessages dumps run.transcript firstUser
    if (estimateMessages selectedMessages : Int) > available then
      return {
        kind := .contextUnfit
        messages := []
        estimatedInputTokens :=
          mandatory - reserve + summaryTokens + estimateMessages selectedMessages
        reservedOutputTokens := reserve
        retainedTranscriptIndexes := []
        compacted := true }
    else do
      let selection ← retained.reverse.foldlM
        (selectGroup dumps run.transcript available firstUser)
        { selected := firstUser.toList, selectedMessages := selectedMessages }
      let selectedMessages := summaryMessage summary :: selection.selectedMessages
      return {
        kind := .ready
        messages := background ++ selectedMessages
        estimatedInputTokens := mandatory - reserve + estimateMessages selectedMessages
        reservedOutputTokens := reserve
        retainedTranscriptIndexes := selection.selected
        compacted := true }

def compile (run : ContextRun) (tools : List Tool) (background : List ModelMessage)
    (summary : Option String) : Except String CompiledContext :=
  if unresolvedCallIds run.transcript ≠ [] then
    throw "cannot compile a model turn while tool calls are unresolved"
  else
    let reserve := run.maxOutputTokens
    let mandatory := mandatoryTokens modelDump run tools background
    if mandatory > run.contextWindow then
      return {
        kind := .contextUnfit
        messages := []
        estimatedInputTokens := mandatory - reserve
        reservedOutputTokens := reserve
        retainedTranscriptIndexes := [] }
    else do
      let converted ← contextMessages dumps run.transcript
      let full := background ++ converted
      let estimate := mandatory - reserve + estimateMessages converted
      match summary with
      | none =>
          return {
            kind := if estimate + reserve ≤ run.contextWindow then .ready else .needsCompaction
            messages := full
            estimatedInputTokens := estimate
            reservedOutputTokens := reserve
            retainedTranscriptIndexes := List.range run.transcript.length }
      | some summary => compileSummary dumps run background mandatory summary

end Hybro.Orchestrator
