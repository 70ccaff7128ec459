import Mathlib.Data.List.Sort
import Hybro.Kernel.Runtime

/-! # Tool entries and parked interactions

What the kernel reads off the Tool batches of a Run: which entries wait for a
decision, which one a Tool call would join, and the results it buffers and
flushes into the transcript.
-/

namespace Hybro.Kernel

open Orchestrator Interleaving

/-! ## The kernel's own Tools -/

def requestUserInputToolName : String := "request_user_input"

def surfaceAgentQuestionsToolName : String := "surface_agent_questions"

def maxConsecutiveModelJoins : Nat := 4

/-- `"pattern": r"[\s\S]*\S[\s\S]*"` with bounds on the length -/
def nonBlankString (maxLength : Int) : List (String × JsonValue) :=
  [("type", .str "string"), ("minLength", .num 1), ("maxLength", .num maxLength),
    ("pattern", .str "[\\s\\S]*\\S[\\s\\S]*")]

def requestUserInputToolDefinition : ToolDefinition where
  name := requestUserInputToolName
  label := "Ask the user"
  description := "Ask the user a clarifying question when required information is " ++
    "missing, the request is ambiguous, or confirmation is needed before " ++
    "proceeding. Execution pauses until the user answers; include short " ++
    "options when the answer space is small."
  inputSchema := .obj [
    ("type", .str "object"),
    ("additionalProperties", .bool false),
    ("required", .arr [.str "question"]),
    ("properties", .obj [
      ("question", .obj (nonBlankString 4000)),
      ("choices", .obj [
        ("type", .str "array"),
        ("items", .obj (nonBlankString 500)),
        ("uniqueItems", .bool true),
        ("maxItems", .num 12)])])]
  executionMode := .sequential

def surfaceAgentQuestionsToolDefinition : ToolDefinition where
  name := surfaceAgentQuestionsToolName
  label := "Forward the agent's questions"
  description := "Forward an Agent's typed questions to the user unchanged, one " ++
    "question at a time, preserving each question's answer kind and " ++
    "options. The runtime supplies an invocation-specific target schema."
  inputSchema := .obj [
    ("type", .str "object"),
    ("additionalProperties", .bool false),
    ("properties", .obj [])]
  executionMode := .sequential

/-! ## Parked entries -/

def hasVisibleInput (run : OrchestratorRunState) : Bool :=
  run.entries.any fun entry => entry.state.isParked &&
    (entry.surfaceForCallRecordId.isSome || (!entry.presented && entry.interactionId.isNone))

def hasPresentedInteractions (run : OrchestratorRunState) : Bool :=
  run.entries.any fun entry => entry.state.isParked && entry.presented

def presentationId (kernel : OrchestratorKernel) (run : OrchestratorRunState)
    (entry : ToolBatchEntry) : String :=
  match entry.presentationId with
  | some known => if known ≠ "" then known else fresh
  | none => fresh
where
  fresh : String :=
    let digest := kernel.sha256
      (String.intercalate ":"
        [run.runId, "presentation", entry.callId, entry.interactionFingerprint.getD ""])
    "prs_" ++ slice 24 digest

def presentedTargets (kernel : OrchestratorKernel) (run : OrchestratorRunState) :
    List (String × ToolBatchEntry) :=
  (run.entries.filter fun entry => entry.state.isParked && entry.presented &&
    entry.surfaceForCallRecordId.isNone).map fun entry => (presentationId kernel run entry, entry)

/-- `_surface_agent_questions_tool_definition` -/
def surfaceDefinitionFor (kernel : OrchestratorKernel) (run : OrchestratorRunState) :
    ToolDefinition :=
  let targets := presentedTargets kernel run
  if targets.length ≤ 1 then
    { surfaceAgentQuestionsToolDefinition with
      description := "Forward the only pending Agent interaction's typed " ++
        "questions unchanged. This tool takes no arguments." }
  else
    { surfaceAgentQuestionsToolDefinition with
      description := "Forward one pending Agent interaction's typed questions " ++
        "unchanged. Use the presentation_id from the private Agent input observation."
      inputSchema := .obj [
        ("type", .str "object"),
        ("additionalProperties", .bool false),
        ("required", .arr [.str "presentation_id"]),
        ("properties", .obj [
          ("presentation_id", .obj [
            ("type", .str "string"),
            ("enum", .arr (targets.map fun target => .str target.1))])])] }

/-- `_find_presented_entry_by_presentation` -/
def findPresentedEntry (kernel : OrchestratorKernel) (run : OrchestratorRunState)
    (presentation : Option String) : Option ToolBatchEntry :=
  let targets := presentedTargets kernel run
  match presentation with
  | none =>
      match targets with
      | [target] => some target.2
      | _ => none
  | some wanted => (targets.find? fun target => target.1 = wanted).map (·.2)

/-- An entry that a call of this Tool continues instead of opening a new task. -/
def isJoinTarget (toolName : String) (entry : ToolBatchEntry) : Bool :=
  entry.toolName = toolName && entry.state.isParked && entry.presented &&
    entry.suspendedCallRecordId.isSome

/-- `_find_join_target`: the last one wins. -/
def findJoinTarget (run : OrchestratorRunState) (toolName : String) : Option String :=
  (run.entries.filter (isJoinTarget toolName)).getLast?.bind (·.suspendedCallRecordId)

def parkedInteractionQuestions (run : OrchestratorRunState) (callRecordId : String) :
    List ToolInteractionQuestion :=
  match run.entries.find? fun entry =>
    entry.suspendedCallRecordId = some callRecordId && entry.state.isParked with
  | some entry => entry.interactionQuestions
  | none => []

def interactionQuestionSummary (questions : List ToolInteractionQuestion) : String :=
  slice 1000 (String.intercalate " | " (questions.map (·.prompt)))

/-! ## Batches and results -/

def newToolBatch (assistant : AssistantMessage) (internalTurnId : Option String) :
    ToolCallBatch where
  assistantMessageId := assistant.messageId
  internalTurnId := internalTurnId
  entries := assistant.toolCalls.mapIdx fun index call =>
    { callId := call.callId
      assistantMessageId := assistant.messageId
      sourceIndex := index
      toolName := call.toolName }

def toolError (call : ToolCall) (code message : String) : ToolResult where
  callId := call.callId
  toolName := call.toolName
  status := .rejected
  content := [.text (slice 500 message)]
  artifactRefs := []
  errorCode := some code
  errorMessage := some (slice 500 message)

def mergeArtifactRefs (existing : List String) (results : List ToolResult) : List String :=
  (existing ++ results.flatMap (·.artifactRefs)).reverse.dedup.reverse

/-! ## Arguments of the kernel's own Tools -/

def isTruthy : JsonValue → Bool
  | .null => false
  | .bool value => value
  | .num value => value ≠ 0
  | .str value => value ≠ ""
  | .arr items => !items.isEmpty
  | .obj fields => !fields.isEmpty

/-- `str(value)` -/
def pythonStr (kernel : OrchestratorKernel) : JsonValue → String
  | .str value => value
  | value => kernel.repr value

/-- What a `for` loop over a JSON value visits. -/
def iterated : JsonValue → Except String (List JsonValue)
  | .arr items => .ok items
  | .str value => .ok (value.toList.map fun c => .str (String.ofList [c]))
  | .obj fields => .ok (fields.map fun field => .str field.1)
  | .null | .bool _ | .num _ => .error "object is not iterable"

def requestUserInputChoices (kernel : OrchestratorKernel) (arguments : JsonObject) :
    Except String (List String) :=
  let choices := (arguments.get "choices").getD .null
  let visited := if isTruthy choices then iterated choices else .ok []
  visited.map fun items =>
    (items.map fun choice => strip (pythonStr kernel choice)).filter (· ≠ "")

def hasEllipsisPlaceholder (text : String) : Bool :=
  text.toList.tails.any fun rest => "...".toList.isPrefixOf rest || "…".toList.isPrefixOf rest

def objectKeys : JsonValue → Option (List String)
  | .obj fields => some (fields.map (·.1))
  | _ => none

def toolSchemaValidationMessage (kernel : OrchestratorKernel) (error : ValidationError) : String :=
  let path := "$" ++ String.join (error.absolutePath.map fun item => s!"[{item}]")
  let named := fun (lead : String) (names : List String) =>
    let sorted := names.insertionSort (· ≤ ·)
    if sorted = [] then none else some (lead ++ String.intercalate ", " (sorted.take 5))
  let detail :=
    if error.validator = "additionalProperties" then
      match objectKeys error.instanceValue with
      | some keys => named "unsupported properties: "
          (keys.filter fun key => key ∉ error.properties.getD [])
      | none => none
    else if error.validator = "required" then
      match error.validatorValue, objectKeys error.instanceValue with
      | .arr required, some keys => named "missing required properties: "
          ((required.map (pythonStr kernel)).filter fun key => key ∉ keys)
      | _, _ => none
    else if error.validator = "type" then some s!"value at {path} has the wrong type"
    else if error.validator = "enum" then
      some s!"value at {path} is not an allowed resource reference"
    else none
  "Tool arguments failed schema validation: " ++
    detail.getD "arguments do not match the declared schema" ++ ". " ++
    "Consult the current Tool schema and retry with compatible arguments."

end Hybro.Kernel
