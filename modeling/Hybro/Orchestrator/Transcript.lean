import Hybro.Orchestrator.Models
import Hybro.Library.OrderedMap
import Hybro.Library.PythonText

/-! # The transcript as provider messages

`agent_messages_to_model`: every durable message is rendered on its own, then the tool
messages of one call are folded into the first of them. `json.dumps` is a parameter.
-/

namespace Hybro.Orchestrator

open OrderedMap PythonText

/-! ## Provider messages -/

structure ModelToolResultPart where
  callId : String
  toolName : String
  text : String
  isError : Bool
  deriving DecidableEq

inductive AssistantPart
  | text (text : String)
  | toolCall (callId toolName : String) (arguments : JsonObject)
  deriving DecidableEq

/-- A user message has one text part and a tool message one tool result. -/
inductive ModelMessage
  | user (text : String)
  | assistant (content : List AssistantPart)
  | tool (part : ModelToolResultPart)
  deriving DecidableEq

/-! ## Texts -/

variable (dumps : JsonValue → String)

def ContentPart.rendered : ContentPart → String
  | .text content => content
  | .data content _ _ => dumps content
  | .artifactRef reference mimeType =>
      "[artifact reference: " ++ reference ++
        ((nonEmptyText mimeType).map fun mimeType => " (" ++ mimeType ++ ")").getD "" ++ "]"

def contentText (parts : List ContentPart) : String :=
  String.intercalate "\n" ((parts.map (·.rendered dumps)).filter (· ≠ ""))

def roomFileRefPrefix : String := "/api/v1/files/"

def unreadFilesNote : String :=
  "[platform note: Hybro has not read the contents of the referenced files; " ++
    "describe them only from what the Agent reported above]"

def ToolResultStatus.value : ToolResultStatus → String
  | .completed => "completed"
  | .failed => "failed"
  | .canceled => "canceled"
  | .rejected => "rejected"
  | .expired => "expired"

def appendLine (text line : String) : String :=
  PythonText.strip (text ++ "\n" ++ line)

def resultText (prepareOrchestrationContext : Bool) (message : ToolResultMessage) : String :=
  let text := contentText dumps message.content
  let refs := String.intercalate "\n"
    (message.artifactRefs.map fun ref => "[artifact reference: " ++ ref ++ "]")
  let text := if refs = "" then text else appendLine text refs
  let text := if message.artifactRefs.any (startsWith · roomFileRefPrefix) then
    appendLine text unreadFilesNote else text
  let text := match nonEmptyText message.errorCode with
    | some errorCode => appendLine text ("[agent error code: " ++ errorCode ++ "]")
    | none => text
  let text := match nonEmptyText message.errorMessage with
    | some errorMessage => appendLine text errorMessage
    | none => text
  if prepareOrchestrationContext then
    let provenance :=
      if message.status = .completed ∧ message.isError = false then
        "[agent observation: verified completed result; usable as evidence]"
      else
        "[agent observation: status=" ++ message.status.value ++ "; diagnostic only, not evidence]"
    appendLine provenance text
  else text

def optionalText : Option String → JsonValue
  | none => .null
  | some text => .str text

def questionPayload (question : ToolInteractionQuestion) : JsonValue :=
  .obj [("question_id", .str question.questionId),
    ("interaction_kind", .str question.interactionKind),
    ("answer_kind", .str question.answerKind),
    ("required", .bool question.required),
    ("prompt", .str question.prompt),
    ("choices", (question.choices.map fun choices => JsonValue.arr (choices.map .str)).getD .null)]

def interactionText (message : ToolInteractionMessage) (resolved : Bool)
    (answers : Option ToolInteractionAnswers) : String :=
  let payload : JsonObject :=
    [("presentation_id", optionalText message.presentationId),
      ("interaction_id", .str message.interactionId),
      ("interaction_fingerprint", .str message.interactionFingerprint),
      ("questions", .arr (message.questions.map questionPayload)),
      ("artifact_refs", .arr (message.artifactRefs.map .str))]
  let (header, payload) : String × JsonObject :=
    match answers with
    | some answers =>
        ("[agent input request; the user answered it in user_answers and the " ++
          "answers were sent to the Agent; do not ask it again]",
          payload ++ [("user_answers", .arr (answers.answers.map fun item =>
            .obj [("question_id", .str item.questionId), ("answer", .str item.answer)]))])
    | none =>
        (if resolved then
          "[agent input request; already answered, the Agent's result follows; " ++
            "do not ask it again]"
        else "[agent input request; answer it from existing evidence, or ask the user]", payload)
  header ++ "\n" ++ dumps (.obj payload)

def historicalToolArguments (arguments : JsonObject) : JsonObject :=
  arguments.map fun (key, value) => (key,
    match value with
    | .str text =>
        if key = "task" then
          if text.length ≤ 2400 then .str ("[historical plan, not evidence]\n" ++ text)
          else .str ("[historical plan, not evidence; middle omitted]\n" ++
            PythonText.rstrip (PythonText.firstChars 1800 text) ++ "\n…\n" ++
              PythonText.lstrip (PythonText.lastChars 400 text))
        else .str text
    | .arr items => .arr (items.take 20)
    | .obj fields =>
        if (dumps (.obj fields)).length ≤ 1000 then .obj fields
        else .str "[historical structured argument omitted]"
    | other => other)

/-! ## Rendering -/

def AgentMessage.answeredCall : AgentMessage → Option String
  | .toolResult message => some message.callId
  | .toolInteraction message => some message.callId
  | _ => none

/-- `message.interaction_answers` of the messages that have it. -/
def AgentMessage.interactionAnswers : AgentMessage → List ToolInteractionAnswers
  | .toolResult message => message.interactionAnswers
  | .toolInteraction message => message.interactionAnswers
  | _ => []

def AgentMessage.isResult : AgentMessage → Bool
  | .toolResult _ => true
  | _ => false

/-- What the whole transcript says of one message, and the options of the conversion. -/
structure RenderContext where
  includeNotices : Bool
  prepareOrchestrationContext : Bool
  resolvedCallIds : List String
  resultCallIds : List String
  /-- The last answers given for an interaction count. -/
  userAnswers : String → Option ToolInteractionAnswers

def renderContext (includeNotices prepareOrchestrationContext : Bool)
    (messages : List AgentMessage) : RenderContext where
  includeNotices := includeNotices
  prepareOrchestrationContext := prepareOrchestrationContext
  resolvedCallIds := messages.filterMap AgentMessage.answeredCall
  resultCallIds := (messages.filter AgentMessage.isResult).filterMap AgentMessage.answeredCall
  userAnswers := fun interactionId =>
    ((messages.flatMap AgentMessage.interactionAnswers).filter
      (·.interactionId = interactionId)).getLast?

variable (context : RenderContext)

def toolPart : AgentMessage → Option ModelToolResultPart
  | .toolResult message => some {
      callId := message.callId
      toolName := message.toolName
      text := resultText dumps context.prepareOrchestrationContext message
      isError := message.isError }
  | .toolInteraction message => some {
      callId := message.callId
      toolName := message.toolName
      text := interactionText dumps message (context.resultCallIds.contains message.callId)
        (context.userAnswers message.interactionId)
      isError := false }
  | _ => none

def callPart (call : ToolCall) : AssistantPart :=
  .toolCall call.callId call.toolName
    (if context.prepareOrchestrationContext && context.resolvedCallIds.contains call.callId then
      historicalToolArguments dumps call.arguments else call.arguments)

def assistantParts (message : AssistantMessage) : List AssistantPart :=
  let text := contentText dumps message.content
  (if text = "" then [] else [.text text]) ++ message.toolCalls.map (callPart dumps context)

/-- `calls.add` for each call of a message. -/
def addCalls (calls : List String) : List ToolCall → Except String (List String)
  | [] => return calls
  | call :: rest =>
      if call.callId ∈ calls then throw "duplicate assistant tool call"
      else addCalls (call.callId :: calls) rest

/-- The first loop, with the calls and the results seen before. -/
def renderMessages (calls results : List String) : List AgentMessage →
    Except String (List ModelMessage)
  | [] => return []
  | .user message :: rest => do
      let rendered ← renderMessages calls results rest
      return .user (contentText dumps message.content) :: rendered
  | .assistant message :: rest => do
      let calls ← addCalls calls message.toolCalls
      let rendered ← renderMessages calls results rest
      return .assistant (assistantParts dumps context message) :: rendered
  | .toolResult message :: rest =>
      if message.callId ∉ calls then throw "orphan tool result"
      else if message.callId ∈ results then throw "duplicate tool result"
      else do
        let rendered ← renderMessages calls (message.callId :: results) rest
        return (toolPart dumps context (.toolResult message)).toList.map .tool ++ rendered
  | .toolInteraction message :: rest =>
      if message.callId ∉ calls then throw "orphan tool interaction"
      else do
        let rendered ← renderMessages calls results rest
        return (toolPart dumps context (.toolInteraction message)).toList.map .tool ++ rendered
  | .sessionNotice message :: rest => do
      let rendered ← renderMessages calls results rest
      return (if context.includeNotices then
        [.user ("[runtime:" ++ message.code ++ "] " ++ message.content)] else []) ++ rendered

/-! ## Folding -/

def ModelMessage.toolPart? : ModelMessage → Option ModelToolResultPart
  | .tool part => some part
  | _ => none

def surfaceAgentQuestions : String := "surface_agent_questions"

def failedSurfaceCalls (messages : List ModelMessage) : List String :=
  (messages.filterMap ModelMessage.toolPart?).filterMap fun part =>
    if part.toolName = surfaceAgentQuestions ∧ part.isError = true then some part.callId else none

/-- What both branches of the second loop ask of a part. -/
def kept (failed : List String) (callId toolName : String) : Bool :=
  toolName != surfaceAgentQuestions || failed.contains callId

def AssistantPart.kept (failed : List String) : AssistantPart → Bool
  | .text _ => true
  | .toolCall callId toolName _ => Orchestrator.kept failed callId toolName

def ModelToolResultPart.merge (existing part : ModelToolResultPart) : ModelToolResultPart :=
  { existing with
    text := existing.text ++ "\n\n" ++ part.text
    isError := existing.isError || part.isError }

def ModelMessage.isToolOf (callId : String) : ModelMessage → Bool
  | .tool part => part.callId = callId
  | _ => false

structure FoldState where
  folded : List ModelMessage := []
  toolBlocks : List (String × ModelToolResultPart) := []
  deriving DecidableEq

/-- One message of the second loop. The last tool message of the call is replaced. -/
def FoldState.step (failed : List String) (s : FoldState) : ModelMessage → FoldState
  | .user text => { s with folded := s.folded ++ [.user text] }
  | .assistant content =>
      let parts := content.filter (·.kept failed)
      if parts = [] then s else { s with folded := s.folded ++ [.assistant parts] }
  | .tool part =>
      if kept failed part.callId part.toolName = false then s
      else
        match get s.toolBlocks part.callId with
        | some existing =>
            let updated := existing.merge part
            { folded := (updateFirst (·.isToolOf part.callId) (fun _ => .tool updated)
                s.folded.reverse).reverse
              toolBlocks := put s.toolBlocks part.callId updated }
        | none =>
            { folded := s.folded ++ [.tool part]
              toolBlocks := put s.toolBlocks part.callId part }

def foldMessages (failed : List String) (messages : List ModelMessage) : FoldState :=
  messages.foldl (FoldState.step failed) {}

def agentMessagesToModel (includeNotices prepareOrchestrationContext : Bool)
    (messages : List AgentMessage) : Except String (List ModelMessage) := do
  let context := renderContext includeNotices prepareOrchestrationContext messages
  let result ← renderMessages dumps context [] [] messages
  return (foldMessages (failedSurfaceCalls result) result).folded

end Hybro.Orchestrator
