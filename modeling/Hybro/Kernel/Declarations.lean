import Hybro.Kernel.Interactions

/-! # The declaration loop

How `_execute_tool_batch` walks the declared calls of one Assistant message
before it executes any of them. Each call crosses several checkpoints: its budget
reservation, the count of consecutive joins, its acceptance, and the reset of that
count. A call that needs no more work is passed over, so that the loop can be
entered again after a crash.
-/

namespace Hybro.Kernel

open Orchestrator Interleaving

structure Declarations where
  run : OrchestratorRunState
  executable : List (ToolCall × ToolInvocation × ToolAcceptance) := []
  joinCalls : List (String × ToolInvocation × String) := []
  preacceptanceFailed : Bool := false
  recoverableDeclarationFailed : Bool := false
  fatalPreacceptanceFailed : Bool := false

abbrev BudgetExit := String

abbrev Declared := Declarations ⊕ BudgetExit

/-- One batch of a Run, as the loop is given it. -/
structure BatchContext where
  kernel : OrchestratorKernel
  assistant : AssistantMessage
  batchIndex : Nat

namespace BatchContext

variable (ctx : BatchContext)

/-- The owner of a public event of this batch. -/
def turnId (run : OrchestratorRunState) : String :=
  if truthy run.activeInternalTurnId then run.activeInternalTurnId.getD ""
  else ctx.assistant.messageId

/-- An update of one entry under the command `label:call_id`. -/
def settle (run : OrchestratorRunState) (entryIndex : Nat) (call : ToolCall) (label : String)
    (update : EntryUpdate) : KernelM OrchestratorRunState :=
  updateEntry run ctx.batchIndex entryIndex update ⟨label, [call.callId]⟩

def reject (run : OrchestratorRunState) (entryIndex : Nat) (call : ToolCall)
    (label code message : String) (invocation : Option ToolInvocation) :
    KernelM OrchestratorRunState :=
  ctx.settle run entryIndex call label
    { state := .terminal, invocation := invocation, result := some (toolError call code message) }

/-! ## Asking the user -/

def requestUserInputErrors (call : ToolCall) : List ValidationError :=
  ctx.kernel.schemaErrors requestUserInputToolDefinition.inputSchema call.arguments

def choicesOf (call : ToolCall) : KernelM (List String) :=
  match requestUserInputChoices ctx.kernel call.arguments with
  | .ok choices => return choices
  | .error message => throw (.raised message)

def askInvocation (run : OrchestratorRunState) (entryIndex : Nat) (call : ToolCall) :
    ToolInvocation where
  invocationId := call.callId
  runId := run.runId
  expectedRunVersion := run.stateVersion
  assistantMessageId := ctx.assistant.messageId
  sourceIndex := entryIndex
  causationId := ctx.assistant.messageId
  idempotencyKey := stableId ctx.kernel run ["ask-invocation", call.callId]
  tool :=
    { definition := requestUserInputToolDefinition
      binding := ⟨"ask:" ++ run.runId ++ ":" ++ call.callId, "structured-ask-user"⟩ }
  arguments := call.arguments
  deadlineAt := run.budget.deadlineAt

def questionOf (call : ToolCall) : String :=
  let question := (call.arguments.get "question").getD .null
  strip (pythonStr ctx.kernel (if isTruthy question then question else .str ""))

/-- `_suspend_for_supervisor_input`: `none` once the declaration has been rejected. -/
def suspendForSupervisorInput (run : OrchestratorRunState) (entryIndex : Nat) (call : ToolCall) :
    KernelM (Option OrchestratorRunState) := do
  if ctx.requestUserInputErrors call ≠ [] then
    let _ ← ctx.reject run entryIndex call "invalid-ask" "invalid_tool_call"
      "request_user_input arguments failed schema validation" none
    return none
  else
    let choices ← ctx.choicesOf call
    if choices.any hasEllipsisPlaceholder then
      let _ ← ctx.reject run entryIndex call "invalid-ask-choices" "invalid_tool_call"
        ("request_user_input choices contain placeholder text " ++
          "(...). Provide real, mutually exclusive answers or omit " ++
          "choices for free-form input.") none
      return none
    else if hasPresentedInteractions run then
      let _ ← ctx.reject run entryIndex call "invalid-ask-pending-agent" "invalid_tool_call"
        ("An Agent's typed questions are awaiting a decision. Forward them " ++
          "unchanged with surface_agent_questions (one question at a time), or " ++
          "answer them from available context by calling the Agent tool again.") none
      return none
    else
      let interactionId := stableId ctx.kernel run ["ask", call.callId]
      match ← perform (.supervisorHitl interactionId call.callId (ctx.questionOf call) choices) with
      | .error message => throw (.raised message)
      | .ok () =>
          let suspended ← ctx.settle run entryIndex call "ask-user"
            { state := .inputRequired
              invocation := some (ctx.askInvocation run entryIndex call)
              opaquePublicCallId := some (opaquePublicCallId ctx.kernel run.runId call.callId) }
          return some suspended

def emitStarted (run : OrchestratorRunState) (call : ToolCall) (arguments : JsonObject) :
    KernelM Unit :=
  let publicCallId := opaquePublicCallId ctx.kernel run.runId call.callId
  emit "tool_execution_started" [
    ("public_event_id", .str s!"public:{run.runId}:{publicCallId}:start"),
    ("call_id", .str call.callId),
    ("public_call_id", .str publicCallId),
    ("internal_turn_id", .str (ctx.turnId run)),
    ("tool_name", .str call.toolName),
    ("agent_label", jsonText (toolLabel run call.toolName)),
    ("arguments", .obj arguments)]

def resetJoins (run : OrchestratorRunState) (label : String) (call : ToolCall) :
    KernelM OrchestratorRunState :=
  if run.consecutiveModelJoins ≠ 0 then
    checkpoint run ({ · with consecutiveModelJoins := 0 }) ⟨label, [call.callId]⟩
  else return run

/-- The `request_user_input` branch of the loop. -/
def declareAsk (run : OrchestratorRunState) (entryIndex : Nat) (call : ToolCall)
    (d : Declarations) : KernelM Declared := do
  if !ctx.kernel.supervisorHitlBound then
    throw (.conflict "supervisor HITL port is not bound")
  else
    let choices ← ctx.choicesOf call
    if ctx.requestUserInputErrors call = [] ∧ ¬ choices.any hasEllipsisPlaceholder ∧
        ¬ hasPresentedInteractions run then
      ctx.emitStarted run call call.arguments
    match ← ctx.suspendForSupervisorInput run entryIndex call with
    | none => return .inl { d with
        run := run, preacceptanceFailed := true, recoverableDeclarationFailed := true }
    | some suspended =>
        let settled ← resetJoins suspended "join-reset-ask" call
        return .inl { d with run := settled }

/-! ## Forwarding an Agent's questions -/

def surfaceSlotTaken (run : OrchestratorRunState) (call : ToolCall) : Bool :=
  (run.toolBatches[ctx.batchIndex]?.elim [] (·.entries)).any fun entry =>
    entry.callId ≠ call.callId && entry.surfaceForCallRecordId.isSome &&
      (entry.state ≠ .terminal || entry.opaquePublicCallId.isSome)

def presentationOf (call : ToolCall) : Option String :=
  match call.arguments.get "presentation_id" with
  | none | some .null => none
  | some value => some (strip (pythonStr ctx.kernel value))

def withSurfaceTarget (run : OrchestratorRunState) (parked : ToolBatchEntry)
    (parentCallRecordId interactionId : String) (entry : ToolBatchEntry) : ToolBatchEntry :=
  { entry with
    suspendedCallRecordId := some parentCallRecordId
    surfaceForCallRecordId := some parentCallRecordId
    presentationId := some (presentationId ctx.kernel run parked)
    interactionId := some interactionId
    interactionFingerprint := parked.interactionFingerprint
    interactionQuestions := parked.interactionQuestions }

def publishSurface (run : OrchestratorRunState) (entryIndex : Nat) (call : ToolCall)
    (parked : ToolBatchEntry) (parentCallRecordId interactionId : String) :
    KernelM (Option OrchestratorRunState) := do
  match ← perform (.publishParkedInteraction parentCallRecordId interactionId) with
  | .raised message => throw (.raised message)
  | .invalidTarget =>
      let _ ← ctx.reject run entryIndex call "surface-publication-failed"
        "surface_publication_failed"
        "The Agent questions could not be published to the user." none
      return none
  | .published =>
      ctx.emitStarted run call []
      emit "model_decision" [
        ("internal_turn_id", .str (ctx.turnId run)),
        ("decision", .str "forwarded_to_user"),
        ("agent_label", .str ((toolLabel run parked.toolName).getD parked.toolName)),
        ("question_summary", .str (interactionQuestionSummary parked.interactionQuestions))]
      let suspended ← ctx.settle run entryIndex call "surface-questions"
        { state := .inputRequired
          opaquePublicCallId := some (opaquePublicCallId ctx.kernel run.runId call.callId) }
      return some suspended

/-- `_suspend_for_surface_forward`: `none` once the declaration has been rejected. -/
def suspendForSurfaceForward (run : OrchestratorRunState) (entryIndex : Nat) (call : ToolCall) :
    KernelM (Option OrchestratorRunState) := do
  if ctx.surfaceSlotTaken run call then
    let _ ← ctx.reject run entryIndex call "surface-batch-limit" "surface_batch_limit"
      "Only one Agent interaction may be forwarded per Assistant batch." none
    return none
  else if ctx.kernel.schemaErrors (surfaceDefinitionFor ctx.kernel run).inputSchema
      call.arguments ≠ [] then
    let _ ← ctx.reject run entryIndex call "invalid-surface" "invalid_tool_call"
      "surface_agent_questions arguments failed schema validation" none
    return none
  else
    match findPresentedEntry ctx.kernel run (ctx.presentationOf call) with
    | none =>
        let _ ← ctx.reject run entryIndex call "surface-target-missing"
          "surface_target_not_presented"
          "The Agent interaction to forward is not currently awaiting a decision." none
        return none
    | some parked =>
        match parked.interactionId, parked.suspendedCallRecordId with
        | none, _ =>
            let _ ← ctx.reject run entryIndex call "surface-target-no-interaction"
              "surface_target_not_presented"
              "The Agent interaction to forward has no durable target." none
            return none
        | some _, none =>
            let _ ← ctx.reject run entryIndex call "surface-target-no-call"
              "surface_target_not_presented"
              "The Agent interaction to forward has no parked call." none
            return none
        | some interactionId, some parentCallRecordId =>
            let entry ← entryAt run ctx.batchIndex entryIndex
            let fenced ← checkpoint run
              (withEntry ctx.batchIndex entryIndex
                (ctx.withSurfaceTarget run parked parentCallRecordId interactionId entry))
              ⟨"surface-target", [call.callId]⟩
            ctx.publishSurface fenced entryIndex call parked parentCallRecordId interactionId

/-- The `surface_agent_questions` branch of the loop. -/
def declareSurface (run : OrchestratorRunState) (entryIndex : Nat) (call : ToolCall)
    (d : Declarations) : KernelM Declared := do
  match ← ctx.suspendForSurfaceForward run entryIndex call with
  | none => return .inl { d with run := run, recoverableDeclarationFailed := true }
  | some suspended => return .inl { d with run := suspended }

/-! ## Calling an Agent -/

/-- An entry accepted before: it only needs a public call id. -/
def declareAccepted (run : OrchestratorRunState) (entryIndex : Nat) (entry : ToolBatchEntry)
    (call : ToolCall) (d : Declarations) : KernelM Declared := do
  match entry.invocation, entry.acceptance with
  | some invocation, some acceptance =>
      if entry.opaquePublicCallId.isNone then
        let repaired ← updateEntry run ctx.batchIndex entryIndex
          { state := entry.state
            invocation := entry.invocation
            acceptance := entry.acceptance
            opaquePublicCallId := some (opaquePublicCallId ctx.kernel run.runId entry.callId) }
          ⟨"repair-public-call-id", [entry.callId]⟩
        let current ← entryAt repaired ctx.batchIndex entryIndex
        match current.invocation, current.acceptance with
        | some invocation, some acceptance => return .inl { d with
            run := repaired, executable := d.executable ++ [(call, invocation, acceptance)] }
        | _, _ => throw (.raised "accepted entry lost its acceptance")
      else return .inl { d with
        run := run, executable := d.executable ++ [(call, invocation, acceptance)] }
  | _, _ => throw (.conflict "accepted tool entry is incomplete")

/-- `entry.suspended_call_record_id or _find_join_target(run, entry.tool_name)` -/
def joinTargetOf (run : OrchestratorRunState) (entry : ToolBatchEntry) : Option String :=
  if truthy entry.suspendedCallRecordId then entry.suspendedCallRecordId
  else findJoinTarget run entry.toolName

/-- A join left behind by an earlier entry of the loop is dispatched again. -/
def declareJoinAgain (run : OrchestratorRunState) (entryIndex : Nat) (entry : ToolBatchEntry)
    (invocation : ToolInvocation) (call : ToolCall) (d : Declarations) : KernelM Declared := do
  match joinTargetOf run entry with
  | none =>
      let updated ← updateEntry run ctx.batchIndex entryIndex
        { state := .terminal
          invocation := entry.invocation
          result := some (toolError call "join_target_missing"
            "The Agent interaction this reply targeted is no longer active.") }
        ⟨"join-target-missing", [entry.callId]⟩
      return .inl { d with run := updated }
  | some joinTarget => return .inl { d with
      run := run, joinCalls := d.joinCalls ++ [(entry.callId, invocation, joinTarget)] }

def invocationFor (run : OrchestratorRunState) (entryIndex : Nat) (call : ToolCall)
    (resolved : ResolvedTool) : ToolInvocation where
  invocationId := call.callId
  runId := run.runId
  expectedRunVersion := run.stateVersion
  assistantMessageId := ctx.assistant.messageId
  sourceIndex := entryIndex
  causationId := ctx.assistant.messageId
  idempotencyKey := stableId ctx.kernel run ["tool", ctx.assistant.messageId, call.callId,
    toString entryIndex, resolved.binding.bindingDigest]
  tool := resolved
  arguments := call.arguments
  deadlineAt := run.budget.deadlineAt

/-- A call that continues a parked interaction of the same Tool. -/
def declareJoin (run : OrchestratorRunState) (entryIndex : Nat) (call : ToolCall)
    (invocation : ToolInvocation) (joinTarget : String) (d : Declarations) : KernelM Declared := do
  if maxConsecutiveModelJoins ≤ run.consecutiveModelJoins then
    let limited ← ctx.reject run entryIndex call "join-limit" "auto_reply_limit_reached"
      ("The platform will not keep auto-replying to " ++
        "Agents. Ask the user or conclude from evidence.") (some invocation)
    emit "model_decision" [
      ("internal_turn_id", .str (ctx.turnId limited)),
      ("decision", .str "no_progress"),
      ("agent_label", jsonText (toolLabel limited call.toolName)),
      ("question_summary", .str (interactionQuestionSummary
        (parkedInteractionQuestions limited joinTarget))),
      ("reason", .str "auto_reply_limit_reached")]
    return .inl { d with run := limited, recoverableDeclarationFailed := true }
  else
    let counted ← checkpoint run
      ({ · with consecutiveModelJoins := run.consecutiveModelJoins + 1 })
      ⟨"join-count", [call.callId]⟩
    let accepted ← ctx.settle counted entryIndex call "accepted-join"
      { state := .accepted
        invocation := some invocation
        opaquePublicCallId := some (opaquePublicCallId ctx.kernel counted.runId call.callId) }
    return .inl { d with
      run := accepted, joinCalls := d.joinCalls ++ [(call.callId, invocation, joinTarget)] }

def acceptanceOf (invocation : ToolInvocation) (reply : Except String ToolAcceptance) :
    Except String ToolAcceptance :=
  match reply with
  | .error message => .error message
  | .ok acceptance =>
      if acceptance.invocationId = invocation.invocationId ∧
          acceptance.idempotencyKey = invocation.idempotencyKey then .ok acceptance
      else .error "tool acceptance does not correlate"

def declareNewTask (run : OrchestratorRunState) (entryIndex : Nat) (call : ToolCall)
    (invocation : ToolInvocation) (d : Declarations) : KernelM Declared := do
  match acceptanceOf invocation (← perform (.accept invocation)) with
  | .error message =>
      let failed ← ctx.reject run entryIndex call "acceptance-failed" "acceptance_failed" message
        (some invocation)
      return .inl { d with
        run := failed, preacceptanceFailed := true, fatalPreacceptanceFailed := true }
  | .ok acceptance =>
      let accepted ← ctx.settle run entryIndex call "accepted-tool"
        { state := .accepted
          invocation := some invocation
          acceptance := some acceptance
          opaquePublicCallId := some (opaquePublicCallId ctx.kernel run.runId call.callId) }
      let settled ← resetJoins accepted "join-reset" call
      return .inl { d with
        run := settled, executable := d.executable ++ [(call, invocation, acceptance)] }

def declareCharged (run : OrchestratorRunState) (entryIndex : Nat) (call : ToolCall)
    (resolved : ResolvedTool) (d : Declarations) : KernelM Declared := do
  let now ← clockNow
  match BudgetPolicy.beforeToolCall run.budget run.profile now with
  | .error reason =>
      if reason ≠ "tool_calls" then return .inr reason
      else
        let exhausted ← ctx.reject run entryIndex call "tool-budget-exhausted"
          "tool_call_budget_exhausted" reason none
        return .inl { d with run := exhausted }
  | .ok () =>
      let reserved ← checkpoint run
        ({ · with budget := BudgetPolicy.recordToolCalls run.budget 1 })
        ⟨"tool-budget-reserve", [ctx.assistant.messageId, call.callId]⟩
      let invocation := ctx.invocationFor reserved entryIndex call resolved
      match findJoinTarget reserved call.toolName with
      | some joinTarget => ctx.declareJoin reserved entryIndex call invocation joinTarget d
      | none => ctx.declareNewTask reserved entryIndex call invocation d

def declareAgentCall (run : OrchestratorRunState) (entryIndex : Nat) (call : ToolCall)
    (d : Declarations) : KernelM Declared := do
  match ctx.kernel.toolCatalog.resolve run call.toolName with
  | .error message => throw (.invalidValue message)
  | .ok none =>
      let rejected ← ctx.reject run entryIndex call "invalid-tool" "invalid_tool_call"
        "Unknown tool. Choose a tool from the current catalog and retry." none
      return .inl { d with
        run := rejected, preacceptanceFailed := true, recoverableDeclarationFailed := true }
  | .ok (some resolved) =>
      match ctx.kernel.schemaErrors resolved.definition.inputSchema call.arguments with
      | error :: _ =>
          let rejected ← ctx.reject run entryIndex call "invalid-tool" "invalid_tool_call"
            (toolSchemaValidationMessage ctx.kernel error) none
          return .inl { d with
            run := rejected, preacceptanceFailed := true, recoverableDeclarationFailed := true }
      | [] => ctx.declareCharged run entryIndex call resolved d

/-! ## The loop -/

def stateValue : ToolBatchEntryState → String
  | .pending => "pending"
  | .invalid => "invalid"
  | .acceptanceFailed => "acceptance_failed"
  | .skipped => "skipped"
  | .accepted => "accepted"
  | .executing => "executing"
  | .waitingExternal => "waiting_external"
  | .inputRequired => "input_required"
  | .authRequired => "auth_required"
  | .terminal => "terminal"

/-- What a terminal entry that was never accepted says about its declaration. -/
def withEntryFlags (entry : ToolBatchEntry) (d : Declarations) : Declarations :=
  if entry.state = .terminal ∧ entry.acceptance = none then
    match entry.bufferedTerminalResult with
    | none => d
    | some result =>
        if result.errorCode = some "invalid_tool_call" ∧
            entry.toolName ≠ surfaceAgentQuestionsToolName then
          { d with recoverableDeclarationFailed := true, preacceptanceFailed := true }
        else if result.errorCode = some "acceptance_failed" then
          { d with fatalPreacceptanceFailed := true, preacceptanceFailed := true }
        else if result.errorCode = some "skipped_due_to_prior_rejection" then
          { d with preacceptanceFailed := true }
        else d
  else d

/-- The branches of the loop body, in the order of the source. -/
def declareEntry (run : OrchestratorRunState) (entryIndex : Nat) (entry : ToolBatchEntry)
    (call : ToolCall) (d : Declarations) : KernelM Declared := do
  if d.preacceptanceFailed ∧ entry.state = .pending then
    let skipped ← ctx.reject run entryIndex call "skip-tool" "skipped_due_to_prior_rejection"
      "Skipped after an earlier declaration was rejected." none
    return .inl { d with run := skipped }
  else
    match entry.state, entry.invocation, entry.acceptance with
    | .accepted, some invocation, none | .waitingExternal, some invocation, none =>
        ctx.declareJoinAgain run entryIndex entry invocation call d
    | .terminal, _, _ | .waitingExternal, _, _ | .inputRequired, _, _ | .authRequired, _, _ =>
        return .inl { d with run := run }
    | .pending, _, _ =>
        if call.toolName = requestUserInputToolName then ctx.declareAsk run entryIndex call d
        else if call.toolName = surfaceAgentQuestionsToolName then
          ctx.declareSurface run entryIndex call d
        else ctx.declareAgentCall run entryIndex call d
    | .accepted, _, _ | .executing, _, _ => ctx.declareAccepted run entryIndex entry call d
    | .invalid, _, _ | .acceptanceFailed, _, _ | .skipped, _, _ =>
        throw (.conflict ("unsupported recoverable tool state " ++ stateValue entry.state))

def declareCall (call : ToolCall) (d : Declarations) : KernelM Declared := do
  let run ← load
  match run.toolBatches[ctx.batchIndex]? with
  | none => throw (.raised "list index out of range")
  | some batch =>
      match batch.entries.findIdx? (·.callId = call.callId) with
      | none => throw (.raised "coroutine raised StopIteration")
      | some entryIndex =>
          let entry ← entryAt run ctx.batchIndex entryIndex
          ctx.declareEntry run entryIndex entry call (withEntryFlags entry d)

/-- The declaration loop of `_execute_tool_batch`. -/
def declareCalls (d : Declarations) : KernelM Declared :=
  forEach ctx.declareCall ctx.assistant.toolCalls d

end BatchContext

end Hybro.Kernel
