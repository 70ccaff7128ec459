import Hybro.Kernel.Interactions

/-! # Tool observations

`observe_tool` up to its checkpoint: what one observation of a suspended Tool
call does to the Run. What follows the checkpoint in the source publishes events,
presents a new question and re-enters the model loop.
-/

namespace Hybro.Kernel

open Orchestrator

/-! ## The observed entry -/

def findInvocation (run : OrchestratorRunState) (invocationId : String) : Option (Nat × Nat) :=
  run.toolBatches.zipIdx.findSome? fun (batch, batchIndex) =>
    (batch.entries.findIdx? (·.callId = invocationId)).map (batchIndex, ·)

/-- `state in {"waiting_external", "input_required", "auth_required"}` -/
def isSuspendedEntry (state : ToolBatchEntryState) : Bool :=
  state.isParked || state = .waitingExternal

def withInteractionAnswers (known : List ToolInteractionAnswers)
    (observed : Option ToolInteractionAnswers) : List ToolInteractionAnswers :=
  match observed with
  | none => known
  | some answers =>
      if known.any (·.interactionId = answers.interactionId) then known else known ++ [answers]

def isNewInteraction (entry : ToolBatchEntry) (suspension : ToolSuspension) : Bool :=
  entry.interactionId ≠ suspension.interactionId ||
    entry.interactionFingerprint ≠ suspension.interactionFingerprint ||
    entry.interactionQuestions ≠ suspension.questions

def observedEntry (entry : ToolBatchEntry) (observation : ToolObservation) : ToolBatchEntry :=
  let noted : ToolBatchEntry := { entry with
    processedObservationIds := entry.processedObservationIds ++ [observation.observationId]
    interactionAnswers :=
      withInteractionAnswers entry.interactionAnswers observation.interactionAnswers }
  match observation.outcome with
  | .result result =>
      { noted with state := .terminal, bufferedTerminalResult := some result }
  | .suspension suspension =>
      let isNew := isNewInteraction entry suspension
      { noted with
        state := suspension.status.entryState
        suspendedCallRecordId := suspension.callRecordId
        interactionId := suspension.interactionId
        interactionFingerprint := suspension.interactionFingerprint
        interactionQuestions := suspension.questions
        presented := if isNew then false else entry.presented
        presentationId := if isNew then none else entry.presentationId }

/-! ## Surface entries of a consumed round -/

/-- An ending or a new question proves that the round before it was consumed. -/
def consumesRound (entry : ToolBatchEntry) (observation : ToolObservation) : Bool :=
  entry.suspendedCallRecordId.isSome &&
    match observation.outcome with
    | .result _ => true
    | .suspension suspension => isNewInteraction entry suspension

def isSurfaceOf (entry surface : ToolBatchEntry) : Bool :=
  surface.surfaceForCallRecordId = entry.suspendedCallRecordId && surface.state.isParked

def surfaceResult (observation : ToolObservation) (surface : ToolBatchEntry) : ToolResult :=
  match observation.outcome with
  | .result result =>
      { result with callId := surface.callId, toolName := surfaceAgentQuestionsToolName }
  | .suspension _ =>
      { callId := surface.callId
        toolName := surfaceAgentQuestionsToolName
        status := .completed
        content := [.text ("The user's answers were applied; the " ++
          "Agent requested follow-up input.")]
        artifactRefs := [] }

def closeSurfaces (batchIndex : Nat) (entry : ToolBatchEntry) (observation : ToolObservation)
    (batches : List ToolCallBatch) : List ToolCallBatch :=
  if consumesRound entry observation then
    batches.mapIdx fun index batch =>
      if index = batchIndex then batch
      else
        { batch with entries := batch.entries.map fun surface =>
            if isSurfaceOf entry surface then
              { surface with
                state := .terminal
                bufferedTerminalResult := some (surfaceResult observation surface) }
            else surface }
  else batches

/-! ## Flushing -/

def toolResultMessage (entry : ToolBatchEntry) (createdAt : Timestamp) :
    Except KernelError ToolResultMessage :=
  match entry.bufferedTerminalResult with
  | none => .error (.invalidValue "terminal tool entry has no buffered result")
  | some result => .ok
      { messageId := "tool-result:" ++ entry.callId
        callId := result.callId
        toolName := result.toolName
        status := result.status
        content := result.content
        artifactRefs := result.artifactRefs
        isError := result.status ≠ .completed
        errorCode := result.errorCode
        errorMessage := result.errorMessage
        interactionAnswers := entry.interactionAnswers
        createdAt := createdAt }

def flushBatch (transcript : List AgentMessage) (batch : ToolCallBatch) (createdAt : Timestamp) :
    Except KernelError (List AgentMessage × ToolCallBatch) :=
  if batch.resultsFlushed then .ok (transcript, batch)
  else
    let ordered := batch.entries.insertionSort (·.sourceIndex ≤ ·.sourceIndex)
    let due := ordered.filter fun entry => !entry.resultFlushed && entry.state = .terminal
    match due.mapM (toolResultMessage · createdAt) with
    | .error error => .error error
    | .ok results => .ok (transcript ++ results.map AgentMessage.toolResult,
        { batch with
          entries := batch.entries.map fun entry =>
            if entry.state = .terminal then { entry with resultFlushed := true } else entry
          resultsFlushed := batch.entries.all (·.state = .terminal) })

def flushOthers (batchIndex : Nat) (createdAt : Timestamp) :
    List AgentMessage → List (ToolCallBatch × Nat) →
      Except KernelError (List AgentMessage × List ToolCallBatch)
  | transcript, [] => .ok (transcript, [])
  | transcript, (batch, index) :: rest =>
      if index = batchIndex || batch.resultsFlushed ||
          !batch.entries.all (·.state = .terminal) then
        match flushOthers batchIndex createdAt transcript rest with
        | .error error => .error error
        | .ok (transcript, batches) => .ok (transcript, batch :: batches)
      else
        match flushBatch transcript batch createdAt with
        | .error error => .error error
        | .ok (transcript, batch) =>
            match flushOthers batchIndex createdAt transcript rest with
            | .error error => .error error
            | .ok (transcript, batches) => .ok (transcript, batch :: batches)

/-! ## The observed Run -/

/-- Waiting belongs to the remaining children. -/
def statusAfterObservation (run : OrchestratorRunState) : RunStatus :=
  if hasVisibleInput run then .awaitingUser
  else if run.entries.any fun entry => entry.state = .executing || entry.state = .waitingExternal
    then .waitingExternal
  else .running

/-- The observed batch: a result is flushed at once, beside the entries that are still open. -/
def flushObserved (batchIndex : Nat) (observation : ToolObservation) (now : Timestamp)
    (transcript : List AgentMessage) (batches : List ToolCallBatch) :
    Except KernelError (List AgentMessage × List ToolCallBatch) :=
  match observation.outcome, batches[batchIndex]? with
  | .result _, some batch =>
      match flushBatch transcript batch now with
      | .error error => .error error
      | .ok (transcript, batch) => .ok (transcript, batches.set batchIndex batch)
  | _, _ => .ok (transcript, batches)

def observedBatches (run : OrchestratorRunState) (batchIndex entryIndex : Nat)
    (entry : ToolBatchEntry) (observation : ToolObservation) : List ToolCallBatch :=
  closeSurfaces batchIndex entry observation
    (withEntry batchIndex entryIndex (observedEntry entry observation) run).toolBatches

/-- The updates that `observe_tool` checkpoints. -/
def observedRun (run : OrchestratorRunState) (batchIndex entryIndex : Nat)
    (entry : ToolBatchEntry) (observation : ToolObservation) (now : Timestamp) :
    Except KernelError OrchestratorRunState :=
  match flushObserved batchIndex observation now run.transcript
      (observedBatches run batchIndex entryIndex entry observation) with
  | .error error => .error error
  | .ok (transcript, batches) =>
      match flushOthers batchIndex now transcript batches.zipIdx with
      | .error error => .error error
      | .ok (transcript, batches) =>
          let flushed := { run with toolBatches := batches, transcript := transcript }
          let resulted :=
            match observation.outcome with
            | .result result => { flushed with
                artifactRefs := mergeArtifactRefs run.artifactRefs [result]
                consecutiveModelJoins := 0 }
            | .suspension _ => flushed
          .ok { resulted with status := statusAfterObservation flushed }

def observationCommand (observationId : String) : CommandId :=
  ⟨"tool-observation", [observationId]⟩

def outcomeCorrelates (entry : ToolBatchEntry) (invocation : ToolInvocation)
    (outcome : ToolExecutionOutcome) : Except KernelError Unit :=
  match outcome with
  | .result result =>
      if result.callId = entry.callId ∧ result.toolName = entry.toolName then .ok ()
      else .error (.invalidValue "observation result does not correlate")
  | .suspension suspension =>
      if suspension.invocationId = invocation.invocationId then .ok ()
      else .error (.invalidValue "observation suspension does not correlate")

def observationCheckpoint (run updated : OrchestratorRunState) (observationId : String)
    (now : Timestamp) : Except KernelError OrchestratorRunState :=
  match casMutateAlone run (checkpointCandidate run (fun _ => updated) now) run.stateVersion
      (observationCommand observationId) with
  | .error message => .error (.invalidValue message)
  | .ok ⟨.accepted, some stored⟩ => .ok stored
  | .ok ⟨.replayed, some stored⟩ => .ok stored
  | .ok _ => .error (.conflict "checkpoint failed")

def observeTool (run : OrchestratorRunState) (observation : ToolObservation) (now : Timestamp) :
    Except KernelError OrchestratorRunState :=
  if run.status = .canceling then
    .error (.conflict "canceling Run cannot accept a tool observation")
  else
    match findInvocation run observation.invocationId with
    | none => .error (.raised observation.invocationId)
    | some (batchIndex, entryIndex) =>
        match entryAt? run batchIndex entryIndex with
        | none => .error (.raised "list index out of range")
        | some entry =>
            match entry.invocation with
            | none => .error (.conflict "tool observation target has no invocation")
            | some invocation =>
                if observation.invocationId ≠ invocation.invocationId then
                  .error (.invalidValue "observation invocation does not correlate")
                else
                  match outcomeCorrelates entry invocation observation.outcome with
                  | .error error => .error error
                  | .ok () =>
                      if run.status.isTerminal then
                        if observation.observationId ∈ entry.processedObservationIds then .ok run
                        else
                          .error (.conflict "terminal Run cannot accept a new tool observation")
                      else if run.status.isSuspended = false then
                        .error (.conflict "tool observations require a suspended Run")
                      else if isSuspendedEntry entry.state = false then
                        .error (.conflict "tool observation target is not suspended")
                      else if observation.observationId ∈ entry.processedObservationIds then
                        .ok run
                      else
                        match observedRun run batchIndex entryIndex entry observation now with
                        | .error error => .error error
                        | .ok updated =>
                            observationCheckpoint run updated observation.observationId now

end Hybro.Kernel
