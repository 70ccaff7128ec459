import Hybro.Orchestrator.RunFactory

/-! # Terminal decisions and projection settlement

The pure transitions that end a Run and that move its projection outbox. The
commit functions copy the Run without validating it, so what they leave
unchecked is exactly what the caller has to have closed before.
-/

namespace Hybro.Orchestrator

/-! ## Evaluating a terminal decision -/

inductive TerminalDecision
  | ready
  | waitingExternal
  | awaitingUser
  | operationalRejection
  | terminalConflict
  deriving DecidableEq

inductive StoreOutcome
  | accepted
  | replayed
  | conflict
  | error
  deriving DecidableEq

structure ArtifactDeliveryCheck where
  artifactRef : String
  «exists» : Bool
  belongsToRun : Bool
  belongsToRoom : Bool
  deliverable : Bool

structure TerminalDecisionFacts where
  finalMessageId : String
  terminalObservationsPersisted : Bool := true
  cancellationWon : Bool := false
  artifactChecks : List ArtifactDeliveryCheck := []

structure TerminalDecisionEvaluation where
  decision : TerminalDecision
  reason : String
  deriving DecidableEq

def findFinalMessage (run : OrchestratorRunState) (finalMessageId : String) :
    Option AssistantMessage :=
  run.transcript.findSome? fun message =>
    match message with
    | .assistant assistant => if assistant.messageId = finalMessageId then some assistant else none
    | _ => none

def acceptedPublicToolTerminalsComplete (run : OrchestratorRunState) : Bool :=
  run.entries.all fun entry => entry.acceptance.isNone || entry.publicTerminalEmitted

def ContentPart.artifactRef? : ContentPart → Option String
  | .artifactRef reference _ => some reference
  | _ => none

/-- The delivery check of one referenced artifact; the last check of a reference counts. -/
def artifactDeliverable (run : OrchestratorRunState) (checks : List ArtifactDeliveryCheck)
    (artifactRef : String) : Bool :=
  match checks.reverse.find? (·.artifactRef == artifactRef) with
  | none => false
  | some check =>
      check.exists && check.belongsToRun && check.belongsToRoom && check.deliverable &&
        artifactRef ∈ run.artifactRefs

def evaluateTerminalDecision (run : OrchestratorRunState) (facts : TerminalDecisionFacts) :
    TerminalDecisionEvaluation :=
  if facts.cancellationWon ∨ run.status = .canceling ∨ run.status = .canceled then
    ⟨.terminalConflict, "cancellation already won"⟩
  else if run.status.isTerminal then
    ⟨.terminalConflict, "Run is already terminal"⟩
  else
    match findFinalMessage run facts.finalMessageId with
    | none =>
        ⟨.operationalRejection, "stable final message is not part of the pending aggregate"⟩
    | some finalMessage =>
        if run.proposedFinalMessageId ≠ some facts.finalMessageId then
          ⟨.operationalRejection, "stable final message is not part of the pending aggregate"⟩
        else if run.entries.any (·.state.isParked) then
          ⟨.awaitingUser, "user interaction remains pending"⟩
        else if run.entries.any fun entry =>
            entry.state ∈ [.pending, .accepted, .executing, .waitingExternal] then
          ⟨.waitingExternal, "ToolBatch entry remains active"⟩
        else if !acceptedPublicToolTerminalsComplete run then
          ⟨.waitingExternal, "an accepted Tool public terminal is not durable"⟩
        else if !facts.terminalObservationsPersisted then
          ⟨.waitingExternal, "a required terminal call observation is not persisted"⟩
        else
          match (finalMessage.content.filterMap ContentPart.artifactRef?).find?
              (!artifactDeliverable run facts.artifactChecks ·) with
          | some artifactRef =>
              ⟨.operationalRejection,
                s!"artifact '{artifactRef}' is missing, foreign, or undeliverable"⟩
          | none => ⟨.ready, "completion gates pass"⟩

/-! ## Terminal events -/

structure OrchestratorEvent where
  eventId : String
  eventType : String
  sessionId : String
  runId : String
  conversationId : String
  roomEpoch : Nat
  sequence : Nat
  stateVersion : Nat
  causationId : CommandId
  correlationId : Option String := none
  payload : JsonObject
  createdAt : Timestamp

def CommandPart.render : CommandPart → String
  | .text value => value
  | .number value => toString value

def CommandId.render (command : CommandId) : String :=
  ":".intercalate (command.label :: command.parts.map CommandPart.render)

/-- `OrchestratorEvent.model_dump(mode="json")` -/
def OrchestratorEvent.modelDump (event : OrchestratorEvent) : JsonObject :=
  [("schema_version", .num 2), ("event_id", .str event.eventId),
    ("event_type", .str event.eventType), ("session_id", .str event.sessionId), ("run_id", .str event.runId),
    ("room_id", .str event.conversationId), ("room_epoch", .num event.roomEpoch),
    ("sequence", .num event.sequence), ("state_version", .num event.stateVersion),
    ("causation_id", .str event.causationId.render),
    ("correlation_id", event.correlationId.elim .null .str), ("payload", .obj event.payload),
    ("created_at", .num event.createdAt)]

def RunStatus.value : RunStatus → String
  | .queued => "queued"
  | .running => "running"
  | .waitingExternal => "waiting_external"
  | .awaitingUser => "awaiting_user"
  | .canceling => "canceling"
  | .finalizing => "finalizing"
  | .completed => "completed"
  | .failed => "failed"
  | .canceled => "canceled"
  | .budgetExhausted => "budget_exhausted"

/-- `max((item.event_sequence for item in run.projection_outbox), default=0) + 1` -/
def nextEventSequence (run : OrchestratorRunState) : Nat :=
  (run.projectionOutbox.map (·.eventSequence)).foldl max 0 + 1

/-! ## Committing a completion -/

structure TerminalCommitRequest where
  expectedStateVersion : Nat
  commandId : CommandId
  eventId : String
  eventSequence : Nat
  eventSequencePositive : 0 < eventSequence
  eventIntentId : String
  finalMessageIntentId : String
  publicRunIntentId : String
  finalMessageTarget : String
  publicRunTarget : String
  terminalReason : String := "completed"
  correlationId : Option String := none
  createdAt : Timestamp

structure TerminalCommitResult where
  outcome : StoreOutcome
  evaluation : TerminalDecisionEvaluation
  run : OrchestratorRunState
  event : Option OrchestratorEvent := none

/-- Building the result validates the Run in it once more. -/
def TerminalCommitResult.build (outcome : StoreOutcome) (evaluation : TerminalDecisionEvaluation)
    (run : OrchestratorRunState) (event : Option OrchestratorEvent := none) :
    Except String TerminalCommitResult := do
  aggregateIdentityAndUniqueness run
  return ⟨outcome, evaluation, run, event⟩

/-- Every event id keeps one sequence; `none` when two intents disagree. -/
def allocatedSequences :
    List ProjectionIntent → List (String × Nat) → Option (List (String × Nat))
  | [], allocated => some allocated
  | item :: rest, allocated =>
      match allocated.lookup item.eventId with
      | none => allocatedSequences rest (allocated ++ [(item.eventId, item.eventSequence)])
      | some sequence =>
          if sequence = item.eventSequence then allocatedSequences rest allocated else none

/-- The sequences in use; `none` when two event ids share one. -/
def occupiedSequences : List (String × Nat) → List Nat → Option (List Nat)
  | [], occupied => some occupied
  | (_, sequence) :: rest, occupied =>
      if sequence ∈ occupied then none else occupiedSequences rest (occupied ++ [sequence])

def terminalEvent (run : OrchestratorRunState) (eventId : String) (eventSequence : Nat)
    (status : RunStatus) (commandId : CommandId) (correlationId : Option String)
    (payload : JsonObject) (createdAt : Timestamp) : OrchestratorEvent where
  eventId := eventId
  eventType := s!"run_{status.value}"
  sessionId := run.sessionId
  runId := run.runId
  conversationId := run.conversationId
  roomEpoch := run.request.roomEpoch
  sequence := eventSequence
  stateVersion := run.stateVersion + 1
  causationId := commandId
  correlationId := correlationId
  payload := payload
  createdAt := createdAt

def completionIntents (run : OrchestratorRunState) (facts : TerminalDecisionFacts)
    (request : TerminalCommitRequest) (event : OrchestratorEvent) : List ProjectionIntent :=
  [{ intentId := request.eventIntentId
     kind := "append_orchestrator_event"
     target := "orchestrator_run_events"
     dedupeKey := event.eventId
     required := true
     eventId := event.eventId
     eventSequence := event.sequence
     causationId := request.commandId
     payload := event.modelDump
     status := .pending },
   { intentId := request.finalMessageIntentId
     kind := "deliver_final_message"
     target := request.finalMessageTarget
     dedupeKey := s!"final-message:{facts.finalMessageId}"
     required := true
     eventId := event.eventId
     eventSequence := event.sequence
     causationId := request.commandId
     payload := [("run_id", .str run.runId), ("room_id", .str run.conversationId),
       ("message_id", .str facts.finalMessageId)]
     status := .pending },
   { intentId := request.publicRunIntentId
     kind := "project_terminal_run_status"
     target := request.publicRunTarget
     dedupeKey := s!"run-completed:{run.runId}"
     required := true
     eventId := event.eventId
     eventSequence := event.sequence
     causationId := request.commandId
     payload := [("run_id", .str run.runId), ("status", .str "completed")]
     status := .pending }]

/-- The `model_copy` of a completion. -/
def completedRun (run : OrchestratorRunState) (request : TerminalCommitRequest)
    (intents : List ProjectionIntent) : OrchestratorRunState :=
  { run with
    status := .completed
    terminalReason := some request.terminalReason
    projectionState := .pending
    projectionOutbox := run.projectionOutbox ++ intents
    processedCommandIds := run.processedCommandIds ++ [request.commandId]
    stateVersion := run.stateVersion + 1
    updatedAt := request.createdAt }

def commitTerminalDecision (run : OrchestratorRunState) (facts : TerminalDecisionFacts)
    (request : TerminalCommitRequest) : Except String TerminalCommitResult :=
  if request.commandId ∈ run.processedCommandIds then
    TerminalCommitResult.build .replayed ⟨.terminalConflict, "command already applied"⟩ run
  else if request.expectedStateVersion ≠ run.stateVersion then
    TerminalCommitResult.build .conflict ⟨.terminalConflict, "state version changed"⟩ run
  else
    let evaluation := evaluateTerminalDecision run facts
    if evaluation.decision ≠ .ready then
      TerminalCommitResult.build .conflict evaluation run
    else
      let intentIds :=
        [request.eventIntentId, request.finalMessageIntentId, request.publicRunIntentId]
      if ¬ intentIds.Nodup ∨
          (∃ item ∈ run.projectionOutbox, item.intentId ∈ intentIds) ∨
          (∃ item ∈ run.projectionOutbox, item.eventId = request.eventId) then
        TerminalCommitResult.build .conflict
          ⟨.terminalConflict, "terminal event or intent identity is already allocated"⟩ run
      else
        match allocatedSequences run.projectionOutbox [] with
        | none =>
            TerminalCommitResult.build .conflict
              ⟨.terminalConflict, "existing event identity has inconsistent sequences"⟩ run
        | some allocated =>
            match occupiedSequences allocated [] with
            | none =>
                TerminalCommitResult.build .conflict
                  ⟨.terminalConflict, "existing event sequence is allocated more than once"⟩ run
            | some occupied =>
                let expectedSequence := occupied.foldl max 0 + 1
                if request.eventSequence ≠ expectedSequence then
                  TerminalCommitResult.build .conflict
                    ⟨.terminalConflict, s!"expected terminal event sequence {expectedSequence}"⟩
                    run
                else
                  let event := terminalEvent run request.eventId request.eventSequence .completed
                    request.commandId request.correlationId
                    [("final_message_id", .str facts.finalMessageId),
                      ("terminal_reason", .str request.terminalReason)] request.createdAt
                  TerminalCommitResult.build .accepted evaluation
                    (completedRun run request (completionIntents run facts request event))
                    (some event)

/-! ## Committing a failure, a cancellation or an exhausted budget -/

inductive TerminalFailureStatus
  | failed
  | canceled
  | budgetExhausted
  deriving DecidableEq

def TerminalFailureStatus.runStatus : TerminalFailureStatus → RunStatus
  | .failed => .failed
  | .canceled => .canceled
  | .budgetExhausted => .budgetExhausted

structure TerminalStatusCommitRequest where
  expectedStateVersion : Nat
  commandId : CommandId
  eventId : String
  eventSequence : Nat
  eventSequencePositive : 0 < eventSequence
  eventIntentId : String
  publicRunIntentId : String
  publicRunTarget : String
  status : TerminalFailureStatus
  terminalReason : String
  cancellationCause : Option CancellationCause := none
  /-- canceled terminal status requires cancellation_cause, and no other allows it -/
  causeMatchesStatus : cancellationCause.isSome ↔ status = .canceled
  correlationId : Option String := none
  createdAt : Timestamp

structure TerminalStatusCommitResult where
  outcome : StoreOutcome
  run : OrchestratorRunState
  event : Option OrchestratorEvent := none

def TerminalStatusCommitResult.build (outcome : StoreOutcome) (run : OrchestratorRunState)
    (event : Option OrchestratorEvent := none) : Except String TerminalStatusCommitResult := do
  aggregateIdentityAndUniqueness run
  return ⟨outcome, run, event⟩

def statusIntents (run : OrchestratorRunState) (request : TerminalStatusCommitRequest)
    (event : OrchestratorEvent) : List ProjectionIntent :=
  [{ intentId := request.eventIntentId
     kind := "append_orchestrator_event"
     target := "orchestrator_run_events"
     dedupeKey := event.eventId
     required := true
     eventId := event.eventId
     eventSequence := event.sequence
     causationId := request.commandId
     payload := event.modelDump
     status := .pending },
   { intentId := request.publicRunIntentId
     kind := "project_terminal_run_status"
     target := request.publicRunTarget
     dedupeKey := s!"run-{request.status.runStatus.value}:{run.runId}"
     required := true
     eventId := event.eventId
     eventSequence := event.sequence
     causationId := request.commandId
     payload := [("run_id", .str run.runId), ("status", .str request.status.runStatus.value)]
     status := .pending }]

/-- The `model_copy` of a non-success end. -/
def endedRun (run : OrchestratorRunState) (request : TerminalStatusCommitRequest)
    (intents : List ProjectionIntent) : OrchestratorRunState :=
  { run with
    status := request.status.runStatus
    terminalReason := some request.terminalReason
    cancellationCause := request.cancellationCause
    projectionState := .pending
    projectionOutbox := run.projectionOutbox ++ intents
    processedCommandIds := run.processedCommandIds ++ [request.commandId]
    stateVersion := run.stateVersion + 1
    updatedAt := request.createdAt }

def commitTerminalStatus (run : OrchestratorRunState) (request : TerminalStatusCommitRequest) :
    Except String TerminalStatusCommitResult :=
  if request.commandId ∈ run.processedCommandIds then
    TerminalStatusCommitResult.build .replayed run
  else if request.expectedStateVersion ≠ run.stateVersion then
    TerminalStatusCommitResult.build .conflict run
  else if run.status.isTerminal then
    TerminalStatusCommitResult.build .conflict run
  else if run.status = .canceling ∧
      (request.status ≠ .canceled ∨ request.cancellationCause ≠ run.cancellationCause) then
    TerminalStatusCommitResult.build .conflict run
  else if !acceptedPublicToolTerminalsComplete run then
    TerminalStatusCommitResult.build .conflict run
  else if request.eventSequence ≠ nextEventSequence run then
    TerminalStatusCommitResult.build .conflict run
  else if ¬ [request.eventId, request.eventIntentId, request.publicRunIntentId].Nodup ∨
      ∃ item ∈ run.projectionOutbox, item.eventId = request.eventId ∨
        item.intentId ∈ [request.eventIntentId, request.publicRunIntentId] then
    TerminalStatusCommitResult.build .conflict run
  else
    let event := terminalEvent run request.eventId request.eventSequence request.status.runStatus
      request.commandId request.correlationId [("terminal_reason", .str request.terminalReason)]
      request.createdAt
    TerminalStatusCommitResult.build .accepted
      (endedRun run request (statusIntents run request event)) (some event)

/-! ## What an accepted terminal commit leaves -/

@[simp] theorem evaluateTerminalDecision_terminal {run : OrchestratorRunState}
    {facts : TerminalDecisionFacts} (h : run.status.isTerminal) :
    (evaluateTerminalDecision run facts).decision = .terminalConflict := by
  simp only [evaluateTerminalDecision, h, if_true]
  split <;> rfl

theorem evaluateTerminalDecision_ready {run : OrchestratorRunState}
    {facts : TerminalDecisionFacts} (h : (evaluateTerminalDecision run facts).decision = .ready) :
    run.status.isTerminal = false ∧ run.status ≠ .canceling := by
  constructor
  · cases hterminal : run.status.isTerminal with
    | false => rfl
    | true =>
        rw [evaluateTerminalDecision_terminal hterminal] at h
        cases h
  · intro hcanceling
    unfold evaluateTerminalDecision at h
    rw [if_pos (Or.inr (Or.inl hcanceling))] at h
    cases h

/-- What a result class returns when it validates the Run that it carries. -/
theorem validated_eq_ok {T : Type} {run : OrchestratorRunState} {value result : T} :
    (aggregateIdentityAndUniqueness run >>= fun _ => pure value) = .ok result ↔
      run.Valid ∧ value = result := by
  rw [← aggregateIdentityAndUniqueness_eq_ok]
  cases aggregateIdentityAndUniqueness run with
  | ok checked => simp [bind, Except.bind, pure, Except.pure]
  | error message => simp [bind, Except.bind]

theorem TerminalCommitResult.build_eq_ok {outcome : StoreOutcome}
    {evaluation : TerminalDecisionEvaluation} {run : OrchestratorRunState}
    {event : Option OrchestratorEvent} {result : TerminalCommitResult} :
    TerminalCommitResult.build outcome evaluation run event = .ok result ↔
      run.Valid ∧ ⟨outcome, evaluation, run, event⟩ = result :=
  validated_eq_ok

theorem TerminalStatusCommitResult.build_eq_ok {outcome : StoreOutcome}
    {run : OrchestratorRunState} {event : Option OrchestratorEvent}
    {result : TerminalStatusCommitResult} :
    TerminalStatusCommitResult.build outcome run event = .ok result ↔
      run.Valid ∧ ⟨outcome, run, event⟩ = result :=
  validated_eq_ok

/-- A completion hands the Run back as it was, or passes every gate and validates
the completed Run. -/
theorem commitTerminalDecision_cases (run : OrchestratorRunState) (facts : TerminalDecisionFacts)
    (request : TerminalCommitRequest) :
    (∃ outcome evaluation, outcome ≠ .accepted ∧
      commitTerminalDecision run facts request =
        TerminalCommitResult.build outcome evaluation run) ∨
    (request.commandId ∉ run.processedCommandIds ∧
      (evaluateTerminalDecision run facts).decision = .ready ∧
      ([request.eventIntentId, request.finalMessageIntentId, request.publicRunIntentId].Nodup ∧
        ∀ item ∈ run.projectionOutbox, item.intentId ∉
          [request.eventIntentId, request.finalMessageIntentId, request.publicRunIntentId]) ∧
      ∃ event, commitTerminalDecision run facts request =
        TerminalCommitResult.build .accepted (evaluateTerminalDecision run facts)
          (completedRun run request (completionIntents run facts request event)) (some event)) := by
  unfold commitTerminalDecision
  simp only
  split_ifs with hreplayed hversion hdecision hidentity
  · exact Or.inl ⟨_, _, by simp, rfl⟩
  · exact Or.inl ⟨_, _, by simp, rfl⟩
  · exact Or.inl ⟨_, _, by simp, rfl⟩
  · exact Or.inl ⟨_, _, by simp, rfl⟩
  simp only [not_or, not_not, not_exists, not_and] at hdecision hidentity
  cases allocatedSequences run.projectionOutbox [] with
  | none => exact Or.inl ⟨.conflict, _, by simp, rfl⟩
  | some allocated =>
      cases hoccupied : occupiedSequences allocated [] with
      | none =>
          simp only [hoccupied]
          exact Or.inl ⟨.conflict, _, by simp, rfl⟩
      | some occupied =>
          simp only [hoccupied]
          by_cases hsequence : request.eventSequence = occupied.foldl max 0 + 1
          · rw [if_neg (not_not.mpr hsequence)]
            exact Or.inr ⟨hreplayed, hdecision, ⟨hidentity.1, hidentity.2.1⟩, _, rfl⟩
          · rw [if_pos hsequence]
            exact Or.inl ⟨.conflict, _, by simp, rfl⟩

theorem commitTerminalStatus_cases (run : OrchestratorRunState)
    (request : TerminalStatusCommitRequest) :
    (∃ outcome, outcome ≠ .accepted ∧
      commitTerminalStatus run request = TerminalStatusCommitResult.build outcome run) ∨
    (request.commandId ∉ run.processedCommandIds ∧
      run.status.isTerminal = false ∧
      (run.status = .canceling → request.status = .canceled) ∧
      ([request.eventIntentId, request.publicRunIntentId].Nodup ∧
        ∀ item ∈ run.projectionOutbox, item.intentId ∉
          [request.eventIntentId, request.publicRunIntentId]) ∧
      ∃ event, commitTerminalStatus run request =
        TerminalStatusCommitResult.build .accepted
          (endedRun run request (statusIntents run request event)) (some event)) := by
  unfold commitTerminalStatus
  simp only
  split_ifs with hreplayed hversion hterminal hcanceling hpublic hsequence hidentity
  all_goals first | exact Or.inl ⟨_, by simp, rfl⟩ | skip
  simp only [not_or, not_not, not_exists, not_and] at hidentity
  obtain ⟨hdistinct, hfresh⟩ := hidentity
  refine Or.inr ⟨hreplayed, by simpa using hterminal, ?_, ⟨?_, ?_⟩, ⟨_, rfl⟩⟩
  · intro hstatus
    by_contra hcanceled
    exact hcanceling ⟨hstatus, Or.inl hcanceled⟩
  · exact (List.nodup_cons.mp hdistinct).2
  · intro item hitem
    exact (hfresh item hitem).2

theorem commitTerminalDecision_accepted {run : OrchestratorRunState}
    {facts : TerminalDecisionFacts} {request : TerminalCommitRequest}
    {result : TerminalCommitResult} (h : commitTerminalDecision run facts request = .ok result)
    (hacc : result.outcome = .accepted) :
    (evaluateTerminalDecision run facts).decision = .ready ∧
    [request.eventIntentId, request.finalMessageIntentId, request.publicRunIntentId].Nodup ∧
    ∃ event, result.run = completedRun run request (completionIntents run facts request event) := by
  rcases commitTerminalDecision_cases run facts request with
    ⟨outcome, evaluation, hrefused, heq⟩ | ⟨-, hready, ⟨hdistinct, -⟩, event, heq⟩
  · rw [heq, TerminalCommitResult.build_eq_ok] at h
    obtain ⟨-, rfl⟩ := h
    exact absurd hacc hrefused
  · rw [heq, TerminalCommitResult.build_eq_ok] at h
    obtain ⟨-, rfl⟩ := h
    exact ⟨hready, hdistinct, event, rfl⟩

theorem commitTerminalStatus_accepted {run : OrchestratorRunState}
    {request : TerminalStatusCommitRequest} {result : TerminalStatusCommitResult}
    (h : commitTerminalStatus run request = .ok result) (hacc : result.outcome = .accepted) :
    run.status.isTerminal = false ∧
    [request.eventIntentId, request.publicRunIntentId].Nodup ∧
    ∃ event, result.run = endedRun run request (statusIntents run request event) := by
  rcases commitTerminalStatus_cases run request with
    ⟨outcome, hrefused, heq⟩ | ⟨-, hlive, -, ⟨hdistinct, -⟩, event, heq⟩
  · rw [heq, TerminalStatusCommitResult.build_eq_ok] at h
    obtain ⟨-, rfl⟩ := h
    exact absurd hacc hrefused
  · rw [heq, TerminalStatusCommitResult.build_eq_ok] at h
    obtain ⟨-, rfl⟩ := h
    exact ⟨hlive, hdistinct, event, rfl⟩

private theorem intentIds_append {outbox intents : List ProjectionIntent} {ids : List String}
    (hids : intents.map (·.intentId) = ids) (houtbox : (outbox.map (·.intentId)).Nodup)
    (hdistinct : ids.Nodup) (hfresh : ∀ item ∈ outbox, item.intentId ∉ ids) :
    ((outbox ++ intents).map (·.intentId)).Nodup := by
  rw [List.map_append, hids]
  refine houtbox.append hdistinct ?_
  intro intentId hold hnew
  obtain ⟨item, hitem, rfl⟩ := List.mem_map.mp hold
  exact hfresh item hitem hnew

theorem commandIds_append {commands : List CommandId} {command : CommandId}
    (h : commands.Nodup) (hnew : command ∉ commands) : (commands ++ [command]).Nodup := by
  refine h.append (List.nodup_singleton command) ?_
  intro other hold hother
  rw [List.mem_singleton.mp hother] at hold
  exact hnew hold

theorem OrchestratorRunState.Coherent.metadata_absent {run : OrchestratorRunState}
    (h : run.Coherent) (hlive : run.status.isTerminal = false)
    (hcanceling : run.status ≠ .canceling) : run.cancellationMetadataAbsent := by
  refine h.cancellation.2.2 hcanceling ?_
  intro hcanceled
  rw [hcanceled] at hlive
  cases hlive

theorem completedRun_coherent {run : OrchestratorRunState} {facts : TerminalDecisionFacts}
    {request : TerminalCommitRequest} (h : run.Coherent) (event : OrchestratorEvent)
    (hcommand : request.commandId ∉ run.processedCommandIds)
    (hready : (evaluateTerminalDecision run facts).decision = .ready)
    (hdistinct : [request.eventIntentId, request.finalMessageIntentId,
      request.publicRunIntentId].Nodup)
    (hfresh : ∀ item ∈ run.projectionOutbox, item.intentId ∉
      [request.eventIntentId, request.finalMessageIntentId, request.publicRunIntentId]) :
    (completedRun run request (completionIntents run facts request event)).Coherent := by
  obtain ⟨hlive, hcanceling⟩ := evaluateTerminalDecision_ready hready
  have habsent := h.metadata_absent hlive hcanceling
  exact {
    batchMessageIdsUnique := h.batchMessageIdsUnique
    callIdsUnique := h.callIdsUnique
    artifactRefsUnique := h.artifactRefsUnique
    commandIdsUnique := commandIds_append h.commandIdsUnique hcommand
    intentIdsUnique := intentIds_append rfl h.intentIdsUnique hdistinct hfresh
    publicCallIdsUnique := h.publicCallIdsUnique
    cancellation := ⟨by simp [completedRun], by simp [completedRun], fun _ _ => habsent⟩
    acceptedArePublic := h.acceptedArePublic
    offsetMatchesText := h.offsetMatchesText }

theorem endedRun_cancellation {run : OrchestratorRunState}
    {request : TerminalStatusCommitRequest} {intents : List ProjectionIntent} (h : run.Coherent)
    (hlive : run.status.isTerminal = false)
    (hcanceling : run.status = .canceling → request.status = .canceled) :
    (endedRun run request intents).CancellationConsistent := by
  have hcause := request.causeMatchesStatus
  have hpaired : run.cancellationCommandId.isNone = run.cancellationRequestedAt.isNone := by
    by_cases hstatus : run.status = .canceling
    · obtain ⟨hcommand, hrequested, -, -⟩ := h.cancellation.1 hstatus
      simp [Option.isNone_eq_false_iff.mpr hcommand, Option.isNone_eq_false_iff.mpr hrequested]
    · obtain ⟨hcommand, hrequested, -⟩ := h.metadata_absent hlive hstatus
      simp [hcommand, hrequested]
  refine ⟨?_, ?_, ?_⟩
  · cases hstatus : request.status <;> simp [endedRun, hstatus, TerminalFailureStatus.runStatus]
  · intro hcanceled
    have hstatus : request.status = .canceled := by
      cases hstatus : request.status <;>
        simp [endedRun, hstatus, TerminalFailureStatus.runStatus] at hcanceled ⊢
    exact ⟨hcause.mpr hstatus, hpaired⟩
  · intro _ hcanceled
    have hstatus : request.status ≠ .canceled := by
      intro hstatus
      simp [endedRun, hstatus, TerminalFailureStatus.runStatus] at hcanceled
    obtain ⟨hcommand, hrequested, -⟩ :=
      h.metadata_absent hlive (fun heq => hstatus (hcanceling heq))
    refine ⟨hcommand, hrequested, ?_⟩
    exact Option.not_isSome_iff_eq_none.mp (mt hcause.mp hstatus)

theorem endedRun_coherent {run : OrchestratorRunState} {request : TerminalStatusCommitRequest}
    (h : run.Coherent) (event : OrchestratorEvent)
    (hcommand : request.commandId ∉ run.processedCommandIds)
    (hlive : run.status.isTerminal = false)
    (hcanceling : run.status = .canceling → request.status = .canceled)
    (hdistinct : [request.eventIntentId, request.publicRunIntentId].Nodup)
    (hfresh : ∀ item ∈ run.projectionOutbox, item.intentId ∉
      [request.eventIntentId, request.publicRunIntentId]) :
    (endedRun run request (statusIntents run request event)).Coherent := by
  exact {
    batchMessageIdsUnique := h.batchMessageIdsUnique
    callIdsUnique := h.callIdsUnique
    artifactRefsUnique := h.artifactRefsUnique
    commandIdsUnique := commandIds_append h.commandIdsUnique hcommand
    intentIdsUnique := intentIds_append rfl h.intentIdsUnique hdistinct hfresh
    publicCallIdsUnique := h.publicCallIdsUnique
    cancellation := endedRun_cancellation h hlive hcanceling
    acceptedArePublic := h.acceptedArePublic
    offsetMatchesText := h.offsetMatchesText }

theorem valid_iff_of_terminal {run : OrchestratorRunState} (h : run.status.isTerminal) :
    run.Valid ↔ run.Coherent ∧ run.Closed :=
  ⟨fun hvalid => ⟨hvalid.toCoherent, hvalid.terminalClosed h⟩,
    fun hboth => ⟨hboth.1, fun _ => hboth.2⟩⟩

theorem completedRun_closed {run : OrchestratorRunState} {request : TerminalCommitRequest}
    {intents : List ProjectionIntent} :
    (completedRun run request intents).Closed ↔ run.Closed :=
  ⟨fun h => ⟨h.inactive, h.entriesTerminal, h.batchesFlushed⟩,
    fun h => ⟨h.inactive, h.entriesTerminal, h.batchesFlushed⟩⟩

theorem endedRun_closed {run : OrchestratorRunState} {request : TerminalStatusCommitRequest}
    {intents : List ProjectionIntent} :
    (endedRun run request intents).Closed ↔ run.Closed :=
  ⟨fun h => ⟨h.inactive, h.entriesTerminal, h.batchesFlushed⟩,
    fun h => ⟨h.inactive, h.entriesTerminal, h.batchesFlushed⟩⟩

theorem TerminalFailureStatus.runStatus_isTerminal (status : TerminalFailureStatus) :
    status.runStatus.isTerminal = true := by
  cases status <;> rfl

theorem TerminalCommitResult.build_valid {outcome : StoreOutcome}
    {evaluation : TerminalDecisionEvaluation} {run : OrchestratorRunState}
    {event : Option OrchestratorEvent} (h : run.Valid) :
    TerminalCommitResult.build outcome evaluation run event =
      .ok ⟨outcome, evaluation, run, event⟩ :=
  TerminalCommitResult.build_eq_ok.mpr ⟨h, rfl⟩

theorem TerminalStatusCommitResult.build_valid {outcome : StoreOutcome}
    {run : OrchestratorRunState} {event : Option OrchestratorEvent} (h : run.Valid) :
    TerminalStatusCommitResult.build outcome run event = .ok ⟨outcome, run, event⟩ :=
  TerminalStatusCommitResult.build_eq_ok.mpr ⟨h, rfl⟩

/-- An accepted terminal commit of a valid Run is valid, and one that is validated in
vain raises: that happens to a Run that is still open, and to no other. -/
theorem terminal_commit_valid (run : OrchestratorRunState) (hrun : run.Valid) :
    (∀ facts request,
      (∀ result, commitTerminalDecision run facts request = .ok result →
        result.outcome = .accepted → result.run.Valid ∧ run.Closed) ∧
      (∀ message, commitTerminalDecision run facts request = .error message → ¬ run.Closed)) ∧
    (∀ request,
      (∀ result, commitTerminalStatus run request = .ok result →
        result.outcome = .accepted → result.run.Valid ∧ run.Closed) ∧
      (∀ message, commitTerminalStatus run request = .error message → ¬ run.Closed)) := by
  constructor
  · intro facts request
    rcases commitTerminalDecision_cases run facts request with
      ⟨outcome, evaluation, hrefused, heq⟩ | ⟨hcommand, hready, ⟨hdistinct, hfresh⟩, event, heq⟩
    · rw [heq, TerminalCommitResult.build_valid hrun]
      refine ⟨?_, fun message h => by cases h⟩
      rintro result ⟨rfl⟩ hacc
      exact absurd hacc hrefused
    · have hcoherent :=
        completedRun_coherent hrun.toCoherent event hcommand hready hdistinct hfresh
      have hvalid := (@valid_iff_of_terminal
        (completedRun run request (completionIntents run facts request event)) rfl).trans
        ((and_iff_right hcoherent).trans completedRun_closed)
      rw [heq]
      constructor
      · intro result hresult _
        obtain ⟨hcommitted, rfl⟩ := TerminalCommitResult.build_eq_ok.mp hresult
        exact ⟨hcommitted, hvalid.mp hcommitted⟩
      · intro message hraised hclosed
        rw [TerminalCommitResult.build_valid (hvalid.mpr hclosed)] at hraised
        cases hraised
  · intro request
    rcases commitTerminalStatus_cases run request with
      ⟨outcome, hrefused, heq⟩ |
        ⟨hcommand, hlive, hcanceling, ⟨hdistinct, hfresh⟩, event, heq⟩
    · rw [heq, TerminalStatusCommitResult.build_valid hrun]
      refine ⟨?_, fun message h => by cases h⟩
      rintro result ⟨rfl⟩ hacc
      exact absurd hacc hrefused
    · have hcoherent :=
        endedRun_coherent hrun.toCoherent event hcommand hlive hcanceling hdistinct hfresh
      have hvalid := (@valid_iff_of_terminal
        (endedRun run request (statusIntents run request event))
        request.status.runStatus_isTerminal).trans
        ((and_iff_right hcoherent).trans endedRun_closed)
      rw [heq]
      constructor
      · intro result hresult _
        obtain ⟨hcommitted, rfl⟩ := TerminalStatusCommitResult.build_eq_ok.mp hresult
        exact ⟨hcommitted, hvalid.mp hcommitted⟩
      · intro message hraised hclosed
        rw [TerminalStatusCommitResult.build_valid (hvalid.mpr hclosed)] at hraised
        cases hraised

/-- A Run between two model turns: the answer is proposed, the turn still active. -/
def openTurnRun : OrchestratorRunState :=
  { sampleRun with
    transcript := sampleRun.transcript ++ [.assistant ⟨"answer", [.text "done"], [], .stop, none, 1⟩]
    activeInternalTurnId := some "turn"
    proposedFinalMessageId := some "answer" }

def completionRequest : TerminalCommitRequest where
  expectedStateVersion := 0
  commandId := ⟨"complete", ["run"]⟩
  eventId := "event"
  eventSequence := 1
  eventSequencePositive := by decide
  eventIntentId := "intent-event"
  finalMessageIntentId := "intent-message"
  publicRunIntentId := "intent-run"
  finalMessageTarget := "room"
  publicRunTarget := "runs"
  createdAt := 2

def closedTurnRun : OrchestratorRunState := { openTurnRun with activeInternalTurnId := none }

def failureRequest : TerminalStatusCommitRequest where
  expectedStateVersion := 0
  commandId := ⟨"terminate", ["run"]⟩
  eventId := "event"
  eventSequence := 1
  eventSequencePositive := by decide
  eventIntentId := "intent-event"
  publicRunIntentId := "intent-run"
  publicRunTarget := "runs"
  status := .failed
  terminalReason := "deadline"
  causeMatchesStatus := by decide
  createdAt := 2

/-- The closed Run is completed, and ended, as a valid Run; on the open one the completion
that passes every gate raises. -/
theorem terminal_commit_valid_closedTurnRun :
    (∃ result, commitTerminalDecision closedTurnRun { finalMessageId := "answer" }
        completionRequest = .ok result ∧ result.outcome = .accepted ∧ result.run.Valid) ∧
    (∃ result, commitTerminalStatus closedTurnRun failureRequest = .ok result ∧
      result.outcome = .accepted ∧ result.run.Valid) ∧
    commitTerminalDecision openTurnRun { finalMessageId := "answer" } completionRequest =
      .error "terminal canonical Runs cannot retain active lifecycle state" ∧
    ¬ openTurnRun.Closed := by
  have hclosed : closedTurnRun.Valid := aggregateIdentityAndUniqueness_eq_ok.mp (by decide)
  have hopen : openTurnRun.Valid := aggregateIdentityAndUniqueness_eq_ok.mp (by decide)
  obtain ⟨hdecision, hstatus⟩ := terminal_commit_valid closedTurnRun hclosed
  have hraised : commitTerminalDecision openTurnRun { finalMessageId := "answer" }
      completionRequest =
        .error "terminal canonical Runs cannot retain active lifecycle state" := by rfl
  refine ⟨⟨_, rfl, rfl, ((hdecision { finalMessageId := "answer" } completionRequest).1 _ rfl
    rfl).1⟩, ⟨_, rfl, rfl, ((hstatus failureRequest).1 _ rfl rfl).1⟩, hraised, ?_⟩
  exact ((terminal_commit_valid openTurnRun hopen).1 _ _).2 _ hraised

/-! ## Intent transitions -/

/-- `PROJECTION_INTENT_TRANSITIONS` -/
def ProjectionIntentStatus.transitions : ProjectionIntentStatus → List ProjectionIntentStatus
  | .pending => [.claimed, .blocked]
  | .claimed => [.pending, .completed, .blocked]
  | .completed => []
  | .blocked => []

def ProjectionIntentStatus.value : ProjectionIntentStatus → String
  | .pending => "pending"
  | .claimed => "claimed"
  | .completed => "completed"
  | .blocked => "blocked"

def transitionProjectionIntent (intent : ProjectionIntent) (toStatus : ProjectionIntentStatus)
    (claimOwner : Option String := none) (claimExpiresAt : Option Timestamp := none)
    (blockedReason : Option String := none) (nextAttemptAt : Option Timestamp := none) :
    Except String ProjectionIntent := do
  if toStatus ∉ intent.status.transitions then
    throw s!"illegal projection transition: {intent.status.value} -> {toStatus.value}"
  if toStatus = .claimed ∧ (claimOwner = none ∨ claimExpiresAt = none) then
    throw "claimed intents require an owner and lease expiry"
  if toStatus = .blocked ∧ truthy blockedReason = false then
    throw "blocked intents require a reason"
  return { intent with
    status := toStatus
    blockedReason := if toStatus = .blocked then blockedReason else none
    claimOwner := if toStatus = .claimed then claimOwner else none
    claimExpiresAt := if toStatus = .claimed then claimExpiresAt else none
    attemptCount := intent.attemptCount + (if toStatus = .claimed then 1 else 0)
    nextAttemptAt := nextAttemptAt }

/-! ## Settlement -/

def evaluateProjectionSettlement (intents : List ProjectionIntent) : ProjectionState :=
  let required := intents.filter (·.required)
  if required = [] then .pending
  else if required.any (·.status = .blocked) then .blocked
  else if required.any (·.status ≠ .completed) then .pending
  else .settled

/-- The identity by which intents of one terminal commit belong together. -/
def ProjectionIntent.groupKey (intent : ProjectionIntent) : String × Nat × CommandId :=
  (intent.eventId, intent.eventSequence, intent.causationId)

def mandatoryKinds (status : RunStatus) : List String :=
  ["append_orchestrator_event", "project_terminal_run_status"] ++
    (if status = .completed then ["deliver_final_message"] else [])

/-- Whether one group of intents holds every mandatory projection of the terminal status. -/
def groupMatches (run : OrchestratorRunState) (items : List ProjectionIntent) : Bool :=
  let required := items.filter (·.required)
  (mandatoryKinds run.status).all (fun kind => required.any (·.kind == kind)) &&
    required.any (fun item => item.kind == "project_terminal_run_status" &&
      item.payload.get "status" == some (.str run.status.value)) &&
    required.any (fun item => item.kind == "append_orchestrator_event" &&
      item.payload.get "event_type" == some (.str s!"run_{run.status.value}")) &&
    (run.status != .completed || required.any (fun item =>
      item.kind == "deliver_final_message" &&
        item.payload.get "message_id" ==
          some (run.proposedFinalMessageId.elim .null .str)))

def hasMandatoryTerminalIntents (run : OrchestratorRunState) : Bool :=
  let keys := (run.projectionOutbox.map ProjectionIntent.groupKey).dedup
  (keys.filter fun key =>
    groupMatches run (run.projectionOutbox.filter (·.groupKey == key))).length == 1

structure SettlementResult where
  outcome : StoreOutcome
  run : OrchestratorRunState

def transitionProjectionSettlement (run : OrchestratorRunState) (expectedStateVersion : Nat)
    (updatedAt : Timestamp) : SettlementResult :=
  if expectedStateVersion ≠ run.stateVersion then ⟨.conflict, run⟩
  else if !run.status.isTerminal then ⟨.conflict, run⟩
  else
    let projectionState :=
      if hasMandatoryTerminalIntents run then evaluateProjectionSettlement run.projectionOutbox
      else .pending
    if projectionState = run.projectionState then ⟨.replayed, run⟩
    else ⟨.accepted, { run with
      projectionState := projectionState
      stateVersion := run.stateVersion + 1
      updatedAt := updatedAt }⟩

end Hybro.Orchestrator
