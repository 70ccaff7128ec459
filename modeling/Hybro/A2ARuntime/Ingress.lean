import Hybro.A2ARuntime.LedgerRules
import Hybro.Kernel.Observation

/-! # The observation processor

What `A2AObservationProcessor` does with one recorded observation: it applies the
observation to the call ledger and delivers it to the kernel. One row is processed
at a time. The ledger and the Run are written one after the other: a processing that a
port or a lost claim interrupts leaves what it has written by then.
-/

namespace Hybro.A2ARuntime

open Orchestrator Kernel PythonList PythonText

/-! ## Typed interactions -/

structure HITLQuestionSpec where
  questionId : String
  interactionKind : String
  prompt : String
  answerKind : String
  required : Bool := true
  choices : List String := []
  deriving DecidableEq

structure A2AInteractionSpec where
  interactionId : String
  questions : List HITLQuestionSpec
  deriving DecidableEq

/-! ## Inbox rows -/

inductive InboxState
  | pending
  | claimed
  | ledgerApplied
  | outcomePending
  | sessionApplied
  | completed
  | quarantined
  deriving DecidableEq

inductive DeliveryRoute
  | unresolved
  | executor
  | observationSink
  deriving DecidableEq

inductive RowDelivery
  | pending
  | checkpointed
  | completed
  deriving DecidableEq

structure A2AObservationInboxRecord where
  bindingScope : String
  conversationId : String
  roomEpoch : Nat
  callRecordId : Option String := none
  observation : NormalizedA2AObservation
  state : InboxState := .pending
  deliveryRoute : DeliveryRoute := .unresolved
  deliveryState : RowDelivery := .pending
  outcomeDigest : Option String := none
  attemptCount : Nat := 0
  deriving DecidableEq

def A2AObservationInboxRecord.observationId (row : A2AObservationInboxRecord) : String :=
  row.observation.observationId

/-- `state in {"completed", "quarantined"}` -/
def A2AObservationInboxRecord.isDone (row : A2AObservationInboxRecord) : Bool :=
  row.state = .completed || row.state = .quarantined

def A2AObservationInboxRecord.claim (row : A2AObservationInboxRecord) :
    A2AObservationInboxRecord :=
  { row with state := .claimed, attemptCount := row.attemptCount + 1 }

/-- `_release_inbox` -/
def A2AObservationInboxRecord.release (row : A2AObservationInboxRecord) (state : InboxState)
    (route : Option DeliveryRoute := none) (deliveryState : Option RowDelivery := none)
    (outcomeDigest : Option String := none) : A2AObservationInboxRecord :=
  { row with
    state := state
    deliveryRoute := route.getD row.deliveryRoute
    deliveryState := deliveryState.getD row.deliveryState
    outcomeDigest := orElse outcomeDigest row.outcomeDigest }

/-- `defer_poison` -/
def A2AObservationInboxRecord.defer (row : A2AObservationInboxRecord)
    (maxTransportAttempts : Nat) : A2AObservationInboxRecord :=
  row.release (if maxTransportAttempts ≤ row.attemptCount then .quarantined else .pending)

/-! ## What the processor is built with -/

/-- The digests and validators of the libraries, and the processor's policy. -/
structure ProcessorEnv where
  resultDigest : ToolResult → String
  validateInteraction : JsonObject → Option A2AInteractionSpec
  interactionDigest : A2AInteractionSpec → String
  toolObservationDigest : ToolObservation → String
  evidenceDigest : NormalizedA2AObservation → String
  policy : A2ARuntimePolicy

structure PortAnswers where
  /-- The claim is renewed and the Room epoch is still active. -/
  renewed : Nat → Bool
  materializeInboundArtifacts : List String → Except String (List String)
  createOrReplay : Except String String
  activate : Except String Unit
  abandon : String → Except String Unit
  insertConflict : Except String Unit
  now : Timestamp

inductive Interruption
  | claimLost
  | raised (message : String)
  deriving DecidableEq

def raisedAs {α : Type} : Except String α → Except Interruption α
  | .ok value => .ok value
  | .error message => .error (.raised message)

/-- `_renew_and_verify_epoch`, the `turn`-th time. -/
def renewAndVerifyEpoch (answers : PortAnswers) (turn : Nat) : Except Interruption Unit :=
  if answers.renewed turn then .ok () else .error .claimLost

/-! ## What the Run store shows the processor -/

def isSuspensionCheckpointed (run : OrchestratorRunState) (invocationId : String) : Bool :=
  run.entries.any fun entry =>
    entry.invocation.any (·.invocationId = invocationId) && isSuspendedEntry entry.state

def isOutcomeCheckpointed (env : ProcessorEnv) (run : OrchestratorRunState)
    (invocationId outcomeDigest : String) : Bool :=
  run.entries.any fun entry =>
    entry.invocation.any (·.invocationId = invocationId) &&
      entry.bufferedTerminalResult.any (env.resultDigest · = outcomeDigest)

def hasProcessedObservation (run : OrchestratorRunState) (invocationId observationId : String) :
    Bool :=
  run.entries.any fun entry =>
    entry.invocation.any (·.invocationId = invocationId) &&
      decide (observationId ∈ entry.processedObservationIds)

/-! ## The delivered observation -/

/-- `_answer_text` without labels -/
def answerText : HITLAnswer → String
  | .text text => text
  | .singleChoice choice other =>
      if truthy choice then choice.getD "" else if truthy other then other.getD "" else ""
  | .multiChoice choices other =>
      ", ".intercalate (choices ++ if truthy other then other.toList else [])
  | .confirmation confirmed => if confirmed then "Yes" else "No"
  | .authorizationResult _ => "Signed in"
  | .policyDecision approve => if approve then "Approved" else "Rejected"

def modelAnswerText (answer : HITLAnswer) : String :=
  firstChars 1000 (answerText answer)

def interactionQuestion (question : HITLQuestionSpec) : ToolInteractionQuestion where
  questionId := question.questionId
  interactionKind := question.interactionKind
  prompt := question.prompt
  answerKind := question.answerKind
  required := question.required
  choices := if question.choices = [] then none else some question.choices

def interactionAnswersOf (command : A2AContinuationCommand) : ToolInteractionAnswers where
  interactionId := command.interactionId
  answers := command.answers.map fun answer => ⟨answer.questionId, modelAnswerText answer.answer⟩

def ObservationKind.callState : ObservationKind → AgentCallState
  | .inputRequired => .inputRequired
  | .authRequired => .authRequired
  | _ => .working

/-- `status`: anything that is not a question is taken for waiting. -/
def ObservationKind.suspensionStatus : ObservationKind → ToolSuspensionStatus
  | .inputRequired => .inputRequired
  | .authRequired => .authRequired
  | _ => .waitingExternal

def typedSuspension (env : ProcessorEnv) (record : AgentCallLedgerRecord)
    (observation : NormalizedA2AObservation) : Except String ToolSuspension :=
  match observation.interactionSpec with
  | none => .error "typed interaction observation lost its interaction spec"
  | some spec =>
      match env.validateInteraction spec with
      | none => .error "typed interaction observation has an invalid interaction spec"
      | some interaction =>
          if record.state ≠ observation.eventKind.callState ∨
              record.pendingInteractionId ≠ some interaction.interactionId ∨
              record.interactionRevision = none ∨
              record.interactionFingerprint ≠ some (env.interactionDigest interaction) then
            .error "typed interaction observation does not match the persisted call"
          else
            .ok {
              invocationId := record.invocationId
              status := observation.eventKind.suspensionStatus
              observationCursor := observation.cursor
              callRecordId := some record.callRecordId
              interactionId := some interaction.interactionId
              interactionFingerprint := some (env.interactionDigest interaction)
              questions := interaction.questions.map interactionQuestion }

def waitingSuspension (record : AgentCallLedgerRecord) (observation : NormalizedA2AObservation) :
    ToolSuspension where
  invocationId := record.invocationId
  status := .waitingExternal
  observationCursor := observation.cursor
  callRecordId := some record.callRecordId

def toolOutcome (env : ProcessorEnv) (record : AgentCallLedgerRecord)
    (observation : NormalizedA2AObservation) : Except String ToolExecutionOutcome :=
  match record.terminalResult with
  | some result => .ok (.result result)
  | none =>
      if observation.eventKind.isInteraction then
        match typedSuspension env record observation with
        | .error message => .error message
        | .ok suspension => .ok (.suspension suspension)
      else .ok (.suspension (waitingSuspension record observation))

def toToolObservation (env : ProcessorEnv) (record : AgentCallLedgerRecord)
    (observation : NormalizedA2AObservation) : Except String ToolObservation :=
  match toolOutcome env record observation with
  | .error message => .error message
  | .ok outcome => .ok {
      observationId := observation.observationId
      invocationId := record.invocationId
      outcome := outcome
      observedAt := observation.observedAt
      interactionAnswers := record.continuationCommand.map interactionAnswersOf }

/-! ## Preparing the observation -/

def invalidInteraction (observation : NormalizedA2AObservation) : NormalizedA2AObservation :=
  { observation with
    eventKind := .terminal
    status := some .failed
    content := [.text "The Agent returned invalid interaction metadata."]
    artifactRefs := []
    interactionSpec := none
    errorCode := some "invalid_interaction_metadata"
    errorMessage := some "Agent interaction metadata was invalid." }

def typedObservation (env : ProcessorEnv) (observation : NormalizedA2AObservation) :
    NormalizedA2AObservation × Option A2AInteractionSpec :=
  if observation.eventKind.isInteraction then
    match observation.interactionSpec.bind env.validateInteraction with
    | some interaction => (observation, some interaction)
    | none => (invalidInteraction observation, none)
  else (observation, none)

/-- Every remote artifact reference is replaced by its durable one. -/
def materialized (answers : PortAnswers) (observation : NormalizedA2AObservation) :
    Except Interruption NormalizedA2AObservation :=
  let inlineRefs := observation.inlineArtifacts.map (·.refId)
  let remoteRefs := observation.artifactRefs.filter (· ∉ inlineRefs)
  if remoteRefs = [] then .ok observation
  else
    match answers.materializeInboundArtifacts (fromKeys remoteRefs) with
    | .error message => .error (.raised message)
    | .ok durable =>
        if durable.length ≠ (fromKeys remoteRefs).length then
          .error (.raised "zip() arguments differ in length")
        else
          let durableBySource := (fromKeys remoteRefs).zip durable
          match renewAndVerifyEpoch answers 1 with
          | .error interruption => .error interruption
          | .ok () => .ok { observation with
              artifactRefs := fromKeys (observation.artifactRefs.map fun ref =>
                if ref ∈ inlineRefs then ref else (durableBySource.lookup ref).getD ref) }

/-! ## Processing a row -/

structure Processed where
  call : AgentCallLedgerRecord
  run : OrchestratorRunState
  row : A2AObservationInboxRecord
  deriving DecidableEq

/-- A processing that ended early, with the call and the Run as they are stored. -/
structure Interrupted where
  reason : Interruption
  call : AgentCallLedgerRecord
  run : OrchestratorRunState

/-- `_resolve_call`, of the one call there is. -/
def resolveCall (call : AgentCallLedgerRecord) (row : A2AObservationInboxRecord) :
    Option AgentCallLedgerRecord :=
  match row.callRecordId with
  | some callRecordId =>
      if callRecordId = call.callRecordId ∧ call.endpointScopeDigest = row.bindingScope then some call
      else none
  | none =>
      if call.ownershipAliases.any fun ownership =>
          ownership.bindingScope = row.bindingScope &&
            ((ownership.kind = .task && some ownership.value = row.observation.taskId) ||
              (ownership.kind = .context && some ownership.value = row.observation.contextId)) then
        some call
      else none

/-- `_close_terminal_interaction_or_retry` -/
def closeTerminalInteraction (answers : PortAnswers) (record : AgentCallLedgerRecord) :
    Except Interruption Unit :=
  match record.pendingInteractionId with
  | none => .ok ()
  | some interactionId => raisedAs (answers.abandon interactionId)

/-- `_complete_if_run_terminal`, of a Run that is terminal. -/
def completeRunTerminal (answers : PortAnswers) (call : AgentCallLedgerRecord)
    (run : OrchestratorRunState) (row : A2AObservationInboxRecord) (outcomeDigest : String) :
    Except Interrupted Processed :=
  match closeTerminalInteraction answers call with
  | .error interruption => .error ⟨interruption, call, run⟩
  | .ok () =>
      .ok ⟨call, run, row.release .completed (some .executor) (some .completed) (some outcomeDigest)⟩

def processExecutorOutcome (env : ProcessorEnv) (answers : PortAnswers)
    (call : AgentCallLedgerRecord) (run : OrchestratorRunState) (row : A2AObservationInboxRecord)
    (outcomeDigest : String) : Except Interrupted Processed :=
  if run.status.isTerminal then completeRunTerminal answers call run row outcomeDigest
  else
    let checkpointed := isOutcomeCheckpointed env run call.invocationId outcomeDigest
    let settled : Processed := ⟨call, run,
      row.release (if checkpointed then .completed else .outcomePending) (some .executor)
        (some (if checkpointed then .completed else .checkpointed))⟩
    if call.state.isTerminal then
      match closeTerminalInteraction answers call with
      | .error interruption => .error ⟨interruption, call, run⟩
      | .ok () =>
          if checkpointed = false ∧ isSuspensionCheckpointed run call.invocationId then
            match toToolObservation env call row.observation with
            | .error message => .error ⟨.raised message, call, run⟩
            | .ok observation =>
                match observeTool run observation answers.now with
                | .error (.conflict _) =>
                    .ok ⟨call, run, row.defer env.policy.maxTransportAttempts⟩
                | .error _ => .error ⟨.raised "observation delivery failed", call, run⟩
                | .ok run' =>
                    if isOutcomeCheckpointed env run' call.invocationId outcomeDigest then
                      .ok ⟨call, run', row.release .completed (some .observationSink)
                        (some .completed) (some outcomeDigest)⟩
                    else
                      .ok ⟨call, run',
                        row.release .outcomePending (some .executor) (some .checkpointed)⟩
          else .ok settled
    else .ok settled

/-- The tail of `_process`: the observation, as the ledger now reads it, goes to the kernel. -/
def deliver (env : ProcessorEnv) (answers : PortAnswers) (call : AgentCallLedgerRecord)
    (run : OrchestratorRunState) (row : A2AObservationInboxRecord)
    (observation : NormalizedA2AObservation) : Except Interrupted Processed :=
  match toToolObservation env call observation with
  | .error message => .error ⟨.raised message, call, run⟩
  | .ok toolObservation =>
      let digest := env.toolObservationDigest toolObservation
      if run.status.isTerminal then completeRunTerminal answers call run row digest
      else
        match renewAndVerifyEpoch answers 2 with
        | .error interruption => .error ⟨interruption, call, run⟩
        | .ok () =>
            if isSuspensionCheckpointed run call.invocationId then
              match observeTool run toolObservation answers.now with
              | .error (.conflict _) => .ok ⟨call, run, row.defer env.policy.maxTransportAttempts⟩
              | .error _ => .error ⟨.raised "observation delivery failed", call, run⟩
              | .ok run' =>
                  match renewAndVerifyEpoch answers 3 with
                  | .error interruption => .error ⟨interruption, call, run'⟩
                  | .ok () =>
                      if hasProcessedObservation run' call.invocationId
                          observation.observationId then
                        .ok ⟨call, run', row.release .completed (some .observationSink)
                          (some .completed) (some digest)⟩
                      else
                        .ok ⟨call, run', row.release .sessionApplied (some .observationSink) none
                          (some digest)⟩
            else
              .ok ⟨call, run,
                row.release .outcomePending (some .executor) none call.terminalResultDigest⟩

/-- `_matches_attached_interaction` -/
def matchesAttached (record : AgentCallLedgerRecord) (eventKind : ObservationKind)
    (interactionId fingerprint : String) : Bool :=
  record.state = eventKind.callState && record.pendingInteractionId = some interactionId &&
    record.interactionRevision = some 1 && record.interactionFingerprint = some fingerprint

def interactionAttached (env : ProcessorEnv) (record : AgentCallLedgerRecord)
    (eventKind : ObservationKind) (interaction : A2AInteractionSpec) : Bool :=
  record.state = eventKind.callState &&
    record.pendingInteractionId = some interaction.interactionId &&
    record.interactionFingerprint = some (env.interactionDigest interaction)

/-- A question becomes visible, and the observation is delivered when the call still has it. -/
def activateAndDeliver (env : ProcessorEnv) (answers : PortAnswers) (call : AgentCallLedgerRecord)
    (run : OrchestratorRunState) (row : A2AObservationInboxRecord)
    (observation : NormalizedA2AObservation) (interactionId fingerprint : String) :
    Except Interrupted Processed :=
  match renewAndVerifyEpoch answers 4 with
  | .error interruption => .error ⟨interruption, call, run⟩
  | .ok () =>
      match answers.activate with
      | .error message => .error ⟨.raised message, call, run⟩
      | .ok () =>
          match renewAndVerifyEpoch answers 5 with
          | .error interruption => .error ⟨interruption, call, run⟩
          | .ok () =>
              if matchesAttached call observation.eventKind interactionId fingerprint then
                deliver env answers call run row observation
              else .ok ⟨call, run, row.release .pending⟩

/-- A new question is created for the user and the call waits with it. -/
def attachInteraction (env : ProcessorEnv) (answers : PortAnswers) (call : AgentCallLedgerRecord)
    (run : OrchestratorRunState) (row : A2AObservationInboxRecord)
    (observation : NormalizedA2AObservation) (interaction : A2AInteractionSpec) :
    Except Interrupted Processed :=
  match renewAndVerifyEpoch answers 6 with
  | .error interruption => .error ⟨interruption, call, run⟩
  | .ok () =>
      match answers.createOrReplay with
      | .error message => .error ⟨.raised message, call, run⟩
      | .ok interactionId =>
          match renewAndVerifyEpoch answers 7 with
          | .error interruption => .error ⟨interruption, call, run⟩
          | .ok () =>
              match transitionCall call row.observation.eventKind.callState answers.now
                  { pendingInteractionId := some (some interactionId)
                    interactionRevision := some (some 1)
                    interactionFingerprint := some (some (env.interactionDigest interaction)) } with
              | .error error => .error ⟨.raised error.message, call, run⟩
              | .ok required =>
                  activateAndDeliver env answers required run row observation interactionId
                    (env.interactionDigest interaction)

def afterLedger (env : ProcessorEnv) (answers : PortAnswers) (call : AgentCallLedgerRecord)
    (run : OrchestratorRunState) (row : A2AObservationInboxRecord)
    (observation : NormalizedA2AObservation) (interaction : Option A2AInteractionSpec) :
    Except Interrupted Processed :=
  if call.state.isTerminal then
    match closeTerminalInteraction answers call with
    | .error interruption => .error ⟨interruption, call, run⟩
    | .ok () =>
        match interaction with
        | none => deliver env answers call run row observation
        | some interaction =>
            match raisedAs (answers.abandon interaction.interactionId) with
            | .error interruption => .error ⟨interruption, call, run⟩
            | .ok () => .ok ⟨call, run, row.release .completed⟩
  else
    match interaction with
    | none => deliver env answers call run row observation
    | some interaction => attachInteraction env answers call run row observation interaction

/-- The row has been applied to its call by the executor that received it. -/
def ledgerCheckpointed (row : A2AObservationInboxRecord) : Bool :=
  row.deliveryRoute = .executor && row.deliveryState = .checkpointed && row.outcomeDigest.isNone

def applyRow (env : ProcessorEnv) (answers : PortAnswers) (call : AgentCallLedgerRecord)
    (run : OrchestratorRunState) (row : A2AObservationInboxRecord)
    (observation : NormalizedA2AObservation) (interaction : Option A2AInteractionSpec) :
    Except Interrupted Processed :=
  match interaction.filter (interactionAttached env call observation.eventKind) with
  | some attached =>
      activateAndDeliver env answers call run row observation attached.interactionId
        (env.interactionDigest attached)
  | none =>
      if interaction.isSome ∧ (observation.observationId ∈ call.recentObservationIds ∨
          ledgerCheckpointed row) ∧ call.state.isTerminal = false then
        -- the call has resumed since, or asks another question
        .ok ⟨call, run, row.release .completed⟩
      else
        match applyObservation env.resultDigest call observation
            env.policy.recentObservationIdLimit with
        | .error (.conflictingTerminal persistedDigest _) =>
            match raisedAs answers.insertConflict, renewAndVerifyEpoch answers 8,
                closeTerminalInteraction answers call with
            | .ok (), .ok (), .ok () =>
                .ok ⟨call, run, row.release .completed (some .executor) (some .completed)
                  (some persistedDigest)⟩
            | .error interruption, _, _ => .error ⟨interruption, call, run⟩
            | _, .error interruption, _ => .error ⟨interruption, call, run⟩
            | _, _, .error interruption => .error ⟨interruption, call, run⟩
        | .error error => .error ⟨.raised error.message, call, run⟩
        | .ok changed => afterLedger env answers changed run row observation interaction

/-- `_process`, of a row that is claimed for it. -/
def processRow (env : ProcessorEnv) (answers : PortAnswers) (call : AgentCallLedgerRecord)
    (run : OrchestratorRunState) (row : A2AObservationInboxRecord) :
    Except Interrupted Processed :=
  match resolveCall call row with
  | none => .ok ⟨call, run, row.release .pending⟩
  | some record =>
      if row.conversationId ≠ record.conversationId ∨ row.roomEpoch ≠ record.roomEpoch ∨
          row.callRecordId ≠ some record.callRecordId then
        .ok ⟨record, run, row.release .quarantined⟩
      else if row.observation.eventKind ≠ .terminal ∧ run.status.isTerminal then
        completeRunTerminal answers record run row (env.evidenceDigest row.observation)
      else
        match row.deliveryRoute, row.outcomeDigest with
        | .executor, some outcomeDigest =>
            processExecutorOutcome env answers record run row outcomeDigest
        | _, _ =>
            match renewAndVerifyEpoch answers 0 with
            | .error interruption => .error ⟨interruption, record, run⟩
            | .ok () =>
                match materialized answers (typedObservation env row.observation).1 with
                | .error interruption => .error ⟨interruption, record, run⟩
                | .ok observation =>
                    applyRow env answers record run row observation
                      (typedObservation env row.observation).2

/-- `process`: a row that is done is answered "replayed". -/
def process (env : ProcessorEnv) (answers : PortAnswers) (call : AgentCallLedgerRecord)
    (run : OrchestratorRunState) (row : A2AObservationInboxRecord) :
    Except Interrupted Processed :=
  if row.isDone then .ok ⟨call, run, row⟩
  else processRow env answers call run row.claim

end Hybro.A2ARuntime
