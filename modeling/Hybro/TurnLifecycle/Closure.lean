import Hybro.TurnLifecycle.EventRules

/-! # Live projections are closed

The closure rules hold in every run of the fold in which three kinds of event do
not occur.
-/

namespace Hybro.TurnLifecycle

open OrderedMap

/-! ## Runs of the fold -/

def AllSound (turns : TurnProjectionMap) : Prop :=
  ∀ turn ∈ values turns, Sound turn

theorem AllSound.result {turns : TurnProjectionMap} {outcome : TurnOutcome} (h : AllSound turns)
    (houtcome : ∀ after, outcome = .changed after → Sound after) :
    AllSound (outcome.result turns).turns := by
  cases outcome with
  | unchanged => exact h
  | failed violation => exact h
  | changed after =>
      intro turn hmem
      rcases mem_values_put hmem with hmem | rfl
      · exact h turn hmem
      · exact houtcome _ rfl

theorem findExactRoot_get {turns : TurnProjectionMap} {runId clientRequestId userMessageId : String}
    {turn : TurnProjection}
    (h : findExactRoot turns runId clientRequestId userMessageId = some turn) :
    turn ∈ values turns :=
  mem_values_of_get (Option.filter_eq_some_iff.mp h).1

theorem foldCanonicalEvent_sound {turns : TurnProjectionMap} {event : CanonicalFoldEvent}
    (conversationId : String) (h : AllSound turns) (hevent : disturbs turns event = false) :
    AllSound (foldCanonicalEvent turns conversationId event).turns := by
  cases event with
  | runEvent data =>
      show AllSound (foldRunEvent turns conversationId data).turns
      unfold foldRunEvent
      cases hseq : data.roomSeq with
      | none => exact h
      | some order =>
          dsimp only
          split
          · rename_i payload hpayload
            apply h.result
            intro after hafter
            unfold foldRunStarted at hafter
            split at hafter
            · split at hafter <;> cases hafter
            · cases hafter
              exact newTurn_sound ..
          · rename_i payload hstarted
            cases hturn : get turns data.runId with
            | none => exact h
            | some turn =>
                apply h.result
                intro after hafter
                apply foldStarted_sound (h turn (mem_values_of_get hturn)) _ hafter
                intro ended hended
                have hdisturbs : disturbs turns (.runEvent data) =
                    (get turns data.runId).any (·.closesOpenAssistant ended) := by
                  unfold disturbs
                  dsimp only
                  rw [hended]
                rw [hdisturbs, hturn] at hevent
                exact hevent
  | hitlRequest data =>
      show AllSound (foldHITLRequest turns data).turns
      unfold foldHITLRequest
      cases hroot : findExactRoot turns data.runId data.clientRequestId
        data.relatedUserMessageId with
      | none => exact h
      | some turn =>
          have hcount : turn.contradictsCount data = false := by
            unfold disturbs at hevent
            dsimp only at hevent
            rw [hroot] at hevent
            exact hevent
          apply h.result
          intro after hafter
          exact foldHITLQuestion_sound (h turn (findExactRoot_get hroot)) hcount hafter
  | hitlResponse data =>
      show AllSound (foldHITLResponse turns data).turns
      unfold foldHITLResponse
      cases hroot : findExactRoot turns data.runId data.clientRequestId
        data.relatedUserMessageId with
      | none => exact h
      | some turn =>
          have hends : turn.endsActive data = false := by
            unfold disturbs at hevent
            dsimp only at hevent
            rw [hroot] at hevent
            exact hevent
          apply h.result
          intro after hafter
          exact foldHITLAnswer_sound (h turn (findExactRoot_get hroot)) hends hafter
  | agentResponse data =>
      show AllSound (foldAgentResponse turns data).turns
      unfold foldAgentResponse
      cases hfind : (values turns).find? (·.awaitsFinal data) with
      | none => exact h
      | some turn =>
          apply h.result
          intro after hafter
          have hawaits : turn.awaitsFinal data = true :=
            List.find?_some (p := fun turn : TurnProjection => turn.awaitsFinal data) hfind
          exact commitFinal_sound (h turn (List.mem_of_find?_eq_some hfind)) hawaits hafter
  | taskSubmitted => exact h
  | taskUpdate => exact h

def undisturbed (conversationId : String) (turns : TurnProjectionMap) :
    List CanonicalFoldEvent → Bool
  | [] => true
  | event :: rest =>
      !disturbs turns event &&
        undisturbed conversationId (foldCanonicalEvent turns conversationId event).turns rest

theorem foldl_sound (conversationId : String) (events : List CanonicalFoldEvent) :
    ∀ turns : TurnProjectionMap, AllSound turns → undisturbed conversationId turns events = true →
      AllSound (events.foldl
        (fun turns event => (foldCanonicalEvent turns conversationId event).turns) turns) := by
  induction events with
  | nil => exact fun turns h _ => h
  | cons event rest ih =>
      intro turns h hsteps
      obtain ⟨hevent, hrest⟩ := Bool.and_eq_true_iff.mp hsteps
      apply ih
      · exact foldCanonicalEvent_sound conversationId h (by simpa using hevent)
      · exact hrest

/-- A projection built from events that do not end the active interaction without a resumption,
do not close an internal Turn under its open Assistant and do not contradict the number of
questions keeps the closure rules, except while a questionnaire is received. -/
theorem live_projections_closed (conversationId : String) (events : List CanonicalFoldEvent)
    (hevents : undisturbed conversationId [] events = true) :
    ∀ turn ∈ values (foldEvents conversationId events), turn.partlyReceived = false →
      validateProjectionClosure turn = none := by
  intro turn hmem hfull
  have hsound : AllSound (foldEvents conversationId events) :=
    foldl_sound conversationId events [] (fun turn hmem => absurd hmem List.not_mem_nil) hevents
  exact (hsound turn hmem).closure hfull

def started : CanonicalFoldEvent :=
  .runEvent ⟨some 1, "event-1", "run-1",
    .runStarted ⟨"run-1", "user-1", "2030-01-01T00:00:00Z", .ultimate⟩, "client-1"⟩

def question (requestId : String) (questionIndex questionCount : Nat)
    (indexed : questionIndex < questionCount) : CanonicalFoldEvent :=
  .hitlRequest
    { runId := "run-1"
      requestId := requestId
      messageId := "message-1"
      interactionId := "interaction-1"
      relatedUserMessageId := "user-1"
      clientRequestId := "client-1"
      questionIndex := questionIndex
      questionCount := questionCount
      prompt := "Which one?"
      promptType := "text"
      choices := none
      source := "agent"
      agentLabel := none
      indexed := indexed }

def waiting : CanonicalFoldEvent :=
  .runEvent ⟨some 3, "event-3", "run-1",
    .runWaitingInput ⟨"interaction-1", ["request-1"], "2030-01-01T00:00:01Z", by decide⟩,
    "client-1"⟩

def response (status : ResponseStatus) : CanonicalFoldEvent :=
  .hitlResponse
    { runId := "run-1"
      requestId := "request-1"
      messageId := "message-1"
      interactionId := "interaction-1"
      relatedUserMessageId := "user-1"
      clientRequestId := "client-1"
      questionIndex := 0
      questionCount := 1
      status := status
      answerRef := none }

def runEvent (order : Nat) (payload : CanonicalPayload) : CanonicalFoldEvent :=
  .runEvent ⟨some order, "event", "run-1", payload, "client-1"⟩

/-- A Turn that was asked, answered and resumed. -/
theorem live_projections_closed_resumed :
    let events := [started, question "request-1" 0 1 (by decide), waiting, response .responded,
      runEvent 5 (.runResumed ⟨"interaction-1", ["request-1"], "2030-01-01T00:00:02Z"⟩)]
    (values (foldEvents "room-1" events)).length = 1 ∧
      ∀ turn ∈ values (foldEvents "room-1" events), turn.partlyReceived = false →
        validateProjectionClosure turn = none := by
  intro events
  constructor
  · decide
  · exact live_projections_closed "room-1" events (by decide)

/-- An expired question, an Assistant that is left open and a questionnaire that changes its
length: nothing is missing of the questionnaires, and each projection is refused. -/
theorem live_projection_refused :
    ((values (foldEvents "room-1"
        [started, question "request-1" 0 1 (by decide), waiting, response .expired])).map
      fun turn => (turn.partlyReceived, validateProjectionClosure turn)) =
        [(false, some "awaiting_input snapshot Turn has no active interaction")] ∧
    ((values (foldEvents "room-1"
        [started, runEvent 2 (.turnStart ⟨"turn-1", 1⟩),
          runEvent 3 (.messageStart ⟨"turn-1", "message-1"⟩),
          runEvent 4 (.turnEnd ⟨"turn-1", some "message-1", [], .aborted⟩)])).map
      fun turn => (turn.partlyReceived, validateProjectionClosure turn)) =
        [(false, some "snapshot current Assistant has no streaming active internal Turn owner")] ∧
    ((values (foldEvents "room-1"
        [started, question "request-1" 0 1 (by decide), question "request-2" 1 2 (by decide)])).map
      fun turn => (turn.partlyReceived, validateProjectionClosure turn)) =
        [(false, some "snapshot HITL questionnaire is incomplete")] := by
  decide

end Hybro.TurnLifecycle
