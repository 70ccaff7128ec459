import Hybro.TurnLifecycle.Closure

/-! # Settled Turns

Which Turn an event is for, and what an event does to a Turn that has settled. The events of
a run are refused then; a question, an answer and a final response reach the Turn on other
ways, which do not look at its state.
-/

namespace Hybro.TurnLifecycle

open OrderedMap

/-! ## Maps of Turns -/

structure Keyed (turns : TurnProjectionMap) : Prop where
  names : ∀ entry ∈ turns, entry.2.id = entry.1
  distinct : (turns.map (·.1)).Nodup

/-- The root of a started run has the name of the run, which the contract checks. -/
def CanonicalFoldEvent.rooted : CanonicalFoldEvent → Bool
  | .runEvent data =>
      match data.payload with
      | .runStarted payload => payload.hybroTurnId = data.runId
      | _ => true
  | _ => true

/-- The maps that events lead to, from the empty map or from the Turns of a snapshot. -/
inductive Reachable : TurnProjectionMap → Prop
  | start (turns : TurnProjectionMap) (h : Keyed turns) : Reachable turns
  | fold (turns : TurnProjectionMap) (conversationId : String) (event : CanonicalFoldEvent)
      (hrooted : event.rooted = true) (h : Reachable turns) :
      Reachable (foldCanonicalEvent turns conversationId event).turns

def addressee (turns : TurnProjectionMap) : CanonicalFoldEvent → Option String
  | .runEvent data => some data.runId
  | .hitlRequest data => some data.runId
  | .hitlResponse data => some data.runId
  | .agentResponse data => ((values turns).find? (·.awaitsFinal data)).map (·.id)
  | .taskSubmitted | .taskUpdate => none

theorem Keyed.id_of_get {turns : TurnProjectionMap} (h : Keyed turns) {key : String}
    {turn : TurnProjection} (hget : get turns key = some turn) : turn.id = key := by
  unfold OrderedMap.get at hget
  obtain ⟨entry, hfind, rfl⟩ := Option.map_eq_some_iff.mp hget
  have hkey : entry.1 = key := by simpa using List.find?_some hfind
  rw [h.names entry (List.mem_of_find?_eq_some hfind), hkey]

theorem Keyed.get_of_mem {turns : TurnProjectionMap} (h : Keyed turns) {turn : TurnProjection}
    (hmem : turn ∈ values turns) : get turns turn.id = some turn := by
  unfold values at hmem
  obtain ⟨entry, hentry, rfl⟩ := List.mem_map.mp hmem
  have hfind := find?_of_nodup h.distinct hentry
  unfold OrderedMap.get
  rw [h.names entry hentry, hfind]
  rfl

theorem Keyed.put {turns : TurnProjectionMap} (h : Keyed turns) (turn : TurnProjection) :
    Keyed (put turns turn.id turn) := by
  refine ⟨?_, nodup_put h.distinct⟩
  intro entry hentry
  unfold OrderedMap.put at hentry
  split at hentry
  · cases mem_updateFirst hentry with
    | inl hold => exact h.names entry hold
    | inr hnew =>
        obtain ⟨-, -, rfl⟩ := hnew
        rfl
  · cases List.mem_append.mp hentry with
    | inl hold => exact h.names entry hold
    | inr hnew => rw [List.mem_singleton.mp hnew]

theorem Keyed.result {turns : TurnProjectionMap} (h : Keyed turns) (outcome : TurnOutcome) :
    Keyed (outcome.result turns).turns := by
  cases outcome with
  | unchanged => exact h
  | changed turn => exact h.put turn
  | failed violation => exact h

theorem Keyed.fold {turns : TurnProjectionMap} (h : Keyed turns) (conversationId : String)
    (event : CanonicalFoldEvent) : Keyed (foldCanonicalEvent turns conversationId event).turns := by
  cases event with
  | runEvent data =>
      simp only [foldCanonicalEvent, foldRunEvent]
      split
      · exact h
      · split
        · exact h.result _
        · split
          · exact h
          · exact h.result _
  | hitlRequest data =>
      simp only [foldCanonicalEvent, foldHITLRequest]
      split
      · exact h
      · exact h.result _
  | hitlResponse data =>
      simp only [foldCanonicalEvent, foldHITLResponse]
      split
      · exact h
      · exact h.result _
  | agentResponse data =>
      simp only [foldCanonicalEvent, foldAgentResponse]
      split
      · exact h
      · exact h.result _
  | taskSubmitted => exact h
  | taskUpdate => exact h

theorem Reachable.keyed {turns : TurnProjectionMap} (h : Reachable turns) : Keyed turns := by
  induction h with
  | start turns h => exact h
  | fold turns conversationId event hrooted h ih => exact ih.fold conversationId event

theorem foldEvents_reachable {conversationId : String} {events : List CanonicalFoldEvent}
    (h : ∀ event ∈ events, event.rooted = true) : Reachable (foldEvents conversationId events) := by
  have hfold : ∀ turns, Reachable turns → Reachable (events.foldl
      (fun turns event => (foldCanonicalEvent turns conversationId event).turns) turns) := by
    induction events with
    | nil => exact fun turns hturns => hturns
    | cons event rest ih =>
        intro turns hturns
        have hrest : ∀ event ∈ rest, event.rooted = true :=
          fun event hmem => h event (List.mem_cons_of_mem _ hmem)
        exact ih hrest _ (hturns.fold _ conversationId event (h event List.mem_cons_self))
  have hempty : Keyed [] := ⟨fun entry hmem => absurd hmem List.not_mem_nil, List.nodup_nil⟩
  exact hfold [] (.start [] hempty)

/-! ## What an event can change -/

section Events

variable {turn after : TurnProjection}

theorem foldTurnEvent_id {eventId : String} {order : Nat} {payload : CanonicalPayload}
    (hfold : foldTurnEvent turn eventId order payload = .changed after) : after.id = turn.id := by
  cases payload with
  | runStarted payload => cases hfold
  | turnStart payload =>
      simp only [foldTurnEvent, foldTurnStart] at hfold
      repeat' split at hfold
      all_goals cases hfold
      rfl
  | retryScheduled payload =>
      simp only [foldTurnEvent, foldRetryScheduled] at hfold
      repeat' split at hfold
      all_goals cases hfold
      rfl
  | modelDecision payload =>
      simp only [foldTurnEvent, foldModelDecision] at hfold
      repeat' split at hfold
      all_goals cases hfold
      rfl
  | runWaitingInput payload =>
      simp only [foldTurnEvent, foldRunWaitingInput] at hfold
      repeat' split at hfold
      all_goals cases hfold
      rfl
  | runResumed payload =>
      simp only [foldTurnEvent, foldRunResumed] at hfold
      repeat' split at hfold
      all_goals cases hfold
      rfl
  | runSettled payload =>
      simp only [foldTurnEvent, foldRunSettled] at hfold
      repeat' split at hfold
      all_goals cases hfold <;> rfl
  | messageStart payload =>
      obtain ⟨internal, -, hfold⟩ := inInternal_changed hfold
      unfold foldMessageStart at hfold
      repeat' split at hfold
      all_goals cases hfold
      rfl
  | messageUpdate payload =>
      obtain ⟨-, -, hfold⟩ := inInternal_changed hfold
      simp only [foldMessageUpdate] at hfold
      repeat' split at hfold
      all_goals cases hfold
      rfl
  | messageEnd payload =>
      obtain ⟨-, -, hfold⟩ := inInternal_changed hfold
      unfold foldMessageEnd at hfold
      repeat' split at hfold
      all_goals cases hfold <;> rfl
  | toolExecutionStart payload =>
      obtain ⟨internal, -, hfold⟩ := inInternal_changed hfold
      unfold foldToolExecutionStart at hfold
      repeat' split at hfold
      all_goals cases hfold
      rfl
  | toolExecutionUpdate payload =>
      obtain ⟨-, -, hfold⟩ := inInternal_changed hfold
      unfold foldToolExecutionUpdate at hfold
      repeat' split at hfold
      all_goals cases hfold
      rfl
  | toolExecutionEnd payload =>
      obtain ⟨-, -, hfold⟩ := inInternal_changed hfold
      unfold foldToolExecutionEnd at hfold
      repeat' split at hfold
      all_goals cases hfold
      rfl
  | turnEnd payload =>
      obtain ⟨internal, -, hfold⟩ := inInternal_changed hfold
      unfold foldTurnEnd at hfold
      repeat' split at hfold
      all_goals cases hfold
      rfl

theorem foldStarted_changed {correlationId eventId : String} {order : Nat}
    {payload : CanonicalPayload}
    (hfold : foldStarted turn correlationId eventId order payload = .changed after) :
    after.id = turn.id ∧ turn.state.settled = false := by
  unfold foldStarted at hfold
  by_cases hcorrelation : turn.clientRequestId ≠ correlationId
  · rw [if_pos hcorrelation] at hfold
    cases hfold
  · rw [if_neg hcorrelation] at hfold
    by_cases hsettled : turn.state.settled = true
    · rw [if_pos hsettled] at hfold
      cases payload <;> simp only at hfold <;> first | cases hfold | skip
      split at hfold <;> cases hfold
    · rw [if_neg hsettled] at hfold
      split at hfold
      · cases hfold
      · exact ⟨foldTurnEvent_id hfold, by simpa using hsettled⟩

/-- A request that the Turn does not know yet, under a new question index. -/
def TurnProjection.asksAnew (turn : TurnProjection) (data : CanonicalHITLRequestData) : Bool :=
  (turn.findInteraction data.interactionId).all fun interaction =>
    interaction.requests.all fun request =>
      request.requestId ≠ data.requestId && request.questionIndex ≠ data.questionIndex

theorem foldHITLQuestion_changed {data : CanonicalHITLRequestData}
    (hfold : foldHITLQuestion turn data = .changed after) :
    after.id = turn.id ∧ turn.asksAnew data = true := by
  unfold foldHITLQuestion at hfold
  cases hinteraction : turn.findInteraction data.interactionId with
  | none =>
      rw [hinteraction] at hfold
      cases hfold
      simp [TurnProjection.asksAnew, hinteraction]
  | some interaction =>
      rw [hinteraction] at hfold
      simp only at hfold
      cases hprior : interaction.requests.find? (·.requestId = data.requestId) with
      | some prior =>
          rw [hprior] at hfold
          simp only at hfold
          split at hfold <;> cases hfold
      | none =>
          rw [hprior] at hfold
          simp only at hfold
          split at hfold
          · cases hfold
          · next hindex =>
              cases hfold
              refine ⟨rfl, ?_⟩
              have hrequests := List.find?_eq_none.mp hprior
              simp only [TurnProjection.asksAnew, hinteraction, Option.all_some, List.all_eq_true]
              intro request hmem
              have hid := hrequests request hmem
              have hfree : request.questionIndex ≠ data.questionIndex := by
                intro heq
                exact hindex (List.any_eq_true.mpr ⟨request, hmem, by simp [heq]⟩)
              simp_all

theorem foldHITLQuestion_of_asksAnew {data : CanonicalHITLRequestData}
    (h : turn.asksAnew data = true) : ∃ after, foldHITLQuestion turn data = .changed after := by
  unfold foldHITLQuestion
  cases hinteraction : turn.findInteraction data.interactionId with
  | none => exact ⟨_, rfl⟩
  | some interaction =>
      simp only [TurnProjection.asksAnew, hinteraction, Option.all_some, List.all_eq_true,
        Bool.and_eq_true, decide_eq_true_eq] at h
      have hprior : interaction.requests.find? (·.requestId = data.requestId) = none := by
        apply List.find?_eq_none.mpr
        intro request hmem
        simpa using (h request hmem).1
      have hindex : ¬ interaction.requests.any (·.questionIndex = data.questionIndex) = true := by
        intro hany
        obtain ⟨request, hmem, hsame⟩ := List.any_eq_true.mp hany
        exact (h request hmem).2 (by simpa using hsame)
      simp only [hprior, if_neg hindex]
      exact ⟨_, rfl⟩

/-- A response to a request that is still open. -/
def TurnProjection.awaitsAnswer (turn : TurnProjection) (data : CanonicalHITLResponseData) : Bool :=
  (turn.findInteraction data.interactionId).any fun interaction =>
    (interaction.answered data).any (·.status = .requested)

theorem foldHITLAnswer_changed {data : CanonicalHITLResponseData}
    (hfold : foldHITLAnswer turn data = .changed after) :
    after.id = turn.id ∧ turn.awaitsAnswer data = true := by
  unfold foldHITLAnswer at hfold
  cases hinteraction : turn.findInteraction data.interactionId with
  | none =>
      rw [hinteraction] at hfold
      cases hfold
  | some interaction =>
      rw [hinteraction] at hfold
      simp only at hfold
      cases hrequest : interaction.answered data with
      | none =>
          rw [hrequest] at hfold
          cases hfold
      | some request =>
          rw [hrequest] at hfold
          simp only at hfold
          by_cases hopen : request.status = .requested
          · rw [if_neg (not_not_intro hopen)] at hfold
            have hawaits : turn.awaitsAnswer data = true := by
              simp [TurnProjection.awaitsAnswer, hinteraction, hrequest, hopen]
            split at hfold
            · cases hfold
              exact ⟨rfl, hawaits⟩
            · cases hfold
              exact ⟨rfl, hawaits⟩
          · rw [if_pos hopen] at hfold
            split at hfold <;> cases hfold

theorem foldHITLAnswer_of_awaitsAnswer {data : CanonicalHITLResponseData}
    (h : turn.awaitsAnswer data = true) : ∃ after, foldHITLAnswer turn data = .changed after := by
  obtain ⟨interaction, hinteraction, hanswered⟩ := (Option.any_eq_true _ _).mp h
  obtain ⟨request, hrequest, hopen⟩ := (Option.any_eq_true _ _).mp hanswered
  have hrequested : request.status = .requested := by simpa using hopen
  unfold foldHITLAnswer
  simp only [hinteraction, hrequest, hrequested, ne_eq, not_true, if_false]
  split
  · exact ⟨_, rfl⟩
  · exact ⟨_, rfl⟩

end Events

/-! ## One event -/

def FoldResult.Idle (turns : TurnProjectionMap) (result : FoldResult) : Prop :=
  result = .ok turns false ∨ ∃ violation, result = .failed turns violation

def changesSettled (turns : TurnProjectionMap) : CanonicalFoldEvent → Bool
  | .hitlRequest data =>
      (findExactRoot turns data.runId data.clientRequestId data.relatedUserMessageId).any
        fun turn => turn.state.settled && turn.asksAnew data
  | .hitlResponse data =>
      (findExactRoot turns data.runId data.clientRequestId data.relatedUserMessageId).any
        fun turn => turn.state.settled && turn.awaitsAnswer data
  | .agentResponse data =>
      ((values turns).find? (·.awaitsFinal data)).any
        fun turn => turn.state.settled && !turn.finalCommitted
  | .runEvent _ | .taskSubmitted | .taskUpdate => false

/-- All that an event can do: nothing, or write the Turn that it is for. -/
structure Writes (turns : TurnProjectionMap) (event : CanonicalFoldEvent) (result : FoldResult)
    (after : TurnProjection) : Prop where
  target : addressee turns event = some after.id
  result : result = .ok (put turns after.id after) true
  settled : ∀ turn, get turns after.id = some turn → turn.state.settled = true →
    changesSettled turns event = true

section Step

variable {turns : TurnProjectionMap} (conversationId : String) {event : CanonicalFoldEvent}

theorem writes_of_outcome {outcome : TurnOutcome}
    (h : ∀ after, outcome = .changed after → addressee turns event = some after.id ∧
      ∀ turn, get turns after.id = some turn → turn.state.settled = true →
        changesSettled turns event = true) :
    (outcome.result turns).Idle turns ∨
      ∃ after, Writes turns event (outcome.result turns) after := by
  cases outcome with
  | unchanged => exact Or.inl (Or.inl rfl)
  | failed violation => exact Or.inl (Or.inr ⟨violation, rfl⟩)
  | changed after =>
      obtain ⟨htarget, hsettled⟩ := h after rfl
      exact Or.inr ⟨after, htarget, rfl, hsettled⟩

theorem foldRunEvent_cases (hkeyed : Keyed turns) {data : CanonicalRunEventData}
    (hrooted : (CanonicalFoldEvent.runEvent data).rooted = true) :
    (foldRunEvent turns conversationId data).Idle turns ∨
      ∃ after, Writes turns (.runEvent data) (foldRunEvent turns conversationId data) after := by
  unfold foldRunEvent
  cases data.roomSeq with
  | none => exact Or.inl (Or.inr ⟨_, rfl⟩)
  | some order =>
      simp only
      split
      · next payload hpayload =>
          refine writes_of_outcome fun after hafter => ?_
          have hname : payload.hybroTurnId = data.runId := by
            simpa [CanonicalFoldEvent.rooted, hpayload] using hrooted
          cases hexisting : get turns data.runId with
          | some turn =>
              simp only [foldRunStarted, hexisting] at hafter
              split at hafter <;> cases hafter
          | none =>
              rw [hexisting] at hafter
              cases hafter
              have hid : (newTurn conversationId data.correlationId data.runId payload).id =
                  data.runId := hname
              refine ⟨by rw [hid, addressee], ?_⟩
              intro turn hturn
              rw [hid, hexisting] at hturn
              cases hturn
      · cases hexisting : get turns data.runId with
        | none => exact Or.inl (Or.inr ⟨_, rfl⟩)
        | some turn =>
            refine writes_of_outcome fun after hafter => ?_
            obtain ⟨hid, hopen⟩ := foldStarted_changed hafter
            have hkey : after.id = data.runId := hid.trans (hkeyed.id_of_get hexisting)
            refine ⟨by rw [hkey, addressee], ?_⟩
            intro other hother hsettled
            rw [hkey, hexisting] at hother
            cases hother
            rw [hopen] at hsettled
            cases hsettled

theorem foldHITLRequest_cases (hkeyed : Keyed turns) (data : CanonicalHITLRequestData) :
    (foldHITLRequest turns data).Idle turns ∨
      ∃ after, Writes turns (.hitlRequest data) (foldHITLRequest turns data) after := by
  unfold foldHITLRequest
  cases hroot : findExactRoot turns data.runId data.clientRequestId data.relatedUserMessageId with
  | none => exact Or.inl (Or.inr ⟨_, rfl⟩)
  | some turn =>
      refine writes_of_outcome fun after hafter => ?_
      obtain ⟨hid, hasks⟩ := foldHITLQuestion_changed hafter
      have hget := (Option.filter_eq_some_iff.mp hroot).1
      have hkey : after.id = data.runId := hid.trans (hkeyed.id_of_get hget)
      refine ⟨by rw [hkey, addressee], ?_⟩
      intro other hother hsettled
      rw [hkey, hget] at hother
      cases hother
      simp [changesSettled, hroot, hsettled, hasks]

theorem foldHITLResponse_cases (hkeyed : Keyed turns) (data : CanonicalHITLResponseData) :
    (foldHITLResponse turns data).Idle turns ∨
      ∃ after, Writes turns (.hitlResponse data) (foldHITLResponse turns data) after := by
  unfold foldHITLResponse
  cases hroot : findExactRoot turns data.runId data.clientRequestId data.relatedUserMessageId with
  | none => exact Or.inl (Or.inr ⟨_, rfl⟩)
  | some turn =>
      refine writes_of_outcome fun after hafter => ?_
      obtain ⟨hid, hawaits⟩ := foldHITLAnswer_changed hafter
      have hget := (Option.filter_eq_some_iff.mp hroot).1
      have hkey : after.id = data.runId := hid.trans (hkeyed.id_of_get hget)
      refine ⟨by rw [hkey, addressee], ?_⟩
      intro other hother hsettled
      rw [hkey, hget] at hother
      cases hother
      simp [changesSettled, hroot, hsettled, hawaits]

theorem foldAgentResponse_cases (hkeyed : Keyed turns) (data : AgentResponseData) :
    (foldAgentResponse turns data).Idle turns ∨
      ∃ after, Writes turns (.agentResponse data) (foldAgentResponse turns data) after := by
  unfold foldAgentResponse
  cases hfind : (values turns).find? (·.awaitsFinal data) with
  | none => exact Or.inl (Or.inl rfl)
  | some turn =>
      refine writes_of_outcome fun after hafter => ?_
      unfold commitFinal at hafter
      by_cases hcommitted : turn.finalCommitted = true
      · rw [if_pos hcommitted] at hafter
        split at hafter <;> cases hafter
      · rw [if_neg hcommitted] at hafter
        cases hafter
        refine ⟨by simp [addressee, hfind], ?_⟩
        intro other hother hsettled
        rw [hkeyed.get_of_mem (List.mem_of_find?_eq_some hfind)] at hother
        cases hother
        simp [changesSettled, hfind, hsettled, hcommitted]

theorem foldCanonicalEvent_cases (hkeyed : Keyed turns) (hrooted : event.rooted = true) :
    (foldCanonicalEvent turns conversationId event).Idle turns ∨
      ∃ after, Writes turns event (foldCanonicalEvent turns conversationId event) after := by
  cases event with
  | runEvent data => exact foldRunEvent_cases conversationId hkeyed hrooted
  | hitlRequest data => exact foldHITLRequest_cases hkeyed data
  | hitlResponse data => exact foldHITLResponse_cases hkeyed data
  | agentResponse data => exact foldAgentResponse_cases hkeyed data
  | taskSubmitted => exact Or.inl (Or.inr ⟨_, rfl⟩)
  | taskUpdate => exact Or.inl (Or.inr ⟨_, rfl⟩)

theorem foldCanonicalEvent_of_changesSettled (hkeyed : Keyed turns)
    (h : changesSettled turns event = true) :
    ∃ key turn, addressee turns event = some key ∧ get turns key = some turn ∧
      turn.state.settled = true ∧
      ¬ (foldCanonicalEvent turns conversationId event).Idle turns := by
  have htaken : ∀ (outcome : TurnOutcome), (∃ after, outcome = .changed after) →
      ¬ (outcome.result turns).Idle turns := by
    rintro outcome ⟨after, rfl⟩ hidle
    simp [FoldResult.Idle, TurnOutcome.result] at hidle
  cases event with
  | runEvent data => cases h
  | taskSubmitted => cases h
  | taskUpdate => cases h
  | hitlRequest data =>
      obtain ⟨turn, hroot, hturn⟩ := (Option.any_eq_true _ _).mp h
      simp only [Bool.and_eq_true] at hturn
      refine ⟨data.runId, turn, rfl, (Option.filter_eq_some_iff.mp hroot).1, hturn.1, ?_⟩
      simp only [foldCanonicalEvent, foldHITLRequest, hroot]
      exact htaken _ (foldHITLQuestion_of_asksAnew hturn.2)
  | hitlResponse data =>
      obtain ⟨turn, hroot, hturn⟩ := (Option.any_eq_true _ _).mp h
      simp only [Bool.and_eq_true] at hturn
      refine ⟨data.runId, turn, rfl, (Option.filter_eq_some_iff.mp hroot).1, hturn.1, ?_⟩
      simp only [foldCanonicalEvent, foldHITLResponse, hroot]
      exact htaken _ (foldHITLAnswer_of_awaitsAnswer hturn.2)
  | agentResponse data =>
      obtain ⟨turn, hfind, hturn⟩ := (Option.any_eq_true _ _).mp h
      simp only [Bool.and_eq_true, Bool.not_eq_true'] at hturn
      refine ⟨turn.id, turn, by simp [addressee, hfind],
        hkeyed.get_of_mem (List.mem_of_find?_eq_some hfind), hturn.1, ?_⟩
      simp only [foldCanonicalEvent, foldAgentResponse, hfind]
      exact htaken _ ⟨_, if_neg (by simp [hturn.2])⟩

end Step

/-! ## Absorption -/

/-- What a settled Turn and its neighbours are promised of an event. -/
structure Absorbed (turns : TurnProjectionMap) (event : CanonicalFoldEvent) (result : FoldResult) :
    Prop where
  settled : ∀ key turn, get turns key = some turn → turn.state.settled = true →
    get result.turns key = some turn
  refused : ∀ key turn, addressee turns event = some key → get turns key = some turn →
    turn.state.settled = true → result.Idle turns
  others : ∀ key, addressee turns event ≠ some key → get result.turns key = get turns key

/-- In every map that events lead to, an event leaves the settled Turns and the Turns that it is
not for as they are, unless it is a new question, the answer of an open one or a first final
response for a settled Turn. -/
theorem settled_turns_absorb {turns : TurnProjectionMap} (hreach : Reachable turns)
    (conversationId : String) {event : CanonicalFoldEvent} (hrooted : event.rooted = true) :
    Absorbed turns event (foldCanonicalEvent turns conversationId event) ↔
      changesSettled turns event = false := by
  have hkeyed := hreach.keyed
  constructor
  · intro h
    by_contra hchanges
    obtain ⟨key, turn, htarget, hget, hsettled, htaken⟩ :=
      foldCanonicalEvent_of_changesSettled conversationId hkeyed (by simpa using hchanges)
    exact htaken (h.refused key turn htarget hget hsettled)
  · intro hleaves
    cases foldCanonicalEvent_cases conversationId hkeyed hrooted with
    | inl hidle =>
        have hturns : (foldCanonicalEvent turns conversationId event).turns = turns := by
          cases hidle with
          | inl hok => rw [hok, FoldResult.turns]
          | inr hfailed =>
              obtain ⟨violation, heq⟩ := hfailed
              rw [heq, FoldResult.turns]
        refine ⟨?_, fun _ _ _ _ _ => hidle, ?_⟩
        · intro key turn hget _
          rw [hturns, hget]
        · intro key _
          rw [hturns]
    | inr hwrites =>
        obtain ⟨after, h⟩ := hwrites
        have hunsettled : ∀ turn, get turns after.id = some turn → turn.state.settled ≠ true := by
          intro turn hget hsettled
          have hchanges := h.settled turn hget hsettled
          rw [hleaves] at hchanges
          cases hchanges
        refine ⟨?_, ?_, ?_⟩
        · intro key turn hget hsettled
          rw [h.result, FoldResult.turns]
          by_cases hkey : key = after.id
          · rw [hkey] at hget
            exact absurd hsettled (hunsettled turn hget)
          · rw [get_put_of_ne _ hkey, hget]
        · intro key turn htarget hget hsettled
          rw [h.target] at htarget
          cases htarget
          exact absurd hsettled (hunsettled turn hget)
        · intro key hkey
          rw [h.result, FoldResult.turns]
          refine get_put_of_ne _ ?_
          intro heq
          exact hkey (by rw [h.target, heq])

/-! ## A failed Turn -/

def settledFailed : CanonicalFoldEvent :=
  runEvent 2 (.runSettled
    { status := .failed
      startedAt := "2030-01-01T00:00:00Z"
      settledAt := "2030-01-01T00:00:01Z"
      durationMs := 1000
      finalMessageId := none
      failureCode := some .internalError
      errorSummary := some "The run could not be completed."
      cancellationCode := none })

def failedTurns : TurnProjectionMap :=
  foldEvents "room-1" [started, settledFailed]

theorem failedTurns_reachable : Reachable failedTurns := by
  apply foldEvents_reachable
  intro event hmem
  cases List.mem_pair.mp hmem with
  | inl hstarted => rw [hstarted]; rfl
  | inr hsettled => rw [hsettled]; rfl

/-- The Turn refuses what the run still sends. -/
theorem settled_turns_absorb_failed :
    Absorbed failedTurns (runEvent 3 (.turnStart ⟨"turn-1", 1⟩))
      (foldCanonicalEvent failedTurns "room-1" (runEvent 3 (.turnStart ⟨"turn-1", 1⟩))) :=
  (settled_turns_absorb failedTurns_reachable "room-1" rfl).mpr rfl

/-- A question for the failed Turn is taken. -/
theorem settled_turn_questioned :
    ¬ ∀ (turns : TurnProjectionMap) (conversationId : String) (event : CanonicalFoldEvent),
      Reachable turns → event.rooted = true →
        Absorbed turns event (foldCanonicalEvent turns conversationId event) := by
  intro h
  have hquestion := h failedTurns "room-1" (question "request-1" 0 1 (by decide))
    failedTurns_reachable rfl
  have hturn : ∃ turn, get failedTurns "run-1" = some turn ∧ turn.state.settled = true ∧
      get (foldCanonicalEvent failedTurns "room-1" (question "request-1" 0 1 (by decide))).turns
        "run-1" ≠ some turn := by
    refine ⟨_, rfl, rfl, ?_⟩
    decide
  obtain ⟨turn, hget, hsettled, hchanged⟩ := hturn
  exact hchanged (hquestion.settled "run-1" turn hget hsettled)

end Hybro.TurnLifecycle
