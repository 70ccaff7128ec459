import Hybro.TurnSnapshot.ProperEvents

/-! # The live stream and the snapshot show the same Turns

A room log that the server accepts and whose events are taken alike is accepted by the
client, and builds the projections that a snapshot of the log converts to.
-/

namespace Hybro.TurnSnapshot

open OrderedMap TurnLifecycle

variable {conversationId key : String} {turn : TurnProjection} {record after : RoomSnapshotTurn}

/-! ## Run events -/

/-- What relates a projection to the record of the same run. -/
structure Follows (conversationId key : String) (turn : TurnProjection)
    (record : RoomSnapshotTurn) : Prop where
  alike : Alike conversationId key turn record
  proper : Proper record

/-- The client takes an event, and goes on following the record. -/
def FollowsTo (conversationId key : String) (turn : TurnProjection) (outcome : TurnOutcome)
    (after : RoomSnapshotTurn) : Prop :=
  ∃ next, taken turn outcome = some next ∧ Follows conversationId key next after

theorem TakenTo.follows {outcome : TurnOutcome} (h : TakenTo conversationId key turn outcome after)
    (hproper : Proper after) : FollowsTo conversationId key turn outcome after := by
  obtain ⟨next, htaken, halike⟩ := h
  exact ⟨next, htaken, halike, hproper⟩

theorem Alike.inInternal {payload : CanonicalPayload} {id : String}
    {fold : InternalTurnProjection → TurnOutcome}
    {foldRecord : InternalTurnProjection → Option RoomSnapshotTurn}
    (h : Alike conversationId key turn record)
    (hstep : record.inInternal id foldRecord = some after)
    (hfold : ∀ internal, record.findInternal id = some internal →
      foldRecord internal = some after → FollowsTo conversationId key turn (fold internal) after) :
    FollowsTo conversationId key turn (foldTurnEvent.inInternal turn payload id fold) after := by
  obtain ⟨internal, hinternal, hstep⟩ := Option.bind_eq_some_iff.mp hstep
  unfold foldTurnEvent.inInternal
  rw [h.findInternal, hinternal]
  exact hfold internal hinternal hstep

theorem noFinal_of_admits {payload : CanonicalPayload}
    (hadmits : record.admits payload = true)
    (hturnEnd : ∀ ended, payload ≠ .turnEnd ended) (hsettled : ∀ settled, payload ≠ .runSettled settled) :
    record.finalAnswer = none := by
  have hfinal := (Bool.and_eq_true_iff.mp hadmits).2
  cases hrecord : record.finalAnswer with
  | none => rfl
  | some final =>
      rw [hrecord] at hfinal
      cases payload with
      | turnEnd ended => exact absurd rfl (hturnEnd ended)
      | runSettled settled => exact absurd rfl (hsettled settled)
      | _ => cases hfinal

theorem foldTurnEvent_follows {clock : Clock} {payload : CanonicalPayload} {eventId : String}
    {order : Nat} (h : Follows conversationId key turn record)
    (haccepted : payload.accepted clock = true) (hcondition : record.takesAlike payload = true)
    (hstep : record.foldEvent eventId order payload = some after) :
    FollowsTo conversationId key turn (foldTurnEvent turn eventId order payload) after := by
  obtain ⟨halike, hproper⟩ := h
  unfold RoomSnapshotTurn.foldEvent at hstep
  split at hstep
  · cases hstep
  · rename_i hadmits
    have hadmits : record.admits payload = true := by simpa using hadmits
    have hunsettled : record.state.settled = false := by
      simpa using (Bool.and_eq_true_iff.mp hadmits).1
    cases payload with
    | runStarted payload => cases hstep
    | turnStart payload =>
        exact (foldTurnStart_alike halike hcondition hstep).follows (hproper.foldTurnStart hstep)
    | messageStart payload =>
        apply halike.inInternal hstep
        intro internal hinternal hstep
        exact (foldMessageStart_alike halike hinternal hcondition hstep).follows
          (hproper.foldMessageStart hstep)
    | messageUpdate payload =>
        apply halike.inInternal hstep
        intro internal hinternal hstep
        exact (foldMessageUpdate_alike halike hcondition hstep).follows
          (hproper.foldMessageUpdate hstep)
    | messageEnd payload =>
        have hfinal : record.finalAnswer = none := by
          apply noFinal_of_admits hadmits
          · intro ended hended
            cases hended
          · intro settled hsettled
            cases hsettled
        apply halike.inInternal hstep
        intro internal hinternal hstep
        exact (foldMessageEnd_alike halike hfinal hcondition hstep).follows
          (hproper.foldMessageEnd haccepted hstep)
    | toolExecutionStart payload =>
        have hshape : executionShape payload.executionKind payload.target = true :=
          (Bool.and_eq_true_iff.mp haccepted).2
        apply halike.inInternal hstep
        intro internal hinternal hstep
        exact (foldToolExecutionStart_alike halike hshape hinternal hcondition hstep).follows
          (hproper.foldToolExecutionStart hstep)
    | toolExecutionUpdate payload =>
        apply halike.inInternal hstep
        intro internal hinternal hstep
        exact (foldToolExecutionUpdate_alike halike hcondition hstep).follows
          (hproper.foldToolExecutionUpdate (Bool.and_eq_true_iff.mp hcondition).2 hstep)
    | toolExecutionEnd payload =>
        apply halike.inInternal hstep
        intro internal hinternal hstep
        exact (foldToolExecutionEnd_alike hproper halike haccepted hcondition hstep).follows
          (hproper.foldToolExecutionEnd hstep)
    | turnEnd payload =>
        apply halike.inInternal hstep
        intro internal hinternal hstep
        exact (foldTurnEnd_alike halike hinternal hcondition hstep).follows
          (hproper.foldTurnEnd hstep)
    | modelDecision payload =>
        exact (foldModelDecision_alike halike hcondition hstep).follows
          (hproper.foldModelDecision hstep)
    | retryScheduled payload =>
        exact (foldRetryScheduled_alike halike hstep).follows (hproper.foldRetryScheduled hstep)
    | runWaitingInput payload =>
        exact (foldRunWaitingInput_alike hproper halike hcondition hstep).follows
          (hproper.foldRunWaitingInput hcondition hstep hunsettled)
    | runResumed payload =>
        exact (foldRunResumed_alike halike hstep).follows
          (hproper.foldRunResumed hunsettled hstep)
    | runSettled payload =>
        exact (foldRunSettled_alike hproper halike (Bool.and_eq_true_iff.mp haccepted).2 hunsettled
          hstep).follows (hproper.foldRunSettled hstep)

theorem Alike.admits {payload : CanonicalPayload} (h : Alike conversationId key turn record)
    (hadmits : record.admits payload = true) :
    turn.state.settled = false ∧
      turn.finalAnswer.any (fun final => !final.admits payload) = false := by
  obtain ⟨hunsettled, hfinal⟩ := Bool.and_eq_true_iff.mp hadmits
  constructor
  · rw [h.state]
    simpa using hunsettled
  · have hshown := h.final
    cases hrecord : record.finalAnswer with
    | none =>
        rw [hrecord] at hshown
        rw [Option.map_eq_none_iff.mp hshown]
        rfl
    | some final =>
        rw [hrecord] at hshown hfinal
        obtain ⟨shownFinal, hturn, hsame⟩ := Option.map_eq_some_iff.mp hshown
        have howner : shownFinal.internalTurnId = final.internalTurnId :=
          congrArg AssistantProjection.internalTurnId hsame
        rw [hturn]
        cases payload with
        | turnEnd payload =>
            have hcloses : payload.internalTurnId = final.internalTurnId := by simpa using hfinal
            simp [AssistantProjection.admits, howner, hcloses]
        | runSettled payload => rfl
        | _ => cases hfinal

theorem foldStarted_follows {clock : Clock} {payload : CanonicalPayload} {eventId : String}
    {order : Nat} (h : Follows conversationId key turn record)
    (haccepted : payload.accepted clock = true) (hcondition : record.takesAlike payload = true)
    (hstep : record.foldEvent eventId order payload = some after) :
    FollowsTo conversationId key turn
      (foldStarted turn record.clientRequestId eventId order payload) after := by
  have hadmits : record.admits payload = true := by
    unfold RoomSnapshotTurn.foldEvent at hstep
    split at hstep
    · cases hstep
    · rename_i hadmits
      simpa using hadmits
  obtain ⟨hunsettled, hfinal⟩ := h.alike.admits hadmits
  unfold foldStarted
  rw [if_neg (not_not_intro h.alike.clientRequestId), hunsettled, if_neg Bool.false_ne_true, hfinal,
    if_neg Bool.false_ne_true]
  exact foldTurnEvent_follows h haccepted hcondition hstep

/-! ## The room -/

abbrev FollowsAll (conversationId : String) : TurnProjectionMap → TurnRecords → Prop :=
  Related (Follows conversationId)

def AcceptedTo (conversationId : String) (result : FoldResult) (records : TurnRecords) : Prop :=
  ∃ turns changed, result = .ok turns changed ∧ FollowsAll conversationId turns records

variable {turns : TurnProjectionMap} {records recordsAfter : TurnRecords}

theorem FollowsTo.result {outcome : TurnOutcome}
    (h : FollowsTo conversationId key turn outcome after)
    (hall : FollowsAll conversationId turns records) (hturn : get turns key = some turn) :
    AcceptedTo conversationId (outcome.result turns) (put records key after) := by
  obtain ⟨next, htaken, hfollows⟩ := h
  cases outcome with
  | unchanged =>
      cases htaken
      have hkept : FollowsAll conversationId (put turns key turn) (put records key after) :=
        hall.put hfollows
      rw [put_of_get hturn] at hkept
      exact ⟨turns, false, rfl, hkept⟩
  | changed changed =>
      cases htaken
      have hkept : FollowsAll conversationId (put turns key next) (put records key after) :=
        hall.put hfollows
      refine ⟨_, true, rfl, ?_⟩
      rw [hfollows.alike.key]
      exact hkept
  | failed violation => cases htaken

theorem newTurn_follows {correlationId runId : String} {payload : RunStartedPayload}
    (hroot : payload.hybroTurnId = runId) :
    Follows conversationId runId (newTurn conversationId correlationId runId payload)
      (newRecord runId correlationId payload) := by
  constructor
  · subst hroot
    constructor <;> rfl
  · exact newRecord_proper runId correlationId payload

theorem foldRunEvent_follows {clock : Clock} {event : RunEventNotification} {roomSeq : Nat}
    {correlationId : String} (hall : FollowsAll conversationId turns records)
    (hcorrelation : event.correlationId = some correlationId)
    (hcondition : takenAlike records (.runEvent event) = true)
    (hstep : foldRunNotification clock records event roomSeq = some recordsAfter) :
    AcceptedTo conversationId
      (foldRunEvent turns conversationId
        { roomSeq := some roomSeq
          eventId := event.eventId
          runId := event.runId
          payload := event.payload
          correlationId := correlationId }) recordsAfter := by
  unfold foldRunNotification at hstep
  split at hstep
  · rename_i haccepted
    have hpayload : event.payload.accepted clock = true := by
      unfold RunEventNotification.accepted at haccepted
      simp only [Bool.and_eq_true] at haccepted
      exact haccepted.1.1.2
    unfold foldCanonicalTurn at hstep
    split at hstep
    · rename_i payload hstarted
      unfold foldRunEvent
      dsimp only
      rw [hstarted]
      dsimp only
      split at hstep
      · cases hstep
      · rename_i hnew
        have hnew : get records event.runId = none := by simpa using hnew
        split at hstep
        · cases hstep
        · rename_i hroot
          simp only [not_or, Decidable.not_not] at hroot
          cases hstep
          have hnone : get turns event.runId = none := by
            rcases hall.get event.runId with ⟨hnone, -⟩ | ⟨_, _, -, hsome, -⟩
            · exact hnone
            · rw [hnew] at hsome
              cases hsome
          rw [hnone, hcorrelation]
          have hstarts : Follows conversationId event.runId
              (newTurn conversationId correlationId event.runId payload)
              (newRecord event.runId correlationId payload) := newTurn_follows hroot.2
          have hkept := hall.put hstarts
          refine ⟨_, true, rfl, ?_⟩
          rw [← hroot.2] at hkept ⊢
          exact hkept
    · rename_i hother
      cases hrecord : get records event.runId with
      | none =>
          rw [hrecord] at hstep
          cases hstep
      | some record =>
          have hfollows : ∃ turn, get turns event.runId = some turn ∧
              Follows conversationId event.runId turn record := by
            rcases hall.get event.runId with ⟨-, hnone⟩ | ⟨turn, other, hturn, hsame, hfollows⟩
            · rw [hrecord] at hnone
              cases hnone
            · rw [hrecord] at hsame
              cases hsame
              exact ⟨turn, hturn, hfollows⟩
          obtain ⟨turn, hturn, hfollows⟩ := hfollows
          have halike : record.takesAlike event.payload = true := by
            have hall : (get records event.runId).all (·.takesAlike event.payload) = true :=
              hcondition
            rw [hrecord] at hall
            exact hall
          rw [hrecord] at hstep
          dsimp only at hstep
          split at hstep
          · cases hstep
          · rename_i hclient
            have hclient : correlationId = record.clientRequestId := by
              have hsame := Decidable.not_not.mp hclient
              rw [hcorrelation] at hsame
              exact Option.some.inj hsame
            obtain ⟨after, hafter, rfl⟩ := Option.map_eq_some_iff.mp hstep
            have hresult := (foldStarted_follows hfollows hpayload halike hafter).result hall hturn
            rw [hclient]
            unfold foldRunEvent
            dsimp only
            split
            · rename_i payload hstarted
              exact absurd hstarted (hother payload)
            · rw [hturn]
              exact hresult
  · cases hstep

theorem exactRoot_follows {runId clientRequestId userMessageId : String}
    (hall : FollowsAll conversationId turns records)
    (hroot : exactRoot records runId (some clientRequestId) (some userMessageId) = some record) :
    ∃ turn, get turns runId = some turn ∧
      findExactRoot turns runId clientRequestId userMessageId = some turn ∧
      Follows conversationId runId turn record := by
  obtain ⟨hrecord, hroots⟩ := Option.filter_eq_some_iff.mp hroot
  rcases hall.get runId with ⟨-, hnone⟩ | ⟨turn, other, hturn, hsame, hfollows⟩
  · rw [hrecord] at hnone
    cases hnone
  · rw [hrecord] at hsame
    cases hsame
    refine ⟨turn, hturn, ?_, hfollows⟩
    apply Option.filter_eq_some_iff.mpr
    refine ⟨hturn, ?_⟩
    simp only [Bool.and_eq_true, decide_eq_true_eq, Option.some.injEq] at hroots
    simp [hfollows.alike.clientRequestId, hfollows.alike.userMessageId, hroots.1, hroots.2]

theorem clientRequest_some {event : HITLRequestEvent} {data : CanonicalHITLRequestData}
    (h : clientRequest event = some data) :
    ∃ runId interactionId userMessageId clientRequestId hindex, event.runId = some runId ∧
      event.interactionId = some interactionId ∧
      event.relatedUserMessageId = some userMessageId ∧
      event.clientRequestId = some clientRequestId ∧ runId ≠ "" ∧
      data = questionData event runId interactionId userMessageId clientRequestId hindex := by
  unfold clientRequest at h
  split at h
  · rename_i runId interactionId userMessageId clientRequestId hrun hinteraction huser hclient
    split at h
    · rename_i hvalid
      cases h
      exact ⟨runId, interactionId, userMessageId, clientRequestId, hvalid.2, hrun, hinteraction,
        huser, hclient, hvalid.1, rfl⟩
    · cases h
  · cases h

theorem clientResponse_some {event : HITLResolvedEvent} {data : CanonicalHITLResponseData}
    (h : clientResponse event = some data) :
    ∃ runId interactionId userMessageId clientRequestId status, event.runId = some runId ∧
      event.interactionId = some interactionId ∧
      event.relatedUserMessageId = some userMessageId ∧
      event.clientRequestId = some clientRequestId ∧
      ResponseStatus.ofText event.status = some status ∧ runId ≠ "" ∧
      data = answerData event runId interactionId userMessageId clientRequestId status := by
  unfold clientResponse at h
  split at h
  · rename_i runId interactionId userMessageId clientRequestId status hrun hinteraction huser
      hclient hstatus
    split at h
    · rename_i hvalid
      cases h
      exact ⟨runId, interactionId, userMessageId, clientRequestId, status, hrun, hinteraction,
        huser, hclient, hstatus, hvalid.1, rfl⟩
    · cases h
  · cases h

theorem foldHITLRequest_follows {event : HITLRequestEvent} {data : CanonicalHITLRequestData}
    {ts : String} (hall : FollowsAll conversationId turns records)
    (hdata : clientRequest event = some data)
    (hcondition : takenAlike records (.hitlRequest event) = true)
    (hstep : foldHITLRequest records event ts = some recordsAfter) :
    AcceptedTo conversationId (TurnLifecycle.foldHITLRequest turns data) recordsAfter := by
  obtain ⟨runId, interactionId, userMessageId, clientRequestId, hindex, hrun, hinteraction, huser,
    hclient, hnamed, rfl⟩ := clientRequest_some hdata
  unfold takenAlike at hcondition
  unfold foldHITLRequest at hstep
  rw [hrun, hinteraction, huser, hclient] at hstep
  dsimp only at hcondition
  rw [hrun, hinteraction, huser, hclient] at hcondition
  simp only [Option.getD_some] at hstep hcondition
  split at hstep
  · cases hstep
  · split at hstep
    · cases hstep
    · cases hroot : exactRoot records runId (some clientRequestId) (some userMessageId) with
      | none =>
          rw [hroot] at hstep
          simp only at hstep
          cases hstep
      | some record =>
          rw [hroot] at hstep hcondition
          dsimp only at hstep
          split at hstep
          · cases hstep
          · obtain ⟨after, hafter, rfl⟩ := Option.map_eq_some_iff.mp hstep
            obtain ⟨turn, hturn, hexact, hfollows⟩ := exactRoot_follows hall hroot
            have hasked : TakenTo conversationId runId turn (foldHITLQuestion turn
                (questionData event runId interactionId userMessageId clientRequestId hindex))
                after := foldQuestion_alike hindex hfollows.proper hfollows.alike hcondition hafter
            have hkept := (hasked.follows (hfollows.proper.foldQuestion hindex hafter)).result hall
              hturn
            unfold TurnLifecycle.foldHITLRequest
            simp only [show (questionData event runId interactionId userMessageId clientRequestId
              hindex).runId = runId from rfl, show (questionData event runId interactionId
              userMessageId clientRequestId hindex).clientRequestId = clientRequestId from rfl,
              show (questionData event runId interactionId userMessageId clientRequestId
              hindex).relatedUserMessageId = userMessageId from rfl]
            rw [hexact]
            exact hkept

theorem foldHITLResponse_follows {event : HITLResolvedEvent} {data : CanonicalHITLResponseData}
    (hall : FollowsAll conversationId turns records)
    (hdata : clientResponse event = some data)
    (hcondition : takenAlike records (.hitlResponse event) = true)
    (hstep : foldHITLResponse records event = some recordsAfter) :
    AcceptedTo conversationId (TurnLifecycle.foldHITLResponse turns data) recordsAfter := by
  obtain ⟨runId, interactionId, userMessageId, clientRequestId, status, hrun, hinteraction, huser,
    hclient, hstatus, hnamed, rfl⟩ := clientResponse_some hdata
  unfold takenAlike at hcondition
  unfold foldHITLResponse at hstep
  dsimp only at hcondition
  rw [hrun, hinteraction, huser, hclient, hstatus] at hstep
  rw [hrun, hinteraction, huser, hclient, hstatus] at hcondition
  simp only [Option.getD_some] at hstep hcondition
  split at hstep
  · cases hstep
  · cases hroot : exactRoot records runId (some clientRequestId) (some userMessageId) with
    | none =>
        rw [hroot] at hstep
        simp only at hstep
        cases hstep
    | some record =>
        rw [hroot] at hstep hcondition
        obtain ⟨after, hafter, rfl⟩ := Option.map_eq_some_iff.mp hstep
        obtain ⟨turn, hturn, hexact, hfollows⟩ := exactRoot_follows hall hroot
        have hanswered : TakenTo conversationId runId turn (foldHITLAnswer turn
            (answerData event runId interactionId userMessageId clientRequestId status)) after :=
          foldAnswer_alike hfollows.proper hfollows.alike hcondition hafter
        have hkept := (hanswered.follows (hfollows.proper.foldAnswer hafter)).result hall hturn
        unfold TurnLifecycle.foldHITLResponse
        simp only [show (answerData event runId interactionId userMessageId clientRequestId
          status).runId = runId from rfl, show (answerData event runId interactionId userMessageId
          clientRequestId status).clientRequestId = clientRequestId from rfl, show (answerData event
          runId interactionId userMessageId clientRequestId status).relatedUserMessageId =
          userMessageId from rfl]
        rw [hexact]
        exact hkept

/-! ## Final responses -/

theorem find_awaiting (data : AgentResponseData) (hall : FollowsAll conversationId turns records) :
    ((values turns).find? (·.awaitsFinal data) = none ∧
        (values records).filter (·.awaitsFinal data) = []) ∨
      ∃ key turn record rest, (values turns).find? (·.awaitsFinal data) = some turn ∧
        (values records).filter (·.awaitsFinal data) = record :: rest ∧
        (key, turn) ∈ turns ∧ (key, record) ∈ records ∧
        Follows conversationId key turn record ∧ record.awaitsFinal data = true ∧
        (∀ entry ∈ records, entry.1 ≠ key → entry.2.awaitsFinal data = true →
          entry.2 ∈ rest) := by
  induction hall with
  | nil => exact .inl ⟨rfl, rfl⟩
  | @cons x y xs ys hxy hrest ih =>
      obtain ⟨hkey, hfollows⟩ := hxy
      have hawaits := hfollows.alike.awaitsFinal data
      by_cases hfirst : y.2.awaitsFinal data = true
      · refine .inr ⟨x.1, x.2, y.2, (values ys).filter (·.awaitsFinal data), ?_, ?_, ?_, ?_,
          hfollows, hfirst, ?_⟩
        · simp [values, hawaits, hfirst]
        · simp [values, hfirst]
        · exact List.mem_cons_self ..
        · rw [hkey]
          exact List.mem_cons_self ..
        · intro entry hentry hne hmatch
          rcases List.mem_cons.mp hentry with rfl | htail
          · exact absurd hkey.symm hne
          · exact List.mem_filter.mpr ⟨List.mem_map_of_mem htail, hmatch⟩
      · have hfirst : y.2.awaitsFinal data = false := by simpa using hfirst
        rcases ih with ⟨hnone, hempty⟩ | ⟨key, turn, record, rest, hfind, hfilter, hturn, hrecord,
          hfollows, hmatch, hothers⟩
        · refine .inl ⟨?_, ?_⟩
          · unfold values at hnone ⊢
            rw [List.map_cons, List.find?_cons_of_neg (by simp [hawaits, hfirst]), hnone]
          · unfold values at hempty ⊢
            rw [List.map_cons, List.filter_cons_of_neg (by simp [hfirst]), hempty]
        · refine .inr ⟨key, turn, record, rest, ?_, ?_, List.mem_cons_of_mem _ hturn,
            List.mem_cons_of_mem _ hrecord, hfollows, hmatch, ?_⟩
          · unfold values at hfind ⊢
            rw [List.map_cons, List.find?_cons_of_neg (by simp [hawaits, hfirst]), hfind]
          · unfold values at hfilter ⊢
            rw [List.map_cons, List.filter_cons_of_neg (by simp [hfirst]), hfilter]
          · intro entry hentry hne hother
            rcases List.mem_cons.mp hentry with rfl | htail
            · rw [hfirst] at hother
              cases hother
            · exact hothers entry htail hne hother

theorem commitFinal_of_not_awaiting {data : AgentResponseData}
    (h : record.awaitsFinal data = false ∨ record.finalCommitted = true) :
    record.commitFinal data = record := by
  unfold RoomSnapshotTurn.commitFinal
  apply if_neg
  rintro ⟨hawaits, hopen⟩
  rcases h with hnone | hcommitted
  · rw [hnone] at hawaits
    cases hawaits
  · rw [hcommitted] at hopen
    cases hopen

theorem no_awaiting {data : AgentResponseData} (hall : FollowsAll conversationId turns records)
    (hempty : data.messageId = "") : (values turns).find? (·.awaitsFinal data) = none := by
  rcases find_awaiting data hall with ⟨hnone, -⟩ | ⟨_, _, record, _, -, -, -, -, hfollows,
    hmatch, -⟩
  · exact hnone
  · have hfinal := (Bool.and_eq_true_iff.mp (Bool.and_eq_true_iff.mp hmatch).1).1
    obtain ⟨final, hrecord, hmessage⟩ := (Option.any_eq_true _ _).mp hfinal
    exact absurd (by simpa [hempty] using hmessage) (hfollows.proper.named final hrecord)

theorem foldAgentResponse_follows {data : AgentResponseData}
    (hall : FollowsAll conversationId turns records) (hnodup : (records.map (·.1)).Nodup)
    (hcondition : takenAlike records (.agentResponse data) = true) :
    AcceptedTo conversationId (TurnLifecycle.foldAgentResponse turns data)
      (foldAgentResponse records data) := by
  have hresponds : respondsAlike records data = true := hcondition
  have hturns : (turns.map (·.1)).Nodup := hall.keys ▸ hnodup
  unfold TurnLifecycle.foldAgentResponse foldAgentResponse
  by_cases hempty : data.messageId = ""
  · rw [if_pos hempty, no_awaiting hall hempty]
    exact ⟨turns, false, rfl, hall⟩
  · rw [if_neg hempty]
    rcases find_awaiting data hall with ⟨hnone, hfilter⟩ | ⟨key, turn, record, rest, hfind,
      hfilter, hturn, hrecord, hfollows, hmatch, hothers⟩
    · have hkept : (records.map fun entry => (entry.1, entry.2.commitFinal data)) = records := by
        have hsame : ∀ entry ∈ records, (entry.1, entry.2.commitFinal data) = id entry := by
          intro entry hentry
          have hidle : entry.2.awaitsFinal data = false := by
            have hnot := List.filter_eq_nil_iff.mp hfilter entry.2 (List.mem_map_of_mem hentry)
            simpa using hnot
          rw [commitFinal_of_not_awaiting (.inl hidle)]
          rfl
        rw [List.map_congr_left hsame, List.map_id]
      rw [hnone, hkept]
      exact ⟨turns, false, rfl, hall⟩
    · unfold respondsAlike at hresponds
      rw [hfilter] at hresponds
      obtain ⟨hfirst, hrest⟩ := Bool.and_eq_true_iff.mp hresponds
      have hwritten := put_eq_map (f := (·.commitFinal data)) hnodup hrecord (by
        intro entry hentry hne
        apply commitFinal_of_not_awaiting
        by_cases hawaits : entry.2.awaitsFinal data = true
        · exact .inr (List.all_eq_true.mp hrest _ (hothers entry hentry hne hawaits))
        · exact .inl (by simpa using hawaits))
      have hget : OrderedMap.get turns key = some turn := by
        unfold OrderedMap.get
        rw [find?_of_nodup hturns hturn]
        rfl
      rw [hfind, ← hwritten]
      exact ((commitFinal_alike hfollows.alike hmatch hfirst).follows
        hfollows.proper.commitFinal).result hall hget

/-! ## Runs -/

theorem foldRunNotification_nodup {clock : Clock} {event : RunEventNotification} {roomSeq : Nat}
    (hnodup : (records.map (·.1)).Nodup)
    (hstep : foldRunNotification clock records event roomSeq = some recordsAfter) :
    (recordsAfter.map (·.1)).Nodup := by
  unfold foldRunNotification at hstep
  split at hstep
  · unfold foldCanonicalTurn at hstep
    split at hstep
    · split at hstep
      · cases hstep
      · split at hstep
        · cases hstep
        · cases hstep
          exact nodup_put hnodup
    · split at hstep
      · cases hstep
      · split at hstep
        · cases hstep
        · obtain ⟨after, -, rfl⟩ := Option.map_eq_some_iff.mp hstep
          exact nodup_put hnodup
  · cases hstep

theorem foldHITLRequest_nodup {event : HITLRequestEvent} {ts : String}
    (hnodup : (records.map (·.1)).Nodup)
    (hstep : foldHITLRequest records event ts = some recordsAfter) :
    (recordsAfter.map (·.1)).Nodup := by
  unfold foldHITLRequest at hstep
  split at hstep
  · cases hstep
  · split at hstep
    · split at hstep
      · cases hstep
        exact hnodup
      · cases hstep
    · split at hstep
      · split at hstep
        · cases hstep
          exact hnodup
        · cases hstep
      · split at hstep
        · cases hstep
        · obtain ⟨after, -, rfl⟩ := Option.map_eq_some_iff.mp hstep
          exact nodup_put hnodup

theorem foldHITLResponse_nodup {event : HITLResolvedEvent} (hnodup : (records.map (·.1)).Nodup)
    (hstep : foldHITLResponse records event = some recordsAfter) :
    (recordsAfter.map (·.1)).Nodup := by
  unfold foldHITLResponse at hstep
  split at hstep
  · cases hstep
  · split at hstep
    · split at hstep
      · cases hstep
        exact hnodup
      · cases hstep
    · split at hstep
      · obtain ⟨after, -, rfl⟩ := Option.map_eq_some_iff.mp hstep
        exact nodup_put hnodup
      · cases hstep

theorem foldTaskSubmitted_nodup {event : TaskSubmittedEvent} (hnodup : (records.map (·.1)).Nodup)
    (hstep : foldTaskSubmitted records event = some recordsAfter) :
    (recordsAfter.map (·.1)).Nodup := by
  unfold foldTaskSubmitted at hstep
  split at hstep
  · cases hstep
  · split at hstep
    · split at hstep
      · cases hstep
        exact hnodup
      · cases hstep
    · cases hstep
      exact nodup_put hnodup

theorem apply_nodup {clock : Clock} {entry : RoomRecord} (hnodup : (records.map (·.1)).Nodup)
    (hstep : apply clock records entry = some recordsAfter) :
    (recordsAfter.map (·.1)).Nodup := by
  unfold apply at hstep
  split at hstep
  · exact foldRunNotification_nodup hnodup hstep
  · exact foldHITLRequest_nodup hnodup hstep
  · exact foldHITLResponse_nodup hnodup hstep
  · rename_i data
    cases hstep
    unfold foldAgentResponse
    split
    · exact hnodup
    · simpa [Function.comp_def] using hnodup
  · exact foldTaskSubmitted_nodup hnodup hstep
  · cases hstep
    exact hnodup

def foldAccepted (conversationId : String) (turns : TurnProjectionMap) :
    List CanonicalFoldEvent → Option TurnProjectionMap
  | [] => some turns
  | event :: rest =>
      match foldCanonicalEvent turns conversationId event with
      | .ok after _ => foldAccepted conversationId after rest
      | .failed _ _ => none

/-- Every event of the log is taken alike, in the state that the server reaches before it. -/
def allTakenAlike (clock : Clock) (records : TurnRecords) : List RoomRecord → Bool
  | [] => true
  | entry :: rest =>
      takenAlike records entry.event &&
        (apply clock records entry).all fun after => allTakenAlike clock after rest

theorem apply_follows {clock : Clock} {entry : RoomRecord} {event : CanonicalFoldEvent}
    (hall : FollowsAll conversationId turns records) (hnodup : (records.map (·.1)).Nodup)
    (hevent : entry.clientEvent = some event) (hcondition : takenAlike records entry.event = true)
    (hstep : apply clock records entry = some recordsAfter) :
    AcceptedTo conversationId (foldCanonicalEvent turns conversationId event) recordsAfter := by
  unfold RoomRecord.clientEvent at hevent
  unfold apply at hstep
  cases hkind : entry.event with
  | runEvent notification =>
      rw [hkind] at hevent hstep hcondition
      obtain ⟨correlationId, hcorrelation, rfl⟩ := Option.map_eq_some_iff.mp hevent
      exact foldRunEvent_follows hall hcorrelation hcondition hstep
  | hitlRequest request =>
      rw [hkind] at hevent hstep hcondition
      obtain ⟨data, hdata, rfl⟩ := Option.map_eq_some_iff.mp hevent
      exact foldHITLRequest_follows hall hdata hcondition hstep
  | hitlResponse response =>
      rw [hkind] at hevent hstep hcondition
      obtain ⟨data, hdata, rfl⟩ := Option.map_eq_some_iff.mp hevent
      exact foldHITLResponse_follows hall hdata hcondition hstep
  | agentResponse data =>
      rw [hkind] at hevent hstep hcondition
      cases hevent
      cases hstep
      exact foldAgentResponse_follows hall hnodup hcondition
  | taskSubmitted task =>
      rw [hkind] at hevent
      cases hevent
  | other =>
      rw [hkind] at hevent
      cases hevent

theorem applyAll_follows {clock : Clock} {final : TurnRecords} (log : List RoomRecord) :
    ∀ (events : List CanonicalFoldEvent) (turns : TurnProjectionMap) (records : TurnRecords),
      FollowsAll conversationId turns records → (records.map (·.1)).Nodup →
      log.map (·.clientEvent) = events.map some → applyAll clock records log = some final →
      allTakenAlike clock records log = true →
      ∃ projections, foldAccepted conversationId turns events = some projections ∧
        FollowsAll conversationId projections final := by
  induction log with
  | nil =>
      intro events turns records hall hnodup hevents hstep hcondition
      cases hstep
      cases events with
      | nil => exact ⟨turns, rfl, hall⟩
      | cons event rest => cases hevents
  | cons entry rest ih =>
      intro events turns records hall hnodup hevents hstep hcondition
      cases events with
      | nil => cases hevents
      | cons event events =>
          obtain ⟨hevent, hevents⟩ := List.cons.inj hevents
          obtain ⟨after, hafter, hstep⟩ := Option.bind_eq_some_iff.mp hstep
          obtain ⟨hfirst, hrest⟩ := Bool.and_eq_true_iff.mp hcondition
          rw [hafter] at hrest
          obtain ⟨next, changed, hnext, hfollows⟩ := apply_follows hall hnodup hevent hfirst hafter
          unfold foldAccepted
          rw [hnext]
          exact ih events next after hfollows (apply_nodup hnodup hafter) hevents hstep hrest

/-- A log that the server accepts and whose events are taken alike is accepted by the client, and
each projection shows what the one converted from the snapshot does. -/
theorem live_stream_shows_snapshot (clock : Clock) (conversationId : String)
    (log : List RoomRecord) (events : List CanonicalFoldEvent) (records : TurnRecords)
    (hevents : log.map (·.clientEvent) = events.map some)
    (haccepted : applyAll clock [] log = some records)
    (halike : allTakenAlike clock [] log = true) :
    ∃ projections, foldAccepted conversationId [] events = some projections ∧
      projections.map (fun entry => (entry.1, shown entry.2)) =
        records.map fun entry =>
          (entry.1, shown (snapshotTurnToProjection conversationId entry.2)) := by
  have hstart : FollowsAll conversationId [] [] := .nil
  obtain ⟨projections, hprojections, hfollows⟩ :=
    applyAll_follows log events [] [] hstart (by simp) hevents haccepted halike
  refine ⟨projections, hprojections, ?_⟩
  clear hprojections haccepted halike
  induction hfollows with
  | nil => rfl
  | cons hxy _ ih =>
      obtain ⟨hkey, hfollows⟩ := hxy
      simp only [List.map_cons, hkey, hfollows.alike.shown, ih]

/-! ## Runs of one Turn -/

def stoppedClock : Clock where
  isTimestamp _ := true
  notBefore _ _ := true
  dateParse _ := some 0

def canonical (roomSeq : Nat) (payload : CanonicalPayload) : RoomRecord where
  roomSeq := roomSeq
  ts := "2030-01-01T00:00:00Z"
  event := .runEvent
    { eventId := "event"
      deliveryId := none
      traceId := none
      runId := "run-1"
      seq := roomSeq
      payload := payload
      correlationId := some "client-1" }

def runStarted : RoomRecord :=
  canonical 1 (.runStarted ⟨"run-1", "user-1", "2030-01-01T00:00:00Z", .ultimate⟩)

def turnStarted : RoomRecord :=
  canonical 2 (.turnStart ⟨"turn-1", 1⟩)

def toolStarted : RoomRecord :=
  canonical 3 (.toolExecutionStart
    ⟨"turn-1", "inv_12345678", "search", [], some .tool, none, some ""⟩)

def toolEnded (failureReason : Option FailureReason) : RoomRecord :=
  canonical 4 (.toolExecutionEnd
    { internalTurnId := "turn-1"
      toolCallId := "inv_12345678"
      toolName := "search"
      outcome := .failed
      result := "no"
      isError := true
      durationMs := 5
      failureReason := failureReason
      executionKind := some .tool
      target := none
      detailAvailable := some false
      errorCode := none
      errorMessage := none })

def toolUpdated : RoomRecord :=
  canonical 5 (.toolExecutionUpdate
    { internalTurnId := "turn-1"
      toolCallId := "inv_12345678"
      toolName := "search"
      updateIndex := 1
      status := .running
      partialResult := "late"
      executionKind := some .tool
      target := none })

/-- A Tool that fails without a reason. -/
theorem live_stream_shows_snapshot_failed_tool :
    let log := [runStarted, turnStarted, toolStarted, toolEnded none]
    ∃ records projections, applyAll stoppedClock [] log = some records ∧ records.length = 1 ∧
      foldAccepted "room-1" [] (log.filterMap (·.clientEvent)) = some projections ∧
      projections.map (fun entry => (entry.1, shown entry.2)) =
        records.map fun entry => (entry.1, shown (snapshotTurnToProjection "room-1" entry.2)) := by
  intro log
  have haccepted : ∃ records, applyAll stoppedClock [] log = some records ∧ records.length = 1 := by
    decide
  obtain ⟨records, hrecords, hlength⟩ := haccepted
  obtain ⟨projections, hprojections, hshown⟩ :=
    live_stream_shows_snapshot stoppedClock "room-1" log (log.filterMap (·.clientEvent)) records
      (by decide) hrecords (by decide)
  exact ⟨records, projections, hrecords, hlength, hprojections, hshown⟩

/-- The reason of a failed Tool is lost in the snapshot, and a late update of a Tool that has
ended is accepted by the server and refused by the client. -/
theorem live_stream_differs :
    (let log := [runStarted, turnStarted, toolStarted, toolEnded (some .execution)];
      (applyAll stoppedClock [] log).isSome = true ∧
        (foldAccepted "room-1" [] (log.filterMap (·.clientEvent))).map
            (·.map fun entry => (entry.2.tools.map (·.failureReason))) = some [[some .execution]] ∧
        (applyAll stoppedClock [] log).map
            (·.map fun entry =>
              ((snapshotTurnToProjection "room-1" entry.2).tools.map (·.failureReason))) =
          some [[none]]) ∧
    (let log := [runStarted, turnStarted, toolStarted, toolEnded none, toolUpdated];
      (applyAll stoppedClock [] log).isSome = true ∧
        foldAccepted "room-1" [] (log.filterMap (·.clientEvent)) = none) := by
  decide

end Hybro.TurnSnapshot
