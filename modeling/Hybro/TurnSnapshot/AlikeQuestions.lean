import Hybro.TurnSnapshot.AlikeEvents

/-! # Questions, answers and final responses taken alike -/

namespace Hybro.TurnSnapshot

open OrderedMap TurnLifecycle

variable {conversationId key : String} {turn : TurnProjection} {record after : RoomSnapshotTurn}

/-! ## Questions -/

theorem SameInteraction.find_request {interaction : HITLInteractionProjection}
    {row : RoomSnapshotInteraction} (h : SameInteraction interaction row) (id : String) :
    (interaction.requests.find? (·.requestId = id)).map questionShown =
      (row.requests.find? (·.requestId = id)).map (questionShown ·.projection) := by
  apply find?_of_map_eq h.requests
  intro question request hshown
  have hid : question.requestId = request.requestId :=
    congrArg HITLQuestionProjection.requestId hshown
  rw [hid]

theorem SameInteraction.push {interaction : HITLInteractionProjection}
    {row : RoomSnapshotInteraction} (h : SameInteraction interaction row)
    (request : RoomSnapshotRequest) :
    SameInteraction (interaction.push request.projection) (row.push request) := by
  constructor
  · exact h.interactionId
  · exact h.state
  · simp [HITLInteractionProjection.push, RoomSnapshotInteraction.push, h.requestIds,
      RoomSnapshotRequest.projection]
  · simp [HITLInteractionProjection.push, RoomSnapshotInteraction.push, h.requests]
  · exact h.resumedAt

theorem Alike.pushInteraction {interaction : HITLInteractionProjection}
    {row : RoomSnapshotInteraction} (h : Alike conversationId key turn record)
    (hsame : SameInteraction interaction row) :
    Alike conversationId key { turn with hitlInteractions := turn.hitlInteractions ++ [interaction] }
      { record with hitlInteractions := record.hitlInteractions ++ [row] } := by
  have hshown := sameInteraction_iff.mpr hsame
  exact { h with interactions := by simp [h.interactions, hshown] }

theorem repeats_of_same {prior : HITLQuestionProjection} {row : RoomSnapshotRequest}
    {event : HITLRequestEvent} {runId interactionId userMessageId clientRequestId : String}
    (hindex : 0 ≤ event.questionIndex ∧ event.questionIndex < event.questionCount)
    (hshown : questionShown prior = questionShown row.projection)
    (hrow : { row with status := .requested, answerRef := none } = newRequest event) :
    prior.repeats (questionData event runId interactionId userMessageId clientRequestId hindex) =
      true := by
  have hasked : ({ row with status := .requested, answerRef := none } :
      RoomSnapshotRequest).projection = (newRequest event).projection :=
    congrArg RoomSnapshotRequest.projection hrow
  have hprior : { prior with status := .requested, answerRef := none } =
      (newRequest event).projection := by
    rw [← hasked]
    have hsame := congrArg (fun question : HITLQuestionProjection =>
      { question with status := .requested }) hshown
    exact hsame
  simp only [RoomSnapshotRequest.projection, newRequest, HITLQuestionProjection.mk.injEq] at hprior
  obtain ⟨-, hmessage, hindex, hcount, hprompt, htype, hchoices, hsource, hlabel, -⟩ := hprior
  simp [HITLQuestionProjection.repeats, questionData, hmessage, hindex, hcount, hprompt, htype,
    hchoices, hsource, hlabel]

theorem foldQuestion_alike {event : HITLRequestEvent}
    {runId interactionId userMessageId clientRequestId ts : String}
    (hindex : 0 ≤ event.questionIndex ∧ event.questionIndex < event.questionCount)
    (hproper : Proper record) (h : Alike conversationId key turn record)
    (hcondition : record.asksAlike event interactionId = true)
    (hstep : record.foldQuestion event interactionId ts = some after) :
    TakenTo conversationId key turn
      (foldHITLQuestion turn
        (questionData event runId interactionId userMessageId clientRequestId hindex)) after := by
  have hquestion : questionOf
      (questionData event runId interactionId userMessageId clientRequestId hindex) =
      (newRequest event).projection := rfl
  unfold RoomSnapshotTurn.asksAlike at hcondition
  unfold RoomSnapshotTurn.foldQuestion at hstep
  unfold TakenTo foldHITLQuestion
  rw [hquestion]
  simp only [show (questionData event runId interactionId userMessageId clientRequestId
    hindex).interactionId = interactionId from rfl]
  cases hrow : record.findInteraction interactionId with
  | none =>
      rw [hrow] at hstep
      cases hstep
      rw [h.findInteraction_none hrow]
      exact ⟨_, rfl, h.pushInteraction ⟨rfl, rfl, rfl, rfl, rfl⟩⟩
  | some row =>
      obtain ⟨interaction, hfind, hsame⟩ := h.findInteraction_some hrow
      have hrequest := hsame.find_request event.requestId
      rw [hrow] at hstep hcondition
      rw [hfind]
      dsimp only at hstep ⊢
      simp only [show (questionData event runId interactionId userMessageId clientRequestId
        hindex).requestId = event.requestId from rfl]
      by_cases hopen : row.state = .awaitingInput
      · rw [if_neg (not_not_intro hopen)] at hstep
        have hfresh : row.requests.any (·.questionIndex = event.questionIndex) = false := by
          simpa [hopen] using hcondition
        split at hstep
        · cases hstep
        · rename_i hnew
          cases hstep
          have hnone : row.requests.find? (·.requestId = event.requestId) = none := by
            apply List.find?_eq_none.mpr
            intro request hmem hid
            apply hnew
            rw [← (hproper.interaction hrow).listed]
            simpa using ⟨request, hmem, by simpa using hid⟩
          rw [hnone] at hrequest
          have hindexes : interaction.requests.any (·.questionIndex =
              event.questionIndex.toNat) = false := by
            rw [← hfresh]
            apply any_of_map_eq_of_mem hsame.requests
            intro question request hmem hshown
            have hnumber : question.questionIndex = request.questionIndex.toNat :=
              congrArg HITLQuestionProjection.questionIndex hshown
            have hnumbered := ((hproper.interaction hrow).numbered request hmem).1
            rw [hnumber, decide_eq_decide]
            omega
          rw [Option.map_eq_none_iff.mp hrequest]
          dsimp only
          simp only [show (questionData event runId interactionId userMessageId clientRequestId
            hindex).questionIndex = event.questionIndex.toNat from rfl]
          rw [hindexes, if_neg Bool.false_ne_true]
          exact ⟨_, rfl, h.updateInteraction fun _ _ _ hother => hother.push (newRequest event)⟩
      · rw [if_pos hopen] at hstep
        cases hstep
        have hprior : (row.requests.find? (·.requestId = event.requestId)).any (fun prior =>
            { prior with status := .requested, answerRef := none } = newRequest event) = true := by
          simpa [hopen] using hcondition
        obtain ⟨priorRow, hpriorRow, hasked⟩ := (Option.any_eq_true _ _).mp hprior
        rw [hpriorRow] at hrequest
        obtain ⟨prior, hfindPrior, hshown⟩ := Option.map_eq_some_iff.mp hrequest
        rw [hfindPrior]
        dsimp only
        rw [repeats_of_same hindex hshown (by simpa using hasked), if_pos rfl]
        exact ⟨turn, rfl, h⟩

/-! ## Answers -/

theorem RoomSnapshotInteraction.terminal_congr {row other : RoomSnapshotInteraction}
    (hstatuses : row.requests.map (·.status) = other.requests.map (·.status))
    (hids : row.requestIds = other.requestIds) : row.terminal = other.terminal := by
  have hlength : row.requests.length = other.requests.length := by
    simpa using congrArg List.length hstatuses
  have hany : ∀ p : RequestStatus → Bool,
      row.requests.any (p ·.status) = other.requests.any (p ·.status) :=
    fun p => any_of_map_eq hstatuses fun a b hab => congrArg p hab
  have hall : row.requests.all (·.status ≠ .requested) =
      other.requests.all (·.status ≠ .requested) := by
    rw [List.all_eq_not_any_not, List.all_eq_not_any_not, hany fun status => !status ≠ .requested]
  unfold terminal nonResumable
  rw [hall, hlength, hids, hany (· = .error), hany (· = .canceled), hany (· = .expired)]

theorem SameInteraction.terminal {interaction : HITLInteractionProjection}
    {row : RoomSnapshotInteraction} (h : SameInteraction interaction row) :
    interaction.terminal = row.terminal := by
  have hany : ∀ p : RequestStatus → Bool,
      interaction.requests.any (p ·.status) = row.requests.any (p ·.status) := by
    intro p
    apply h.any_requests
    intro question request hshown
    exact congrArg p (congrArg HITLQuestionProjection.status hshown)
  have hall : interaction.requests.all (·.status ≠ .requested) =
      row.requests.all (·.status ≠ .requested) := by
    rw [List.all_eq_not_any_not, List.all_eq_not_any_not, hany fun status => !status ≠ .requested]
  unfold HITLInteractionProjection.terminal HITLInteractionProjection.nonResumable
    RoomSnapshotInteraction.terminal RoomSnapshotInteraction.nonResumable
  rw [hall, h.length, h.requestIds, hany (· = .error), hany (· = .canceled), hany (· = .expired)]

theorem SameInteraction.answer {interaction : HITLInteractionProjection}
    {row : RoomSnapshotInteraction} (h : SameInteraction interaction row)
    {event : HITLResolvedEvent} {runId interactionId userMessageId clientRequestId : String}
    {status : ResponseStatus} :
    SameInteraction
      (interaction.answer (answerData event runId interactionId userMessageId clientRequestId status))
      (row.answer event status) := by
  refine ⟨h.interactionId, h.state, h.requestIds, ?_, h.resumedAt⟩
  apply updateFirst_of_map_eq h.requests
  · intro question request hshown
    have hid : question.requestId = request.requestId :=
      congrArg HITLQuestionProjection.requestId hshown
    rw [hid]
    rfl
  · intro question request _ _ hshown
    exact congrArg (fun question : HITLQuestionProjection =>
      { question with status := status.requestStatus }) hshown

theorem SameInteraction.answered {interaction : HITLInteractionProjection}
    {row : RoomSnapshotInteraction} {request : RoomSnapshotRequest}
    {event : HITLResolvedEvent} {runId interactionId userMessageId clientRequestId : String}
    {status : ResponseStatus} (h : SameInteraction interaction row)
    (hfind : row.requests.find? (·.requestId = event.requestId) = some request)
    (hmessage : request.messageId = event.messageId)
    (hindex : request.questionIndex = event.questionIndex)
    (hcount : request.questionCount = event.questionCount) :
    ∃ question, question.status = request.status ∧
      interaction.answered (answerData event runId interactionId userMessageId clientRequestId
        status) = some question := by
  have hrequest := h.find_request event.requestId
  rw [hfind] at hrequest
  obtain ⟨question, hquestion, hshown⟩ := Option.map_eq_some_iff.mp hrequest
  have hmessages : question.messageId = request.messageId :=
    congrArg HITLQuestionProjection.messageId hshown
  have hindexes : question.questionIndex = request.questionIndex.toNat :=
    congrArg HITLQuestionProjection.questionIndex hshown
  have hcounts : question.questionCount = request.questionCount.toNat :=
    congrArg HITLQuestionProjection.questionCount hshown
  refine ⟨question, congrArg HITLQuestionProjection.status hshown, ?_⟩
  apply Option.filter_eq_some_iff.mpr
  refine ⟨hquestion, ?_⟩
  simp [answerData, hmessages, hindexes, hcounts, hmessage, hindex, hcount]

theorem RoomSnapshotInteraction.nonResumable_ne_awaiting {row : RoomSnapshotInteraction}
    {state : InteractionState} (h : row.terminal = some state) : state ≠ .awaitingInput := by
  unfold terminal nonResumable at h
  rintro rfl
  split at h
  · split at h
    · cases h
    · split at h
      · cases h
      · split at h
        · cases h
        · cases h
  · cases h

theorem Alike.answerAgain {event : HITLResolvedEvent} {interactionId : String}
    {status : ResponseStatus} {row : RoomSnapshotInteraction} {request : RoomSnapshotRequest}
    (hproper : Proper record) (h : Alike conversationId key turn record)
    (hrow : record.findInteraction interactionId = some row)
    (hfind : row.requests.find? (·.requestId = event.requestId) = some request)
    (hstatus : request.status = status.requestStatus)
    (hstep : record.foldAnswer event status interactionId = some after) :
    Alike conversationId key turn after := by
  have hkept : (row.answer event status).requests.map (·.status) = row.requests.map (·.status) := by
    apply map_updateFirst
    intro other hother
    rw [hfind] at hother
    cases hother
    exact hstatus.symm
  have hshown : SameInteraction row.projection (row.answer event status) := by
    refine ⟨rfl, rfl, rfl, ?_, rfl⟩
    unfold RoomSnapshotInteraction.projection RoomSnapshotInteraction.answer
    rw [List.map_map]
    symm
    apply map_updateFirst
    intro other hother
    rw [hfind] at hother
    cases hother
    simp [questionShown, RoomSnapshotRequest.projection, hstatus]
  have hterminal : (row.answer event status).terminal = row.terminal :=
    RoomSnapshotInteraction.terminal_congr hkept rfl
  unfold RoomSnapshotTurn.foldAnswer at hstep
  rw [hrow] at hstep
  dsimp only at hstep
  split at hstep
  · cases hstep
  · rw [hterminal] at hstep
    split at hstep
    · cases hstep
      refine { h with interactions := ?_ }
      rw [h.interactions]
      symm
      apply map_updateFirst
      intro other hother
      have hother : record.findInteraction interactionId = some other := hother
      rw [hrow] at hother
      cases hother
      exact (sameInteraction_iff.mpr hshown).symm
    · rename_i state hended
      cases hstep
      have hstate := (hproper.interaction hrow).ended state hended
      refine { h with interactions := ?_, active := ?_ }
      · rw [h.interactions]
        symm
        apply map_updateFirst
        intro other hother
        have hother : record.findInteraction interactionId = some other := hother
        rw [hrow] at hother
        cases hother
        have hended : row.endAs event status state = row.answer event status := by
          unfold RoomSnapshotInteraction.endAs
          rw [← hstate]
          rfl
        rw [hended]
        exact (sameInteraction_iff.mpr hshown).symm
      · rw [h.active]
        dsimp only
        split
        · rename_i hactive
          obtain ⟨-, waiting, hwaiting, hawaits⟩ := hproper.active interactionId hactive
          rw [hrow] at hwaiting
          cases hwaiting
          rw [hstate] at hawaits
          exact absurd hawaits (RoomSnapshotInteraction.nonResumable_ne_awaiting hended)
        · rfl

theorem foldAnswer_alike {event : HITLResolvedEvent}
    {runId interactionId userMessageId clientRequestId : String} {status : ResponseStatus}
    (hproper : Proper record) (h : Alike conversationId key turn record)
    (hcondition : record.answersAlike event interactionId status = true)
    (hstep : record.foldAnswer event status interactionId = some after) :
    TakenTo conversationId key turn
      (foldHITLAnswer turn
        (answerData event runId interactionId userMessageId clientRequestId status)) after := by
  obtain ⟨row, hrow, hrequests⟩ := (Option.any_eq_true _ _).mp hcondition
  obtain ⟨request, hfind, hnamed⟩ := (Option.any_eq_true _ _).mp hrequests
  simp only [Bool.and_eq_true, Bool.or_eq_true, decide_eq_true_eq] at hnamed
  obtain ⟨⟨⟨hmessage, hindex⟩, hcount⟩, hstatus⟩ := hnamed
  obtain ⟨interaction, hinteraction, hsame⟩ := h.findInteraction_some hrow
  have hanswered : ∃ question, question.status = request.status ∧
      interaction.answered (answerData event runId interactionId userMessageId clientRequestId
        status) = some question := hsame.answered hfind hmessage hindex hcount
  obtain ⟨question, hquestion, hanswered⟩ := hanswered
  have hanswer : SameInteraction
      (interaction.answer (answerData event runId interactionId userMessageId clientRequestId
        status)) (row.answer event status) := hsame.answer
  have hid : interaction.interactionId = interactionId := by
    rw [hsame.interactionId, interactionId_of_find hrow]
  unfold TakenTo foldHITLAnswer
  simp only [show (answerData event runId interactionId userMessageId clientRequestId
    status).interactionId = interactionId from rfl]
  rw [hinteraction]
  dsimp only
  rw [hanswered]
  dsimp only
  rw [hquestion]
  by_cases hopen : request.status = .requested
  · have hnames := List.find?_some hfind
    have hasked : row.requests.any (·.requestId = event.requestId) = true :=
      List.any_eq_true.mpr ⟨request, List.mem_of_find?_eq_some hfind, hnames⟩
    unfold RoomSnapshotTurn.foldAnswer at hstep
    rw [hrow] at hstep
    dsimp only at hstep
    rw [hasked, if_neg Bool.noConfusion] at hstep
    rw [if_neg (not_not_intro hopen), hanswer.terminal]
    cases hended : (row.answer event status).terminal with
    | none =>
        rw [hended] at hstep
        cases hstep
        exact ⟨_, rfl, h.updateInteraction fun _ _ _ hother => hother.answer⟩
    | some state =>
        rw [hended] at hstep
        cases hstep
        have hupdated : Alike conversationId key
            (turn.updateInteraction interactionId
              (·.endAs (answerData event runId interactionId userMessageId clientRequestId status)
                state))
            (record.updateInteraction interactionId (·.endAs event status state)) := by
          apply h.updateInteraction
          intro other otherRow _ hother
          have hrequests : SameInteraction
              (other.answer (answerData event runId interactionId userMessageId clientRequestId
                status)) (otherRow.answer event status) := hother.answer
          exact ⟨hother.interactionId, rfl, hother.requestIds, hrequests.requests,
            hother.resumedAt⟩
        refine ⟨_, rfl, { hupdated with active := ?_ }⟩
        dsimp only
        rw [hid, h.active]
  · have hrepeats : request.status = status.requestStatus := by simpa [hopen] using hstatus
    have hsame : request.status = (answerData event runId interactionId userMessageId
      clientRequestId status).status.requestStatus := hrepeats
    rw [if_pos hopen, if_pos hsame]
    exact ⟨turn, rfl, h.answerAgain hproper hrow hfind hrepeats hstep⟩

/-! ## Final responses -/

theorem Alike.awaitsFinal (h : Alike conversationId key turn record) (data : AgentResponseData) :
    turn.awaitsFinal data = record.awaitsFinal data := by
  have hfinal : turn.finalAnswer.any (·.messageId = data.messageId) =
      record.finalAnswer.any (·.messageId = data.messageId) := by
    have hshown := h.final
    cases hrecord : record.finalAnswer with
    | none =>
        rw [hrecord] at hshown
        rw [Option.map_eq_none_iff.mp hshown]
        rfl
    | some final =>
        rw [hrecord] at hshown
        obtain ⟨shownFinal, hturn, hsame⟩ := Option.map_eq_some_iff.mp hshown
        have hmessage : shownFinal.messageId = final.messageId :=
          congrArg AssistantProjection.messageId hsame
        rw [hturn]
        simp [hmessage]
  unfold TurnProjection.awaitsFinal RoomSnapshotTurn.awaitsFinal
  rw [hfinal, h.clientRequestId, h.userMessageId, Bool.eq_iff_iff]
  simp only [Bool.and_eq_true, decide_eq_true_eq]
  constructor
  · rintro ⟨⟨hclient, hmessage⟩, hany⟩
    exact ⟨⟨hany, hclient.symm⟩, hmessage.symm⟩
  · rintro ⟨⟨hany, hclient⟩, hmessage⟩
    exact ⟨⟨hclient.symm, hmessage.symm⟩, hany⟩

theorem Alike.finalText {text : String} (h : Alike conversationId key turn record) :
    turn.finalAnswer.any (·.text = text) = record.finalAnswer.any (·.text = text) := by
  have hshown := h.final
  cases hrecord : record.finalAnswer with
  | none =>
      rw [hrecord] at hshown
      rw [Option.map_eq_none_iff.mp hshown]
      rfl
  | some final =>
      rw [hrecord] at hshown
      obtain ⟨shownFinal, hturn, hsame⟩ := Option.map_eq_some_iff.mp hshown
      have htext : shownFinal.text = final.text := congrArg AssistantProjection.text hsame
      rw [hturn]
      simp [htext]

theorem commitFinal_alike {data : AgentResponseData} (h : Alike conversationId key turn record)
    (hawaits : record.awaitsFinal data = true)
    (hcondition : (!record.finalCommitted ||
      record.finalAnswer.any (·.text = data.content.getD "")) = true) :
    TakenTo conversationId key turn (commitFinal turn data) (record.commitFinal data) := by
  unfold TakenTo TurnLifecycle.commitFinal RoomSnapshotTurn.commitFinal
  rw [h.committed, h.finalText, hawaits]
  cases hcommitted : record.finalCommitted with
  | true =>
      rw [hcommitted] at hcondition
      have htext : record.finalAnswer.any (·.text = data.content.getD "") = true := by
        simpa using hcondition
      rw [if_pos rfl, if_pos htext, if_neg (by simp)]
      exact ⟨turn, rfl, h⟩
  | false =>
      rw [if_neg Bool.false_ne_true, if_pos ⟨rfl, rfl⟩]
      refine ⟨_, rfl, { h with final := ?_, committed := rfl }⟩
      have hshown := congrArg (Option.map fun final : AssistantProjection =>
        { final with text := data.content.getD "" }) h.final
      simp only [Option.map_map] at hshown ⊢
      exact hshown

end Hybro.TurnSnapshot
