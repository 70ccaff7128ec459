import Hybro.TurnSnapshot.AlikeQuestions

/-! # What a record keeps

Every event that is accepted and taken alike keeps a record proper.
-/

namespace Hybro.TurnSnapshot

open OrderedMap TurnLifecycle

variable {record after : RoomSnapshotTurn}

/-! ## Reads after writes -/

theorem tools_updateTool (id : String) (f : RoomSnapshotTool → RoomSnapshotTool) :
    (record.updateTool id f).tools = updateFirst (·.toolCallId = id) f record.tools := by
  unfold RoomSnapshotTurn.tools RoomSnapshotTurn.updateTool
  generalize record.activity = activity
  dsimp only
  induction activity with
  | nil => rfl
  | cons item rest ih =>
      cases item with
      | tool tool =>
          by_cases h : tool.toolCallId = id
          · simp [updateFirst, RoomSnapshotActivityItem.isToolWith, RoomSnapshotActivityItem.asTool, h]
          · simpa [updateFirst, RoomSnapshotActivityItem.isToolWith,
              RoomSnapshotActivityItem.asTool, h] using ih
      | assistant _ =>
          simpa [updateFirst, RoomSnapshotActivityItem.isToolWith,
            RoomSnapshotActivityItem.asTool] using ih
      | retry _ =>
          simpa [updateFirst, RoomSnapshotActivityItem.isToolWith,
            RoomSnapshotActivityItem.asTool] using ih
      | decision _ =>
          simpa [updateFirst, RoomSnapshotActivityItem.isToolWith,
            RoomSnapshotActivityItem.asTool] using ih

theorem tools_pushActivity (item : RoomSnapshotActivityItem) :
    (record.pushActivity item).tools = record.tools ++ item.asTool.toList := by
  unfold RoomSnapshotTurn.tools RoomSnapshotTurn.pushActivity
  rw [List.filterMap_append]
  cases item <;> rfl

theorem findInteraction_updateInteraction {id : String}
    {f : RoomSnapshotInteraction → RoomSnapshotInteraction}
    (hf : ∀ row, (f row).interactionId = row.interactionId) (other : String) :
    (record.updateInteraction id f).findInteraction other =
      if other = id then (record.findInteraction id).map f else record.findInteraction other := by
  unfold RoomSnapshotTurn.findInteraction RoomSnapshotTurn.updateInteraction
  split
  · rename_i hsame
    subst hsame
    apply find?_updateFirst
    intro row hrow
    simpa [hf] using hrow
  · rename_i hne
    apply find?_updateFirst_of_ne
    intro row hrow
    have hid : row.interactionId = id := by simpa using hrow
    simp [hf, hid, Ne.symm hne]

namespace Proper

/-! ## Writes that keep a record proper -/

theorem pushActivity {item : RoomSnapshotActivityItem} (h : Proper record)
    (hitem : ∀ tool ∈ item.asTool, tool.executionKind.isSome = true ∧
      tool.errorCode = none ∧ tool.errorMessage = none) : Proper (record.pushActivity item) := by
  refine { h with kinds := ?_, unfailed := ?_ }
  · intro tool htool
    rw [tools_pushActivity] at htool
    rcases List.mem_append.mp htool with hold | hnew
    · exact h.kinds tool hold
    · exact (hitem tool (by simpa using hnew)).1
  · intro tool htool hopen
    rw [tools_pushActivity] at htool
    rcases List.mem_append.mp htool with hold | hnew
    · exact h.unfailed tool hold hopen
    · exact (hitem tool (by simpa using hnew)).2

theorem updateTool {id : String} {f : RoomSnapshotTool → RoomSnapshotTool} {tool : RoomSnapshotTool}
    (h : Proper record) (htool : record.findTool id = some tool)
    (hkind : (f tool).executionKind = tool.executionKind)
    (hunfailed : (f tool).status.isOpen = true →
      (f tool).errorCode = none ∧ (f tool).errorMessage = none) :
    Proper (record.updateTool id f) := by
  refine { h with kinds := ?_, unfailed := ?_ }
  · intro other hother
    rw [tools_updateTool] at hother
    rcases mem_updateFirst hother with hold | ⟨found, hfound, rfl⟩
    · exact h.kinds other hold
    · have hsame : record.findTool id = some found := hfound
      rw [htool] at hsame
      cases hsame
      rw [hkind]
      exact h.kinds tool (List.mem_of_find?_eq_some htool)
  · intro other hother hopen
    rw [tools_updateTool] at hother
    rcases mem_updateFirst hother with hold | ⟨found, hfound, rfl⟩
    · exact h.unfailed other hold hopen
    · have hsame : record.findTool id = some found := hfound
      rw [htool] at hsame
      cases hsame
      exact hunfailed hopen

theorem withoutCurrent (h : Proper record) : Proper { record with currentAssistant := none } :=
  { h with counted := fun _ hcurrent => nomatch hcurrent }

theorem updateInteraction {id : String} {row : RoomSnapshotInteraction}
    {f : RoomSnapshotInteraction → RoomSnapshotInteraction} (h : Proper record)
    (hrow : record.findInteraction id = some row) (hf : ProperInteraction (f row)) :
    ∀ other ∈ (record.updateInteraction id f).hitlInteractions, ProperInteraction other := by
  intro other hother
  rcases mem_updateFirst hother with hold | ⟨found, hfound, rfl⟩
  · exact h.interactions other hold
  · have hsame : record.findInteraction id = some found := hfound
    rw [hrow] at hsame
    cases hsame
    exact hf

theorem keepsActive {id : String} {f : RoomSnapshotInteraction → RoomSnapshotInteraction}
    (h : Proper record) (hf : ∀ row, (f row).interactionId = row.interactionId)
    (hstate : ∀ row, row.state = .awaitingInput → (f row).state = .awaitingInput) :
    ∀ active, record.activeInteractionId = some active → active ≠ "" ∧
      ∃ row, (record.updateInteraction id f).findInteraction active = some row ∧
        row.state = .awaitingInput := by
  intro active hactive
  obtain ⟨hnamed, waiting, hfind, hwaits⟩ := h.active active hactive
  rw [findInteraction_updateInteraction hf]
  split
  · rename_i hsame
    subst hsame
    rw [hfind]
    exact ⟨hnamed, _, rfl, hstate waiting hwaits⟩
  · exact ⟨hnamed, waiting, hfind, hwaits⟩

/-! ## Run events -/

theorem foldTurnStart {payload : TurnStartPayload} (h : Proper record)
    (hstep : record.foldTurnStart payload = some after) : Proper after := by
  unfold RoomSnapshotTurn.foldTurnStart at hstep
  split at hstep
  · cases hstep
  · cases hstep
    exact { h with named := h.named }

theorem foldTurnEnd {internal : InternalTurnProjection} {payload : TurnEndPayload}
    (h : Proper record) (hstep : record.foldTurnEnd internal payload = some after) :
    Proper after := by
  unfold RoomSnapshotTurn.foldTurnEnd at hstep
  dsimp only at hstep
  split at hstep
  · cases hstep
  · cases hstep
    exact { h with named := h.named }

theorem foldModelDecision {eventId : String} {roomSeq : Nat} {payload : ModelDecisionPayload}
    (h : Proper record) (hstep : record.foldModelDecision eventId roomSeq payload = some after) :
    Proper after := by
  unfold RoomSnapshotTurn.foldModelDecision at hstep
  split at hstep
  · cases hstep
  · split at hstep
    · cases hstep
    · split at hstep
      · cases hstep
      · cases hstep
        apply h.pushActivity
        intro tool htool
        cases htool

theorem foldRetryScheduled {eventId : String} {roomSeq : Nat} {payload : RetryScheduledPayload}
    (h : Proper record) (hstep : record.foldRetryScheduled eventId roomSeq payload = some after) :
    Proper after := by
  unfold RoomSnapshotTurn.foldRetryScheduled at hstep
  split at hstep
  · cases hstep
  · split at hstep
    · cases hstep
    · cases hstep
      apply h.pushActivity
      intro tool htool
      cases htool

theorem foldToolExecutionStart {roomSeq : Nat} {payload : ToolExecutionStartPayload}
    (h : Proper record) (hstep : record.foldToolExecutionStart roomSeq payload = some after) :
    Proper after := by
  unfold RoomSnapshotTurn.foldToolExecutionStart at hstep
  split at hstep
  · cases hstep
  · cases hstep
    have hupdated : Proper (record.updateInternal payload.internalTurnId
        (·.pushTool payload.toolCallId)) := { h with named := h.named }
    apply hupdated.pushActivity
    intro tool htool
    cases htool
    exact ⟨rfl, rfl, rfl⟩

theorem closeAssistant {row : RoomSnapshotActivityItem} {text : String} (h : Proper record)
    (hrow : row.asTool = none)
    (hstep : (if text = "" then some { record with currentAssistant := none }
      else some { record.pushActivity row with currentAssistant := none }) = some after) :
    Proper after := by
  split at hstep
  · cases hstep
    exact h.withoutCurrent
  · cases hstep
    have hpushed : Proper (record.pushActivity row) := h.pushActivity (by simp [hrow])
    exact hpushed.withoutCurrent

theorem foldMessageEnd {payload : MessageEndPayload} {roomSeq : Nat} (h : Proper record)
    (haccepted : payload.accepted = true)
    (hstep : record.foldMessageEnd roomSeq payload = some after) : Proper after := by
  have hnamed : payload.messageId ≠ "" := by
    intro hempty
    unfold MessageEndPayload.accepted at haccepted
    rw [hempty] at haccepted
    simp [publicId] at haccepted
  unfold RoomSnapshotTurn.foldMessageEnd at hstep
  cases hmatch : record.currentAssistant.filter (·.messageId = payload.messageId) with
  | none =>
      rw [hmatch] at hstep
      cases hstep
  | some current =>
      have hid : current.messageId = payload.messageId := by
        simpa using (Option.filter_eq_some_iff.mp hmatch).2
      rw [hmatch] at hstep
      dsimp only at hstep
      split at hstep
      · cases hstep
      · split at hstep
        · cases hstep
          refine { h.withoutCurrent with named := ?_ }
          rintro final hfinal
          cases hfinal
          rw [hid]
          exact hnamed
        · exact h.closeAssistant rfl hstep
        · exact h.closeAssistant rfl hstep
        · exact h.closeAssistant rfl hstep

theorem foldMessageStart {payload : MessageStartPayload} {roomSeq : Nat} (h : Proper record)
    (hstep : record.foldMessageStart roomSeq payload = some after) : Proper after := by
  unfold RoomSnapshotTurn.foldMessageStart at hstep
  split at hstep
  · cases hstep
  · cases hstep
    refine { h with counted := ?_ }
    rintro current hcurrent
    cases hcurrent
    exact ⟨rfl, rfl, rfl⟩

theorem foldMessageUpdate {payload : MessageUpdatePayload} (h : Proper record)
    (hstep : record.foldMessageUpdate payload = some after) : Proper after := by
  unfold RoomSnapshotTurn.foldMessageUpdate at hstep
  dsimp only at hstep
  cases hmatch : record.currentAssistant.filter (·.messageId = payload.messageId) with
  | none =>
      rw [hmatch] at hstep
      cases hstep
  | some current =>
      have hcounted := h.counted current (Option.filter_eq_some_iff.mp hmatch).1
      rw [hmatch] at hstep
      dsimp only at hstep
      split at hstep
      · cases hstep
      · split at hstep
        · cases hstep
        · cases hstep
          refine { h with counted := ?_ }
          rintro next hnext
          cases hnext
          exact ⟨hcounted.1, by simpa using hcounted.2.1, rfl⟩

theorem foldToolExecutionUpdate {payload : ToolExecutionUpdatePayload} (h : Proper record)
    (hopen : (record.findTool payload.toolCallId).any (·.status.isOpen) = true)
    (hstep : record.foldToolExecutionUpdate payload = some after) : Proper after := by
  unfold RoomSnapshotTurn.foldToolExecutionUpdate at hstep
  cases htool : record.findTool payload.toolCallId with
  | none =>
      rw [htool] at hstep
      cases hstep
  | some tool =>
      rw [htool] at hstep hopen
      dsimp only at hstep
      split at hstep
      · cases hstep
      · split at hstep
        · cases hstep
        · cases hstep
          exact h.updateTool htool rfl fun _ =>
            h.unfailed tool (List.mem_of_find?_eq_some htool) hopen

theorem foldToolExecutionEnd {payload : ToolExecutionEndPayload} (h : Proper record)
    (hstep : record.foldToolExecutionEnd payload = some after) : Proper after := by
  unfold RoomSnapshotTurn.foldToolExecutionEnd at hstep
  cases htool : record.findTool payload.toolCallId with
  | none =>
      rw [htool] at hstep
      cases hstep
  | some tool =>
      rw [htool] at hstep
      dsimp only at hstep
      split at hstep
      · cases hstep
      · split at hstep
        · cases hstep
        · cases hstep
          apply h.updateTool htool rfl
          intro hopen
          have hopen : payload.outcome.toolStatus.isOpen = true := hopen
          simp at hopen

theorem terminal_of_responded {row : RoomSnapshotInteraction}
    (hrow : row.requests.any (·.status ≠ .responded) = false) : row.terminal = none := by
  have hresponded : ∀ request ∈ row.requests, request.status = .responded := by
    simpa using hrow
  have hany : ∀ status : RequestStatus, status ≠ .responded →
      row.requests.any (·.status = status) = false := by
    intro status hstatus
    apply List.any_eq_false.mpr
    intro request hrequest
    simpa [hresponded request hrequest] using Ne.symm hstatus
  unfold RoomSnapshotInteraction.terminal RoomSnapshotInteraction.nonResumable
  rw [hany .error (by decide), hany .canceled (by decide), hany .expired (by decide)]
  simp

theorem terminal_of_requested {row : RoomSnapshotInteraction} {request : RoomSnapshotRequest}
    (hmem : request ∈ row.requests) (hstatus : request.status = .requested) :
    row.terminal = none := by
  unfold RoomSnapshotInteraction.terminal
  apply if_neg
  rintro ⟨-, hall⟩
  have hclosed := List.all_eq_true.mp hall request hmem
  simp [hstatus] at hclosed

theorem foldRunWaitingInput {payload : RunWaitingInputPayload} (h : Proper record)
    (hcondition : record.takesAlike (.runWaitingInput payload) = true)
    (hstep : record.foldRunWaitingInput payload = some after)
    (hunsettled : record.state.settled = false) : Proper after := by
  unfold RoomSnapshotTurn.foldRunWaitingInput at hstep
  cases hrow : record.findInteraction payload.interactionId with
  | none =>
      rw [hrow] at hstep
      cases hstep
  | some row =>
      have hwaits : row.state = .awaitingInput := by
        rcases Bool.or_eq_true_iff.mp hcondition with hactive | hidle
        · obtain ⟨-, waiting, hwaiting, hstate⟩ :=
            h.active payload.interactionId (by simpa using hactive)
          rw [hrow] at hwaiting
          cases hwaiting
          exact hstate
        · have hany := (Bool.and_eq_true_iff.mp hidle).2
          rw [hrow] at hany
          simpa using hany
      have hkept := h.interaction hrow
      rw [hrow] at hstep
      dsimp only at hstep
      split at hstep
      · cases hstep
      · split at hstep
        · cases hstep
        · cases hstep
          refine { h with unsettled := fun _ => h.unsettled hunsettled, interactions := ?_,
                          awaiting := fun _ => rfl, active := ?_ }
          · exact h.updateInteraction hrow ⟨hkept.listed, hkept.numbered, hkept.ended⟩
          · rintro id hid
            cases hid
            refine ⟨payload.named, row.askedAt payload.requestedAt, ?_, hwaits⟩
            have hfind : (record.updateInteraction payload.interactionId
                (·.askedAt payload.requestedAt)).findInteraction payload.interactionId = _ :=
              findInteraction_updateInteraction (by intro _; rfl) payload.interactionId
            rw [if_pos rfl, hrow] at hfind
            exact hfind

theorem foldRunResumed {payload : RunResumedPayload} (h : Proper record)
    (hunsettled : record.state.settled = false)
    (hstep : record.foldRunResumed payload = some after) : Proper after := by
  unfold RoomSnapshotTurn.foldRunResumed at hstep
  split at hstep
  · cases hstep
  · cases hrow : record.findInteraction payload.interactionId with
    | none =>
        rw [hrow] at hstep
        cases hstep
    | some row =>
        have hkept := h.interaction hrow
        rw [hrow] at hstep
        dsimp only at hstep
        split at hstep
        · cases hstep
        · rename_i hresolved
          cases hstep
          have hresponded : row.requests.any (·.status ≠ .responded) = false := by
            simpa using fun hany => hresolved (.inr hany)
          refine { h with unsettled := fun _ => h.unsettled hunsettled, interactions := ?_,
                          awaiting := ?_, active := ?_ }
          · apply h.updateInteraction hrow
            refine ⟨hkept.listed, hkept.numbered, ?_⟩
            intro state hended
            have hnone : (row.resumed payload.resumedAt).terminal = none :=
              terminal_of_responded hresponded
            rw [hnone] at hended
            cases hended
          · intro hactive
            cases hactive
          · intro id hid
            cases hid

theorem settle {payload : RunSettledPayload} (h : Proper record)
    (hopen : record.openChildren = false) : Proper (record.settle payload) := by
  have hidle : record.activeInteractionId = none := by
    unfold RoomSnapshotTurn.openChildren at hopen
    simp only [Bool.or_eq_false_iff] at hopen
    simpa using hopen.1.1.2
  refine { h with unsettled := ?_, awaiting := ?_, active := ?_ }
  · intro hunsettled
    have hunsettled : payload.status.state.settled = false := hunsettled
    cases hstatus : payload.status with
    | completed =>
        rw [hstatus] at hunsettled
        cases hunsettled
    | failed =>
        rw [hstatus] at hunsettled
        cases hunsettled
    | canceled =>
        rw [hstatus] at hunsettled
        cases hunsettled
  · intro hactive
    have hactive : record.activeInteractionId.isSome = true := hactive
    rw [hidle] at hactive
    cases hactive
  · intro id hid
    have hid : record.activeInteractionId = some id := hid
    rw [hidle] at hid
    cases hid

theorem foldRunSettled {payload : RunSettledPayload} (h : Proper record)
    (hstep : record.foldRunSettled payload = some after) : Proper after := by
  unfold RoomSnapshotTurn.foldRunSettled at hstep
  split at hstep
  · cases hstep
  · rename_i hopen
    have hopen : record.openChildren = false := by simpa using hopen
    split at hstep
    · split at hstep
      · cases hstep
        exact h.settle hopen
      · cases hstep
    · split at hstep
      · cases hstep
        exact h.settle hopen
      · cases hstep

/-! ## Questions, answers and final responses -/

theorem foldQuestion {event : HITLRequestEvent} {interactionId ts : String} (h : Proper record)
    (hindex : 0 ≤ event.questionIndex ∧ event.questionIndex < event.questionCount)
    (hstep : record.foldQuestion event interactionId ts = some after) : Proper after := by
  have hnew : ∀ request : RoomSnapshotRequest, request = newRequest event →
      0 ≤ request.questionIndex ∧ 0 ≤ request.questionCount := by
    rintro request rfl
    exact ⟨hindex.1, Int.le_of_lt (Int.lt_of_le_of_lt hindex.1 hindex.2)⟩
  unfold RoomSnapshotTurn.foldQuestion at hstep
  cases hrow : record.findInteraction interactionId with
  | none =>
      rw [hrow] at hstep
      cases hstep
      refine { h with interactions := ?_, active := ?_ }
      · intro row hmem
        rcases List.mem_append.mp hmem with hold | hadded
        · exact h.interactions row hold
        · cases List.mem_singleton.mp hadded
          refine ⟨rfl, by simpa using hnew, ?_⟩
          intro state hended
          rw [terminal_of_requested (List.mem_singleton.mpr rfl) rfl] at hended
          cases hended
      · intro id hid
        obtain ⟨hnamed, row, hfind, hstate⟩ := h.active id hid
        refine ⟨hnamed, row, ?_, hstate⟩
        unfold RoomSnapshotTurn.findInteraction at hfind ⊢
        simp [List.find?_append, hfind]
  | some row =>
      have hkept := h.interaction hrow
      rw [hrow] at hstep
      dsimp only at hstep
      split at hstep
      · cases hstep
        exact h
      · split at hstep
        · cases hstep
        · cases hstep
          refine { h with interactions := ?_, active := ?_ }
          · apply h.updateInteraction hrow
            refine ⟨?_, ?_, ?_⟩
            · simp [RoomSnapshotInteraction.push, hkept.listed]
            · intro request hmem
              rcases List.mem_append.mp hmem with hold | hadded
              · exact hkept.numbered request hold
              · exact hnew request (List.mem_singleton.mp hadded)
            · intro state hended
              have hpushed : newRequest event ∈ (row.push (newRequest event)).requests :=
                List.mem_append_right _ (List.mem_singleton.mpr rfl)
              rw [terminal_of_requested hpushed rfl] at hended
              cases hended
          · intro id hid
            exact h.keepsActive (by intro _; rfl) (by intro _ hstate; exact hstate) id hid

theorem foldAnswer {event : HITLResolvedEvent} {status : ResponseStatus} {interactionId : String}
    (h : Proper record) (hstep : record.foldAnswer event status interactionId = some after) :
    Proper after := by
  unfold RoomSnapshotTurn.foldAnswer at hstep
  cases hrow : record.findInteraction interactionId with
  | none =>
      rw [hrow] at hstep
      cases hstep
  | some row =>
      have hkept := h.interaction hrow
      have hlisted : (row.answer event status).requests.map (·.requestId) =
          (row.answer event status).requestIds := by
        rw [← show row.requests.map (·.requestId) = (row.answer event status).requestIds from
          hkept.listed]
        exact map_updateFirst fun _ _ => rfl
      have hnumbered : ∀ request ∈ (row.answer event status).requests,
          0 ≤ request.questionIndex ∧ 0 ≤ request.questionCount := by
        intro request hmem
        rcases mem_updateFirst hmem with hold | ⟨found, hfound, rfl⟩
        · exact hkept.numbered request hold
        · exact hkept.numbered found (List.mem_of_find?_eq_some hfound)
      rw [hrow] at hstep
      dsimp only at hstep
      split at hstep
      · cases hstep
      · split at hstep
        · rename_i hopen
          cases hstep
          refine { h with interactions := ?_, active := ?_ }
          · apply h.updateInteraction hrow
            refine ⟨hlisted, hnumbered, ?_⟩
            intro state hended
            rw [hopen] at hended
            cases hended
          · intro id hid
            exact h.keepsActive (by intro _; rfl) (by intro _ hstate; exact hstate) id hid
        · rename_i state hended
          cases hstep
          refine { h with interactions := ?_, awaiting := ?_, active := ?_ }
          · apply h.updateInteraction hrow
            refine ⟨hlisted, hnumbered, ?_⟩
            intro other hother
            have hother : (row.answer event status).terminal = some other := hother
            rw [hended] at hother
            cases hother
            rfl
          · intro hactive
            dsimp only at hactive
            split at hactive
            · cases hactive
            · exact h.awaiting hactive
          · intro id hid
            dsimp only at hid
            split at hid
            · cases hid
            · rename_i hother
              obtain ⟨hnamed, waiting, hfind, hstate⟩ := h.active id hid
              have hne : id ≠ interactionId := by
                rintro rfl
                exact hother hid
              have hfound : (record.updateInteraction interactionId
                  (·.endAs event status state)).findInteraction id = _ :=
                findInteraction_updateInteraction (by intro _; rfl) id
              rw [if_neg hne] at hfound
              exact ⟨hnamed, waiting, hfound.trans hfind, hstate⟩

theorem commitFinal {data : AgentResponseData} (h : Proper record) :
    Proper (record.commitFinal data) := by
  unfold RoomSnapshotTurn.commitFinal
  split
  · refine { h with named := ?_ }
    intro final hfinal
    obtain ⟨prior, hprior, rfl⟩ := Option.map_eq_some_iff.mp hfinal
    exact h.named prior hprior
  · exact h

end Proper

theorem newRecord_proper (runId correlationId : String) (payload : RunStartedPayload) :
    Proper (newRecord runId correlationId payload) := by
  constructor
  · intro current hcurrent
    cases hcurrent
  · intro tool htool
    cases htool
  · intro tool htool
    cases htool
  · intro final hfinal
    cases hfinal
  · exact fun _ => ⟨rfl, rfl⟩
  · intro row hrow
    cases hrow
  · intro hactive
    cases hactive
  · intro id hid
    cases hid

end Hybro.TurnSnapshot
