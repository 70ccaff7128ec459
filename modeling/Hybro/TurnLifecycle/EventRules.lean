import Hybro.TurnLifecycle.Soundness

/-! # What an event keeps

Every kind of event leaves a sound Turn sound, unless it is one of the three that
break the closure.
-/

namespace Hybro.TurnLifecycle

open OrderedMap

section Events

variable {turn after : TurnProjection}

/-- What the events of an internal Turn leave as it is. -/
def SameQuestions (turn after : TurnProjection) : Prop :=
  after.hitlInteractions = turn.hitlInteractions ∧
    after.activeInteractionId = turn.activeInteractionId ∧ after.state = turn.state

theorem foldTurnStart_keeps {payload : TurnStartPayload} (h : Inventory turn)
    (hfold : foldTurnStart turn payload = .changed after) : Inventory after ∧ SameQuestions turn after := by
  unfold foldTurnStart at hfold
  split at hfold
  · split at hfold <;> cases hfold
  · rename_i hnew
    split at hfold
    · cases hfold
    · cases hfold
      exact ⟨h.startTurn hnew rfl rfl, rfl, rfl, rfl⟩

theorem foldRetryScheduled_keeps {eventId : String} {order : Nat}
    {payload : RetryScheduledPayload} (h : Inventory turn)
    (hfold : foldRetryScheduled turn eventId order payload = .changed after) :
    Inventory after ∧ SameQuestions turn after := by
  unfold foldRetryScheduled at hfold
  split at hfold
  · cases hfold
  · rename_i hbroken
    split at hfold
    · cases hfold
    · cases hfold
      have hbroken : (turn.findInternal payload.internalTurnId).any (·.status.broken) = true := by
        simpa using hbroken
      obtain ⟨owner, howner, hstatus⟩ := (Option.any_eq_true _ _).mp hbroken
      exact ⟨h.pushActivity howner hstatus rfl, rfl, rfl, rfl⟩

theorem foldModelDecision_keeps {eventId : String} {order : Nat}
    {payload : ModelDecisionPayload} (h : Inventory turn)
    (hfold : foldModelDecision turn eventId order payload = .changed after) :
    Inventory after ∧ SameQuestions turn after := by
  unfold foldModelDecision at hfold
  split at hfold
  · cases hfold
  · rename_i hactive
    split at hfold
    · cases hfold
    · cases hfold
      have hactive : (turn.findInternal payload.internalTurnId).any (·.status = .active) = true := by
        simpa using hactive
      obtain ⟨owner, howner, -⟩ := (Option.any_eq_true _ _).mp hactive
      exact ⟨h.pushActivity howner trivial rfl, rfl, rfl, rfl⟩

theorem foldMessageStart_keeps {internal : InternalTurnProjection} {order : Nat}
    {payload : MessageStartPayload} (h : Inventory turn)
    (hinternal : turn.findInternal payload.internalTurnId = some internal)
    (hfold : foldMessageStart turn internal order payload = .changed after) :
    Inventory after ∧ SameQuestions turn after := by
  unfold foldMessageStart at hfold
  split at hfold
  · cases hfold
  · rename_i hactive
    split at hfold
    · split at hfold <;> cases hfold
    · split at hfold
      · cases hfold
      · cases hfold
        have hgrown : Inventory (turn.updateInternal payload.internalTurnId
            (·.pushMessage payload.messageId)) :=
          h.grow (fun _ => rfl) (fun _ => rfl) (fun _ => rfl)
            (fun _ => List.subset_append_left _ _)
        refine ⟨hgrown.withCurrent ?_, rfl, rfl, rfl⟩
        intro assistant hassistant
        cases hassistant
        refine ⟨rfl, internal.pushMessage payload.messageId, ?_, ?_, ?_⟩
        · rw [TurnProjection.findInternal_updateInternal]
          · rw [if_pos rfl, hinternal]
            rfl
          · exact fun _ => rfl
        · have hactive : internal.status = .active := by simpa using hactive
          exact hactive
        · exact List.mem_append_right _ (List.mem_singleton_self _)

theorem matched_current {current : AssistantProjection} {messageId internalTurnId : String}
    (hmatch : (turn.currentAssistant.filter fun current =>
      current.messageId = messageId && current.internalTurnId = internalTurnId) = some current) :
    turn.currentAssistant = some current ∧ current.messageId = messageId ∧
      current.internalTurnId = internalTurnId := by
  obtain ⟨hcurrent, hsame⟩ := Option.filter_eq_some_iff.mp hmatch
  exact ⟨hcurrent, by simpa using hsame⟩

theorem foldMessageUpdate_keeps {payload : MessageUpdatePayload} (h : Inventory turn)
    (hfold : foldMessageUpdate turn payload = .changed after) : Inventory after ∧ SameQuestions turn after := by
  unfold foldMessageUpdate at hfold
  dsimp only at hfold
  split at hfold
  · cases hfold
  · rename_i current hmatch
    obtain ⟨hcurrent, -, -⟩ := matched_current hmatch
    split at hfold
    · cases hfold
    · split at hfold
      · split at hfold <;> cases hfold
      · split at hfold
        · cases hfold
        · cases hfold
          refine ⟨h.withCurrent ?_, rfl, rfl, rfl⟩
          intro assistant hassistant
          cases hassistant
          exact h.current current hcurrent

theorem foldMessageEnd_keeps {order : Nat} {payload : MessageEndPayload} (h : Inventory turn)
    (hfold : foldMessageEnd turn order payload = .changed after) : Inventory after ∧ SameQuestions turn after := by
  unfold foldMessageEnd at hfold
  split at hfold
  · split at hfold <;> cases hfold
  · rename_i current hmatch
    obtain ⟨hcurrent, hmessage, hinternal⟩ := matched_current hmatch
    obtain ⟨-, owner, howner, -, hmem⟩ := h.current current hcurrent
    split at hfold
    · cases hfold
    · split at hfold
      · rename_i hfinal
        split at hfold
        · cases hfold
        · cases hfold
          have hcompleted : (current.checkpoint order payload).status = .completed := by
            show payload.disposition.assistantStatus = .completed
            rw [hfinal]
            rfl
          exact ⟨h.endFinal hcurrent rfl rfl hcompleted, rfl, rfl, rfl⟩
      · split at hfold
        · cases hfold
          exact ⟨h.withoutCurrent, rfl, rfl, rfl⟩
        · cases hfold
          have hpushed : Inventory (turn.pushActivity (.assistant (assistantRow order payload))) :=
            h.pushActivity (hinternal ▸ howner) (show payload.messageId ∈ _ from hmessage ▸ hmem) rfl
          exact ⟨hpushed.withoutCurrent, rfl, rfl, rfl⟩

theorem foldToolExecutionStart_keeps {internal : InternalTurnProjection} {order : Nat}
    {payload : ToolExecutionStartPayload} (h : Inventory turn)
    (hinternal : turn.findInternal payload.internalTurnId = some internal)
    (hfold : foldToolExecutionStart turn internal order payload = .changed after) :
    Inventory after ∧ SameQuestions turn after := by
  unfold foldToolExecutionStart at hfold
  split at hfold
  · split at hfold <;> cases hfold
  · split at hfold
    · cases hfold
    · rename_i hactive
      cases hfold
      have hactive : internal.status = .active := by simpa using hactive
      exact ⟨@Inventory.startTool turn (newTool order payload) internal h hinternal hactive,
        rfl, rfl, rfl⟩

theorem matched_tool {tool : ToolActivity} {toolCallId internalTurnId : String}
    (hmatch : ((turn.findTool toolCallId).filter (·.internalTurnId = internalTurnId)) = some tool) :
    turn.findTool toolCallId = some tool ∧ tool.internalTurnId = internalTurnId := by
  obtain ⟨htool, hsame⟩ := Option.filter_eq_some_iff.mp hmatch
  exact ⟨htool, by simpa using hsame⟩

theorem foldToolExecutionUpdate_keeps {payload : ToolExecutionUpdatePayload}
    (h : Inventory turn) (hfold : foldToolExecutionUpdate turn payload = .changed after) :
    Inventory after ∧ SameQuestions turn after := by
  unfold foldToolExecutionUpdate at hfold
  split at hfold
  · cases hfold
  · rename_i tool hmatch
    obtain ⟨htool, -⟩ := matched_tool hmatch
    split at hfold
    · cases hfold
    · rename_i hopen
      split at hfold
      · cases hfold
      · split at hfold
        · cases hfold
        · split at hfold
          · cases hfold
          · cases hfold
            have hopen : ∀ other, turn.findTool payload.toolCallId = some other →
                other.status.isOpen = true := by
              intro other hother
              rw [htool] at hother
              cases hother
              simpa using hopen
            exact ⟨h.updateTool (fun _ => rfl) (fun _ => rfl) hopen, rfl, rfl, rfl⟩

theorem foldToolExecutionEnd_keeps {payload : ToolExecutionEndPayload}
    (h : Inventory turn) (hfold : foldToolExecutionEnd turn payload = .changed after) :
    Inventory after ∧ SameQuestions turn after := by
  unfold foldToolExecutionEnd at hfold
  split at hfold
  · cases hfold
  · rename_i tool hmatch
    obtain ⟨htool, -⟩ := matched_tool hmatch
    split at hfold
    · split at hfold <;> cases hfold
    · rename_i hopen
      split at hfold
      · cases hfold
      · split at hfold
        · cases hfold
        · cases hfold
          have hopen : ∀ other, turn.findTool payload.toolCallId = some other →
              other.status.isOpen = true := by
            intro other hother
            rw [htool] at hother
            cases hother
            simpa using hopen
          exact ⟨h.updateTool (fun _ => rfl) (fun _ => rfl) hopen, rfl, rfl, rfl⟩

theorem foldTurnEnd_keeps {internal : InternalTurnProjection} {payload : TurnEndPayload}
    (h : Inventory turn)
    (hinternal : turn.findInternal payload.internalTurnId = some internal)
    (hassistant : turn.closesOpenAssistant payload = false)
    (hfold : foldTurnEnd turn internal payload = .changed after) : Inventory after ∧ SameQuestions turn after := by
  unfold foldTurnEnd at hfold
  split at hfold
  · split at hfold <;> cases hfold
  · rename_i hactive
    split at hfold
    · cases hfold
    · rename_i htools
      split at hfold
      · cases hfold
      · rename_i hmessage
        cases hfold
        have hactive : internal.status = .active := by simpa using hactive
        have htools : turn.toolsClosedAs payload = true := by simpa using htools
        have hmessage : internal.messageIds.getLast? = payload.messageId := by simpa using hmessage
        refine ⟨h.endTurn hinternal hactive ?_ ?_, rfl, rfl, rfl⟩
        · intro tool htool
          have hclosed := (Bool.and_eq_true_iff.mp htools).1
          simpa using List.all_eq_true.mp hclosed tool htool
        · intro current hcurrent hsame
          unfold TurnProjection.closesOpenAssistant at hassistant
          rw [hcurrent, htools, hinternal] at hassistant
          simp [hsame, hmessage] at hassistant

/-- What the questions and answers leave as it is. -/
def SameInventory (turn after : TurnProjection) : Prop :=
  after.internalTurns = turn.internalTurns ∧ after.activity = turn.activity ∧
    after.currentAssistant = turn.currentAssistant ∧ after.finalAnswer = turn.finalAnswer ∧
    after.finalCommitted = turn.finalCommitted

theorem SameInventory.inventory (h : SameInventory turn after) (hinventory : Inventory turn) :
    Inventory after := by
  obtain ⟨hinternal, hactivity, hcurrent, hfinal, hcommitted⟩ := h
  cases turn
  cases after
  cases hinternal
  cases hactivity
  cases hcurrent
  cases hfinal
  cases hcommitted
  exact ⟨hinventory.distinct, hinventory.owned, hinventory.rows, hinventory.closed,
    hinventory.current, hinventory.final, hinventory.committed⟩

theorem SameInventory.settlementViolation (h : SameInventory turn after)
    (hstate : after.state = turn.state)
    (hactive : after.activeInteractionId = turn.activeInteractionId) :
    after.settlementViolation = turn.settlementViolation := by
  obtain ⟨hinternal, hactivity, hcurrent, hfinal, hcommitted⟩ := h
  cases turn
  cases after
  cases hinternal
  cases hactivity
  cases hcurrent
  cases hfinal
  cases hcommitted
  cases hstate
  cases hactive
  rfl

theorem foldRunWaitingInput_sound {payload : RunWaitingInputPayload} (hsound : Sound turn)
    (hfold : foldRunWaitingInput turn payload = .changed after) : Sound after := by
  have h := hsound.questions
  unfold foldRunWaitingInput at hfold
  split at hfold
  · cases hfold
  · rename_i interaction hfind
    have hid : interaction.interactionId = payload.interactionId := by
      simpa using List.find?_some hfind
    split at hfold
    · cases hfold
    · split at hfold
      · cases hfold
      · split at hfold
        · cases hfold
        · split at hfold
          · cases hfold
          · cases hfold
            have hmem : interaction ∈ turn.hitlInteractions := List.mem_of_find?_eq_some hfind
            constructor
            · exact @SameInventory.inventory turn _ ⟨rfl, rfl, rfl, rfl, rfl⟩ hsound.inventory
            · constructor
              · exact h.consistent_updateInteraction hfind
                  ((h.consistent interaction hmem).of_same rfl rfl)
              · intro id hactive
                have hsame : id = payload.interactionId := by
                  rw [← hid]
                  exact (Option.some.inj hactive).symm
                subst hsame
                refine ⟨payload.named, interaction.awaited payload.requestedAt, ?_, rfl⟩
                show (turn.updateInteraction payload.interactionId
                  (·.awaited payload.requestedAt)).findInteraction payload.interactionId = _
                rw [TurnProjection.findInteraction_updateInteraction]
                · rw [if_pos rfl, hfind]
                  rfl
                · exact fun _ => rfl
              · exact fun _ => rfl
            · exact TurnProjection.settlementViolation_of_unsettled rfl

theorem foldRunResumed_sound {payload : RunResumedPayload} (hsound : Sound turn)
    (hfold : foldRunResumed turn payload = .changed after) : Sound after := by
  have h := hsound.questions
  unfold foldRunResumed at hfold
  split at hfold
  · cases hfold
  · rename_i interaction hfind
    split at hfold
    · cases hfold
    · cases hfold
      have hmem : interaction ∈ turn.hitlInteractions := List.mem_of_find?_eq_some hfind
      constructor
      · exact @SameInventory.inventory turn _ ⟨rfl, rfl, rfl, rfl, rfl⟩ hsound.inventory
      · constructor
        · exact h.consistent_updateInteraction hfind
            ((h.consistent interaction hmem).of_same rfl rfl)
        · intro id hactive
          cases hactive
        · intro hstate
          cases hstate
      · exact TurnProjection.settlementViolation_of_unsettled rfl

theorem Sound.of_questions (h : Sound turn) (hquestions : Questions after)
    (hinventory : SameInventory turn after) (hstate : after.state = turn.state)
    (hactive : after.activeInteractionId = turn.activeInteractionId) : Sound after := by
  constructor
  · exact hinventory.inventory h.inventory
  · exact hquestions
  · rw [hinventory.settlementViolation hstate hactive]
    exact h.ended

theorem foldHITLQuestion_sound {data : CanonicalHITLRequestData} (hsound : Sound turn)
    (hcount : turn.contradictsCount data = false)
    (hfold : foldHITLQuestion turn data = .changed after) : Sound after := by
  have h := hsound.questions
  unfold foldHITLQuestion at hfold
  split at hfold
  · cases hfold
    exact hsound.of_questions (h.append (.first data .awaitingInput ""))
      ⟨rfl, rfl, rfl, rfl, rfl⟩ rfl rfl
  · rename_i interaction hfind
    split at hfold
    · split at hfold <;> cases hfold
    · rename_i hnew
      split at hfold
      · cases hfold
      · rename_i hindex
        cases hfold
        have hmem : interaction ∈ turn.hitlInteractions := List.mem_of_find?_eq_some hfind
        have hindex : interaction.requests.any (·.questionIndex = data.questionIndex) = false := by
          simpa using hindex
        have hsame : interaction.requests.any (·.questionCount ≠ data.questionCount) = false := by
          unfold TurnProjection.contradictsCount at hcount
          rw [hfind, Option.any_some, hnew, hindex] at hcount
          simpa using hcount
        have hquestions : Questions
            (turn.updateInteraction data.interactionId (·.push (questionOf data))) :=
          h.updateInteraction (fun _ => rfl) (fun _ => rfl) hfind
            ((h.consistent interaction hmem).push hnew hindex hsame)
        exact hsound.of_questions hquestions ⟨rfl, rfl, rfl, rfl, rfl⟩ rfl rfl

theorem HITLInteractionProjection.exists_of_nonResumable
    {interaction : HITLInteractionProjection} {state : InteractionState}
    (h : interaction.nonResumable = some state) : ∃ request ∈ interaction.requests,
      request.status ≠ .requested ∧ request.status ≠ .responded := by
  have found : ∀ status : RequestStatus, status ≠ .requested → status ≠ .responded →
      interaction.requests.any (·.status = status) = true →
      ∃ request ∈ interaction.requests,
        request.status ≠ .requested ∧ request.status ≠ .responded := by
    intro status hopen hresponded hany
    obtain ⟨request, hmem, hstatus⟩ := List.any_eq_true.mp hany
    have hstatus : request.status = status := by simpa using hstatus
    rw [← hstatus] at hopen hresponded
    exact ⟨request, hmem, hopen, hresponded⟩
  unfold nonResumable at h
  split at h
  · rename_i hany
    exact found .error (by decide) (by decide) hany
  · split at h
    · rename_i hany
      exact found .canceled (by decide) (by decide) hany
    · split at h
      · rename_i hany
        exact found .expired (by decide) (by decide) hany
      · cases h

theorem HITLInteractionProjection.endsWith_of_terminal {interaction : HITLInteractionProjection}
    {data : CanonicalHITLResponseData} {request : HITLQuestionProjection}
    {state : InteractionState} (hconsistent : interaction.Consistent)
    (hanswered : interaction.answered data = some request) (hrequest : request.status = .requested)
    (hterminal : (interaction.answer data).terminal = some state) :
    interaction.endsWith data = true := by
  obtain ⟨hfind, -⟩ := Option.filter_eq_some_iff.mp hanswered
  unfold HITLInteractionProjection.terminal at hterminal
  split at hterminal
  · rename_i hclosed
    obtain ⟨-, hclosed⟩ := hclosed
    unfold HITLInteractionProjection.endsWith
    rw [Bool.and_eq_true]
    constructor
    · apply List.all_eq_true.mpr
      intro other hother
      by_cases hsame : other.requestId = data.requestId
      · simp [hsame]
      · have hkept : other ∈ (interaction.answer data).requests :=
          mem_updateFirst_of_ne hother (by simpa using hsame)
        have hother := List.all_eq_true.mp hclosed other hkept
        simpa [hsame] using hother
    · obtain ⟨ended, hended, hopen, hresponded⟩ :=
        HITLInteractionProjection.exists_of_nonResumable hterminal
      rw [Bool.or_eq_true]
      rcases mem_updateFirst hended with hbefore | ⟨before, -, rfl⟩
      · right
        apply List.any_eq_true.mpr
        refine ⟨ended, hbefore, ?_⟩
        have hother : ended.requestId ≠ data.requestId := by
          intro hsame
          have hfound := find?_of_nodup hconsistent.distinct hbefore
          rw [hsame, hfind] at hfound
          cases hfound
          exact hopen hrequest
        simp [hother, hresponded]
      · left
        cases hstatus : data.status with
        | responded => exact absurd (congrArg ResponseStatus.requestStatus hstatus) hresponded
        | expired => rfl
        | canceled => rfl
        | error => rfl
  · cases hterminal

theorem foldHITLAnswer_sound {data : CanonicalHITLResponseData} (hsound : Sound turn)
    (hends : turn.endsActive data = false)
    (hfold : foldHITLAnswer turn data = .changed after) : Sound after := by
  have h := hsound.questions
  unfold foldHITLAnswer at hfold
  split at hfold
  · cases hfold
  · rename_i interaction hfind
    have hmem : interaction ∈ turn.hitlInteractions := List.mem_of_find?_eq_some hfind
    have hid : interaction.interactionId = data.interactionId := by
      simpa using List.find?_some hfind
    have hconsistent := h.consistent interaction hmem
    split at hfold
    · cases hfold
    · rename_i request hanswered
      split at hfold
      · split at hfold <;> cases hfold
      · rename_i hrequest
        have hrequest : request.status = .requested := by simpa using hrequest
        split at hfold
        · cases hfold
          have hquestions : Questions (turn.updateInteraction data.interactionId (·.answer data)) :=
            h.updateInteraction (fun _ => rfl) (fun _ => rfl) hfind hconsistent.answer
          exact hsound.of_questions hquestions ⟨rfl, rfl, rfl, rfl, rfl⟩ rfl rfl
        · rename_i state hterminal
          cases hfold
          have hendsWith := HITLInteractionProjection.endsWith_of_terminal hconsistent hanswered
            hrequest hterminal
          have hinactive : turn.activeInteractionId ≠ some data.interactionId := by
            intro hactive
            unfold TurnProjection.endsActive at hends
            rw [hactive, hfind] at hends
            simp [hanswered, hrequest, hendsWith] at hends
          rw [hid, if_neg hinactive]
          refine hsound.of_questions ?_ ⟨rfl, rfl, rfl, rfl, rfl⟩ rfl rfl
          constructor
          · exact h.consistent_updateInteraction hfind (hconsistent.answer.of_same rfl rfl)
          · intro active hactive
            obtain ⟨hnamed, before, hbefore, hwaiting⟩ := h.active active hactive
            refine ⟨hnamed, before, ?_, hwaiting⟩
            have hne : active ≠ data.interactionId := by
              intro hsame
              exact hinactive (hsame ▸ hactive)
            show (turn.updateInteraction data.interactionId
              (·.endAs data state)).findInteraction active = some before
            rw [TurnProjection.findInteraction_updateInteraction]
            · rw [if_neg hne]
              exact hbefore
            · exact fun _ => rfl
          · exact h.awaiting

theorem Sound.of_keeps (h : Sound turn) (hunsettled : turn.state.settled = false)
    (hkeeps : Inventory after ∧ SameQuestions turn after) : Sound after := by
  obtain ⟨hinventory, hinteractions, hactive, hstate⟩ := hkeeps
  constructor
  · exact hinventory
  · constructor
    · rw [hinteractions]
      exact h.questions.consistent
    · intro id hid
      rw [hactive] at hid
      unfold TurnProjection.findInteraction
      rw [hinteractions]
      exact h.questions.active id hid
    · rw [hstate, hactive]
      exact h.questions.awaiting
  · apply TurnProjection.settlementViolation_of_unsettled
    rw [hstate]
    exact hunsettled

theorem TurnProjection.finalClosure_own {finalMessageId : Option String}
    (h : turn.finalClosure finalMessageId = true) :
    turn.finalAnswer.any (fun final => turn.finalClosure (some final.messageId)) = true := by
  cases hfinal : turn.finalAnswer with
  | none =>
      unfold finalClosure at h
      rw [hfinal] at h
      cases h
  | some final =>
      have hsame : final.messageId = finalMessageId := by
        unfold finalClosure at h
        rw [hfinal] at h
        split at h
        · rename_i hboth _
          cases hboth
          simp only [Bool.and_eq_true, decide_eq_true_eq] at h
          exact h.1.1.1.1.2
        · cases h
      show turn.finalClosure (some final.messageId) = true
      rw [hsame]
      exact h

theorem TurnProjection.committed_of_finalClosure {finalMessageId : Option String}
    (h : turn.finalClosure finalMessageId = true) : turn.finalCommitted = true := by
  unfold finalClosure at h
  split at h
  · simp only [Bool.and_eq_true, decide_eq_true_eq] at h
    exact h.1.1.1.1.1
  · cases h

theorem Sound.settle {payload : RunSettledPayload} (h : Sound turn)
    (hopen : turn.hasOpenChildren = false) (hends : (turn.settle payload).EndsClosed) :
    Sound (turn.settle payload) := by
  have hinventory := h.inventory
  constructor
  · exact ⟨hinventory.distinct, hinventory.owned, hinventory.rows, hinventory.closed,
      hinventory.current, hinventory.final, hinventory.committed⟩
  · constructor
    · exact h.questions.consistent
    · exact h.questions.active
    · intro hstate
      have hsettled : payload.status.state = .awaitingInput := hstate
      cases hstatus : payload.status with
      | completed =>
          rw [hstatus] at hsettled
          cases hsettled
      | failed =>
          rw [hstatus] at hsettled
          cases hsettled
      | canceled =>
          rw [hstatus] at hsettled
          cases hsettled
  · exact TurnProjection.settlementViolation_eq_none.mpr ⟨fun _ => hopen, hends⟩

theorem TurnProjection.settle_endsClosed {payload : RunSettledPayload} :
    (turn.settle payload).EndsClosed ↔
      match payload.status with
      | .completed =>
          turn.finalAnswer.any (fun final => turn.finalClosure (some final.messageId)) = true
      | .failed | .canceled => turn.internalTurns.getLast?.all (·.status.broken) = true := by
  unfold EndsClosed settle
  cases payload.status with
  | completed => exact Iff.rfl
  | failed => exact Iff.rfl
  | canceled => exact Iff.rfl

theorem foldRunSettled_sound {payload : RunSettledPayload} (h : Sound turn)
    (hfold : foldRunSettled turn payload = .changed after) : Sound after := by
  unfold foldRunSettled at hfold
  split at hfold
  · cases hfold
  · rename_i hopen
    have hopen : turn.hasOpenChildren = false := by simpa using hopen
    cases hstatus : payload.status with
    | completed =>
        rw [hstatus] at hfold
        dsimp only at hfold
        split at hfold
        · rename_i hclosure
          cases hfold
          apply h.settle hopen
          rw [TurnProjection.settle_endsClosed, hstatus]
          exact TurnProjection.finalClosure_own hclosure
        · cases hfold
    | failed =>
        rw [hstatus] at hfold
        dsimp only at hfold
        split at hfold
        · rename_i hbroken
          cases hfold
          apply h.settle hopen
          rw [TurnProjection.settle_endsClosed, hstatus]
          exact hbroken
        · cases hfold
    | canceled =>
        rw [hstatus] at hfold
        dsimp only at hfold
        split at hfold
        · rename_i hbroken
          cases hfold
          apply h.settle hopen
          rw [TurnProjection.settle_endsClosed, hstatus]
          exact hbroken
        · cases hfold

theorem inInternal_changed {payload : CanonicalPayload} {id : String}
    {fold : InternalTurnProjection → TurnOutcome}
    (hfold : foldTurnEvent.inInternal turn payload id fold = .changed after) :
    ∃ internal, turn.findInternal id = some internal ∧ fold internal = .changed after := by
  unfold foldTurnEvent.inInternal at hfold
  split at hfold
  · cases hfold
  · rename_i internal hinternal
    exact ⟨internal, hinternal, hfold⟩

theorem foldTurnEvent_sound {eventId : String} {order : Nat} {payload : CanonicalPayload}
    (h : Sound turn) (hunsettled : turn.state.settled = false)
    (hassistant : ∀ ended, payload = .turnEnd ended → turn.closesOpenAssistant ended = false)
    (hfold : foldTurnEvent turn eventId order payload = .changed after) : Sound after := by
  have hinventory := h.inventory
  cases payload with
  | runStarted payload => cases hfold
  | turnStart payload => exact h.of_keeps hunsettled (foldTurnStart_keeps hinventory hfold)
  | retryScheduled payload =>
      exact h.of_keeps hunsettled (foldRetryScheduled_keeps hinventory hfold)
  | modelDecision payload => exact h.of_keeps hunsettled (foldModelDecision_keeps hinventory hfold)
  | runWaitingInput payload => exact foldRunWaitingInput_sound h hfold
  | runResumed payload => exact foldRunResumed_sound h hfold
  | runSettled payload => exact foldRunSettled_sound h hfold
  | messageStart payload =>
      obtain ⟨internal, hinternal, hfold⟩ := inInternal_changed hfold
      exact h.of_keeps hunsettled (foldMessageStart_keeps hinventory hinternal hfold)
  | messageUpdate payload =>
      obtain ⟨-, -, hfold⟩ := inInternal_changed hfold
      exact h.of_keeps hunsettled (foldMessageUpdate_keeps hinventory hfold)
  | messageEnd payload =>
      obtain ⟨-, -, hfold⟩ := inInternal_changed hfold
      exact h.of_keeps hunsettled (foldMessageEnd_keeps hinventory hfold)
  | toolExecutionStart payload =>
      obtain ⟨internal, hinternal, hfold⟩ := inInternal_changed hfold
      exact h.of_keeps hunsettled (foldToolExecutionStart_keeps hinventory hinternal hfold)
  | toolExecutionUpdate payload =>
      obtain ⟨-, -, hfold⟩ := inInternal_changed hfold
      exact h.of_keeps hunsettled (foldToolExecutionUpdate_keeps hinventory hfold)
  | toolExecutionEnd payload =>
      obtain ⟨-, -, hfold⟩ := inInternal_changed hfold
      exact h.of_keeps hunsettled (foldToolExecutionEnd_keeps hinventory hfold)
  | turnEnd payload =>
      obtain ⟨internal, hinternal, hfold⟩ := inInternal_changed hfold
      exact h.of_keeps hunsettled
        (foldTurnEnd_keeps hinventory hinternal (hassistant payload rfl) hfold)

theorem foldStarted_sound {correlationId eventId : String} {order : Nat}
    {payload : CanonicalPayload} (h : Sound turn)
    (hassistant : ∀ ended, payload = .turnEnd ended → turn.closesOpenAssistant ended = false)
    (hfold : foldStarted turn correlationId eventId order payload = .changed after) :
    Sound after := by
  unfold foldStarted at hfold
  split at hfold
  · cases hfold
  · split at hfold
    · split at hfold
      · split at hfold <;> cases hfold
      · cases hfold
    · rename_i hunsettled
      split at hfold
      · cases hfold
      · have hunsettled : turn.state.settled = false := by simpa using hunsettled
        exact foldTurnEvent_sound h hunsettled hassistant hfold

theorem newTurn_sound (conversationId correlationId runId : String) (payload : RunStartedPayload) :
    Sound (newTurn conversationId correlationId runId payload) where
  inventory := by
    constructor
    · exact List.nodup_nil
    · exact fun item hitem => absurd hitem List.not_mem_nil
    · intro id internal hinternal
      cases hinternal
    · intro id internal hinternal
      cases hinternal
    · intro current hcurrent
      cases hcurrent
    · intro final hfinal
      cases hfinal
    · intro hcommitted
      cases hcommitted
  questions := by
    constructor
    · exact fun interaction hinteraction => absurd hinteraction List.not_mem_nil
    · intro id hactive
      cases hactive
    · intro hstate
      cases hstate
  ended := rfl

theorem commitFinal_sound {data : AgentResponseData} (h : Sound turn)
    (hawaits : turn.awaitsFinal data = true) (hfold : commitFinal turn data = .changed after) :
    Sound after := by
  unfold commitFinal at hfold
  split at hfold
  · split at hfold <;> cases hfold
  · rename_i huncommitted
    cases hfold
    unfold TurnProjection.awaitsFinal at hawaits
    have hfinal : turn.finalAnswer.isSome = true := by
      cases hfinal : turn.finalAnswer with
      | none =>
          rw [hfinal] at hawaits
          simp at hawaits
      | some _ => rfl
    constructor
    · exact h.inventory.commit hfinal
    · exact ⟨h.questions.consistent, h.questions.active, h.questions.awaiting⟩
    · obtain ⟨hopen, hends⟩ := TurnProjection.settlementViolation_eq_none.mp h.ended
      apply TurnProjection.settlementViolation_eq_none.mpr
      refine ⟨hopen, ?_⟩
      unfold TurnProjection.EndsClosed at hends ⊢
      dsimp only
      cases hstate : turn.state with
      | active => trivial
      | awaitingInput => trivial
      | completed =>
          -- a completed Turn is committed
          rw [hstate] at hends
          obtain ⟨final, hfinal, hclosure⟩ := (Option.any_eq_true _ _).mp hends
          exact absurd (TurnProjection.committed_of_finalClosure hclosure) huncommitted
      | failed =>
          rw [hstate] at hends
          exact hends
      | canceled =>
          rw [hstate] at hends
          exact hends

end Events

end Hybro.TurnLifecycle
