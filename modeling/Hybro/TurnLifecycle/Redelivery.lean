import Hybro.TurnLifecycle.Growth

/-! # Events that come twice

An event that was taken leaves a trace in its Turn, which every later event keeps and which a
second delivery is recognised by. Five kinds of events can find their trace without effect.
-/

namespace Hybro.TurnLifecycle

open OrderedMap

/-! ## The trace of an event -/

namespace TurnProjection

variable (turn : TurnProjection)

/-- The interaction asks for these requests, in this order. -/
def asksFor (interactionId : String) (requestIds : List String) : Bool :=
  (turn.findInteraction interactionId).any (·.requestIds = requestIds)

def Heard (eventId : String) : CanonicalPayload → Prop
  | .runStarted _ | .messageStart _ => True
  | .turnStart payload => (turn.findInternal payload.internalTurnId).isSome = true
  | .retryScheduled _ => turn.activity.any (·.isRetryWith eventId) = true
  | .modelDecision _ => turn.activity.any (·.isDecisionWith eventId) = true
  | .runWaitingInput payload =>
      ∃ interaction, turn.findInteraction payload.interactionId = some interaction ∧
        payload.requestIds <+: interaction.requestIds ∧
        (interaction.requestIds = payload.requestIds →
          interaction.requests.length = interaction.requestIds.length ∧
            interaction.complete = true)
  | .runResumed payload =>
      ∃ interaction, turn.findInteraction payload.interactionId = some interaction ∧
        payload.resolvedRequestIds <+: interaction.requestIds ∧
        (interaction.requestIds = payload.resolvedRequestIds →
          ∀ request ∈ interaction.requests, request.status = .responded)
  | .runSettled _ => turn.state.settled = true
  | .messageUpdate payload =>
      turn.lists payload.internalTurnId payload.messageId = true ∧
        ∀ current, turn.currentAssistant = some current →
          current.messageId = payload.messageId →
          current.internalTurnId = payload.internalTurnId →
          payload.assistantMessageEvent.deltaIndex < current.nextDeltaIndex
  | .messageEnd payload => (turn.findInternal payload.internalTurnId).isSome = true
  | .toolExecutionStart payload => (turn.findTool payload.toolCallId).isSome = true
  | .toolExecutionUpdate payload =>
      ∃ tool, turn.findTool payload.toolCallId = some tool ∧
        (tool.status.isOpen = true → payload.updateIndex ≤ tool.updateIndex)
  | .toolExecutionEnd payload =>
      ∃ tool, turn.findTool payload.toolCallId = some tool ∧ tool.status.isOpen = false
  | .turnEnd payload =>
      ∃ internal, turn.findInternal payload.internalTurnId = some internal ∧
        internal.status ≠ .active

/-- The message of the open Assistant is in the list of its internal Turn. -/
def AssistantListed : Prop :=
  ∀ current, turn.currentAssistant = some current →
    turn.lists current.internalTurnId current.messageId = true

variable {turn} {after : TurnProjection}

theorem InternalsGrow.lists (h : turn.InternalsGrow after) {internalTurnId messageId : String}
    (hlists : turn.lists internalTurnId messageId = true) :
    after.lists internalTurnId messageId = true := by
  obtain ⟨internal, hfind, hmem⟩ := (Option.any_eq_true _ _).mp hlists
  obtain ⟨other, hother, hgrows⟩ := h _ internal hfind
  have hmessage : messageId ∈ internal.messageIds := by simpa using hmem
  simp [TurnProjection.lists, hother, hgrows.messages hmessage]

theorem Grows.assistantListed (h : turn.Grows after) (hlisted : turn.AssistantListed) :
    after.AssistantListed := by
  intro current hcurrent
  cases h.assistant current hcurrent with
  | inl hbefore =>
      obtain ⟨before, hopen, hmessage, hinternal, -⟩ := hbefore
      rw [← hmessage, ← hinternal]
      exact h.internals.lists (hlisted before hopen)
  | inr hnew => exact hnew.2

theorem requestIds_of_grows {interaction other : HITLInteractionProjection} {ids : List String}
    (hbegins : ids <+: interaction.requestIds) (h : interaction.Grows other)
    (hsame : other.requestIds = ids) :
    interaction.requestIds = ids ∧ other.requestIds = interaction.requestIds := by
  have hlonger := h.requestIds.length_le
  rw [hsame] at hlonger
  have hids : ids = interaction.requestIds := hbegins.eq_of_length_le hlonger
  exact ⟨hids.symm, by rw [hsame, hids]⟩

theorem Heard.grow {eventId : String} {payload : CanonicalPayload}
    (h : turn.Heard eventId payload) (hgrows : turn.Grows after) :
    after.Heard eventId payload := by
  cases payload with
  | runStarted payload => trivial
  | messageStart payload => trivial
  | turnStart payload =>
      obtain ⟨internal, hfind⟩ := Option.isSome_iff_exists.mp h
      obtain ⟨other, hother, -⟩ := hgrows.internals _ internal hfind
      exact Option.isSome_iff_exists.mpr ⟨other, hother⟩
  | retryScheduled payload => exact hgrows.notes.1 eventId h
  | modelDecision payload => exact hgrows.notes.2 eventId h
  | runWaitingInput payload =>
      obtain ⟨interaction, hfind, hbegins, hcomplete⟩ := h
      obtain ⟨other, hother, hstep⟩ := hgrows.interactions _ interaction hfind
      refine ⟨other, hother, hbegins.trans hstep.requestIds, ?_⟩
      intro hsame
      obtain ⟨hids, hkept⟩ := requestIds_of_grows hbegins hstep hsame
      obtain ⟨hlength, hindexes⟩ := hcomplete hids
      have hmany : other.requests.length = interaction.requests.length := by
        simpa using congrArg List.length (hstep.indexes hkept)
      refine ⟨by rw [hmany, hlength, hkept], ?_⟩
      have hcounts : ∀ n, other.requests.all (·.questionCount = n) =
          interaction.requests.all (·.questionCount = n) := by
        intro n
        have hmaps := congrArg (List.all · (fun count => count = n)) (hstep.counts hkept)
        simpa [List.all_map, Function.comp_def] using hmaps
      unfold HITLInteractionProjection.complete at hindexes ⊢
      rw [hmany, hcounts, hstep.indexes hkept]
      exact hindexes
  | runResumed payload =>
      obtain ⟨interaction, hfind, hbegins, hresponded⟩ := h
      obtain ⟨other, hother, hstep⟩ := hgrows.interactions _ interaction hfind
      refine ⟨other, hother, hbegins.trans hstep.requestIds, ?_⟩
      intro hsame
      obtain ⟨hids, hkept⟩ := requestIds_of_grows hbegins hstep hsame
      exact hstep.responded hkept (hresponded hids)
  | runSettled payload => exact hgrows.settled h
  | messageUpdate payload =>
      obtain ⟨hlists, hindex⟩ := h
      refine ⟨hgrows.internals.lists hlists, ?_⟩
      intro current hcurrent hmessage hinternal
      cases hgrows.assistant current hcurrent with
      | inl hbefore =>
          obtain ⟨before, hopen, hsame, howner, hnext⟩ := hbefore
          have hlt := hindex before hopen (hsame.trans hmessage) (howner.trans hinternal)
          omega
      | inr hnew =>
          rw [hmessage, hinternal, hlists] at hnew
          cases hnew.1
  | messageEnd payload =>
      obtain ⟨internal, hfind⟩ := Option.isSome_iff_exists.mp h
      obtain ⟨other, hother, -⟩ := hgrows.internals _ internal hfind
      exact Option.isSome_iff_exists.mpr ⟨other, hother⟩
  | toolExecutionStart payload =>
      obtain ⟨tool, hfind⟩ := Option.isSome_iff_exists.mp h
      obtain ⟨other, hother, -⟩ := hgrows.tools _ tool hfind
      exact Option.isSome_iff_exists.mpr ⟨other, hother⟩
  | toolExecutionUpdate payload =>
      obtain ⟨tool, hfind, hupdate⟩ := h
      obtain ⟨other, hother, hstep⟩ := hgrows.tools _ tool hfind
      refine ⟨other, hother, ?_⟩
      intro hopen
      have hbefore : tool.status.isOpen = true := by
        by_contra hclosed
        rw [hstep.closed (by simpa using hclosed)] at hopen
        cases hopen
      exact Nat.le_trans (hupdate hbefore) hstep.updates
  | toolExecutionEnd payload =>
      obtain ⟨tool, hfind, hclosed⟩ := h
      obtain ⟨other, hother, hstep⟩ := hgrows.tools _ tool hfind
      exact ⟨other, hother, hstep.closed hclosed⟩
  | turnEnd payload =>
      obtain ⟨internal, hfind, hclosed⟩ := h
      obtain ⟨other, hother, hstep⟩ := hgrows.internals _ internal hfind
      exact ⟨other, hother, hstep.closed hclosed⟩

end TurnProjection

/-! ## Taking an event -/

section Taken

open TurnProjection

variable {turn after : TurnProjection}

theorem inInternal_unchanged {payload : CanonicalPayload} {id : String}
    {fold : InternalTurnProjection → TurnOutcome}
    (hfold : foldTurnEvent.inInternal turn payload id fold = .unchanged) :
    ∃ internal, turn.findInternal id = some internal ∧ fold internal = .unchanged := by
  unfold foldTurnEvent.inInternal at hfold
  split at hfold
  · cases hfold
  · next internal hinternal => exact ⟨internal, hinternal, hfold⟩

theorem heard_of_unchanged {eventId : String} {order : Nat} {payload : CanonicalPayload}
    (hlisted : turn.AssistantListed)
    (hfold : foldTurnEvent turn eventId order payload = .unchanged) :
    turn.Heard eventId payload := by
  cases payload with
  | runStarted payload => trivial
  | messageStart payload => trivial
  | turnStart payload =>
      simp only [foldTurnEvent, foldTurnStart] at hfold
      split at hfold
      · next duplicate hfind => exact Option.isSome_iff_exists.mpr ⟨duplicate, hfind⟩
      · split at hfold <;> cases hfold
  | retryScheduled payload =>
      simp only [foldTurnEvent, foldRetryScheduled] at hfold
      split at hfold
      · cases hfold
      · split at hfold
        · next hretry => exact hretry
        · cases hfold
  | modelDecision payload =>
      simp only [foldTurnEvent, foldModelDecision] at hfold
      split at hfold
      · cases hfold
      · split at hfold
        · next hdecision => exact hdecision
        · cases hfold
  | runWaitingInput payload =>
      simp only [foldTurnEvent, foldRunWaitingInput] at hfold
      split at hfold
      · cases hfold
      · next interaction hfind =>
          split at hfold
          · cases hfold
          · next hids =>
              split at hfold
              · cases hfold
              · next hcomplete =>
                  have hsame : interaction.requestIds = payload.requestIds := by simpa using hids
                  refine ⟨interaction, hfind, ?_, ?_⟩
                  · exact hsame ▸ List.prefix_refl _
                  · intro _
                    simpa using hcomplete
  | runResumed payload =>
      simp only [foldTurnEvent, foldRunResumed] at hfold
      repeat' split at hfold
      all_goals cases hfold
  | runSettled payload =>
      simp only [foldTurnEvent, foldRunSettled] at hfold
      repeat' split at hfold
      all_goals cases hfold
  | messageUpdate payload =>
      obtain ⟨-, -, hfold⟩ := inInternal_unchanged hfold
      simp only [foldMessageUpdate] at hfold
      split at hfold
      · cases hfold
      · next current hmatch =>
          obtain ⟨hcurrent, hmessage, hinternal⟩ := matched_current hmatch
          split at hfold
          · cases hfold
          · split at hfold
            · next hindex =>
                refine ⟨?_, ?_⟩
                · rw [← hmessage, ← hinternal]
                  exact hlisted current hcurrent
                · intro other hother _ _
                  rw [hcurrent] at hother
                  cases hother
                  exact hindex
            · split at hfold <;> cases hfold
  | messageEnd payload =>
      obtain ⟨internal, hinternal, -⟩ := inInternal_unchanged hfold
      exact Option.isSome_iff_exists.mpr ⟨internal, hinternal⟩
  | toolExecutionStart payload =>
      obtain ⟨internal, -, hfold⟩ := inInternal_unchanged hfold
      unfold foldToolExecutionStart at hfold
      split at hfold
      · next prior hfind => exact Option.isSome_iff_exists.mpr ⟨prior, hfind⟩
      · split at hfold <;> cases hfold
  | toolExecutionUpdate payload =>
      obtain ⟨-, -, hfold⟩ := inInternal_unchanged hfold
      unfold foldToolExecutionUpdate at hfold
      split at hfold
      · cases hfold
      · next tool hmatch =>
          obtain ⟨htool, -⟩ := matched_tool hmatch
          split at hfold
          · cases hfold
          · split at hfold
            · next hindex => exact ⟨tool, htool, fun _ => hindex⟩
            · repeat' split at hfold
              all_goals cases hfold
  | toolExecutionEnd payload =>
      obtain ⟨-, -, hfold⟩ := inInternal_unchanged hfold
      unfold foldToolExecutionEnd at hfold
      split at hfold
      · cases hfold
      · next tool hmatch =>
          obtain ⟨htool, -⟩ := matched_tool hmatch
          split at hfold
          · next hclosed => exact ⟨tool, htool, hclosed⟩
          · repeat' split at hfold
            all_goals cases hfold
  | turnEnd payload =>
      obtain ⟨internal, hinternal, hfold⟩ := inInternal_unchanged hfold
      unfold foldTurnEnd at hfold
      split at hfold
      · next hclosed => exact ⟨internal, hinternal, hclosed⟩
      · repeat' split at hfold
        all_goals cases hfold

theorem heard_of_changed {eventId : String} {order : Nat} {payload : CanonicalPayload}
    (hlisted : turn.AssistantListed)
    (hfold : foldTurnEvent turn eventId order payload = .changed after) :
    after.Heard eventId payload := by
  cases payload with
  | runStarted payload => trivial
  | messageStart payload => trivial
  | turnStart payload =>
      simp only [foldTurnEvent, foldTurnStart] at hfold
      split at hfold
      · split at hfold <;> cases hfold
      · next hnew =>
          split at hfold
          · cases hfold
          · cases hfold
            simp [Heard, findInternal_append, hnew]
  | retryScheduled payload =>
      simp only [foldTurnEvent, foldRetryScheduled] at hfold
      repeat' split at hfold
      all_goals cases hfold
      simp [Heard, pushActivity, TurnActivityItem.isRetryWith]
  | modelDecision payload =>
      simp only [foldTurnEvent, foldModelDecision] at hfold
      repeat' split at hfold
      all_goals cases hfold
      simp [Heard, pushActivity, TurnActivityItem.isDecisionWith]
  | runWaitingInput payload =>
      simp only [foldTurnEvent, foldRunWaitingInput] at hfold
      split at hfold
      · cases hfold
      · next interaction hfind =>
          split at hfold
          · cases hfold
          · next hids =>
              split at hfold
              · cases hfold
              · next hcomplete =>
                  have hsame : interaction.requestIds = payload.requestIds := by simpa using hids
                  have hfound : (turn.updateInteraction payload.interactionId
                      (·.awaited payload.requestedAt)).findInteraction payload.interactionId =
                        some (interaction.awaited payload.requestedAt) := by
                    rw [findInteraction_updateInteraction]
                    · rw [if_pos rfl, hfind]
                      rfl
                    · exact fun _ => rfl
                  have hbegins : payload.requestIds <+: interaction.requestIds := by
                    exact hsame ▸ List.prefix_refl _
                  split at hfold
                  · cases hfold
                  · split at hfold
                    · cases hfold
                    · cases hfold
                      refine ⟨_, hfound, hbegins, ?_⟩
                      intro _
                      show interaction.requests.length = interaction.requestIds.length ∧
                        interaction.complete = true
                      simpa using hcomplete
  | runResumed payload =>
      simp only [foldTurnEvent, foldRunResumed] at hfold
      split at hfold
      · cases hfold
      · next interaction hfind =>
          split at hfold
          · cases hfold
          · next hmatches =>
              cases hfold
              simp only [not_or, not_not] at hmatches
              obtain ⟨-, hsame, hresponded⟩ := hmatches
              have hfound : (turn.updateInteraction payload.interactionId
                  (·.resumed payload.resumedAt)).findInteraction payload.interactionId =
                    some (interaction.resumed payload.resumedAt) := by
                rw [findInteraction_updateInteraction]
                · rw [if_pos rfl, hfind]
                  rfl
                · exact fun _ => rfl
              refine ⟨_, hfound, ?_, ?_⟩
              · show payload.resolvedRequestIds <+: interaction.requestIds
                exact hsame ▸ List.prefix_refl _
              · intro _ request hmem
                have hrequest : request ∈ interaction.requests := hmem
                by_contra hother
                exact hresponded (List.any_eq_true.mpr ⟨request, hrequest, by simpa using hother⟩)
  | runSettled payload => exact (foldRunSettled_grows hfold).2
  | messageUpdate payload =>
      obtain ⟨-, -, hfold⟩ := inInternal_changed hfold
      simp only [foldMessageUpdate] at hfold
      split at hfold
      · cases hfold
      · next current hmatch =>
          obtain ⟨hcurrent, hmessage, hinternal⟩ := matched_current hmatch
          split at hfold
          · cases hfold
          · split at hfold
            · split at hfold <;> cases hfold
            · split at hfold
              · cases hfold
              · next hindex =>
                  cases hfold
                  refine ⟨?_, ?_⟩
                  · rw [← hmessage, ← hinternal]
                    exact hlisted current hcurrent
                  · intro other hother _ _
                    cases hother
                    simp only [not_or, not_not] at hindex
                    show payload.assistantMessageEvent.deltaIndex < current.nextDeltaIndex + 1
                    omega
  | messageEnd payload =>
      obtain ⟨internal, hinternal, hfold⟩ := inInternal_changed hfold
      obtain ⟨other, hother, -⟩ := (foldMessageEnd_grows hfold).1.internals _ internal hinternal
      exact Option.isSome_iff_exists.mpr ⟨other, hother⟩
  | toolExecutionStart payload =>
      obtain ⟨internal, -, hfold⟩ := inInternal_changed hfold
      unfold foldToolExecutionStart at hfold
      split at hfold
      · split at hfold <;> cases hfold
      · split at hfold
        · cases hfold
        · cases hfold
          simp [Heard, findTool, tools, pushActivity, TurnActivityItem.asTool, newTool]
  | toolExecutionUpdate payload =>
      obtain ⟨-, -, hfold⟩ := inInternal_changed hfold
      unfold foldToolExecutionUpdate at hfold
      split at hfold
      · cases hfold
      · next tool hmatch =>
          obtain ⟨htool, -⟩ := matched_tool hmatch
          repeat' split at hfold
          all_goals cases hfold
          refine ⟨tool.updated payload, ?_, fun _ => Nat.le_refl _⟩
          rw [findTool_updateTool]
          · rw [if_pos rfl, htool]
            rfl
          · exact fun _ => rfl
  | toolExecutionEnd payload =>
      obtain ⟨-, -, hfold⟩ := inInternal_changed hfold
      unfold foldToolExecutionEnd at hfold
      split at hfold
      · cases hfold
      · next tool hmatch =>
          obtain ⟨htool, -⟩ := matched_tool hmatch
          split at hfold
          · split at hfold <;> cases hfold
          · repeat' split at hfold
            all_goals cases hfold
            refine ⟨tool.ended payload, ?_, ToolOutcome.isOpen_toolStatus payload.outcome⟩
            rw [findTool_updateTool]
            · rw [if_pos rfl, htool]
              rfl
            · exact fun _ => rfl
  | turnEnd payload =>
      obtain ⟨internal, hinternal, hfold⟩ := inInternal_changed hfold
      unfold foldTurnEnd at hfold
      split at hfold
      · split at hfold <;> cases hfold
      · repeat' split at hfold
        all_goals cases hfold
        refine ⟨{ internal with status := payload.status.internalStatus }, ?_,
          payload.status.internalStatus_ne_active⟩
        rw [findInternal_updateInternal]
        · rw [if_pos rfl, hinternal]
          rfl
        · exact fun _ => rfl

end Taken

/-! ## Taking an event again -/

/-- The trace of the event is there without effect: its interaction is not active any more, or
active again, or a message of the same id of another internal Turn stood for its message. -/
def TurnProjection.reapplies (turn : TurnProjection) : CanonicalPayload → Bool
  | .runWaitingInput payload =>
      !truthy turn.activeInteractionId && turn.asksFor payload.interactionId payload.requestIds
  | .runResumed payload =>
      turn.activeInteractionId = some payload.interactionId &&
        turn.asksFor payload.interactionId payload.resolvedRequestIds
  | .messageStart payload =>
      turn.currentAssistant.isNone &&
        (turn.findInternal payload.internalTurnId).any fun internal =>
          internal.status = .active && !internal.messageIds.contains payload.messageId
  | .messageEnd payload =>
      turn.currentAssistant.any fun current =>
        current.messageId = payload.messageId &&
          current.internalTurnId = payload.internalTurnId &&
          (current.nextDeltaIndex = 0 || current.text = payload.text)
  | _ => false

section Again

open TurnProjection

variable {turn : TurnProjection}

theorem foldRunWaitingInput_again {eventId : String} {payload : RunWaitingInputPayload}
    (h : turn.Heard eventId (.runWaitingInput payload)) :
    (∃ after, foldRunWaitingInput turn payload = .changed after) ↔
      turn.reapplies (.runWaitingInput payload) = true := by
  obtain ⟨interaction, hfind, -, hcomplete⟩ := h
  have hid : interaction.interactionId = payload.interactionId := by
    simpa using List.find?_some hfind
  simp only [foldRunWaitingInput, reapplies, asksFor, hfind, Option.any_some]
  by_cases hids : interaction.requestIds = payload.requestIds
  · obtain ⟨hlength, hindexes⟩ := hcomplete hids
    cases htruthy : truthy turn.activeInteractionId with
    | true => by_cases hactive : turn.activeInteractionId = some interaction.interactionId ∧
          turn.state = .awaitingInput <;> simp [hids, hlength, hindexes, hactive]
    | false =>
        have hother : turn.activeInteractionId ≠ some interaction.interactionId := by
          intro hactive
          rw [hactive, hid] at htruthy
          simp [truthy, payload.named] at htruthy
        simp [hids, hlength, hindexes, hother]
  · simp [hids]

theorem foldRunResumed_again {eventId : String} {payload : RunResumedPayload}
    (h : turn.Heard eventId (.runResumed payload)) :
    (∃ after, foldRunResumed turn payload = .changed after) ↔
      turn.reapplies (.runResumed payload) = true := by
  obtain ⟨interaction, hfind, -, hresponded⟩ := h
  have hid : interaction.interactionId = payload.interactionId := by
    simpa using List.find?_some hfind
  simp only [foldRunResumed, reapplies, asksFor, hfind, Option.any_some, hid]
  by_cases hids : interaction.requestIds = payload.resolvedRequestIds
  · have hall : ¬ ∃ request, request ∈ interaction.requests ∧ ¬ request.status = .responded := by
      rintro ⟨request, hmem, hother⟩
      exact hother (hresponded hids request hmem)
    by_cases hactive : turn.activeInteractionId = some payload.interactionId <;>
      simp [hids, hactive, hall]
  · simp [hids]

theorem foldMessageStart_again {order : Nat} {payload : MessageStartPayload} :
    (∃ after, foldTurnEvent.inInternal turn (.messageStart payload) payload.internalTurnId
        (fun internal => foldMessageStart turn internal order payload) = .changed after) ↔
      turn.reapplies (.messageStart payload) = true := by
  unfold foldTurnEvent.inInternal
  simp only [reapplies]
  cases hinternal : turn.findInternal payload.internalTurnId with
  | none => simp
  | some internal =>
      simp only [foldMessageStart, Option.any_some]
      by_cases hactive : internal.status = .active
      · cases hcurrent : turn.currentAssistant with
        | none => by_cases hlisted : payload.messageId ∈ internal.messageIds <;>
            simp [hactive, hlisted]
        | some current => by_cases hsame : current.messageId = payload.messageId <;>
            simp [hactive, hsame]
      · simp [hactive]

theorem foldMessageEnd_again {eventId : String} {order : Nat} {payload : MessageEndPayload}
    (h : turn.Heard eventId (.messageEnd payload))
    (hadmits : turn.finalAnswer.any (fun final => !final.admits (.messageEnd payload)) = false) :
    (∃ after, foldTurnEvent.inInternal turn (.messageEnd payload) payload.internalTurnId
        (fun _ => foldMessageEnd turn order payload) = .changed after) ↔
      turn.reapplies (.messageEnd payload) = true := by
  obtain ⟨internal, hinternal⟩ := Option.isSome_iff_exists.mp h
  unfold foldTurnEvent.inInternal
  simp only [hinternal, reapplies, foldMessageEnd]
  have hsame : payload.disposition = .final → turn.finalAnswer.any (fun final =>
      final.messageId ≠ payload.messageId || final.internalTurnId ≠ payload.internalTurnId ||
        final.text ≠ payload.text) = false := by
    intro hfinal
    cases hanswer : turn.finalAnswer with
    | none => rfl
    | some final =>
        simp only [hanswer, Option.any_some, AssistantProjection.admits, hfinal] at hadmits
        simp at hadmits ⊢
        exact ⟨⟨hadmits.1.1.symm, hadmits.1.2.symm⟩, hadmits.2.symm⟩
  cases hcurrent : turn.currentAssistant with
  | none => by_cases hprior : turn.priorText payload.messageId = some payload.text <;> simp [hprior]
  | some current =>
      by_cases hmatch : current.messageId = payload.messageId ∧
          current.internalTurnId = payload.internalTurnId
      · obtain ⟨hmessage, howner⟩ := hmatch
        simp only [Option.filter_some, Option.any_some, hmessage, howner, decide_true,
          Bool.and_self, Bool.true_and, if_true]
        constructor
        · rintro ⟨after, hfold⟩
          split at hfold
          · cases hfold
          · next hagrees =>
              by_cases hzero : current.nextDeltaIndex = 0
              · simp [hzero]
              · have htext : current.text = payload.text := by
                  by_contra hother
                  exact hagrees ⟨by omega, hother⟩
                simp [htext]
        · intro hagrees
          have hnot : ¬ (0 < current.nextDeltaIndex ∧ current.text ≠ payload.text) := by
            rintro ⟨hpositive, hother⟩
            have hzero : current.nextDeltaIndex ≠ 0 := by omega
            simp [hzero, hother] at hagrees
          rw [if_neg hnot]
          by_cases hfinal : payload.disposition = .final
          · rw [if_pos hfinal, if_neg (by rw [hsame hfinal]; nofun)]
            exact ⟨_, rfl⟩
          · rw [if_neg hfinal]
            split
            · exact ⟨_, rfl⟩
            · exact ⟨_, rfl⟩
      · have hfilter : (Option.filter (fun current : AssistantProjection =>
            current.messageId = payload.messageId && current.internalTurnId = payload.internalTurnId)
            (some current)) = none := by
          rw [Option.filter_some, if_neg]
          simpa using hmatch
        have hother : ¬ (current.messageId = payload.messageId &&
            current.internalTurnId = payload.internalTurnId) = true := by simpa using hmatch
        rw [hfilter]
        by_cases hprior : turn.priorText payload.messageId = some payload.text <;>
          simp [hprior, Bool.eq_false_iff.mpr hother]

theorem foldTurnEvent_again {eventId : String} {order : Nat} {payload : CanonicalPayload}
    (h : turn.Heard eventId payload) (hopen : turn.state.settled = false)
    (hadmits : turn.finalAnswer.any (fun final => !final.admits payload) = false) :
    (∃ after, foldTurnEvent turn eventId order payload = .changed after) ↔
      turn.reapplies payload = true := by
  cases payload with
  | runWaitingInput payload => exact foldRunWaitingInput_again h
  | runResumed payload => exact foldRunResumed_again h
  | messageStart payload => exact foldMessageStart_again
  | messageEnd payload => exact foldMessageEnd_again h hadmits
  | runStarted payload => simp [foldTurnEvent, reapplies]
  | runSettled payload =>
      have hsettled : turn.state.settled = true := h
      rw [hopen] at hsettled
      cases hsettled
  | turnStart payload =>
      refine iff_of_false ?_ (by simp [reapplies])
      rintro ⟨after, hfold⟩
      obtain ⟨internal, hfind⟩ := Option.isSome_iff_exists.mp h
      simp only [foldTurnEvent, foldTurnStart, hfind] at hfold
      split at hfold <;> cases hfold
  | retryScheduled payload =>
      refine iff_of_false ?_ (by simp [reapplies])
      rintro ⟨after, hfold⟩
      have hretry : turn.activity.any (·.isRetryWith eventId) = true := h
      simp only [foldTurnEvent, foldRetryScheduled, hretry] at hfold
      split at hfold <;> cases hfold
  | modelDecision payload =>
      refine iff_of_false ?_ (by simp [reapplies])
      rintro ⟨after, hfold⟩
      have hdecision : turn.activity.any (·.isDecisionWith eventId) = true := h
      simp only [foldTurnEvent, foldModelDecision, hdecision] at hfold
      split at hfold <;> cases hfold
  | messageUpdate payload =>
      refine iff_of_false ?_ (by simp [reapplies])
      rintro ⟨after, hfold⟩
      obtain ⟨-, -, hfold⟩ := inInternal_changed hfold
      simp only [foldMessageUpdate] at hfold
      split at hfold
      · cases hfold
      · next current hmatch =>
          obtain ⟨hcurrent, hmessage, hinternal⟩ := matched_current hmatch
          rw [if_pos (h.2 current hcurrent hmessage hinternal)] at hfold
          repeat' split at hfold
          all_goals cases hfold
  | toolExecutionStart payload =>
      refine iff_of_false ?_ (by simp [reapplies])
      rintro ⟨after, hfold⟩
      obtain ⟨internal, -, hfold⟩ := inInternal_changed hfold
      obtain ⟨tool, hfind⟩ := Option.isSome_iff_exists.mp h
      simp only [foldToolExecutionStart, hfind] at hfold
      split at hfold <;> cases hfold
  | toolExecutionUpdate payload =>
      refine iff_of_false ?_ (by simp [reapplies])
      rintro ⟨after, hfold⟩
      obtain ⟨-, -, hfold⟩ := inInternal_changed hfold
      obtain ⟨tool, hfind, hindex⟩ := h
      unfold foldToolExecutionUpdate at hfold
      split at hfold
      · cases hfold
      · next other hmatch =>
          obtain ⟨hother, -⟩ := matched_tool hmatch
          rw [hfind] at hother
          cases hother
          split at hfold
          · cases hfold
          · next hrunning =>
              rw [if_pos (hindex (by simpa using hrunning))] at hfold
              cases hfold
  | toolExecutionEnd payload =>
      refine iff_of_false ?_ (by simp [reapplies])
      rintro ⟨after, hfold⟩
      obtain ⟨-, -, hfold⟩ := inInternal_changed hfold
      obtain ⟨tool, hfind, hclosed⟩ := h
      unfold foldToolExecutionEnd at hfold
      split at hfold
      · cases hfold
      · next other hmatch =>
          obtain ⟨hother, -⟩ := matched_tool hmatch
          rw [hfind] at hother
          cases hother
          rw [if_pos hclosed] at hfold
          split at hfold <;> cases hfold
  | turnEnd payload =>
      refine iff_of_false ?_ (by simp [reapplies])
      rintro ⟨after, hfold⟩
      obtain ⟨internal, hinternal, hfold⟩ := inInternal_changed hfold
      obtain ⟨other, hother, hclosed⟩ := h
      rw [hinternal] at hother
      cases hother
      unfold foldTurnEnd at hfold
      rw [if_pos hclosed] at hfold
      split at hfold <;> cases hfold

end Again

/-! ## Maps of Turns -/

/-- The trace of an event in the map. -/
def Heard (turns : TurnProjectionMap) : CanonicalFoldEvent → Prop
  | .runEvent data =>
      data.roomSeq.isSome = true ∧ ∃ turn, get turns data.runId = some turn ∧
        turn.clientRequestId = data.correlationId ∧ turn.Heard data.eventId data.payload
  | .hitlRequest data =>
      ∃ turn interaction, get turns data.runId = some turn ∧
        turn.findInteraction data.interactionId = some interaction ∧
        (interaction.requests.find? (·.requestId = data.requestId)).isSome = true
  | .hitlResponse data =>
      ∃ turn interaction request, get turns data.runId = some turn ∧
        turn.findInteraction data.interactionId = some interaction ∧
        interaction.requests.find? (·.requestId = data.requestId) = some request ∧
        request.status ≠ .requested
  | .agentResponse _ | .taskSubmitted | .taskUpdate => True

/-- A second delivery of the event is taken: its trace in the run is without effect, or the first
Turn that awaits the final response is another one than before, or has settled without it. -/
def reapplies (turns : TurnProjectionMap) : CanonicalFoldEvent → Bool
  | .runEvent data =>
      (get turns data.runId).any fun turn =>
        !turn.state.settled && turn.finalAnswer.all (·.admits data.payload) &&
          turn.reapplies data.payload
  | .agentResponse data =>
      ((values turns).find? (·.awaitsFinal data)).any fun turn => !turn.finalCommitted
  | _ => false

structure Listed (turns : TurnProjectionMap) : Prop where
  keyed : Keyed turns
  listed : ∀ key turn, get turns key = some turn → turn.AssistantListed

def TurnsGrow (turns after : TurnProjectionMap) : Prop :=
  ∀ key turn, get turns key = some turn → ∃ other, get after key = some other ∧ turn.Grows other

theorem TurnProjection.Grows.refl (turn : TurnProjection) : turn.Grows turn :=
  ⟨rfl, fun h => h, TurnProjection.internalsGrow_of_eq rfl, TurnProjection.toolsGrow_of_eq rfl,
    TurnProjection.notesGrow_of_eq rfl, TurnProjection.interactionsGrow_of_eq rfl,
    TurnProjection.assistantGrows_of_eq rfl⟩

theorem Heard.grow {turns after : TurnProjectionMap} {event : CanonicalFoldEvent}
    (h : Heard turns event) (hgrows : TurnsGrow turns after) : Heard after event := by
  cases event with
  | runEvent data =>
      obtain ⟨hseq, turn, hget, hroot, htrace⟩ := h
      obtain ⟨other, hother, hturn⟩ := hgrows _ turn hget
      exact ⟨hseq, other, hother, hturn.root.trans hroot, htrace.grow hturn⟩
  | hitlRequest data =>
      obtain ⟨turn, interaction, hget, hfind, hrequest⟩ := h
      obtain ⟨other, hother, hturn⟩ := hgrows _ turn hget
      obtain ⟨later, hlater, hstep⟩ := hturn.interactions _ interaction hfind
      obtain ⟨request, hrequest⟩ := Option.isSome_iff_exists.mp hrequest
      obtain ⟨same, hsame, -⟩ := hstep.request _ request hrequest
      exact ⟨other, later, hother, hlater, Option.isSome_iff_exists.mpr ⟨same, hsame⟩⟩
  | hitlResponse data =>
      obtain ⟨turn, interaction, request, hget, hfind, hrequest, hanswered⟩ := h
      obtain ⟨other, hother, hturn⟩ := hgrows _ turn hget
      obtain ⟨later, hlater, hstep⟩ := hturn.interactions _ interaction hfind
      obtain ⟨same, hsame, hkept⟩ := hstep.request _ request hrequest
      exact ⟨other, later, same, hother, hlater, hsame, hkept hanswered⟩
  | agentResponse data => trivial
  | taskSubmitted => trivial
  | taskUpdate => trivial

/-! ## One event on a map -/

section Maps

variable {turns : TurnProjectionMap}

/-- The Turn is one of the map that has grown, or a new one without Assistant. -/
structure Follows (turns : TurnProjectionMap) (after : TurnProjection) : Prop where
  grows : ∀ turn, get turns after.id = some turn → turn.Grows after
  fresh : get turns after.id = none → after.currentAssistant = none

theorem Follows.turnsGrow {after : TurnProjection} (h : Follows turns after) :
    TurnsGrow turns (put turns after.id after) := by
  intro key turn hget
  by_cases hkey : key = after.id
  · subst hkey
    exact ⟨after, get_put_self .., h.grows turn hget⟩
  · exact ⟨turn, by rw [get_put_of_ne _ hkey, hget], .refl turn⟩

theorem Listed.put (h : Listed turns) {after : TurnProjection} (hfollows : Follows turns after) :
    Listed (put turns after.id after) := by
  refine ⟨h.keyed.put after, ?_⟩
  intro key turn hget
  by_cases hkey : key = after.id
  · rw [hkey, get_put_self] at hget
    cases hget
    cases hexisting : get turns after.id with
    | some turn => exact (hfollows.grows turn hexisting).assistantListed (h.listed _ turn hexisting)
    | none =>
        intro current hcurrent
        rw [hfollows.fresh hexisting] at hcurrent
        cases hcurrent
  · rw [get_put_of_ne _ hkey] at hget
    exact h.listed key turn hget

theorem follows_of_grows (hkeyed : Keyed turns) {key : String} {turn after : TurnProjection}
    (hget : get turns key = some turn) (hid : after.id = turn.id) (hgrows : turn.Grows after) :
    Follows turns after := by
  have hkey : after.id = key := hid.trans (hkeyed.id_of_get hget)
  constructor
  · intro other hother
    rw [hkey, hget] at hother
    cases hother
    exact hgrows
  · intro hnone
    rw [hkey, hget] at hnone
    cases hnone

theorem result_changed {outcome : TurnOutcome} {written : TurnProjectionMap}
    (h : outcome.result turns = .ok written true) :
    ∃ after, outcome = .changed after ∧ written = put turns after.id after := by
  cases outcome with
  | unchanged => cases h
  | failed violation => cases h
  | changed after =>
      cases h
      exact ⟨after, rfl, rfl⟩

theorem foldStarted_cases {turn : TurnProjection} {correlationId eventId : String} {order : Nat}
    {payload : CanonicalPayload}
    (hfold : ∀ violation,
      foldStarted turn correlationId eventId order payload ≠ .failed violation) :
    turn.clientRequestId = correlationId ∧
      (turn.state.settled = true ∧ turn.Heard eventId payload ∧
          foldStarted turn correlationId eventId order payload = .unchanged ∨
        turn.state.settled = false ∧
          turn.finalAnswer.any (fun final => !final.admits payload) = false ∧
          foldStarted turn correlationId eventId order payload =
            foldTurnEvent turn eventId order payload) := by
  unfold foldStarted at hfold ⊢
  by_cases hroot : turn.clientRequestId = correlationId
  · simp only [hroot, ne_eq, not_true, if_false] at hfold ⊢
    cases hsettled : turn.state.settled with
    | true =>
        simp only [hsettled, if_true] at hfold ⊢
        refine ⟨trivial, .inl ⟨trivial, ?_⟩⟩
        cases payload with
        | runSettled settled =>
            refine ⟨hsettled, ?_⟩
            by_cases hstate : turn.state = settled.status.state
            · exact if_pos hstate
            · exact absurd (if_neg hstate) (hfold _)
        | _ => exact absurd rfl (hfold _)
    | false =>
        simp only [hsettled, Bool.false_eq_true, if_false] at hfold ⊢
        refine ⟨trivial, .inr ⟨trivial, ?_⟩⟩
        split
        · next hfinal =>
            rw [if_pos hfinal] at hfold
            exact absurd rfl (hfold _)
        · next hfinal => exact ⟨by simpa using hfinal, rfl⟩
  · rw [if_pos hroot] at hfold
    exact absurd rfl (hfold _)

theorem foldStarted_grows {turn after : TurnProjection} {correlationId eventId : String}
    {order : Nat} {payload : CanonicalPayload}
    (hfold : foldStarted turn correlationId eventId order payload = .changed after) :
    turn.Grows after ∧ foldTurnEvent turn eventId order payload = .changed after := by
  obtain ⟨-, hcases⟩ := foldStarted_cases (fun violation => by rw [hfold]; nofun)
  rcases hcases with ⟨-, -, hsame⟩ | ⟨hopen, -, hsame⟩
  · rw [hfold] at hsame
    cases hsame
  · rw [hfold] at hsame
    exact ⟨foldTurnEvent_grows hopen hsame.symm, hsame.symm⟩

theorem follows_of_changed (hkeyed : Keyed turns) {conversationId : String}
    {event : CanonicalFoldEvent} (hrooted : event.rooted = true) {written : TurnProjectionMap}
    (hfold : foldCanonicalEvent turns conversationId event = .ok written true) :
    ∃ after, written = put turns after.id after ∧ Follows turns after := by
  cases event with
  | runEvent data =>
      simp only [foldCanonicalEvent, foldRunEvent] at hfold
      split at hfold
      · cases hfold
      · split at hfold
        · next payload hpayload =>
            obtain ⟨after, hafter, hwritten⟩ := result_changed hfold
            refine ⟨after, hwritten, ?_⟩
            have hname : payload.hybroTurnId = data.runId := by
              simpa [CanonicalFoldEvent.rooted, hpayload] using hrooted
            cases hexisting : get turns data.runId with
            | some turn =>
                simp only [foldRunStarted, hexisting] at hafter
                split at hafter <;> cases hafter
            | none =>
                rw [hexisting] at hafter
                cases hafter
                have hid : (newTurn conversationId data.correlationId data.runId payload).id =
                    data.runId := hname
                constructor
                · intro turn hget
                  rw [hid, hexisting] at hget
                  cases hget
                · exact fun _ => rfl
        · split at hfold
          · cases hfold
          · next turn hget =>
              obtain ⟨after, hafter, hwritten⟩ := result_changed hfold
              exact ⟨after, hwritten, follows_of_grows hkeyed hget
                (foldStarted_changed hafter).1 (foldStarted_grows hafter).1⟩
  | hitlRequest data =>
      simp only [foldCanonicalEvent, foldHITLRequest] at hfold
      split at hfold
      · cases hfold
      · next turn hroot =>
          obtain ⟨after, hafter, hwritten⟩ := result_changed hfold
          have hget := (Option.filter_eq_some_iff.mp hroot).1
          exact ⟨after, hwritten, follows_of_grows hkeyed hget
            (foldHITLQuestion_changed hafter).1 (foldHITLQuestion_grows hafter)⟩
  | hitlResponse data =>
      simp only [foldCanonicalEvent, foldHITLResponse] at hfold
      split at hfold
      · cases hfold
      · next turn hroot =>
          obtain ⟨after, hafter, hwritten⟩ := result_changed hfold
          have hget := (Option.filter_eq_some_iff.mp hroot).1
          exact ⟨after, hwritten, follows_of_grows hkeyed hget
            (foldHITLAnswer_changed hafter).1 (foldHITLAnswer_grows hafter)⟩
  | agentResponse data =>
      simp only [foldCanonicalEvent, foldAgentResponse] at hfold
      split at hfold
      · cases hfold
      · next turn hfind =>
          obtain ⟨after, hafter, hwritten⟩ := result_changed hfold
          have hget := hkeyed.get_of_mem (List.mem_of_find?_eq_some hfind)
          have hid : after.id = turn.id := by
            unfold commitFinal at hafter
            repeat' split at hafter
            all_goals cases hafter
            rfl
          exact ⟨after, hwritten, follows_of_grows hkeyed hget hid (commitFinal_grows hafter)⟩
  | taskSubmitted => cases hfold
  | taskUpdate => cases hfold

theorem Listed.fold (h : Listed turns) (conversationId : String) {event : CanonicalFoldEvent}
    (hrooted : event.rooted = true) :
    Listed (foldCanonicalEvent turns conversationId event).turns ∧
      TurnsGrow turns (foldCanonicalEvent turns conversationId event).turns := by
  have hstays : TurnsGrow turns turns := fun key turn hget => ⟨turn, hget, .refl turn⟩
  cases foldCanonicalEvent_cases conversationId h.keyed hrooted with
  | inl hidle =>
      have hturns : (foldCanonicalEvent turns conversationId event).turns = turns := by
        cases hidle with
        | inl hok => rw [hok, FoldResult.turns]
        | inr hfailed =>
            obtain ⟨violation, heq⟩ := hfailed
            rw [heq, FoldResult.turns]
      rw [hturns]
      exact ⟨h, hstays⟩
  | inr hwrites =>
      obtain ⟨other, hother⟩ := hwrites
      obtain ⟨after, hwritten, hfollows⟩ := follows_of_changed h.keyed hrooted hother.result
      rw [hother.result, FoldResult.turns, hwritten]
      exact ⟨h.put hfollows, hfollows.turnsGrow⟩

/-! ## Runs -/

inductive Folds (turns : TurnProjectionMap) : TurnProjectionMap → Prop
  | refl : Folds turns turns
  | fold (after : TurnProjectionMap) (conversationId : String) (event : CanonicalFoldEvent)
      (hrooted : event.rooted = true) (h : Folds turns after) :
      Folds turns (foldCanonicalEvent after conversationId event).turns

theorem Folds.listed {after : TurnProjectionMap} (h : Folds turns after) (hturns : Listed turns) :
    Listed after := by
  induction h with
  | refl => exact hturns
  | fold after conversationId event hrooted h ih => exact (ih.fold conversationId hrooted).1

theorem Folds.heard {after : TurnProjectionMap} {event : CanonicalFoldEvent}
    (h : Folds turns after) (hturns : Listed turns) (hheard : Heard turns event) :
    Heard after event := by
  induction h with
  | refl => exact hheard
  | fold after conversationId event hrooted h ih =>
      exact ih.grow ((h.listed hturns).fold conversationId hrooted).2

theorem result_accepted {outcome : TurnOutcome} {accepted : TurnProjectionMap} {changed : Bool}
    (h : outcome.result turns = .ok accepted changed) :
    outcome = .unchanged ∧ accepted = turns ∨
      ∃ after, outcome = .changed after ∧ accepted = put turns after.id after := by
  cases outcome with
  | unchanged =>
      cases h
      exact .inl ⟨rfl, rfl⟩
  | failed violation => cases h
  | changed after =>
      cases h
      exact .inr ⟨after, rfl, rfl⟩

theorem get_written (hkeyed : Keyed turns) {key : String} {turn after : TurnProjection}
    (hget : get turns key = some turn) (hid : after.id = turn.id) :
    get (put turns after.id after) key = some after := by
  have hkey : after.id = key := hid.trans (hkeyed.id_of_get hget)
  rw [← hkey]
  exact get_put_self ..

theorem heard_of_started (hturns : Listed turns) {data : CanonicalRunEventData}
    {turn : TurnProjection} {order : Nat} (hseq : data.roomSeq.isSome = true)
    (hget : get turns data.runId = some turn) {accepted : TurnProjectionMap} {changed : Bool}
    (haccepted : (foldStarted turn data.correlationId data.eventId order data.payload).result
      turns = .ok accepted changed) : Heard accepted (.runEvent data) := by
  have hnot : ∀ violation, foldStarted turn data.correlationId data.eventId order data.payload ≠
      .failed violation := by
    intro violation hfailed
    rw [hfailed] at haccepted
    cases haccepted
  obtain ⟨hroot, hcases⟩ := foldStarted_cases hnot
  have hlisted := hturns.listed _ turn hget
  rcases result_accepted haccepted with ⟨hsame, rfl⟩ | ⟨after, hchanged, rfl⟩
  · refine ⟨hseq, turn, hget, hroot, ?_⟩
    rcases hcases with ⟨-, htrace, -⟩ | ⟨-, -, hfold⟩
    · exact htrace
    · rw [hsame] at hfold
      exact heard_of_unchanged hlisted hfold.symm
  · obtain ⟨hgrows, hfold⟩ := foldStarted_grows hchanged
    exact ⟨hseq, after, get_written hturns.keyed hget (foldStarted_changed hchanged).1,
      hgrows.root.trans hroot, heard_of_changed hlisted hfold⟩

theorem heard_of_question (hkeyed : Keyed turns) {data : CanonicalHITLRequestData}
    {accepted : TurnProjectionMap} {changed : Bool}
    (haccepted : foldHITLRequest turns data = .ok accepted changed) :
    Heard accepted (.hitlRequest data) := by
  unfold foldHITLRequest at haccepted
  split at haccepted
  · cases haccepted
  · next turn hroot =>
      have hget := (Option.filter_eq_some_iff.mp hroot).1
      rcases result_accepted haccepted with ⟨hsame, rfl⟩ | ⟨after, hchanged, rfl⟩
      · unfold foldHITLQuestion at hsame
        split at hsame
        · cases hsame
        · next interaction hinteraction =>
            split at hsame
            · next prior hprior =>
                exact ⟨turn, interaction, hget, hinteraction,
                  Option.isSome_iff_exists.mpr ⟨prior, hprior⟩⟩
            · split at hsame <;> cases hsame
      · have hafter := get_written hkeyed hget (foldHITLQuestion_changed hchanged).1
        unfold foldHITLQuestion at hchanged
        split at hchanged
        · next hnew =>
            cases hchanged
            refine ⟨_, ⟨data.interactionId, .awaitingInput, [data.requestId], [questionOf data], "",
              none⟩, hafter, ?_, ?_⟩
            · unfold TurnProjection.findInteraction at hnew ⊢
              rw [List.find?_append, hnew]
              simp
            · simp [questionOf]
        · next interaction hinteraction =>
            split at hchanged
            · split at hchanged <;> cases hchanged
            · next hprior =>
                split at hchanged
                · cases hchanged
                · cases hchanged
                  refine ⟨_, interaction.push (questionOf data), hafter, ?_, ?_⟩
                  · rw [TurnProjection.findInteraction_updateInteraction]
                    · rw [if_pos rfl, hinteraction]
                      rfl
                    · exact fun _ => rfl
                  · unfold HITLInteractionProjection.push
                    rw [List.find?_append, hprior]
                    simp [questionOf]

theorem heard_of_answer (hkeyed : Keyed turns) {data : CanonicalHITLResponseData}
    {accepted : TurnProjectionMap} {changed : Bool}
    (haccepted : foldHITLResponse turns data = .ok accepted changed) :
    Heard accepted (.hitlResponse data) := by
  unfold foldHITLResponse at haccepted
  split at haccepted
  · cases haccepted
  · next turn hroot =>
      have hget := (Option.filter_eq_some_iff.mp hroot).1
      rcases result_accepted haccepted with ⟨hsame, rfl⟩ | ⟨after, hchanged, rfl⟩
      · unfold foldHITLAnswer at hsame
        split at hsame
        · cases hsame
        · next interaction hinteraction =>
            split at hsame
            · cases hsame
            · next request hrequest =>
                have hfind := (Option.filter_eq_some_iff.mp hrequest).1
                split at hsame
                · next hanswered =>
                    exact ⟨turn, interaction, request, hget, hinteraction, hfind, hanswered⟩
                · split at hsame <;> cases hsame
      · have hafter := get_written hkeyed hget (foldHITLAnswer_changed hchanged).1
        unfold foldHITLAnswer at hchanged
        split at hchanged
        · cases hchanged
        · next interaction hinteraction =>
            split at hchanged
            · cases hchanged
            · next request hrequest =>
                have hfind := (Option.filter_eq_some_iff.mp hrequest).1
                have hanswer : (interaction.answer data).requests.find?
                    (·.requestId = data.requestId) = some { request with
                      status := data.status.requestStatus, answerRef := data.answerRef } := by
                  unfold HITLInteractionProjection.answer
                  rw [find?_updateFirst, hfind, Option.map_some]
                  exact fun request hrequest => hrequest
                have hclosed : data.status.requestStatus ≠ .requested := by
                  cases data.status <;> nofun
                split at hchanged
                · split at hchanged <;> cases hchanged
                · split at hchanged
                  · cases hchanged
                    refine ⟨_, interaction.answer data, _, hafter, ?_, hanswer, hclosed⟩
                    rw [TurnProjection.findInteraction_updateInteraction]
                    · rw [if_pos rfl, hinteraction]
                      rfl
                    · exact fun _ => rfl
                  · next state _ =>
                      cases hchanged
                      refine ⟨_, interaction.endAs data state, _, hafter, ?_, hanswer, hclosed⟩
                      have hfound : (turn.updateInteraction data.interactionId
                          (·.endAs data state)).findInteraction data.interactionId =
                            some (interaction.endAs data state) := by
                        rw [TurnProjection.findInteraction_updateInteraction]
                        · rw [if_pos rfl, hinteraction]
                          rfl
                        · exact fun _ => rfl
                      exact hfound

theorem heard_of_accepted (hturns : Listed turns) {conversationId : String}
    {event : CanonicalFoldEvent} (hrooted : event.rooted = true) {accepted : TurnProjectionMap}
    {changed : Bool}
    (haccepted : foldCanonicalEvent turns conversationId event = .ok accepted changed) :
    Heard accepted event := by
  cases event with
  | hitlRequest data => exact heard_of_question hturns.keyed haccepted
  | hitlResponse data => exact heard_of_answer hturns.keyed haccepted
  | agentResponse data => trivial
  | taskSubmitted => trivial
  | taskUpdate => trivial
  | runEvent data =>
      simp only [foldCanonicalEvent, foldRunEvent] at haccepted
      cases hseq : data.roomSeq with
      | none =>
          rw [hseq] at haccepted
          cases haccepted
      | some order =>
          rw [hseq] at haccepted
          simp only at haccepted
          split at haccepted
          · next payload hpayload =>
              have hname : payload.hybroTurnId = data.runId := by
                simpa [CanonicalFoldEvent.rooted, hpayload] using hrooted
              refine ⟨by simp [hseq], ?_⟩
              cases hexisting : get turns data.runId with
              | some turn =>
                  rw [hexisting] at haccepted
                  simp only [foldRunStarted] at haccepted
                  split at haccepted
                  · next hsame =>
                      cases haccepted
                      exact ⟨turn, hexisting, hsame.2, by rw [hpayload]; trivial⟩
                  · cases haccepted
              | none =>
                  rw [hexisting] at haccepted
                  cases haccepted
                  refine ⟨newTurn conversationId data.correlationId data.runId payload, ?_, rfl,
                    by rw [hpayload]; trivial⟩
                  have hid : (newTurn conversationId data.correlationId data.runId payload).id =
                      data.runId := hname
                  rw [hid]
                  exact get_put_self ..
          · split at haccepted
            · cases haccepted
            · next turn hget => exact heard_of_started hturns (by simp [hseq]) hget haccepted

/-! ## The second delivery -/

theorem result_idle_iff {outcome : TurnOutcome} :
    (outcome.result turns).Idle turns ↔ ¬ ∃ after, outcome = .changed after := by
  cases outcome with
  | unchanged => simp [TurnOutcome.result, FoldResult.Idle]
  | failed violation => simp [TurnOutcome.result, FoldResult.Idle]
  | changed after => simp [TurnOutcome.result, FoldResult.Idle]

theorem foldStarted_again {turn : TurnProjection} {correlationId eventId : String} {order : Nat}
    {payload : CanonicalPayload} (hroot : turn.clientRequestId = correlationId)
    (h : turn.Heard eventId payload) :
    (∃ after, foldStarted turn correlationId eventId order payload = .changed after) ↔
      (!turn.state.settled && turn.finalAnswer.all (·.admits payload) &&
        turn.reapplies payload) = true := by
  cases hsettled : turn.state.settled with
  | true =>
      refine iff_of_false ?_ (by simp)
      rintro ⟨after, hfold⟩
      have hopen := (foldStarted_changed hfold).2
      rw [hsettled] at hopen
      cases hopen
  | false =>
      cases hadmits : turn.finalAnswer.any (fun final => !final.admits payload) with
      | true =>
          have hnot : turn.finalAnswer.all (·.admits payload) = false := by
            obtain ⟨final, hfinal, hother⟩ := (Option.any_eq_true _ _).mp hadmits
            simpa [hfinal] using hother
          refine iff_of_false ?_ (by simp [hnot])
          rintro ⟨after, hfold⟩
          simp [foldStarted, hroot, hsettled, hadmits] at hfold
      | false =>
          have hall : turn.finalAnswer.all (·.admits payload) = true := by
            cases hfinal : turn.finalAnswer with
            | none => rfl
            | some final => simpa [hfinal] using hadmits
          have hfold : foldStarted turn correlationId eventId order payload =
              foldTurnEvent turn eventId order payload := by
            simp [foldStarted, hroot, hsettled, hadmits]
          rw [hfold, foldTurnEvent_again h hsettled hadmits, hall]
          simp

theorem foldRunEvent_again {conversationId : String} {data : CanonicalRunEventData}
    (h : Heard turns (.runEvent data)) :
    (foldRunEvent turns conversationId data).Idle turns ↔
      reapplies turns (.runEvent data) = false := by
  obtain ⟨hseq, turn, hget, hroot, htrace⟩ := h
  obtain ⟨order, hseq⟩ := Option.isSome_iff_exists.mp hseq
  have hcondition : reapplies turns (.runEvent data) =
      (!turn.state.settled && turn.finalAnswer.all (·.admits data.payload) &&
        turn.reapplies data.payload) := by
    simp [reapplies, hget]
  rw [hcondition]
  unfold foldRunEvent
  simp only [hseq, hget]
  split
  · next payload hpayload =>
      refine iff_of_true ?_ (by simp [hpayload, TurnProjection.reapplies])
      rw [result_idle_iff]
      rintro ⟨after, hfold⟩
      simp only [foldRunStarted] at hfold
      split at hfold <;> cases hfold
  · rw [result_idle_iff, foldStarted_again hroot htrace, Bool.not_eq_true]

theorem foldHITLRequest_again {data : CanonicalHITLRequestData}
    (h : Heard turns (.hitlRequest data)) : (foldHITLRequest turns data).Idle turns := by
  obtain ⟨turn, interaction, hget, hinteraction, hrequest⟩ := h
  obtain ⟨prior, hprior⟩ := Option.isSome_iff_exists.mp hrequest
  unfold foldHITLRequest
  split
  · exact .inr ⟨_, rfl⟩
  · next other hroot =>
      have hother := (Option.filter_eq_some_iff.mp hroot).1
      rw [hget] at hother
      cases hother
      rw [result_idle_iff]
      rintro ⟨after, hfold⟩
      simp only [foldHITLQuestion, hinteraction, hprior] at hfold
      split at hfold <;> cases hfold

theorem foldHITLResponse_again {data : CanonicalHITLResponseData}
    (h : Heard turns (.hitlResponse data)) : (foldHITLResponse turns data).Idle turns := by
  obtain ⟨turn, interaction, request, hget, hinteraction, hrequest, hanswered⟩ := h
  unfold foldHITLResponse
  split
  · exact .inr ⟨_, rfl⟩
  · next other hroot =>
      have hother := (Option.filter_eq_some_iff.mp hroot).1
      rw [hget] at hother
      cases hother
      rw [result_idle_iff]
      rintro ⟨after, hfold⟩
      obtain ⟨-, hawaits⟩ := foldHITLAnswer_changed hfold
      simp only [TurnProjection.awaitsAnswer, hinteraction, Option.any_some] at hawaits
      obtain ⟨same, hsame, hopen⟩ := (Option.any_eq_true _ _).mp hawaits
      have hfind := (Option.filter_eq_some_iff.mp hsame).1
      rw [hrequest] at hfind
      cases hfind
      exact hanswered (by simpa using hopen)

theorem foldAgentResponse_again {data : AgentResponseData} :
    (foldAgentResponse turns data).Idle turns ↔ reapplies turns (.agentResponse data) = false := by
  unfold foldAgentResponse
  cases hfind : (values turns).find? (·.awaitsFinal data) with
  | none => simp [reapplies, hfind, FoldResult.Idle]
  | some turn =>
      simp only [result_idle_iff, commitFinal, reapplies, hfind, Option.any_some]
      cases turn.finalCommitted with
      | true => by_cases hsame : turn.finalAnswer.any (·.text = data.content.getD "") <;> simp [hsame]
      | false => simp

/-- In every run, from the empty map or from Turns of a snapshot, an accepted event that is
delivered again after any further events is ignored or refused, unless it is one that
reapplies. -/
theorem redelivered_idle_iff {start accepted later : TurnProjectionMap} {changed : Bool}
    (hstart : Listed start) (hreach : Folds start turns) (conversationId : String)
    (event : CanonicalFoldEvent) (hrooted : event.rooted = true)
    (haccepted : foldCanonicalEvent turns conversationId event = .ok accepted changed)
    (hrun : Folds accepted later) :
    (foldCanonicalEvent later conversationId event).Idle later ↔
      reapplies later event = false := by
  have hturns := hreach.listed hstart
  have hlisted : Listed accepted := by
    have hfold := (hturns.fold conversationId hrooted).1
    rwa [haccepted] at hfold
  have hheard := hrun.heard hlisted (heard_of_accepted hturns hrooted haccepted)
  cases event with
  | runEvent data => exact foldRunEvent_again hheard
  | hitlRequest data =>
      refine iff_of_true ?_ rfl
      exact foldHITLRequest_again hheard
  | hitlResponse data =>
      refine iff_of_true ?_ rfl
      exact foldHITLResponse_again hheard
  | agentResponse data => exact foldAgentResponse_again
  | taskSubmitted => cases haccepted
  | taskUpdate => cases haccepted

end Maps

/-! ## An answered questionnaire -/

theorem listed_empty : Listed [] where
  keyed := ⟨fun _ hmem => absurd hmem List.not_mem_nil, List.nodup_nil⟩
  listed := by
    intro key turn hget
    cases hget

def askedTurns : TurnProjectionMap :=
  foldEvents "room-1" [started, question "request-1" 0 1 Nat.one_pos]

theorem askedTurns_reached : Folds [] askedTurns :=
  .fold _ "room-1" (question "request-1" 0 1 (by decide)) rfl (.fold _ "room-1" started rfl .refl)

def resumed : CanonicalFoldEvent :=
  runEvent 5 (.runResumed ⟨"interaction-1", ["request-1"], "2030-01-01T00:00:02Z"⟩)

def waitingTurns : TurnProjectionMap :=
  (foldCanonicalEvent askedTurns "room-1" waiting).turns

def resumedTurns : TurnProjectionMap :=
  (foldCanonicalEvent (foldCanonicalEvent waitingTurns "room-1" (response .responded)).turns
    "room-1" resumed).turns

theorem resumedTurns_run : Folds waitingTurns resumedTurns :=
  .fold _ "room-1" resumed rfl (.fold _ "room-1" (response .responded) rfl .refl)

/-- While the interaction is active, the Turn that waits is not asked to wait again. -/
theorem redelivered_idle_iff_waiting :
    (foldCanonicalEvent (foldCanonicalEvent waitingTurns "room-1" (response .responded)).turns
      "room-1" waiting).Idle
        (foldCanonicalEvent waitingTurns "room-1" (response .responded)).turns :=
  (redelivered_idle_iff listed_empty askedTurns_reached "room-1" waiting rfl rfl
    (.fold _ "room-1" (response .responded) rfl .refl)).mpr (by decide)

/-- After the answer the Turn waits again for what it has. -/
theorem resumed_turn_waits_again :
    ¬ ∀ (turns accepted later : TurnProjectionMap) (conversationId : String)
        (event : CanonicalFoldEvent),
      Folds [] turns → event.rooted = true →
      foldCanonicalEvent turns conversationId event = .ok accepted true →
      Folds accepted later → (∀ turn ∈ values later, turn.state.settled = false) →
      (foldCanonicalEvent later conversationId event).Idle later := by
  intro h
  have hidle := h askedTurns waitingTurns resumedTurns "room-1" waiting askedTurns_reached rfl rfl
    resumedTurns_run (by decide)
  have hchanged : (foldCanonicalEvent resumedTurns "room-1" waiting).turns ≠ resumedTurns := by
    decide
  cases hidle with
  | inl hok =>
      rw [hok] at hchanged
      exact hchanged rfl
  | inr hfailed =>
      obtain ⟨violation, hfailed⟩ := hfailed
      rw [hfailed] at hchanged
      exact hchanged rfl

end Hybro.TurnLifecycle
