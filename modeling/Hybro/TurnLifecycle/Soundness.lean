import Hybro.TurnLifecycle.Questions

/-! # Sound Turns

The rules that a Turn keeps between two events, the closure rules that follow from
them, and the events that break them.
-/

namespace Hybro.TurnLifecycle

open OrderedMap

/-! ## The invariant -/

structure Sound (turn : TurnProjection) : Prop where
  inventory : Inventory turn
  questions : Questions turn
  ended : turn.settlementViolation = none

def TurnProjection.partlyReceived (turn : TurnProjection) : Bool :=
  turn.hitlInteractions.any (·.partlyReceived)

theorem TurnProjection.settlementViolation_of_unsettled {turn : TurnProjection}
    (h : turn.state.settled = false) : turn.settlementViolation = none := by
  unfold settlementViolation
  rw [h]
  cases hstate : turn.state with
  | active => rfl
  | awaitingInput => rfl
  | completed =>
      rw [hstate] at h
      cases h
  | failed =>
      rw [hstate] at h
      cases h
  | canceled =>
      rw [hstate] at h
      cases h

def TurnProjection.EndsClosed (turn : TurnProjection) : Prop :=
  match turn.state with
  | .completed =>
      turn.finalAnswer.any (fun final => turn.finalClosure (some final.messageId)) = true
  | .failed | .canceled => turn.internalTurns.getLast?.all (·.status.broken) = true
  | .active | .awaitingInput => True

theorem TurnProjection.settlementViolation_eq_none {turn : TurnProjection} :
    turn.settlementViolation = none ↔
      (turn.state.settled = true → turn.hasOpenChildren = false) ∧ turn.EndsClosed := by
  unfold settlementViolation EndsClosed
  cases turn.hasOpenChildren with
  | true => cases turn.state <;> simp [TurnLifecycleState.settled]
  | false => cases turn.state <;> simp [TurnLifecycleState.settled]

theorem Inventory.activityViolation {turn : TurnProjection} (h : Inventory turn) :
    turn.activity.findSome? turn.activityViolation = none := by
  apply List.findSome?_eq_none_iff.mpr
  intro item hitem
  obtain ⟨owner, howner, howned⟩ := h.owned item hitem
  unfold TurnProjection.activityViolation
  rw [howner]
  cases item with
  | assistant item =>
      have hmem : item.id ∈ owner.messageIds := howned
      simp [hmem]
  | tool item =>
      have hmem : item.toolCallId ∈ owner.toolCallIds := howned
      simp [hmem]
  | retry item =>
      have hbroken : owner.status.broken = true := howned
      simp [hbroken]
  | decision item => rfl

theorem Inventory.internalViolation {turn : TurnProjection} (h : Inventory turn) :
    turn.internalTurns.findSome? turn.internalViolation = none := by
  apply List.findSome?_eq_none_iff.mpr
  intro internal hmem
  have hfound := TurnProjection.findInternal_of_mem h.distinct hmem
  unfold TurnProjection.internalViolation
  dsimp only
  rw [if_neg (not_not_intro (h.rows _ internal hfound))]
  by_cases hactive : internal.status = .active
  · simp [hactive]
  · have hclosed := h.closed _ internal hfound hactive
    have hnone : (turn.toolRows internal.internalTurnId).any (·.status.isOpen) = false := by
      apply List.any_eq_false.mpr
      intro tool htool
      rw [hclosed tool htool]
      exact Bool.false_ne_true
    simp [hnone]

theorem Inventory.currentViolation {turn : TurnProjection} (h : Inventory turn) :
    turn.currentViolation = none := by
  unfold TurnProjection.currentViolation
  cases hcurrent : turn.currentAssistant with
  | none => rfl
  | some current =>
      obtain ⟨hstreaming, owner, howner, hactive, hmem⟩ := h.current current hcurrent
      simp [hstreaming, howner, hactive, hmem]

theorem Inventory.finalViolation {turn : TurnProjection} (h : Inventory turn) :
    turn.finalViolation = none := by
  unfold TurnProjection.finalViolation
  cases hfinal : turn.finalAnswer with
  | none =>
      cases hcommitted : turn.finalCommitted with
      | false => rfl
      | true =>
          have hsome := h.committed hcommitted
          rw [hfinal] at hsome
          cases hsome
  | some final =>
      obtain ⟨hcompleted, owner, howner, hmem⟩ := h.final final hfinal
      simp [hcompleted, howner, hmem]

theorem truthy_of_named {id : Option String} (h : id.isSome = true)
    (hnamed : ∀ s, id = some s → s ≠ "") : truthy id = true := by
  obtain ⟨s, rfl⟩ := Option.isSome_iff_exists.mp h
  simpa [truthy] using hnamed s rfl

theorem Questions.inputViolation {turn : TurnProjection} (h : Questions turn) :
    turn.inputViolation = none := by
  unfold TurnProjection.inputViolation
  by_cases hstate : turn.state = .awaitingInput
  · have htruthy := truthy_of_named (h.awaiting hstate) fun id hid => (h.active id hid).1
    simp [htruthy]
  · simp [hstate]

theorem Questions.interactionViolation {turn : TurnProjection} (h : Questions turn)
    (hfull : turn.partlyReceived = false) :
    turn.hitlInteractions.findSome? TurnProjection.interactionViolation = none := by
  apply List.findSome?_eq_none_iff.mpr
  intro interaction hmem
  have hconsistent := h.consistent interaction hmem
  have hreceived : interaction.partlyReceived = false := by
    simpa using List.any_eq_false.mp hfull interaction hmem
  unfold TurnProjection.interactionViolation
  rw [if_neg (not_not_intro hconsistent.listed), hconsistent.complete hreceived]
  rfl

theorem Questions.activeViolation {turn : TurnProjection} (h : Questions turn) :
    turn.activeViolation = none := by
  unfold TurnProjection.activeViolation
  cases hactive : turn.activeInteractionId with
  | none => simp [truthy]
  | some id =>
      obtain ⟨-, interaction, hfind, hwaiting⟩ := h.active id hactive
      have hmem : interaction ∈ turn.hitlInteractions := List.mem_of_find?_eq_some hfind
      have hid : interaction.interactionId = id := by simpa using List.find?_some hfind
      have hany : (turn.hitlInteractions.any fun item =>
          some item.interactionId = some id && item.state = .awaitingInput) = true := by
        apply List.any_eq_true.mpr
        exact ⟨interaction, hmem, by simp [hid, hwaiting]⟩
      rw [hany]
      simp

theorem Sound.closure {turn : TurnProjection} (h : Sound turn)
    (hfull : turn.partlyReceived = false) : validateProjectionClosure turn = none := by
  unfold validateProjectionClosure
  rw [if_neg (not_not_intro h.inventory.distinct), h.inventory.activityViolation,
    h.inventory.internalViolation, h.inventory.currentViolation, h.inventory.finalViolation,
    h.questions.inputViolation, h.questions.interactionViolation hfull,
    h.questions.activeViolation, h.ended]
  rfl

/-! ## The events that break the closure -/

/-- A `turn_end` that is taken while the Assistant of its internal Turn is open. -/
def TurnProjection.closesOpenAssistant (turn : TurnProjection) (payload : TurnEndPayload) : Bool :=
  turn.currentAssistant.any (·.internalTurnId = payload.internalTurnId) &&
    turn.toolsClosedAs payload &&
    (turn.findInternal payload.internalTurnId).any (·.messageIds.getLast? = payload.messageId)

/-- After this answer no request is open, and one of them cannot be resumed. -/
def HITLInteractionProjection.endsWith (interaction : HITLInteractionProjection)
    (data : CanonicalHITLResponseData) : Bool :=
  (interaction.requests.all fun request =>
      request.requestId = data.requestId || request.status ≠ .requested) &&
    (data.status ≠ .responded || interaction.requests.any fun request =>
      request.requestId ≠ data.requestId && request.status ≠ .responded)

def TurnProjection.endsActive (turn : TurnProjection) (data : CanonicalHITLResponseData) : Bool :=
  turn.activeInteractionId = some data.interactionId &&
    (turn.findInteraction data.interactionId).any fun interaction =>
      (interaction.answered data).any (·.status = .requested) && interaction.endsWith data

/-- A further request that announces another number of questions. -/
def TurnProjection.contradictsCount (turn : TurnProjection) (data : CanonicalHITLRequestData) :
    Bool :=
  (turn.findInteraction data.interactionId).any fun interaction =>
    (interaction.requests.find? (·.requestId = data.requestId)).isNone &&
      !interaction.requests.any (·.questionIndex = data.questionIndex) &&
      interaction.requests.any (·.questionCount ≠ data.questionCount)

def disturbs (turns : TurnProjectionMap) : CanonicalFoldEvent → Bool
  | .runEvent data =>
      match data.payload with
      | .turnEnd payload => (get turns data.runId).any (·.closesOpenAssistant payload)
      | _ => false
  | .hitlRequest data =>
      (findExactRoot turns data.runId data.clientRequestId data.relatedUserMessageId).any
        (·.contradictsCount data)
  | .hitlResponse data =>
      (findExactRoot turns data.runId data.clientRequestId data.relatedUserMessageId).any
        (·.endsActive data)
  | .agentResponse _ | .taskSubmitted | .taskUpdate => false

end Hybro.TurnLifecycle
