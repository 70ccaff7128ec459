import Hybro.MessageStore.Conflicts

/-! # Copies of one question

The live, snapshot and stored copies of a question arrive at one message in any order. What is
recorded of the question stays through every copy that reports no end of it. A copy that does
report one overwrites field by field, and loses what it contradicts.
-/

namespace Hybro.MessageStore

open OrderedMap

variable {Presentation Artifacts Attachments : Type}

structure QuestionIds where
  request : String
  interaction : String

section Fields

/-- The resolution, the answer, the status or the application shows that the question has been
dealt with. -/
def recordedBy (hitlResolved : Option Bool)
    (hitlUserAnswer hitlInteractionStatus hitlApplicationStatus : Option String) : Bool :=
  hitlResolved = some true || truthy hitlUserAnswer ||
    ["answers_recorded", "applying", "applied", "responded"].contains
      (hitlInteractionStatus.getD "") ||
    ["applying", "applied"].contains (hitlApplicationStatus.getD "")

variable (fields : MessageFields Presentation Artifacts Attachments)

/-- The question is resolved, answered or applied. -/
def MessageFields.recorded : Bool :=
  recordedBy fields.hitlResolved fields.hitlUserAnswer fields.hitlInteractionStatus
    fields.hitlApplicationStatus

def MessageFields.asks (ids : QuestionIds) : Prop :=
  fields.hitlRequestId = some ids.request ∧ fields.hitlInteractionId = some ids.interaction

structure MessageFields.Unasked : Prop where
  request : fields.hitlRequestId = none
  interaction : fields.hitlInteractionId = none
  resolved : fields.hitlResolved = none
  status : fields.hitlInteractionStatus = none
  version : fields.hitlInteractionVersion = none
  application : fields.hitlApplicationStatus = none
  answer : fields.hitlUserAnswer = none

/-- What a question keeps: it is not asked again once it was resolved, answered or applied, its
version does not fall, and its answer stays. -/
structure QuestionKept (before after : MessageFields Presentation Artifacts Attachments) :
    Prop where
  resolved : before.hitlResolved = some true → after.hitlResolved = some true
  recorded : before.recorded = true → after.recorded = true
  version : ∀ v, before.hitlInteractionVersion = some v →
    ∃ w, after.hitlInteractionVersion = some w ∧ v ≤ w
  answer : truthy before.hitlUserAnswer = true → after.hitlUserAnswer = before.hitlUserAnswer

theorem QuestionKept.refl : QuestionKept fields fields where
  resolved := id
  recorded := id
  version := fun v hv => ⟨v, hv, Int.le_refl v⟩
  answer := fun _ => rfl

theorem QuestionKept.trans {first second third : MessageFields Presentation Artifacts Attachments}
    (h : QuestionKept first second) (h' : QuestionKept second third) :
    QuestionKept first third where
  resolved := h'.resolved ∘ h.resolved
  recorded := h'.recorded ∘ h.recorded
  version := by
    intro v hv
    obtain ⟨w, hw, hle⟩ := h.version v hv
    obtain ⟨x, hx, hle'⟩ := h'.version w hw
    exact ⟨x, hx, Int.le_trans hle hle'⟩
  answer := by
    intro hanswer
    have hsame := h.answer hanswer
    rw [h'.answer (by rw [hsame]; exact hanswer), hsame]

theorem MessageFields.Unasked.kept (h : fields.Unasked)
    (after : MessageFields Presentation Artifacts Attachments) : QuestionKept fields after where
  resolved := by simp [h.resolved]
  recorded := by simp [MessageFields.recorded, recordedBy, h.resolved, h.answer, h.status,
    h.application, truthy]
  version := by simp [h.version]
  answer := by simp [h.answer, truthy]

end Fields

section Copies

variable (env : Surroundings Presentation Artifacts Attachments)
  (existing : MessageEntity Presentation Artifacts Attachments)
  (incoming : IncomingMessage Presentation Artifacts Attachments) (source : MessageSource)

/-- The copy reports an end of the question and takes back what is recorded of it: it says that
the question is not resolved, leaves no sign of the answer, or names another answer. -/
def contradicts : Bool :=
  incomingHitlIsTerminal incoming &&
    (existing.hitlResolved = some true && incoming.hitlResolved = some false ||
      existing.recorded &&
        !recordedBy (incoming.hitlResolved <|> existing.hitlResolved)
          (incoming.hitlUserAnswer <|> existing.hitlUserAnswer)
          (incoming.hitlInteractionStatus <|> existing.hitlInteractionStatus)
          (incoming.hitlApplicationStatus <|> existing.hitlApplicationStatus) ||
      truthy existing.hitlUserAnswer && incoming.hitlUserAnswer.isSome &&
        incoming.hitlUserAnswer ≠ existing.hitlUserAnswer)

/-- The copy is taken, is not stale, and contradicts what is recorded. -/
def losesQuestion : Bool :=
  !rejected env existing incoming source && !isStaleHitl env existing incoming &&
    contradicts existing incoming

variable {env existing incoming source} {ids : QuestionIds}

theorem same_round (h : existing.asks ids) (hcopy : incoming.asks ids) :
    isDifferentHitlRound existing incoming = false := by
  simp [isDifferentHitlRound, differ, h.1, h.2, hcopy.1, hcopy.2]

theorem no_followUp (h : existing.asks ids) (hcopy : incoming.asks ids) :
    isNewHitlFollowUp env existing incoming = false := by
  simp [isNewHitlFollowUp, same_round h hcopy]

theorem no_finalization (hcopy : incoming.asks ids) :
    finalizesExistingHitl existing incoming = false := by
  simp [finalizesExistingHitl, hcopy.1]

variable (env) in
/-- The four fields of a copy of the stored question are those of `hitlField`. -/
theorem mergeFields_question (h : existing.asks ids) (hcopy : incoming.asks ids) :
    (mergeFields env existing incoming).hitlResolved =
        hitlField env existing incoming incoming.hitlResolved existing.hitlResolved ∧
      (mergeFields env existing incoming).hitlInteractionStatus =
        hitlField env existing incoming incoming.hitlInteractionStatus
          existing.hitlInteractionStatus ∧
      (mergeFields env existing incoming).hitlApplicationStatus =
        hitlField env existing incoming incoming.hitlApplicationStatus
          existing.hitlApplicationStatus ∧
      (mergeFields env existing incoming).hitlUserAnswer =
        hitlField env existing incoming incoming.hitlUserAnswer existing.hitlUserAnswer := by
  have hround : isNewHitlFollowUp env existing incoming = false := no_followUp h hcopy
  have hfinal : finalizesExistingHitl existing incoming = false := no_finalization hcopy
  refine ⟨?_, ?_, ?_, ?_⟩
  · simp [mergeFields, hround, hfinal]
  · cases hstatus : incoming.hitlInteractionStatus <;>
      simp [mergeFields, hitlField, hround, hfinal, hstatus]
  · cases hstatus : incoming.hitlApplicationStatus <;>
      simp [mergeFields, hitlField, hround, hfinal, hstatus]
  · simp [mergeFields, hround]

theorem same_identity (h : existing.asks ids) (hcopy : incoming.asks ids) :
    sameHitlIdentity existing incoming = true := by
  simp [sameHitlIdentity, h.1, h.2, hcopy.1, hcopy.2]

theorem nonRegressible_iff (h : existing.asks ids) (hcopy : incoming.asks ids) :
    existingHitlIsNonRegressible existing incoming = true ↔
      incomingHitlIsTerminal incoming = false ∧ existing.recorded = true := by
  have hsame := same_identity h hcopy
  unfold existingHitlIsNonRegressible
  rw [hsame, Bool.true_and, Bool.and_eq_true, Bool.not_eq_true']
  rfl

theorem hitlField_of_not_accepts {α : Type} {value stored : Option α}
    (h : acceptsHitlUpdate env existing incoming = false) :
    hitlField env existing incoming value stored = stored := by
  simp [hitlField, h]

theorem hitlField_of_accepts {α : Type} {value stored : Option α}
    (h : acceptsHitlUpdate env existing incoming = true) :
    hitlField env existing incoming value stored = (value <|> stored) := by
  simp [hitlField, h]

theorem kept_of_not_accepts (h : existing.asks ids) (hcopy : incoming.asks ids)
    (hnot : acceptsHitlUpdate env existing incoming = false) :
    QuestionKept existing.toMessageFields (mergeFields env existing incoming) := by
  obtain ⟨hresolved, hstatus, happlication, hanswer⟩ := mergeFields_question env h hcopy
  rw [hitlField_of_not_accepts hnot] at hresolved hstatus happlication hanswer
  have hversion : (mergeFields env existing incoming).hitlInteractionVersion =
      existing.hitlInteractionVersion := hitlField_of_not_accepts hnot
  constructor
  · intro hbefore
    rw [hresolved, hbefore]
  · intro hbefore
    rw [MessageFields.recorded, hresolved, hstatus, happlication, hanswer]
    exact hbefore
  · intro v hv
    exact ⟨v, by rw [hversion, hv], Int.le_refl v⟩
  · intro _
    exact hanswer

theorem version_kept (h : existing.asks ids) (hcopy : incoming.asks ids)
    (haccepts : acceptsHitlUpdate env existing incoming = true) {v : Int}
    (hv : existing.hitlInteractionVersion = some v) :
    ∃ w, (mergeFields env existing incoming).hitlInteractionVersion = some w ∧ v ≤ w := by
  have hmerged : (mergeFields env existing incoming).hitlInteractionVersion =
      (incoming.hitlInteractionVersion <|> existing.hitlInteractionVersion) :=
    hitlField_of_accepts haccepts
  cases hgiven : incoming.hitlInteractionVersion with
  | none =>
      rw [hmerged, hgiven, hv]
      exact ⟨v, rfl, Int.le_refl v⟩
  | some w =>
      rw [hmerged, hgiven]
      refine ⟨w, rfl, ?_⟩
      by_contra hbelow
      have hlt : w < v := by omega
      have hstale : isStaleHitl env existing incoming = true := by
        simp [isStaleHitl, isStaleHitlVersion, versionBelow, h.2, hcopy.2, hgiven, hv, hlt]
      simp [acceptsHitlUpdate, hstale] at haccepts

theorem accepts_of_terminal (hstale : isStaleHitl env existing incoming = false)
    (hterminal : incomingHitlIsTerminal incoming = true) :
    acceptsHitlUpdate env existing incoming = true := by
  simp [acceptsHitlUpdate, existingHitlIsNonRegressible, hstale, hterminal]

theorem kept_of_terminal_iff (h : existing.asks ids) (hcopy : incoming.asks ids)
    (hstale : isStaleHitl env existing incoming = false)
    (hterminal : incomingHitlIsTerminal incoming = true) :
    QuestionKept existing.toMessageFields (mergeFields env existing incoming) ↔
      contradicts existing incoming = false := by
  have haccepts := accepts_of_terminal hstale hterminal
  obtain ⟨hresolved, hstatus, happlication, hanswer⟩ := mergeFields_question env h hcopy
  rw [hitlField_of_accepts haccepts] at hresolved hstatus happlication hanswer
  have hrecorded : (mergeFields env existing incoming).recorded =
      recordedBy (incoming.hitlResolved <|> existing.hitlResolved)
        (incoming.hitlUserAnswer <|> existing.hitlUserAnswer)
        (incoming.hitlInteractionStatus <|> existing.hitlInteractionStatus)
        (incoming.hitlApplicationStatus <|> existing.hitlApplicationStatus) := by
    rw [MessageFields.recorded, hresolved, hstatus, happlication, hanswer]
  simp only [contradicts, hterminal, Bool.true_and, Bool.or_eq_false_iff]
  constructor
  · intro hkept
    refine ⟨⟨?_, ?_⟩, ?_⟩
    · by_contra hboth
      simp only [Bool.and_eq_false_iff, decide_eq_false_iff_not, not_or, not_not] at hboth
      have hstays := hkept.resolved hboth.1
      rw [hresolved, hboth.2] at hstays
      cases hstays
    · cases hbefore : existing.recorded with
      | false => rfl
      | true =>
          rw [← hrecorded, hkept.recorded hbefore]
          rfl
    · by_contra hboth
      simp only [Bool.and_eq_false_iff, decide_eq_false_iff_not, not_or, not_not,
        Bool.not_eq_false] at hboth
      obtain ⟨⟨htruthy, hgiven⟩, hother⟩ := hboth
      have hstays := hkept.answer htruthy
      obtain ⟨text, htext⟩ := Option.isSome_iff_exists.mp hgiven
      rw [hanswer, htext] at hstays
      exact hother (by rw [htext]; exact hstays)
  · rintro ⟨⟨hopen, hevidence⟩, hother⟩
    constructor
    · intro hbefore
      rw [hresolved]
      cases hgiven : incoming.hitlResolved with
      | none => simpa using hbefore
      | some resolved =>
          cases resolved with
          | true => rfl
          | false => simp [hbefore, hgiven] at hopen
    · intro hbefore
      rw [hrecorded]
      simpa [hbefore] using hevidence
    · intro v hv
      exact version_kept h hcopy haccepts hv
    · intro hbefore
      rw [hanswer]
      cases hgiven : incoming.hitlUserAnswer with
      | none => rfl
      | some text => simpa [hbefore, hgiven] using hother

theorem kept_of_open (h : existing.asks ids) (hcopy : incoming.asks ids)
    (hopen : incomingHitlIsTerminal incoming = false) :
    QuestionKept existing.toMessageFields (mergeFields env existing incoming) := by
  cases haccepts : acceptsHitlUpdate env existing incoming with
  | false => exact kept_of_not_accepts h hcopy haccepts
  | true =>
      have hunrecorded : existing.recorded = false := by
        by_contra hbefore
        have hkeeps := (nonRegressible_iff h hcopy).mpr ⟨hopen, by simpa using hbefore⟩
        simp [acceptsHitlUpdate, hkeeps] at haccepts
      have hnothing := hunrecorded
      simp only [MessageFields.recorded, recordedBy, Bool.or_eq_false_iff] at hnothing
      constructor
      · intro hbefore
        simp [hbefore] at hnothing
      · intro hbefore
        rw [hunrecorded] at hbefore
        cases hbefore
      · intro v hv
        exact version_kept h hcopy haccepts hv
      · intro hbefore
        simp [hbefore] at hnothing

theorem merge_kept_iff (h : existing.asks ids) (hcopy : incoming.asks ids) :
    QuestionKept existing.toMessageFields (mergeFields env existing incoming) ↔
      (isStaleHitl env existing incoming || !contradicts existing incoming) = true := by
  cases hstale : isStaleHitl env existing incoming with
  | true =>
      have hnot : acceptsHitlUpdate env existing incoming = false := by
        simp [acceptsHitlUpdate, hstale]
      simp [kept_of_not_accepts h hcopy hnot]
  | false =>
      cases hterminal : incomingHitlIsTerminal incoming with
      | true =>
          rw [kept_of_terminal_iff h hcopy hstale hterminal]
          simp
      | false => simp [kept_of_open h hcopy hterminal, contradicts, hterminal]

theorem updated_kept_iff (h : existing.asks ids) (hcopy : incoming.asks ids) (now : Int) :
    QuestionKept existing.toMessageFields
        (updated env existing incoming source now).toMessageFields ↔
      losesQuestion env existing incoming source = false := by
  cases hrejected : rejected env existing incoming source with
  | true =>
      rw [updated_of_rejected hrejected]
      simp [losesQuestion, hrejected, QuestionKept.refl]
  | false =>
      rw [updated_of_taken hrejected]
      refine (merge_kept_iff h hcopy).trans ?_
      simp only [losesQuestion, hrejected]
      cases isStaleHitl env existing incoming <;> simp

end Copies

/-! ## Runs of copies -/

section Runs

variable (env : Surroundings Presentation Artifacts Attachments) (ids : QuestionIds) (id : String)

def MessageFields.Concerns (fields : MessageFields Presentation Artifacts Attachments) : Prop :=
  fields.Unasked ∨ fields.asks ids

/-- The entities that copies of the question lead to. -/
inductive Asked : Entities Presentation Artifacts Attachments → Prop
  | start (entities : Entities Presentation Artifacts Attachments)
      (h : ∀ existing, get entities id = some existing → existing.Concerns ids) : Asked entities
  | call (entities : Entities Presentation Artifacts Attachments)
      (call : Upsert Presentation Artifacts Attachments) (h : Asked entities)
      (hid : call.incoming.id = id) (hcopy : call.incoming.asks ids) :
      Asked (applied env entities call)

inductive Continues (entities : Entities Presentation Artifacts Attachments) :
    Entities Presentation Artifacts Attachments → Prop
  | refl : Continues entities entities
  | call (after : Entities Presentation Artifacts Attachments)
      (call : Upsert Presentation Artifacts Attachments) (h : Continues entities after)
      (hid : call.incoming.id = id) (hcopy : call.incoming.asks ids)
      (hkeeps : ∀ existing, get after id = some existing →
        losesQuestion env existing call.incoming call.source = false) :
      Continues entities (applied env after call)

variable {env ids id}

theorem merge_concerns {existing : MessageEntity Presentation Artifacts Attachments}
    {incoming : IncomingMessage Presentation Artifacts Attachments}
    (h : existing.Concerns ids) (hcopy : incoming.asks ids) :
    (mergeFields env existing incoming).Concerns ids := by
  have hrequest : (mergeFields env existing incoming).hitlRequestId =
      hitlField env existing incoming incoming.hitlRequestId existing.hitlRequestId := rfl
  have hinteraction : (mergeFields env existing incoming).hitlInteractionId =
      hitlField env existing incoming incoming.hitlInteractionId existing.hitlInteractionId := rfl
  cases haccepts : acceptsHitlUpdate env existing incoming with
  | true =>
      right
      rw [hitlField_of_accepts haccepts, hcopy.1] at hrequest
      rw [hitlField_of_accepts haccepts, hcopy.2] at hinteraction
      exact ⟨hrequest, hinteraction⟩
  | false =>
      rw [hitlField_of_not_accepts haccepts] at hrequest hinteraction
      cases h with
      | inr hasks => exact .inr ⟨hrequest.trans hasks.1, hinteraction.trans hasks.2⟩
      | inl hunasked =>
          left
          have hround : isNewHitlFollowUp env existing incoming = false := by
            simp [isNewHitlFollowUp, isDifferentHitlRound, differ, hunasked.request,
              hunasked.interaction]
          have hfinal : finalizesExistingHitl existing incoming = false := no_finalization hcopy
          constructor
          · exact hrequest.trans hunasked.request
          · exact hinteraction.trans hunasked.interaction
          · simp [mergeFields, hround, hfinal, hitlField, haccepts, hunasked.resolved]
          · simp [mergeFields, hround, hfinal, haccepts, hunasked.status]
          · simp [mergeFields, hitlField, haccepts, hunasked.version]
          · simp [mergeFields, hround, hfinal, haccepts, hunasked.application]
          · simp [mergeFields, hround, hitlField, haccepts, hunasked.answer]

theorem updated_concerns {existing : MessageEntity Presentation Artifacts Attachments}
    {call : Upsert Presentation Artifacts Attachments}
    (h : existing.Concerns ids) (hcopy : call.incoming.asks ids) :
    (updated env existing call.incoming call.source call.now).Concerns ids := by
  unfold updated
  split
  · exact h
  · exact merge_concerns h hcopy

theorem Asked.concerns {entities : Entities Presentation Artifacts Attachments}
    (h : Asked env ids id entities) :
    ∀ existing, get entities id = some existing → existing.Concerns ids := by
  induction h with
  | start entities h => exact h
  | call entities call h hid hcopy ih =>
      subst hid
      intro after hafter
      cases hexisting : get entities call.incoming.id with
      | none =>
          rw [applied_new hexisting] at hafter
          cases hafter
          exact .inr hcopy
      | some existing =>
          rw [applied_existing hexisting] at hafter
          cases hafter
          exact updated_concerns (ih existing hexisting) hcopy

theorem step_kept {existing : MessageEntity Presentation Artifacts Attachments}
    {call : Upsert Presentation Artifacts Attachments}
    (h : existing.Concerns ids) (hcopy : call.incoming.asks ids)
    (hkeeps : losesQuestion env existing call.incoming call.source = false) :
    QuestionKept existing.toMessageFields
      (updated env existing call.incoming call.source call.now).toMessageFields := by
  cases h with
  | inl hunasked => exact hunasked.kept _ _
  | inr hasks => exact (updated_kept_iff hasks hcopy call.now).mpr hkeeps

/-- Between any two states of a run, with only copies in between that lose nothing, the question
keeps its resolution, its answer and the order of its versions. -/
theorem question_kept {entities after : Entities Presentation Artifacts Attachments}
    {before : MessageEntity Presentation Artifacts Attachments}
    (h : Asked env ids id entities) (hbefore : get entities id = some before)
    (hrun : Continues env ids id entities after) :
    ∃ later, get after id = some later ∧
      QuestionKept before.toMessageFields later.toMessageFields := by
  have hrun' : Asked env ids id after ∧ ∃ later, get after id = some later ∧
      QuestionKept before.toMessageFields later.toMessageFields := by
    induction hrun with
    | refl => exact ⟨h, before, hbefore, .refl _⟩
    | call after call hrun hid hcopy hkeeps ih =>
        obtain ⟨hasked, later, hlater, hkept⟩ := ih
        refine ⟨.call after call hasked hid hcopy, ?_⟩
        subst hid
        have hstep : QuestionKept later.toMessageFields
            (updated env later call.incoming call.source call.now).toMessageFields :=
          step_kept (hasked.concerns later hlater) hcopy (hkeeps later hlater)
        exact ⟨_, applied_existing hlater, hkept.trans hstep⟩
  exact hrun'.2

end Runs

/-! ## A question with an answer -/

def sampleCopy (hitlResolved : Bool) (hitlInteractionStatus hitlUserAnswer : String)
    (hitlInteractionVersion : Int) : Upsert Unit Unit Unit where
  incoming :=
    { id := "message-1"
      conversationId := "room-1"
      messageType := .agent
      content := "Which city?"
      senderName := "Weather Agent"
      timestamp := "2026-08-30T10:15:00Z"
      hitlRequestId := some "request-1"
      hitlInteractionId := some "interaction-1"
      hitlResolved := some hitlResolved
      hitlInteractionStatus := some hitlInteractionStatus
      hitlInteractionVersion := some hitlInteractionVersion
      hitlUserAnswer := some hitlUserAnswer }
  source := .sse
  now := 1788084900000

def sampleIds : QuestionIds := ⟨"request-1", "interaction-1"⟩

def answeredEntities : Entities Unit Unit Unit :=
  applied sampleSurroundings [] (sampleCopy true "applied" "Paris" 3)

theorem answeredEntities_asked :
    Asked sampleSurroundings sampleIds "message-1" answeredEntities :=
  .call [] _ (.start [] (by simp [OrderedMap.get])) rfl ⟨rfl, rfl⟩

/-- A late copy of the open question leaves the answer. -/
theorem question_kept_late :
    ∃ later, get (applied sampleSurroundings answeredEntities (sampleCopy false "open" "" 4))
        "message-1" = some later ∧
      QuestionKept (firstEntity sampleSurroundings (sampleCopy true "applied" "Paris" 3).incoming
        .sse 1788084900000).toMessageFields later.toMessageFields :=
  question_kept answeredEntities_asked rfl
    (.call _ _ .refl rfl ⟨rfl, rfl⟩ (by
      intro existing hexisting
      cases hexisting
      decide))

/-- A snapshot of the resolved question, which has no answer in it, erases the stored one. -/
theorem snapshot_loses_answer :
    ¬ ∀ (env : Surroundings Unit Unit Unit) (ids : QuestionIds) (entities : Entities Unit Unit Unit)
        (call : Upsert Unit Unit Unit) (before : MessageEntity Unit Unit Unit),
      Asked env ids call.incoming.id entities → call.incoming.asks ids →
      get entities call.incoming.id = some before →
      QuestionKept before.toMessageFields
        (updated env before call.incoming call.source call.now).toMessageFields := by
  intro h
  have hkept := h sampleSurroundings sampleIds answeredEntities (sampleCopy true "responded" "" 3) _
    answeredEntities_asked ⟨rfl, rfl⟩ rfl
  exact absurd (hkept.answer (by decide)) (by decide)

end Hybro.MessageStore
