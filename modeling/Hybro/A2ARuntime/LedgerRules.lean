import Hybro.A2ARuntime.Ledger

/-! # The ledger keeps its records valid

Every way an observation or a transition can change a record, and what every
run of such changes preserves.
-/

namespace Hybro.A2ARuntime

open Orchestrator PythonList

variable {resultDigest : ToolResult → String}
  {record next : AgentCallLedgerRecord} {observation : NormalizedA2AObservation}

/-! ## What one observation can do -/

/-- The call is live, the observation is new to it and its aliases can be bound. -/
structure Noted (record : AgentCallLedgerRecord) (observation : NormalizedA2AObservation)
    (aliases : List A2AOwnershipAlias) : Prop where
  live : record.state.isTerminal = false
  fresh : observation.observationId ∉ record.recentObservationIds
  bound : bindAuthoritativeAliases record observation.taskId observation.contextId = .ok aliases

def progressUpdates (record : AgentCallLedgerRecord) (observation : NormalizedA2AObservation)
    (common : CallUpdates) : CallUpdates :=
  { common with artifactRefs := some (mergedRefs record observation) }

/-- How an applied observation left the record, by the branch that took it. -/
inductive Applied (resultDigest : ToolResult → String) (record : AgentCallLedgerRecord)
    (observation : NormalizedA2AObservation) (recentLimit : Nat) : AgentCallLedgerRecord → Prop
  | ignored : Applied resultDigest record observation recentLimit record
  | asked {aliases next} (hnoted : Noted record observation aliases)
      (hkind : observation.eventKind.isInteraction = true)
      (hmove : transitionCall record .continuationPending observation.observedAt
        (interactionUpdates (commonUpdates record observation aliases recentLimit)) = .ok next) :
      Applied resultDigest record observation recentLimit next
  | started {aliases next} (hnoted : Noted record observation aliases)
      (hkind : observation.eventKind.isProgress = true)
      (hmove : transitionCall record .working observation.observedAt
        (progressUpdates record observation
          (commonUpdates record observation aliases recentLimit)) = .ok next) :
      Applied resultDigest record observation recentLimit next
  | progressed {aliases} (hnoted : Noted record observation aliases)
      (hcancel : record.state ≠ .cancelPending)
      (hkind : observation.eventKind.isProgress = true) :
      Applied resultDigest record observation recentLimit
        { (progressUpdates record observation
            (commonUpdates record observation aliases recentLimit)).overlay record with
          stateVersion := record.stateVersion + 1
          updatedAt := observation.observedAt }
  | ended {aliases next status} (hnoted : Noted record observation aliases)
      (hkind : observation.eventKind = .terminal) (hstatus : observation.status = some status)
      (hmove : transitionCall record (callStateOf status) observation.observedAt
        (terminalUpdates resultDigest record observation status
          (commonUpdates record observation aliases recentLimit)) = .ok next) :
      Applied resultDigest record observation recentLimit next

theorem ObservationKind.eq_terminal {kind : ObservationKind} (hasks : kind.isInteraction = false)
    (hprogress : kind.isProgress = false) : kind = .terminal := by
  cases kind <;> simp_all [ObservationKind.isInteraction, ObservationKind.isProgress]

theorem observeTerminal_ok (h : observeTerminal resultDigest record observation = .ok next) :
    next = record := by
  unfold observeTerminal at h
  split at h
  · exact (Except.ok.inj h).symm
  · split at h
    · cases h
    · dsimp only at h
      split at h
      · exact (Except.ok.inj h).symm
      · cases h

theorem observeOpen_applied {recentLimit : Nat} (hlive : record.state.isTerminal = false)
    (hfresh : observation.observationId ∉ record.recentObservationIds)
    (hcancel : observation.eventKind.isProgress = true → record.state ≠ .cancelPending)
    (h : observeOpen resultDigest record observation recentLimit = .ok next) :
    Applied resultDigest record observation recentLimit next := by
  unfold observeOpen at h
  cases haliases : bindAuthoritativeAliases record observation.taskId observation.contextId with
  | error error =>
      rw [haliases] at h
      cases h
  | ok aliases =>
      rw [haliases] at h
      have hnoted : Noted record observation aliases := ⟨hlive, hfresh, haliases⟩
      simp only [bind, Except.bind] at h
      cases hasks : observation.eventKind.isInteraction with
      | true =>
          rw [hasks, if_pos rfl] at h
          exact .asked hnoted hasks h
      | false =>
          rw [hasks, if_neg Bool.false_ne_true] at h
          cases hprogress : observation.eventKind.isProgress with
          | true =>
              rw [hprogress, if_pos rfl] at h
              split at h
              · exact .started hnoted hprogress h
              · rw [← Except.ok.inj h]
                exact .progressed hnoted (hcancel hprogress) hprogress
          | false =>
              rw [hprogress, if_neg Bool.false_ne_true] at h
              cases hstatus : observation.status with
              | none =>
                  rw [hstatus] at h
                  cases h
              | some status =>
                  rw [hstatus] at h
                  exact .ended hnoted (ObservationKind.eq_terminal hasks hprogress) hstatus h

theorem applyObservation_applied {recentLimit : Nat}
    (h : applyObservation resultDigest record observation recentLimit = .ok next) :
    Applied resultDigest record observation recentLimit next := by
  unfold applyObservation at h
  split at h
  · rw [← Except.ok.inj h]
    exact .ignored
  · rename_i hfresh
    cases hterminal : record.state.isTerminal with
    | true =>
        rw [hterminal, if_pos rfl] at h
        rw [observeTerminal_ok h]
        exact .ignored
    | false =>
        rw [hterminal, if_neg Bool.false_ne_true] at h
        split at h
        · rw [← Except.ok.inj h]
          exact .ignored
        · rename_i hcancel
          split at h
          · rw [← Except.ok.inj h]
            exact .ignored
          · have hkept : observation.eventKind.isProgress = true →
                record.state ≠ .cancelPending := by
              intro hprogress hpending
              apply hcancel
              constructor
              · exact hpending
              · rintro ⟨hkind, -⟩
                rw [hkind] at hprogress
                cases hprogress
            exact observeOpen_applied hterminal hfresh hkept h

/-! ## Coherent updates -/

/-- The updates respect the correlations of the record and close it when they end it. -/
structure CallUpdates.Coherent (resultDigest : ToolResult → String) (updates : CallUpdates)
    (record : AgentCallLedgerRecord) (toState : AgentCallState) : Prop where
  correlated : (updates.overlay record).Correlated resultDigest
  closes : toState.isTerminal = true → (updates.overlay record).terminalResult.isSome
  stamped : toState.isTerminal = true → updates.terminalAt ≠ some none
  keepsRefs : ∀ ref ∈ record.artifactRefs, ref ∈ (updates.overlay record).artifactRefs
  repeatsNoRef : record.artifactRefs.Nodup → (updates.overlay record).artifactRefs.Nodup

section Overlay

variable {updates : CallUpdates} {toState : AgentCallState} {updatedAt : Timestamp}

theorem correlated_moved (h : (updates.overlay record).Correlated resultDigest) :
    AgentCallLedgerRecord.Correlated resultDigest
      { (updates.closing toState updatedAt).overlay record with
        state := toState
        stateVersion := record.stateVersion + 1
        updatedAt := updatedAt } := by
  unfold CallUpdates.closing
  split
  · exact ⟨h.recentUnique, h.recentBounded, h.revisionPositive, h.epochPositive, h.aliasKeys,
      h.aliasScope, h.result, h.snapshot, h.authReferences, h.answer, h.continuation,
      h.cancellation⟩
  · exact ⟨h.recentUnique, h.recentBounded, h.revisionPositive, h.epochPositive, h.aliasKeys,
      h.aliasScope, h.result, h.snapshot, h.authReferences, h.answer, h.continuation,
      h.cancellation⟩

@[simp] theorem closing_artifactRefs :
    (updates.closing toState updatedAt).artifactRefs = updates.artifactRefs := by
  unfold CallUpdates.closing
  split <;> rfl

@[simp] theorem closing_terminalResult :
    (updates.closing toState updatedAt).terminalResult = updates.terminalResult := by
  unfold CallUpdates.closing
  split <;> rfl

theorem closing_terminalAt_terminal (hterminal : toState.isTerminal = true)
    (hstamped : updates.terminalAt ≠ some none) :
    ((updates.closing toState updatedAt).overlay record).terminalAt.isSome := by
  simp only [CallUpdates.closing, hterminal, if_true, CallUpdates.overlay, Option.getD_some]
  cases hat : updates.terminalAt with
  | none => rfl
  | some given =>
      cases given with
      | none => exact absurd hat hstamped
      | some time => rfl

theorem closing_terminalAt_live (hlive : toState.isTerminal = false) :
    ((updates.closing toState updatedAt).overlay record).terminalAt = none := by
  simp [CallUpdates.closing, hlive, CallUpdates.overlay]

theorem transitionCall_valid (hcoherent : updates.Coherent resultDigest record toState)
    (h : transitionCall record toState updatedAt updates = .ok next) :
    next.Valid resultDigest := by
  obtain ⟨-, rfl⟩ := transitionCall_eq_ok.mp h
  rw [AgentCallLedgerRecord.valid_iff]
  constructor
  · exact correlated_moved hcoherent.correlated
  · rw [requireCallClosure_eq_ok]
    constructor
    · intro hterminal
      constructor
      · exact closing_terminalAt_terminal hterminal (hcoherent.stamped hterminal)
      · have hresult := hcoherent.closes hterminal
        simpa [CallUpdates.overlay] using hresult
    · intro hlive
      exact closing_terminalAt_live hlive

theorem transitionCall_state (h : transitionCall record toState updatedAt updates = .ok next) :
    next.state = toState := by
  obtain ⟨-, rfl⟩ := transitionCall_eq_ok.mp h
  rfl

theorem transitionCall_names (h : transitionCall record toState updatedAt updates = .ok next) :
    next.invocationId = record.invocationId ∧ next.toolName = record.toolName := by
  obtain ⟨-, rfl⟩ := transitionCall_eq_ok.mp h
  exact ⟨rfl, rfl⟩

theorem transitionCall_terminalResultDigest
    (h : transitionCall record toState updatedAt updates = .ok next) :
    next.terminalResultDigest = (updates.overlay record).terminalResultDigest := by
  obtain ⟨-, rfl⟩ := transitionCall_eq_ok.mp h
  unfold CallUpdates.closing
  split <;> rfl

theorem transitionCall_terminalResult
    (h : transitionCall record toState updatedAt updates = .ok next) :
    next.terminalResult = (updates.overlay record).terminalResult := by
  obtain ⟨-, rfl⟩ := transitionCall_eq_ok.mp h
  simp [CallUpdates.overlay]

theorem transitionCall_artifactRefs (h : transitionCall record toState updatedAt updates = .ok next) :
    next.artifactRefs = (updates.overlay record).artifactRefs := by
  obtain ⟨-, rfl⟩ := transitionCall_eq_ok.mp h
  simp [CallUpdates.overlay]

end Overlay

/-! ## The updates of an observation are coherent -/

section Noted

variable {aliases : List A2AOwnershipAlias} (recentLimit : RecentIdLimit)

theorem Noted.recentUnique (h : Noted record observation aliases)
    (hrecord : record.Correlated resultDigest) (limit : Nat) :
    (lastItems limit (record.recentObservationIds ++ [observation.observationId])).Nodup := by
  apply List.Nodup.sublist (lastItems_sublist _ _)
  rw [List.nodup_append]
  refine ⟨hrecord.recentUnique, List.nodup_singleton _, ?_⟩
  intro id hid other hother heq
  rw [List.mem_singleton.mp hother] at heq
  exact h.fresh (heq ▸ hid)

theorem commonUpdates_correlated (h : Noted record observation aliases)
    (hrecord : record.Correlated resultDigest) :
    ((commonUpdates record observation aliases recentLimit).overlay record).Correlated
      resultDigest where
  recentUnique := h.recentUnique hrecord _
  recentBounded := by
    have hlast := length_lastItems_le recentLimit.property.1
      (record.recentObservationIds ++ [observation.observationId])
    exact hlast.trans recentLimit.property.2
  revisionPositive := hrecord.revisionPositive
  epochPositive := hrecord.epochPositive
  aliasKeys := sortedKeys_sortedKeys _
  aliasScope := by
    have hscope := bindAuthoritativeAliases_scope h.bound hrecord.aliasScope
    exact hscope
  result := hrecord.result
  snapshot := hrecord.snapshot
  authReferences := hrecord.authReferences
  answer := hrecord.answer
  continuation := hrecord.continuation
  cancellation := hrecord.cancellation

theorem interactionUpdates_coherent (h : Noted record observation aliases)
    (hrecord : record.Correlated resultDigest) :
    (interactionUpdates (commonUpdates record observation aliases recentLimit)).Coherent
      resultDigest record .continuationPending where
  correlated := by
    have hcommon := commonUpdates_correlated recentLimit h hrecord
    exact
      { hcommon with
        revisionPositive := fun _ hrevision => nomatch hrevision
        answer := rfl
        continuation := rfl }
  closes := fun hterminal => nomatch hterminal
  stamped := fun hterminal => nomatch hterminal
  keepsRefs := fun _ hmem => hmem
  repeatsNoRef := id

theorem nodup_mergedRefs : (mergedRefs record observation).Nodup :=
  nodup_fromKeys _

theorem subset_mergedRefs {ref : String} (h : ref ∈ record.artifactRefs) :
    ref ∈ mergedRefs record observation := by
  rw [mergedRefs, mem_fromKeys]
  exact List.mem_append_left _ h

theorem progressUpdates_coherent {toState : AgentCallState} (h : Noted record observation aliases)
    (hrecord : record.Correlated resultDigest) (hlive : toState.isTerminal = false) :
    (progressUpdates record observation
      (commonUpdates record observation aliases recentLimit)).Coherent
      resultDigest record toState where
  correlated := { commonUpdates_correlated recentLimit h hrecord with }
  closes := fun hterminal => by simp [hlive] at hterminal
  stamped := fun hterminal => by simp [hlive] at hterminal
  keepsRefs := fun _ hmem => subset_mergedRefs hmem
  repeatsNoRef := fun _ => nodup_mergedRefs

theorem requireResult_observationResult (status : ToolResultStatus) :
    requireResult resultDigest
      ((terminalUpdates resultDigest record observation status
        (commonUpdates record observation aliases recentLimit)).overlay record) = .ok () := by
  unfold requireResult
  change (require _ _ >>= fun _ => require _ _ >>= fun _ => require _ _) = _
  simp only [check_bind_eq_ok, require_eq_ok]
  exact ⟨rfl, rfl, rfl⟩

theorem terminalUpdates_coherent {status : ToolResultStatus} (toState : AgentCallState)
    (h : Noted record observation aliases) (hrecord : record.Correlated resultDigest) :
    (terminalUpdates resultDigest record observation status
      (commonUpdates record observation aliases recentLimit)).Coherent
      resultDigest record toState where
  correlated :=
    { commonUpdates_correlated recentLimit h hrecord with
      result := requireResult_observationResult recentLimit status }
  closes := fun _ => rfl
  stamped := fun _ hnone => by cases hnone
  keepsRefs := fun _ hmem => subset_mergedRefs hmem
  repeatsNoRef := fun _ => nodup_mergedRefs

theorem Applied.valid (happlied : Applied resultDigest record observation recentLimit next)
    (hrecord : record.Valid resultDigest) : next.Valid resultDigest := by
  obtain ⟨hcorrelated, hclosure⟩ := AgentCallLedgerRecord.valid_iff.mp hrecord
  cases happlied with
  | ignored => exact hrecord
  | asked hnoted hkind hmove =>
      exact transitionCall_valid (interactionUpdates_coherent recentLimit hnoted hcorrelated) hmove
  | started hnoted hkind hmove =>
      exact transitionCall_valid (progressUpdates_coherent recentLimit hnoted hcorrelated rfl) hmove
  | progressed hnoted hcancel hkind =>
      have hcoherent := progressUpdates_coherent recentLimit hnoted hcorrelated hnoted.live
      have hfields := hcoherent.correlated
      rw [AgentCallLedgerRecord.valid_iff]
      constructor
      · exact { hfields with }
      · -- the call stays in its live state, so the closure clause is the one it had
        rw [requireCallClosure_eq_ok] at hclosure ⊢
        constructor
        · intro hterminal
          exact absurd hnoted.live (by simp [show record.state.isTerminal = true from hterminal])
        · intro _
          exact hclosure.2 hnoted.live
  | ended hnoted hkind hstatus hmove =>
      exact transitionCall_valid
        (terminalUpdates_coherent recentLimit _ hnoted hcorrelated) hmove

/-! ## One step and whole runs -/

/-- One change of a call record: a transition with coherent updates, or an observation. -/
inductive CallStep (resultDigest : ToolResult → String) (record next : AgentCallLedgerRecord) :
    Prop
  | transition (toState : AgentCallState) (updatedAt : Timestamp) (updates : CallUpdates)
      (hcoherent : updates.Coherent resultDigest record toState)
      (h : transitionCall record toState updatedAt updates = .ok next)
  | observation (observation : NormalizedA2AObservation) (recentLimit : RecentIdLimit)
      (h : applyObservation resultDigest record observation recentLimit = .ok next)

/-- A record that changed moved one version on, and in its state only along the table. -/
structure MovedOn (record next : AgentCallLedgerRecord) : Prop where
  version : next.stateVersion = record.stateVersion + 1
  state : next.state = record.state ∨ Legal record.state next.state
  live : record.state.isTerminal = false
  canceling : record.state = .cancelPending → next.state = .canceled
  keepsRefs : ∀ ref ∈ record.artifactRefs, ref ∈ next.artifactRefs
  repeatsNoRef : record.artifactRefs.Nodup → next.artifactRefs.Nodup

theorem transitionCall_movedOn {toState : AgentCallState} {updatedAt : Timestamp}
    {updates : CallUpdates} (hcoherent : updates.Coherent resultDigest record toState)
    (h : transitionCall record toState updatedAt updates = .ok next) : MovedOn record next := by
  have hrefs := transitionCall_artifactRefs h
  obtain ⟨hlegal, rfl⟩ := transitionCall_eq_ok.mp h
  refine ⟨rfl, .inr hlegal, ?_, ?_, ?_, ?_⟩
  · cases hterminal : record.state.isTerminal with
    | false => rfl
    | true => exact absurd hlegal (not_legal_of_terminal hterminal)
  · intro hpending
    exact eq_canceled_of_legal (hpending ▸ hlegal)
  · rw [hrefs]
    exact hcoherent.keepsRefs
  · rw [hrefs]
    exact hcoherent.repeatsNoRef

theorem Applied.movedOn (happlied : Applied resultDigest record observation recentLimit next)
    (hrecord : record.Valid resultDigest) : next = record ∨ MovedOn record next := by
  obtain ⟨hcorrelated, -⟩ := AgentCallLedgerRecord.valid_iff.mp hrecord
  cases happlied with
  | ignored => exact .inl rfl
  | asked hnoted hkind hmove =>
      exact .inr (transitionCall_movedOn
        (interactionUpdates_coherent recentLimit hnoted hcorrelated) hmove)
  | started hnoted hkind hmove =>
      exact .inr (transitionCall_movedOn
        (progressUpdates_coherent recentLimit hnoted hcorrelated rfl) hmove)
  | progressed hnoted hcancel hkind =>
      have hcoherent := progressUpdates_coherent recentLimit hnoted hcorrelated hnoted.live
      exact .inr ⟨rfl, .inl rfl, hnoted.live, fun hpending => absurd hpending hcancel,
        hcoherent.keepsRefs, hcoherent.repeatsNoRef⟩
  | ended hnoted hkind hstatus hmove =>
      exact .inr (transitionCall_movedOn
        (terminalUpdates_coherent recentLimit _ hnoted hcorrelated) hmove)

end Noted

theorem CallStep.valid (hstep : CallStep resultDigest record next)
    (hrecord : record.Valid resultDigest) : next.Valid resultDigest := by
  cases hstep with
  | transition toState updatedAt updates hcoherent h => exact transitionCall_valid hcoherent h
  | observation observation recentLimit h =>
      exact (applyObservation_applied h).valid recentLimit hrecord

theorem CallStep.movedOn (hstep : CallStep resultDigest record next)
    (hrecord : record.Valid resultDigest) : next = record ∨ MovedOn record next := by
  cases hstep with
  | transition toState updatedAt updates hcoherent h =>
      exact .inr (transitionCall_movedOn hcoherent h)
  | observation observation recentLimit h =>
      exact (applyObservation_applied h).movedOn recentLimit hrecord

inductive CallRun (resultDigest : ToolResult → String) (start : AgentCallLedgerRecord) :
    Nat → AgentCallLedgerRecord → Prop
  | start : CallRun resultDigest start 0 start
  | unchanged {count record} (hrun : CallRun resultDigest start count record)
      (hstep : CallStep resultDigest record record) : CallRun resultDigest start count record
  | changed {count record next} (hrun : CallRun resultDigest start count record)
      (hstep : CallStep resultDigest record next) (hne : next ≠ record) :
      CallRun resultDigest start (count + 1) next

variable {start final : AgentCallLedgerRecord} {count : Nat}

theorem CallRun.valid (hrun : CallRun resultDigest start count final)
    (hstart : start.Valid resultDigest) : final.Valid resultDigest := by
  induction hrun with
  | start => exact hstart
  | unchanged hrun hstep ih => exact ih
  | changed hrun hstep hne ih => exact hstep.valid ih

/-- What a run adds up to, from the steps that moved the record on. -/
structure RunsTo (start : AgentCallLedgerRecord) (count : Nat) (final : AgentCallLedgerRecord) :
    Prop where
  version : final.stateVersion = start.stateVersion + count
  path : Relation.ReflTransGen Legal start.state final.state
  frozen : start.state.isTerminal = true → final = start
  canceling : start.state = .cancelPending → final.state = .cancelPending ∨ final.state = .canceled
  keepsRefs : ∀ ref ∈ start.artifactRefs, ref ∈ final.artifactRefs
  repeatsNoRef : start.artifactRefs.Nodup → final.artifactRefs.Nodup

theorem RunsTo.movedOn (h : RunsTo start count record) (hmoved : MovedOn record next) :
    RunsTo start (count + 1) next where
  version := by
    have hbefore := h.version
    have hafter := hmoved.version
    omega
  path := by
    rcases hmoved.state with hsame | hlegal
    · rw [hsame]
      exact h.path
    · exact h.path.tail hlegal
  frozen hterminal := by
    have hlive := hmoved.live
    rw [h.frozen hterminal] at hlive
    rw [hlive] at hterminal
    cases hterminal
  canceling hpending := by
    rcases h.canceling hpending with hstill | hcanceled
    · exact .inr (hmoved.canceling hstill)
    · -- a canceled call is terminal, so nothing moves it on
      have hlive := hmoved.live
      rw [hcanceled] at hlive
      cases hlive
  keepsRefs ref hmem := hmoved.keepsRefs ref (h.keepsRefs ref hmem)
  repeatsNoRef hnodup := hmoved.repeatsNoRef (h.repeatsNoRef hnodup)

theorem CallRun.runsTo (hrun : CallRun resultDigest start count final)
    (hstart : start.Valid resultDigest) : RunsTo start count final := by
  induction hrun with
  | start => exact ⟨rfl, .refl, fun _ => rfl, .inl, fun _ => id, id⟩
  | unchanged hrun hstep ih => exact ih
  | changed hrun hstep hne ih =>
      rcases hstep.movedOn (hrun.valid hstart) with hsame | hmoved
      · exact absurd hsame hne
      · exact ih.movedOn hmoved

/-! ## Observations of an ended call -/

structure SameContent (first second : NormalizedA2AObservation) : Prop where
  eventKind : second.eventKind = first.eventKind
  status : second.status = first.status
  content : second.content = first.content
  artifactRefs : second.artifactRefs = first.artifactRefs
  errorCode : second.errorCode = first.errorCode
  errorMessage : second.errorMessage = first.errorMessage

theorem applyObservation_ended {status : ToolResultStatus} {recentLimit : Nat} {digest : String}
    (hended : record.state.isTerminal = true)
    (hfresh : observation.observationId ∉ record.recentObservationIds)
    (hkind : observation.eventKind = .terminal) (hstatus : observation.status = some status)
    (hdigest : record.terminalResultDigest = some digest) :
    applyObservation resultDigest record observation recentLimit =
      if resultDigest (observationResult record observation status) = digest then .ok record
      else
        .error (.conflictingTerminal (if truthy (some digest) then digest else "missing")
          (resultDigest (observationResult record observation status))) := by
  unfold applyObservation observeTerminal
  rw [if_neg hfresh, if_pos hended, if_neg (not_not_intro hkind), hstatus, hdigest]
  simp only [Option.some.injEq, Option.getD_some]

theorem observationResult_again {closing again : NormalizedA2AObservation}
    (status : ToolResultStatus) (hsame : SameContent closing again)
    (hid : next.invocationId = record.invocationId) (hname : next.toolName = record.toolName)
    (hrefs : next.artifactRefs = mergedRefs record closing) :
    observationResult next again status = observationResult record closing status := by
  have hmerged : mergedRefs next again = mergedRefs record closing := by
    rw [mergedRefs, hrefs, hsame.artifactRefs]
    apply fromKeys_append_of_subset nodup_mergedRefs
    intro ref hmem
    rw [mergedRefs, mem_fromKeys]
    exact List.mem_append_right _ hmem
  unfold observationResult
  rw [hid, hname, hmerged, hsame.content, hsame.errorCode, hsame.errorMessage]

theorem applyObservation_again {closing again : NormalizedA2AObservation} {recentLimit : Nat}
    (hlive : record.state.isTerminal = false) (hended : next.state.isTerminal = true)
    (h : applyObservation resultDigest record closing recentLimit = .ok next)
    (hsame : SameContent closing again) (limit : Nat) :
    applyObservation resultDigest next again limit = .ok next := by
  cases applyObservation_applied h with
  | ignored =>
      rw [hlive] at hended
      cases hended
  | asked hnoted hkind hmove =>
      rw [transitionCall_state hmove] at hended
      cases hended
  | started hnoted hkind hmove =>
      rw [transitionCall_state hmove] at hended
      cases hended
  | progressed hnoted hcancel hkind =>
      rw [show record.state.isTerminal = true from hended] at hlive
      cases hlive
  | ended hnoted hkind hstatus hmove =>
      rename_i status
      obtain ⟨hid, hname⟩ := transitionCall_names hmove
      have hrefs : next.artifactRefs = mergedRefs record closing := transitionCall_artifactRefs hmove
      have hdigest : next.terminalResultDigest =
          some (resultDigest (observationResult record closing status)) :=
        transitionCall_terminalResultDigest hmove
      have hresult := observationResult_again status hsame hid hname hrefs
      by_cases hseen : again.observationId ∈ next.recentObservationIds
      · unfold applyObservation
        rw [if_pos hseen]
      · rw [applyObservation_ended hended hseen (hsame.eventKind.trans hkind)
          (hsame.status.trans hstatus) hdigest]
        rw [if_pos (congrArg resultDigest hresult)]

/-! ## The ledger over whole runs -/

/-- Every run of coherent transitions and observations from a valid call: the record stays valid,
its state moves along the table by one version a change, an ended call stays what it is, a call to
be canceled can only be canceled, and no artifact reference is lost or repeated. -/
theorem agentCall_run (hstart : start.Valid resultDigest)
    (hrun : CallRun resultDigest start count final) :
    final.Valid resultDigest ∧ RunsTo start count final ∧
      (∀ next, CallStep resultDigest final next → next = final ∨
        (next.stateVersion = final.stateVersion + 1 ∧
          (next.state = final.state ∨ Legal final.state next.state))) ∧
      (∀ (observation : NormalizedA2AObservation) (status : ToolResultStatus) (limit : Nat)
          (digest : String), final.state.isTerminal = true →
        observation.observationId ∉ final.recentObservationIds →
        observation.eventKind = .terminal → observation.status = some status →
        final.terminalResultDigest = some digest →
        applyObservation resultDigest final observation limit =
          if resultDigest (observationResult final observation status) = digest then .ok final
          else
            .error (.conflictingTerminal (if truthy (some digest) then digest else "missing")
              (resultDigest (observationResult final observation status)))) ∧
      (∀ (closing again : NormalizedA2AObservation) (limit limit' : Nat)
          (next : AgentCallLedgerRecord), final.state.isTerminal = false →
        applyObservation resultDigest final closing limit = .ok next →
        next.state.isTerminal = true → SameContent closing again →
        applyObservation resultDigest next again limit' = .ok next) := by
  have hfinal := hrun.valid hstart
  refine ⟨hfinal, hrun.runsTo hstart, ?_, ?_, ?_⟩
  · intro next hstep
    rcases hstep.movedOn hfinal with hsame | hmoved
    · exact .inl hsame
    · exact .inr ⟨hmoved.version, hmoved.state⟩
  · intro observation status limit digest hended hfresh hkind hstatus hdigest
    exact applyObservation_ended hended hfresh hkind hstatus hdigest
  · intro closing again limit limit' next hlive h hended hsame
    exact applyObservation_again hlive hended h hsame limit'

def workingCall : AgentCallLedgerRecord where
  stateVersion := 3
  callRecordId := "call-1"
  invocationId := "invocation-1"
  runId := "run-1"
  conversationId := "room-1"
  roomEpoch := 1
  toolName := "agent_a"
  bindingId := "binding-1"
  bindingDigest := "digest-1"
  agentId := "agent-1"
  endpointScopeDigest := "scope-1"
  requestingSubjectDigest := "subject-1"
  dispatchSnapshot :=
    { commandId := "dispatch-1", messageId := "message-1", task := "Summarize."
      agentId := "agent-1", requestingSubjectDigest := "subject-1", conversationId := "room-1"
      roomEpoch := 1, resourceManifest := { manifestId := "manifest-1", contentDigest := "empty" } }
  resourceManifest := { manifestId := "manifest-1", contentDigest := "empty" }
  state := .working
  transportKind := .direct
  updatedAt := 100

def endingObservation (observationId : String) (status : ToolResultStatus) :
    NormalizedA2AObservation where
  observationId := observationId
  sourceIdentity := observationId
  bindingScope := "scope-1"
  eventKind := .terminal
  status := some status
  observedAt := 200

def statusDigest (result : ToolResult) : String :=
  if result.status = .completed then "completed" else "other"

theorem agentCall_run_completed :
    ∃ final, CallRun statusDigest workingCall 1 final ∧ final.state = .completed ∧
      final.Valid statusDigest ∧ RunsTo workingCall 1 final := by
  have hvalid : workingCall.Valid statusDigest := by decide
  cases h : applyObservation statusDigest workingCall (endingObservation "end-1" .completed) 128 with
  | error error => cases h
  | ok final =>
      have hstate : final.state = .completed := by
        cases h
        rfl
      have hne : final ≠ workingCall := by
        intro heq
        rw [heq] at hstate
        cases hstate
      have hstep : CallStep statusDigest workingCall final :=
        .observation _ ⟨128, by decide⟩ h
      have hrun : CallRun statusDigest workingCall 1 final := .changed .start hstep hne
      have hcorrect := agentCall_run hvalid hrun
      exact ⟨final, hrun, hstate, hcorrect.1, hcorrect.2.1⟩

/-- The two functions promise less than that for arguments of every kind: a bare transition to an
ended state leaves a record without a result, an ending under an id the call has seen is not
compared, and references that were there twice stay there twice. -/
theorem agentCall_steps_unchecked :
    (workingCall.Valid statusDigest ∧ ∃ next, transitionCall workingCall .failed 200 = .ok next ∧
      ¬ next.Valid statusDigest) ∧
    (∃ ended, applyObservation statusDigest workingCall (endingObservation "end-1" .completed) 128 =
        .ok ended ∧ ended.state.isTerminal = true ∧
      some (statusDigest (observationResult ended (endingObservation "end-1" .failed) .failed)) ≠
        ended.terminalResultDigest ∧
      applyObservation statusDigest ended (endingObservation "end-1" .failed) 128 = .ok ended) ∧
    (({ workingCall with artifactRefs := ["ref-1", "ref-1"] } : AgentCallLedgerRecord).Valid
        statusDigest ∧
      ∃ next, applyObservation statusDigest
          { workingCall with artifactRefs := ["ref-1", "ref-1"] }
          { endingObservation "ask-1" .completed with
            eventKind := .inputRequired, status := none } 128 = .ok next ∧
        ¬ next.artifactRefs.Nodup) := by
  refine ⟨⟨by decide, _, rfl, by decide⟩, ⟨_, rfl, by decide, by decide, by decide⟩,
    by decide, _, rfl, by decide⟩

end Hybro.A2ARuntime
