import Hybro.A2ARuntime.IngressRules
import Hybro.A2ARuntime.LineageRules

/-! # What the processor does to the ids

To the ids of a call, the processing of a recorded row is one application of its observation
at most. So the runs of a call and its evidence include those of the processor.
-/

namespace Hybro.A2ARuntime

open Orchestrator Kernel

variable {env : ProcessorEnv} {answers : PortAnswers} {call changed : AgentCallLedgerRecord}
variable {run : OrchestratorRunState} {row : A2AObservationInboxRecord} {processed : Processed}
variable {observation prepared : NormalizedA2AObservation}

theorem SameIds.refl (call : AgentCallLedgerRecord) : SameIds call call := ⟨rfl, rfl, rfl, rfl⟩

theorem sameIds_transition {next : AgentCallLedgerRecord} {toState : AgentCallState}
    {updatedAt : Timestamp} {updates : CallUpdates} (haliases : updates.ownershipAliases = none)
    (htask : updates.a2aTaskId = none) (hcontext : updates.a2aContextId = none)
    (h : transitionCall call toState updatedAt updates = .ok next) : SameIds call next := by
  obtain ⟨-, rfl⟩ := transitionCall_eq_ok.mp h
  have hclosing : (updates.closing toState updatedAt).ownershipAliases = none ∧
      (updates.closing toState updatedAt).a2aTaskId = none ∧
      (updates.closing toState updatedAt).a2aContextId = none := by
    unfold CallUpdates.closing
    split <;> exact ⟨haliases, htask, hcontext⟩
  obtain ⟨hclosed, hclosedTask, hclosedContext⟩ := hclosing
  refine ⟨rfl, ?_, ?_, ?_⟩
  · simp only [CallUpdates.overlay, hclosed, Option.getD_none]
  · simp only [CallUpdates.overlay, hclosedTask, Option.getD_none]
  · simp only [CallUpdates.overlay, hclosedContext, Option.getD_none]

theorem completeRunTerminal_call {digest : String}
    (h : completeRunTerminal answers call run row digest = .ok processed) :
    processed.call = call := by
  unfold completeRunTerminal at h
  split at h
  · cases h
  · cases h
    rfl

theorem deliver_call (h : deliver env answers call run row observation = .ok processed) :
    processed.call = call := by
  unfold deliver at h
  repeat' split at h
  all_goals first
    | exact completeRunTerminal_call h
    | (cases h; rfl)
    | cases h

theorem processExecutorOutcome_call {digest : String}
    (h : processExecutorOutcome env answers call run row digest = .ok processed) :
    processed.call = call := by
  unfold processExecutorOutcome at h
  dsimp only at h
  repeat' split at h
  all_goals first
    | exact completeRunTerminal_call h
    | (cases h; rfl)
    | cases h

theorem activateAndDeliver_call {interactionId fingerprint : String}
    (h : activateAndDeliver env answers call run row observation interactionId fingerprint =
      .ok processed) : processed.call = call := by
  unfold activateAndDeliver at h
  repeat' split at h
  all_goals first
    | exact deliver_call h
    | (cases h; rfl)
    | cases h

theorem attachInteraction_sameIds {interaction : A2AInteractionSpec}
    (h : attachInteraction env answers call run row observation interaction = .ok processed) :
    SameIds call processed.call := by
  unfold attachInteraction at h
  split at h
  · cases h
  split at h
  · cases h
  split at h
  · cases h
  split at h
  · cases h
  · rename_i required hmove
    rw [activateAndDeliver_call h]
    exact sameIds_transition rfl rfl rfl hmove

theorem afterLedger_sameIds {interaction : Option A2AInteractionSpec}
    (h : afterLedger env answers changed run row observation interaction = .ok processed) :
    SameIds changed processed.call := by
  unfold afterLedger at h
  repeat' split at h
  · cases h
  · rw [deliver_call h]
    exact SameIds.refl changed
  · cases h
  · cases h
    exact SameIds.refl changed
  · rw [deliver_call h]
    exact SameIds.refl changed
  · exact attachInteraction_sameIds h

/-- The ids are left alone, or the observation is applied and they are left alone after that. -/
def IdsAfter (env : ProcessorEnv) (call : AgentCallLedgerRecord)
    (observation : NormalizedA2AObservation) (after : AgentCallLedgerRecord) : Prop :=
  SameIds call after ∨ ∃ prepared changed, SameLineage observation prepared ∧
    applyObservation env.resultDigest call prepared env.policy.recentObservationIdLimit =
      .ok changed ∧ SameIds changed after

theorem applyRow_ids {interaction : Option A2AInteractionSpec}
    (hlineage : SameLineage observation prepared)
    (h : applyRow env answers call run row prepared interaction = .ok processed) :
    IdsAfter env call observation processed.call := by
  unfold applyRow at h
  split at h
  · left
    rw [activateAndDeliver_call h]
    exact SameIds.refl call
  split at h
  · left
    cases h
    exact SameIds.refl call
  split at h
  · split at h
    · left
      cases h
      exact SameIds.refl call
    · cases h
    · cases h
    · cases h
  · cases h
  · rename_i changed hchanged
    exact Or.inr ⟨prepared, changed, hlineage, hchanged, afterLedger_sameIds h⟩

theorem SameLineage.trans {middle : NormalizedA2AObservation} (h : SameLineage observation middle)
    (hnext : SameLineage middle prepared) : SameLineage observation prepared :=
  ⟨hnext.1.trans h.1, hnext.2.1.trans h.2.1, hnext.2.2.trans h.2.2⟩

theorem typedObservation_lineage (env : ProcessorEnv) (observation : NormalizedA2AObservation) :
    SameLineage observation (typedObservation env observation).1 := by
  unfold typedObservation
  split
  · split <;> exact ⟨rfl, rfl, rfl⟩
  · exact ⟨rfl, rfl, rfl⟩

theorem materialized_lineage (h : materialized answers observation = .ok prepared) :
    SameLineage observation prepared := by
  unfold materialized at h
  dsimp only at h
  repeat' split at h
  all_goals cases h
  all_goals exact ⟨rfl, rfl, rfl⟩

theorem processRow_ids (h : processRow env answers call run row = .ok processed) :
    IdsAfter env call row.observation processed.call := by
  unfold processRow at h
  cases hresolve : resolveCall call row with
  | none =>
      rw [hresolve] at h
      cases h
      exact Or.inl (SameIds.refl call)
  | some record =>
      rw [hresolve] at h
      have hrecord : record = call := resolveCall_eq hresolve
      rw [← hrecord]
      simp only at h
      split at h
      · cases h
        exact Or.inl (SameIds.refl record)
      split at h
      · rw [completeRunTerminal_call h]
        exact Or.inl (SameIds.refl record)
      split at h
      · rw [processExecutorOutcome_call h]
        exact Or.inl (SameIds.refl record)
      · split at h
        · cases h
        split at h
        · cases h
        · rename_i hmaterialized
          have hlineage := (typedObservation_lineage env row.observation).trans
            (materialized_lineage hmaterialized)
          exact applyRow_ids hlineage h

/-- The processing of a recorded row is a run of moves of the call and its evidence. -/
theorem process_run {evidence : Evidence} {index : Nat}
    (hrow : evidence.rows[index]? = some row.observation)
    (h : process env answers evidence.call run row = .ok processed) :
    ∃ moves, evidence.run env.resultDigest moves = some { evidence with call := processed.call } := by
  have hids : IdsAfter env evidence.call row.observation processed.call := by
    unfold process at h
    split at h
    · cases h
      exact Or.inl (SameIds.refl _)
    · have hclaimed := processRow_ids h
      exact hclaimed
  cases hids with
  | inl hsame =>
      refine ⟨[.write processed.call], ?_⟩
      simp [Evidence.run, Evidence.move, hsame]
  | inr hnoted =>
      obtain ⟨prepared, changed, hlineage, hchanged, hsame⟩ := hnoted
      refine ⟨[.apply index prepared env.policy.recentObservationIdLimit, .write processed.call], ?_⟩
      simp [Evidence.run, Evidence.move, hrow, Option.filter, hlineage, hchanged, written, hsame]

end Hybro.A2ARuntime
