import Hybro.Sessions.DriverRules

/-! # The store under a driver

What the programs of the run store do to the row when a driver calls them, and what the
driver knows of its claim afterwards.
-/

namespace Hybro.Sessions

open Orchestrator Interleaving RunStore

/-! ## Operations of a program -/

/-- Every operation that the program may come to satisfies `φ`. -/
def Uses {α : Type} (φ : StoreOp → Prop) : StoreProg α → Prop
  | .done _ => True
  | .act op next => φ op ∧ ∀ reply, Uses φ (next reply)

def leavesRow : StoreOp → Bool
  | .claimLease .. | .updateLease .. | .scheduleLease .. | .insertLease _ | .upsertLease _ => false
  | _ => true

theorem outcomes_lease {op : StoreOp} {reply : op.Res} {before after : Stored}
    (hop : leavesRow op = true) (h : (reply, after) ∈ op.outcomes before) :
    after.lease = before.lease := by
  cases op with
  | findRun => rw [(mem_answers.mp h).1]
  | findLease => rw [(mem_answers.mp h).1]
  | replaceRun expected candidate =>
      rcases List.mem_cons.mp h with heq | h
      · rw [(Prod.mk.inj heq).2]
      · rcases mem_conditionalWrite.mp h with ⟨-, ⟨-, rfl⟩ | ⟨-, rfl | rfl⟩⟩ | ⟨-, rfl, -⟩ <;> rfl
  | mirrorClaim claim =>
      rcases mem_conditionalWrite.mp h with ⟨-, ⟨-, rfl⟩ | ⟨-, rfl | rfl⟩⟩ | ⟨-, rfl, -⟩ <;> rfl
  | claimLease | updateLease | scheduleLease | insertLease | upsertLease => cases hop
  | listDueIntents => rw [(mem_answers.mp h).1]
  | project intent run =>
      simp only [StoreOp.outcomes, List.mem_cons, Prod.mk.injEq, List.not_mem_nil, or_false] at h
      rcases h with ⟨-, rfl⟩ | ⟨-, rfl⟩ | ⟨-, rfl⟩ | ⟨-, rfl⟩ | ⟨-, rfl⟩ <;> rfl
  | afterProject => rw [(mem_answers.mp h).1]
  | raise => cases h

section Uses

variable {α β : Type} {φ : StoreOp → Prop}

theorem Uses.bind {p : StoreProg α} {f : α → StoreProg β} (hp : Uses φ p)
    (hf : ∀ a, Uses φ (f a)) : Uses φ (p >>= f) := by
  induction p with
  | done a => exact hf a
  | act op next ih => exact ⟨hp.1, fun reply => ih reply (hp.2 reply)⟩

/-- The operations of the programs that do not touch the row are among those allowed. -/
def AllowsReads (φ : StoreOp → Prop) : Prop := ∀ op, leavesRow op = true → φ op

variable (hφ : AllowsReads φ)
include hφ

theorem uses_raise {message : String} : Uses φ (raise (α := α) message) :=
  ⟨hφ _ rfl, fun reply => nomatch reply⟩

theorem uses_answered {reply : Reply α} {next : α → StoreProg β} (h : ∀ a, Uses φ (next a)) :
    Uses φ (answered reply next) := by
  cases reply with
  | answer value => exact h value
  | unavailable => exact uses_raise hφ

theorem uses_findRun : Uses φ findRun :=
  ⟨hφ _ rfl, fun _ => uses_answered hφ fun _ => trivial⟩

theorem uses_loadRecoveryClaim : Uses φ loadRecoveryClaim :=
  ⟨hφ _ rfl, fun _ => uses_answered hφ fun _ => trivial⟩

theorem uses_checked {check : Except String Unit} : Uses φ (checked check) := by
  cases check with
  | error message => exact uses_raise hφ
  | ok value => trivial

theorem uses_validated {run : OrchestratorRunState} : Uses φ (validated run) :=
  (uses_checked hφ).bind fun _ => (uses_checked hφ).bind fun _ => trivial

theorem uses_load : Uses φ load := by
  refine (uses_findRun hφ).bind fun run => ?_
  cases run with
  | none => trivial
  | some document =>
      exact (uses_loadRecoveryClaim hφ).bind fun _ => (uses_validated hφ).bind fun _ => trivial

theorem uses_mirrorRecoveryClaim {claim : RecoveryClaim} : Uses φ (mirrorRecoveryClaim claim) := by
  refine ⟨hφ _ rfl, fun reply => ?_⟩
  cases reply with
  | counted => trivial
  | duplicateKey => exact uses_raise hφ
  | unavailable => exact uses_raise hφ

theorem uses_mirrorAfterReplace {candidate : OrchestratorRunState} :
    Uses φ (mirrorAfterReplace candidate) := by
  refine (uses_loadRecoveryClaim hφ).bind fun row => ?_
  cases row with
  | none => trivial
  | some claim =>
      simp only
      split
      · exact (uses_mirrorRecoveryClaim hφ).bind fun _ => trivial
      · trivial

theorem uses_replaceRun {candidate : OrchestratorRunState} {expected : Nat}
    {commandId : CommandId} : Uses φ (replaceRun candidate expected commandId) := by
  refine ⟨hφ _ rfl, fun reply => ?_⟩
  cases reply with
  | counted matched =>
      cases matched with
      | true => exact uses_mirrorAfterReplace hφ
      | false => exact (uses_load hφ).bind fun _ => trivial
  | duplicateKey => exact (uses_load hφ).bind fun _ => trivial
  | unavailable =>
      refine (uses_load hφ).bind fun winner => ?_
      split
      · trivial
      · exact uses_raise hφ

theorem uses_casMutate {run : OrchestratorRunState} {expected : Nat} {commandId : CommandId} :
    Uses φ (casMutate run expected commandId) := by
  refine (uses_load hφ).bind fun current => ?_
  cases current with
  | none => trivial
  | some current =>
      simp only
      split
      · trivial
      · split
        · trivial
        · refine (uses_validated hφ).bind fun candidate => ?_
          split
          · trivial
          · exact uses_replaceRun hφ

theorem uses_confirmLease {claim : RecoveryClaim} : Uses φ (confirmLease claim) := by
  refine (uses_loadRecoveryClaim hφ).bind fun persisted => ?_
  split
  · trivial
  · exact uses_raise hφ

theorem uses_updateDedicatedRecoveryLease {owner : String} {claim : RecoveryClaim}
    (h : φ (.updateLease owner claim)) : Uses φ (updateDedicatedRecoveryLease owner claim) := by
  refine ⟨h, fun reply => ?_⟩
  cases reply with
  | counted => trivial
  | duplicateKey => exact uses_raise hφ
  | unavailable => exact uses_confirmLease hφ

theorem uses_replaceCancellationRecovery {requestedAt : Timestamp}
    (h : φ (.upsertLease (cancellationClaim requestedAt))) :
    Uses φ (replaceCancellationRecovery requestedAt) := by
  refine ⟨h, fun reply => ?_⟩
  cases reply with
  | counted => exact uses_mirrorRecoveryClaim hφ
  | duplicateKey => exact uses_raise hφ
  | unavailable => exact uses_raise hφ

theorem uses_requestCancellation {request : RequestCancellation}
    (h : φ (.upsertLease (cancellationClaim request.requestedAt))) :
    Uses φ (requestCancellation request) := by
  refine (uses_load hφ).bind fun run => ?_
  cases run with
  | none => trivial
  | some run =>
      simp only
      split
      · exact (uses_replaceCancellationRecovery hφ h).bind fun _ => trivial
      · split
        · trivial
        · refine (uses_casMutate hφ).bind fun stored => ?_
          split
          · refine (uses_replaceCancellationRecovery hφ h).bind fun _ => ?_
            refine (uses_load hφ).bind fun latest => ?_
            cases latest <;> trivial
          · trivial

theorem uses_scheduleRecovery {request : ScheduleRecovery}
    (hschedule : ∀ due, φ (.scheduleLease due request.nextAttemptAt))
    (hinsert : ∀ claim, claim.ownerId = none → φ (.insertLease claim)) :
    Uses φ (scheduleRecovery request) := by
  refine (uses_load hφ).bind fun run => ?_
  cases run with
  | none => trivial
  | some run =>
      simp only
      split
      · trivial
      · next hunowned =>
          cases hdue : run.recoveryClaim.nextAttemptAt with
          | none => trivial
          | some due =>
              simp only
              split
              · trivial
              · refine (uses_casMutate hφ).bind fun admitted => ?_
                split
                · trivial
                · refine ⟨hschedule due, fun reply => ?_⟩
                  cases reply with
                  | counted matched =>
                      cases matched with
                      | true => exact (uses_load hφ).bind fun _ => trivial
                      | false =>
                          refine (uses_loadRecoveryClaim hφ).bind fun row => ?_
                          cases row with
                          | some claim => exact (uses_load hφ).bind fun _ => trivial
                          | none =>
                              refine ⟨hinsert _ ?_, fun reply => ?_⟩
                              · simp only [not_or] at hunowned
                                simpa using hunowned.2.2.2.2.1
                              · cases reply with
                                | counted => exact (uses_load hφ).bind fun _ => trivial
                                | duplicateKey => exact (uses_load hφ).bind fun _ => trivial
                                | unavailable => exact uses_raise hφ
                  | duplicateKey => exact uses_raise hφ
                  | unavailable => exact uses_raise hφ

theorem uses_releaseRecovery {request : ReleaseRecovery}
    (h : ∀ claim, claim.ownerId = none → φ (.updateLease request.ownerId claim)) :
    Uses φ (releaseRecovery request) := by
  refine (uses_load hφ).bind fun run => ?_
  cases run with
  | none => trivial
  | some run =>
      simp only
      split
      · trivial
      · refine (uses_checked hφ).bind fun _ => ?_
        refine (uses_updateDedicatedRecoveryLease hφ (h _ rfl)).bind fun updated => ?_
        split
        · refine (uses_casMutate hφ).bind fun released => ?_
          split
          · refine (uses_mirrorRecoveryClaim hφ).bind fun _ => ?_
            refine (uses_load hφ).bind fun latest => ?_
            cases latest with
            | none => trivial
            | some latest =>
                simp only
                split <;> trivial
          · trivial
        · exact (uses_load hφ).bind fun _ => trivial

end Uses

end Hybro.Sessions
