import Hybro.Sessions.ClaimRules

/-! # The calls of the store under a driver

A claim that is accepted has put the driver's own row there, and an accepted renewal lasts
from its attempt on.
-/

namespace Hybro.Sessions

open Orchestrator Interleaving RunStore

structure Trying (owner : String) (attempted : Timestamp) (driver : Driver)
    (clock : Timestamp) : Prop extends OffDuty owner driver where
  since : driver.attempted = some attempted
  past : attempted ≤ clock
  fresh : driver.grip ≠ .held

section Calls

variable {terms : SessionTerms} {i : Nat} {call : SessionCall} {owner : String}
  {attempted : Timestamp} {φ ψ : Claimant} {α : Type}

theorem firm_trying : Firm (fun driver _ clock => Trying owner attempted driver clock) where
  ticks _ _ _ _ hlater h :=
    ⟨⟨h.named, h.unleased⟩, h.since, Nat.le_trans h.past hlater, h.fresh⟩
  loses _ _ _ _ _ hloses h :=
    ⟨h.toOffDuty.loses hloses, hloses.fields.1.trans h.since, h.past, hloses.not_held⟩

theorem At.mono {s : SharedRun} (h : At i φ s)
    (hle : ∀ driver lease clock, φ driver lease clock → ψ driver lease clock) : At i ψ s :=
  fun driver hdriver => hle _ _ _ (h driver hdriver)

theorem drives_done {a : α} {Q : α → Claimant} (hφ : Firm φ)
    (h : ∀ driver lease clock, φ driver lease clock → Q a driver lease clock) :
    Drives terms i call (At i φ) (pure a) (fun a => At i (Q a)) :=
  Plainly.pure hφ.stable fun _ _ hP => hP.mono h

/-! ## Claiming -/

theorem outdated_of_due {row : Option RecoveryClaim}
    (h : row.any (fun claim => !recoveryClaimIsDue claim attempted) = false) :
    Outdated owner attempted row := by
  rintro claim rfl -
  have hdue : recoveryClaimIsDue claim attempted = true := by simpa using h
  simp only [recoveryClaimIsDue, Bool.and_eq_true] at hdue
  exact hdue.2

theorem drives_confirmClaim {claim : RecoveryClaim} (hclaim : ClaimsFor owner attempted claim) :
    Drives terms i call (At i (Bidding owner attempted)) (calling (confirmLease claim))
      (fun _ => At i fun driver lease _ => Won owner attempted driver lease) := by
  refine drives_confirmLease firm_bidding firm_won ?_
  intro driver clock hbid
  refine hclaim.won hbid.toOffDuty hbid.since ?_
  intro habsent
  have houtdated := hbid.outdated habsent claim rfl hclaim.owner
  have hnot : ¬ attempted + executionLease ≤ attempted := by simp [executionLease]
  simp [hclaim.expires, hnot] at houtdated

/-- What a claim of the row answers: the row that was written, if it was. -/
def Acquires (owner : String) (attempted : Timestamp) (acquired : Option RecoveryClaim) :
    Claimant :=
  fun driver lease _ => OffDuty owner driver ∧
    (acquired.isSome = true → Won owner attempted driver lease)

theorem firm_acquires {acquired : Option RecoveryClaim} :
    Firm (Acquires owner attempted acquired) :=
  firm_offDuty.and firm_won.imp

theorem drives_won {claim : RecoveryClaim} :
    Drives terms i call (At i fun driver lease _ => Won owner attempted driver lease)
      (pure (some claim)) (fun acquired => At i (Acquires owner attempted acquired)) :=
  drives_done firm_won fun _ _ _ h => ⟨h.toOffDuty, fun _ => h⟩

theorem drives_lost :
    Drives terms i call (At i (Bidding owner attempted)) (pure none)
      (fun acquired => At i (Acquires owner attempted acquired)) :=
  drives_done firm_bidding fun _ _ _ h => ⟨h.toOffDuty, nofun⟩

theorem drives_confirmedClaim {claim : RecoveryClaim} (hclaim : ClaimsFor owner attempted claim) :
    Drives terms i call (At i (Bidding owner attempted))
      (calling (do let _ ← confirmLease claim; return some claim))
      (fun acquired => At i (Acquires owner attempted acquired)) := by
  rw [calling_bind]
  exact Plainly.bind (drives_confirmClaim hclaim) fun _ => drives_won

theorem drives_insertRecoveryLease (hdrives : call.drives = true) {claim : RecoveryClaim}
    (hclaim : ClaimsFor owner attempted claim) :
    Drives terms i call (At i (Bidding owner attempted)) (calling (insertRecoveryLease claim))
      (fun acquired => At i (Acquires owner attempted acquired)) := by
  unfold insertRecoveryLease
  refine drives_store (ψ := fun _ => Bidding owner attempted) firm_bidding rfl
    (moves_reading rfl fun _ _ _ _ _ _ h => h) ?_
  intro reply
  cases reply with
  | unavailable => exact drives_confirmedClaim hclaim
  | answer row =>
      cases row with
      | some _ => exact drives_lost
      | none =>
          refine drives_store firm_bidding rfl (moves_insertLease hdrives hclaim) ?_
          intro inserted
          cases inserted with
          | counted => exact drives_won
          | duplicateKey => exact drives_lost
          | unavailable => exact drives_confirmedClaim hclaim

theorem drives_claimDedicatedRecoveryLease (hdrives : call.drives = true) :
    Drives terms i call (At i fun driver _ clock => Trying owner attempted driver clock)
      (calling (claimDedicatedRecoveryLease owner (attempted + executionLease) attempted))
      (fun acquired => At i (Acquires owner attempted acquired)) := by
  unfold claimDedicatedRecoveryLease
  rw [calling_bind]
  let read : Option RecoveryClaim → Claimant := fun row driver lease clock =>
    Trying owner attempted driver clock ∧
      (row.any (fun claim => !recoveryClaimIsDue claim attempted) = false →
        Bidding owner attempted driver lease clock)
  refine Plainly.bind (drives_loadRecoveryClaim firm_trying read
    (fun _ => firm_trying.and firm_bidding.imp) ?_) ?_
  · intro driver lease clock h
    exact ⟨h, fun hdue => ⟨h.toOffDuty, h.since, h.past, fun _ => outdated_of_due hdue⟩⟩
  · intro existing
    cases hdue : existing.any (fun claim => !recoveryClaimIsDue claim attempted) with
    | true =>
        rw [if_pos rfl]
        exact drives_done (firm_trying.and firm_bidding.imp) fun _ _ _ h => ⟨h.1.toOffDuty, nofun⟩
    | false =>
        rw [if_neg Bool.false_ne_true]
        have hclaim : ClaimsFor owner attempted
            { existing.getD {} with
              ownerId := some owner
              leaseExpiresAt := some (attempted + executionLease)
              nextAttemptAt := none } := ⟨rfl, rfl⟩
        refine Plainly.pre ?_ fun _ _ hP => hP.mono fun _ _ _ h => h.2 hdue
        refine drives_store firm_bidding rfl (moves_claimLease hdrives hclaim) ?_
        intro reply
        cases reply with
        | counted matched =>
            cases matched with
            | true => exact drives_won
            | false => exact drives_insertRecoveryLease hdrives hclaim
        | duplicateKey => exact drives_lost
        | unavailable => exact drives_confirmedClaim hclaim

def Claims (owner : String) (attempted : Timestamp) (result : MongoRunStoreResult) : Claimant :=
  fun driver lease _ => OffDuty owner driver ∧
    (StoreOutcome.isWritten result.outcome = true → Won owner attempted driver lease)

theorem drives_refused {run : Option OrchestratorRunState} {outcome : StoreOutcome}
    (hφ : Firm φ) (houtcome : StoreOutcome.isWritten outcome = false)
    (h : ∀ driver lease clock, φ driver lease clock → OffDuty owner driver) :
    Drives terms i call (At i φ) (calling (.done ⟨outcome, run⟩))
      (fun result => At i (Claims owner attempted result)) := by
  refine drives_done hφ fun _ _ _ hknown => ⟨h _ _ _ hknown, fun hwritten => ?_⟩
  rw [houtcome] at hwritten
  cases hwritten

theorem drives_rollBackClaim {run : OrchestratorRunState}
    {claimed : MongoRunStoreResult} (houtcome : StoreOutcome.isWritten claimed.outcome = false) :
    Drives terms i call (At i fun driver lease _ => Won owner attempted driver lease)
      (calling (rollBackClaim owner run claimed))
      (fun result => At i (Claims owner attempted result)) := by
  have hkeeps : ∀ claim, claim.ownerId = none →
      Keeps terms i call (fun driver _ _ => OffDuty owner driver) (.updateLease owner claim) :=
    fun _ hclaim _ => moves_giveBack hclaim
  have hdone : Drives terms i call (At i fun driver _ _ => OffDuty owner driver)
      (calling (.done claimed)) (fun result => At i (Claims owner attempted result)) :=
    drives_refused firm_offDuty houtcome fun _ _ _ h => h
  refine Plainly.pre (P := At i fun driver _ _ => OffDuty owner driver) ?_
    fun _ _ hP => hP.mono fun _ _ _ h => h.toOffDuty
  unfold rollBackClaim
  simp only [calling_bind]
  refine Plainly.bind (drives_uses firm_offDuty
    (uses_updateDedicatedRecoveryLease keeps_reading (hkeeps _ rfl))) ?_
  intro updated
  cases updated with
  | false => exact hdone
  | true =>
      rw [if_pos rfl, calling_bind]
      exact Plainly.bind (drives_uses firm_offDuty (uses_mirrorRecoveryClaim keeps_reading))
        fun _ => hdone

theorem drives_claimRecovery (hdrives : call.drives = true) {version : Nat}
    {allowScheduled : Bool} :
    Drives terms i call (At i fun driver _ clock => Trying owner attempted driver clock)
      (calling (claimRecovery owner
        { expectedStateVersion := version
          leaseExpiresAt := attempted + executionLease
          claimedAt := attempted
          allowScheduled := allowScheduled }))
      (fun result => At i (Claims owner attempted result)) := by
  unfold claimRecovery
  rw [calling_bind]
  refine Plainly.bind (drives_load firm_trying) ?_
  intro run
  cases run with
  | none => exact drives_refused firm_trying rfl fun _ _ _ h => h.toOffDuty
  | some run =>
      simp only
      split
      · exact drives_refused firm_trying rfl fun _ _ _ h => h.toOffDuty
      · rw [calling_bind]
        refine Plainly.bind (drives_claimDedicatedRecoveryLease hdrives) ?_
        intro acquired
        cases acquired with
        | none =>
            simp only [calling_bind]
            refine Plainly.bind (drives_load firm_acquires) ?_
            exact fun latest => drives_refused firm_acquires rfl fun _ _ _ h => h.1
        | some acquired =>
            simp only [calling_bind]
            refine Plainly.pre ?_ fun _ _ hP => hP.mono fun _ _ _ h => h.2 rfl
            refine Plainly.bind (drives_uses firm_won (uses_casMutate keeps_reading)) ?_
            intro claimed
            cases hwritten : StoreOutcome.isWritten claimed.outcome with
            | false =>
                rw [if_pos (by simpa [StoreOutcome.isWritten] using hwritten)]
                exact drives_rollBackClaim hwritten
            | true =>
                rw [if_neg (by simpa [StoreOutcome.isWritten, ← or_iff_not_imp_left] using hwritten)]
                exact drives_done firm_won fun _ _ _ h => ⟨h.toOffDuty, fun _ => h⟩

/-! ## Renewing -/

def Renews (owner : String) (attempted : Timestamp) (renewed : Bool) : Claimant :=
  fun driver lease _ => OnDuty owner attempted driver ∧
    (renewed = true → Settled attempted driver lease)

theorem firm_renews {renewed : Bool} : Firm (Renews owner attempted renewed) :=
  firm_onDuty.and firm_settled.imp

theorem drives_renewRecovery {version : Nat}
    {expires : Timestamp} (hlater : attempted + executionLease ≤ expires) :
    Drives terms i call (At i fun driver _ _ => OnDuty owner attempted driver)
      (calling (renewRecovery
        { expectedStateVersion := version, ownerId := owner, leaseExpiresAt := expires }))
      (fun result => At i (Renews owner attempted (StoreOutcome.isWritten result.outcome))) := by
  have hrefused : ∀ (run : Option OrchestratorRunState),
      Drives terms i call (At i fun driver _ _ => OnDuty owner attempted driver)
        (pure (⟨.conflict, run⟩ : MongoRunStoreResult))
        (fun result => At i (Renews owner attempted (StoreOutcome.isWritten result.outcome))) :=
    fun _ => drives_done firm_onDuty fun _ _ _ h => ⟨h, nofun⟩
  unfold renewRecovery
  rw [calling_bind]
  refine Plainly.bind (drives_load firm_onDuty) ?_
  intro run
  cases run with
  | none => exact hrefused none
  | some run =>
      simp only
      split
      · exact hrefused (some run)
      · next hrun =>
          simp only [not_or, not_not] at hrun
          simp only [calling_bind]
          let claim := { run.recoveryClaim with leaseExpiresAt := some expires }
          have hupdated : Drives terms i call
              (At i fun driver _ _ => OnDuty owner attempted driver)
              (calling (updateDedicatedRecoveryLease owner claim))
              (fun matched => At i (Renews owner attempted matched)) := by
            have howner : claim.ownerId = some owner := hrun.2
            let answered : WriteReply → Claimant := fun reply driver lease _ =>
              OnDuty owner attempted driver ∧
                (reply = .counted true → Settled attempted driver lease)
            have hmoves : Moves terms i call
                (fun driver _ _ => OnDuty owner attempted driver)
                (.updateLease owner claim) answered := moves_renew howner rfl hlater
            refine drives_store firm_onDuty rfl hmoves ?_
            intro reply
            cases reply with
            | counted matched =>
                refine drives_done (firm_onDuty.and firm_settled.imp) fun _ _ _ h => ⟨h.1, ?_⟩
                rintro rfl
                exact h.2 rfl
            | duplicateKey => exact Plainly.throw
            | unavailable =>
                have hconfirmed : Drives terms i call
                    (At i fun driver _ _ => OnDuty owner attempted driver)
                    (calling (confirmLease claim)) (fun _ => At i fun driver lease _ =>
                      OnDuty owner attempted driver ∧ Settled attempted driver lease) :=
                  drives_confirmLease firm_onDuty (firm_onDuty.and firm_settled)
                    fun _ _ h => ⟨h, fun _ _ => ⟨claim, rfl, expires, rfl, hlater⟩⟩
                refine hconfirmed.weaken ?_ ?_
                · exact fun _ _ hP => hP.mono fun _ _ _ h => h.1
                · exact fun _ _ _ hP => hP.mono fun _ _ _ h => ⟨h.1, fun _ => h.2⟩
          refine Plainly.bind hupdated ?_
          intro matched
          cases matched with
          | false =>
              rw [if_neg Bool.false_ne_true, calling_bind]
              refine Plainly.bind (drives_load firm_renews) ?_
              exact fun latest => drives_done firm_renews fun _ _ _ h => ⟨h.1, nofun⟩
          | true =>
              rw [if_pos rfl, calling_bind]
              refine Plainly.bind (drives_uses firm_renews
                (uses_mirrorRecoveryClaim keeps_reading)) ?_
              exact fun _ => drives_done firm_renews fun _ _ _ h => ⟨h.1, fun _ => h.2 rfl⟩

/-! ## Releasing -/

theorem drives_releaseRecovery (request : ReleaseRecovery) :
    Drives terms i call (At i fun driver _ _ => OffDuty request.ownerId driver)
      (calling (releaseRecovery request))
      (fun _ => At i fun driver _ _ => OffDuty request.ownerId driver) :=
  drives_uses firm_offDuty
    (uses_releaseRecovery keeps_reading fun _ hclaim _ => moves_giveBack hclaim)

end Calls

end Hybro.Sessions
