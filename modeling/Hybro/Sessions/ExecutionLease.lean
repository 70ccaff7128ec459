import Hybro.Sessions.DutyRules

/-! # Who executes the Run

Every call keeps to the rules, and so a driver whose claim was accepted and whose lease attempts
come in time and are not refused executes the Run only under its own unexpired claim, until a
cancellation or a call with the same owner id takes the claim away.
-/

namespace Hybro.Sessions

open Orchestrator Interleaving RunStore

/-! ## Hosted sessions -/

section Hosted

variable {terms : SessionTerms} {i : Nat} {call : SessionCall} {session : Nat}

theorem drives_acquire (hdrives : call.drives = true) :
    Drives terms i call (At i fun driver _ _ => Fresh (terms.sessionOwner session) driver)
      (acquireExecutionLease terms session)
      (fun renewing => At i (Acquired (terms.sessionOwner session) renewing)) := by
  have hnone : Drives terms i call
      (At i fun driver _ _ => Fresh (terms.sessionOwner session) driver) (pure false)
      (fun renewing => At i (Acquired (terms.sessionOwner session) renewing)) :=
    drives_done firm_fresh fun _ _ _ h => h.toOffDuty
  unfold acquireExecutionLease
  refine Plainly.bind (drives_ask firm_fresh fun s r s' h => by cases h; rfl) ?_
  intro named
  split
  · exact hnone
  · refine Plainly.bind (drives_load firm_fresh) ?_
    intro run
    cases run with
    | none => exact hnone
    | some run =>
        simp only
        split
        · exact hnone
        · refine Plainly.bind drives_firstAttempt ?_
          intro now
          refine Plainly.bind (drives_claimRecovery hdrives) ?_
          intro claimed
          cases hwritten : StoreOutcome.isWritten claimed.outcome with
          | true =>
              rw [if_pos rfl]
              refine Plainly.bind (Plainly.pre (drives_claimedHosted now rfl) ?_) ?_
              · exact fun _ _ hP => hP.mono fun _ _ _ h => h.2 hwritten
              · exact fun _ => drives_done firm_underLease fun _ _ _ h => h
          | false =>
              rw [if_neg Bool.false_ne_true]
              refine Plainly.bind (Plainly.pre (drives_refusal (terms.sessionOwner session)) ?_) ?_
              · exact fun _ _ hP => hP.mono fun _ _ _ h => h.1
              · exact fun _ => drives_done firm_offDuty fun _ _ _ h => h

theorem drives_renewExecutionLease {owner : String} :
    Drives terms i call (At i (UnderLease owner)) (renewExecutionLease owner)
      (fun _ => At i (UnderLease owner)) := by
  have hdone : ∀ alive : Bool, Drives terms i call (At i (UnderLease owner)) (pure alive)
      (fun _ => At i (UnderLease owner)) :=
    fun _ => drives_done firm_underLease fun _ _ _ h => h
  unfold renewExecutionLease
  refine Plainly.bind (drives_load firm_underLease) ?_
  intro run
  cases run with
  | none => exact hdone false
  | some run =>
      simp only
      split
      · exact hdone false
      · refine Plainly.bind drives_nextAttempt ?_
        intro now
        refine Plainly.bind (drives_renewRecovery (Nat.le_refl _)) ?_
        intro renewal
        exact Plainly.bind drives_renewed fun _ => hdone true

theorem drives_renewRounds {owner : String} (rounds : Nat) :
    Drives terms i call (At i (UnderLease owner)) (renewRounds owner rounds)
      (fun _ => At i (UnderLease owner)) := by
  induction rounds with
  | zero => exact drives_done firm_underLease fun _ _ _ h => h
  | succ n ih =>
      unfold renewRounds
      refine Plainly.bind (drives_renewExecutionLease) ?_
      intro alive
      cases alive with
      | true => exact ih
      | false => exact drives_done firm_underLease fun _ _ _ h => h

theorem drives_releaseExecutionLease :
    Drives terms i call (At i fun driver _ _ => OffDuty (terms.sessionOwner session) driver)
      (releaseExecutionLease session) (fun _ _ => True) := by
  have hdone : Drives terms i call
      (At i fun driver _ _ => OffDuty (terms.sessionOwner session) driver) (pure ())
      (fun _ _ => True) := Plainly.finish firm_offDuty.stable
  unfold releaseExecutionLease
  refine Plainly.bind (drives_takeLeaseOwner firm_offDuty) ?_
  intro owner
  refine Plainly.given (fun s _ hP => hP.1) ?_
  intro hnamed
  refine Plainly.pre ?_ fun _ _ hP => hP.2
  cases owner with
  | none => exact hdone
  | some owner =>
      rw [hnamed owner rfl]
      refine Plainly.bind (drives_load firm_offDuty) ?_
      intro run
      cases run with
      | none => exact hdone
      | some run =>
          simp only
          split
          · exact hdone
          · refine Plainly.bind (drives_ask firm_offDuty fun s r s' h => by cases h; rfl) ?_
            intro now
            refine Plainly.bind ((drives_releaseRecovery _).pre fun _ _ h => h) ?_
            exact fun _ => hdone

theorem drives_attempt {α : Type} {P : SharedRun → Prop} {p : DriverProg α}
    {Q : α → SharedRun → Prop} (h : Drives terms i call P p Q)
    (hQ : ∀ a, (driverContract terms i call).Stable (Q a)) :
    Drives terms i call
      (fun s => At i (fun driver _ _ => driver.owner = call.owner terms i) s ∧ P s)
      (Raising.attempt p)
      (fun r s => At i (fun driver _ _ => driver.owner = call.owner terms i) s ∧
        ∀ a, r = .ok a → Q a s) :=
  (h.attempt hQ).keep kept_named

theorem drives_endTask (howner : call.owner terms i = terms.sessionOwner session) (ending : Ending) :
    Drives terms i call (At i fun driver _ _ => driver.owner = call.owner terms i)
      (endTask session ending) (fun _ _ => True) := by
  have hrelease : Drives terms i call
      (At i fun driver _ _ => OffDuty (call.owner terms i) driver)
      (releaseExecutionLease session) (fun _ _ => True) := by
    rw [howner]
    exact drives_releaseExecutionLease
  cases ending with
  | settled => exact Plainly.bind drives_finishKernel fun _ => hrelease
  | shutDown terminalized =>
      have hload : Drives terms i call (At i fun _ _ _ => True) (calling load)
          (fun _ => At i fun _ _ _ => True) :=
        drives_load ⟨fun _ _ _ _ _ h => h, fun _ _ _ _ _ _ h => h⟩
      refine Plainly.bind ((drives_attempt hload fun _ => ?_).pre ?_) ?_
      · exact Firm.stable ⟨fun _ _ _ _ _ h => h, fun _ _ _ _ _ _ h => h⟩
      · exact fun _ _ hP => ⟨hP, fun _ _ => trivial⟩
      · intro loaded
        refine Plainly.bind (drives_finishKernel.pre fun _ _ hP => hP.1) ?_
        intro _
        match loaded with
        | .error raised => exact Plainly.throw
        | .ok none => exact hrelease
        | .ok (some run) =>
            simp only
            split
            · exact hrelease
            · exact Plainly.finish firm_offDuty.stable

theorem drives_renewals {owner : String} (rounds : Nat) :
    Drives terms i call
      (fun s => At i (fun driver _ _ => driver.owner = call.owner terms i) s ∧
        At i (UnderLease owner) s)
      (Raising.attempt (renewRounds owner rounds))
      (fun r s => At i (fun driver _ _ => driver.owner = call.owner terms i) s ∧
        ∀ alive, r = .ok alive → At i (UnderLease owner) s) :=
  drives_attempt (drives_renewRounds rounds) fun _ => firm_underLease.stable

theorem drives_cutRound {owner : String} (operations : Nat) :
    Drives terms i call
      (fun s => At i (fun driver _ _ => driver.owner = call.owner terms i) s ∧
        At i (UnderLease owner) s)
      (Raising.cancelAfter operations (renewExecutionLease owner))
      (fun _ => At i (fun driver _ _ => driver.owner = call.owner terms i)) :=
  Contract.Raises.cancelAfter (drives_renewExecutionLease) kept_named

theorem drives_driveKernel (hdrives : call.drives = true)
    (howner : call.owner terms i = terms.sessionOwner session) :
    Drives terms i call (At i fun driver _ _ => Fresh (call.owner terms i) driver)
      (driveKernel terms session) (fun _ _ => True) := by
  have hnamed : ∀ s, At i (UnderLease (call.owner terms i)) s →
      At i (fun driver _ _ => driver.owner = call.owner terms i) s := by
    intro s hP
    refine hP.mono fun _ _ _ h => ?_
    obtain ⟨_, hduty, -⟩ := h
    exact hduty.named
  unfold driveKernel
  rw [howner] at hnamed ⊢
  refine Plainly.bind (drives_acquire hdrives) ?_
  intro renewing
  refine Plainly.bind drives_startKernel ?_
  intro flight
  have hend : Drives terms i call
      (At i fun driver _ _ => driver.owner = terms.sessionOwner session)
      (endTask session flight.ending) (fun _ _ => True) := by
    rw [← howner]
    exact drives_endTask howner flight.ending
  cases renewing with
  | false => exact hend.pre fun s _ hP => hP.mono fun _ _ _ h => h.named
  | true =>
      rw [if_pos rfl]
      refine Plainly.bind ((drives_renewals flight.rounds).pre
        fun s _ hP => ⟨howner ▸ hnamed s hP, hP⟩) ?_
      intro result
      rw [howner]
      match result with
      | .ok true =>
          refine Plainly.bind ((drives_cutRound flight.cut).pre
            fun _ _ hP => ⟨howner ▸ hP.1, hP.2 true rfl⟩) ?_
          rw [howner]
          exact fun _ => hend
      | .ok false => exact hend.pre fun _ _ hP => hP.1
      | .error raised => exact hend.pre fun _ _ hP => hP.1

theorem drives_inFlight {body : DriverProg Unit}
    (h : Drives terms i call (At i fun driver _ _ => Fresh (call.owner terms i) driver) body
      (fun _ _ => True)) :
    Drives terms i call (fun s => s.drivers i = none) (inFlight (call.owner terms i) body)
      (fun _ _ => True) := by
  have htrue : (driverContract terms i call).Stable fun _ => True := Contract.Stable.const True
  unfold inFlight
  refine Plainly.bind drives_enter fun _ => ?_
  refine Plainly.bind (h.attempt fun _ => htrue) ?_
  intro result
  refine Plainly.bind ((drives_leave htrue).pre fun _ _ _ => trivial) fun _ => ?_
  cases result with
  | ok => exact Plainly.finish htrue
  | error raised => exact Plainly.throw

theorem drives_prompt (run : OrchestratorRunState) :
    Drives terms i (.prompt session run) (fun s => s.drivers i = none)
      (prompt terms session run) (fun _ _ => True) := by
  refine drives_inFlight ?_
  refine Plainly.bind (drives_ask firm_fresh fun s r s' h => by cases h; rfl) ?_
  intro active
  split
  · exact Plainly.throw
  · refine Plainly.bind (drives_create firm_fresh) ?_
    intro answer
    cases answer with
    | error raised => exact Plainly.throw
    | ok created =>
        simp only
        split
        · exact Plainly.throw
        · split
          · exact Plainly.finish firm_fresh.stable
          · exact drives_driveKernel rfl rfl

theorem drives_continueRun :
    Drives terms i (.continueRun session) (fun s => s.drivers i = none)
      (continueRun terms session) (fun _ _ => True) := by
  refine drives_inFlight ?_
  refine Plainly.bind (drives_load firm_fresh) ?_
  intro run
  cases run with
  | none => exact Plainly.throw
  | some run =>
      simp only
      split
      · exact Plainly.throw
      · exact drives_driveKernel rfl rfl

theorem drives_observeTool :
    Drives terms i (.observeTool session) (fun s => s.drivers i = none)
      (observeTool terms session) (fun _ _ => True) := by
  refine drives_inFlight ?_
  refine Plainly.bind (drives_ask firm_fresh fun s r s' h => by cases h; rfl) ?_
  intro active
  split
  · exact Plainly.throw
  · exact drives_driveKernel rfl rfl

end Hosted

/-! ## Recovery workers -/

section Recovery

variable {terms : SessionTerms} {i : Nat} {call : SessionCall} {owner : String}

theorem drives_retryRenewal (hdrives : call.drives = true) (attempted : Timestamp) (tries : Nat) :
    Drives terms i call (At i fun driver _ _ => OnDuty owner attempted driver)
      (renewRecoveryLease owner false tries) (fun _ => At i (UnderLease owner)) := by
  induction tries with
  | zero => exact Plainly.throw
  | succ tries ih =>
      unfold renewRecoveryLease
      refine Plainly.bind (drives_load firm_onDuty) ?_
      intro current
      cases current with
      | none => exact Plainly.throw
      | some current =>
          simp only
          split
          · exact Plainly.throw
          · rw [if_neg Bool.false_ne_true]
            refine Plainly.bind (drives_look (fun now => attempted ≤ now) firm_onDuty ?_) ?_
            · intro s r s' hs hP hcan hop
              cases hop with
              | now =>
                  obtain ⟨driver, hdriver⟩ := Option.isSome_iff_exists.mp (hcan hdrives)
                  exact ⟨rfl, (hs.ok i driver hdriver).past attempted (hP driver hdriver).since⟩
            · intro now
              refine Plainly.given (fun _ _ hP => hP.1) fun hlater => ?_
              refine Plainly.pre ?_ fun _ _ hP => hP.2
              refine Plainly.bind (drives_renewRecovery
                (Nat.add_le_add_right hlater executionLease)) ?_
              intro renewed
              cases hwritten : StoreOutcome.isWritten renewed.outcome with
              | true =>
                  rw [if_pos rfl]
                  exact drives_done firm_renews fun _ _ _ h => ⟨attempted, h.1, h.2 rfl⟩
              | false =>
                  rw [if_neg Bool.false_ne_true]
                  exact ih.pre fun _ _ hP => hP.mono fun _ _ _ h => h.1

theorem drives_renewRecoveryLease (hdrives : call.drives = true) (tries : Nat) :
    Drives terms i call (At i (UnderLease owner)) (renewRecoveryLease owner true tries)
      (fun _ => At i (UnderLease owner)) := by
  cases tries with
  | zero => exact Plainly.throw
  | succ tries =>
      unfold renewRecoveryLease
      refine Plainly.bind (drives_load firm_underLease) ?_
      intro current
      cases current with
      | none => exact Plainly.throw
      | some current =>
          simp only
          split
          · exact Plainly.throw
          · rw [if_pos trivial]
            refine Plainly.bind drives_nextAttempt ?_
            intro now
            refine Plainly.bind (drives_renewRecovery (Nat.le_refl _)) ?_
            intro renewed
            cases hwritten : StoreOutcome.isWritten renewed.outcome with
            | true =>
                rw [if_pos rfl]
                exact drives_done firm_renews fun _ _ _ h => ⟨now, h.1, h.2 rfl⟩
            | false =>
                rw [if_neg Bool.false_ne_true]
                exact (drives_retryRenewal hdrives now tries).pre
                  fun _ _ hP => hP.mono fun _ _ _ h => h.1

theorem drives_recoveryRounds (hdrives : call.drives = true) (rounds : Nat) :
    Drives terms i call (At i (UnderLease owner)) (recoveryRounds owner rounds)
      (fun _ => At i (UnderLease owner)) := by
  induction rounds with
  | zero => exact drives_done firm_underLease fun _ _ _ h => h
  | succ rounds ih => exact Plainly.bind (drives_renewRecoveryLease hdrives 4) fun _ => ih

theorem drives_executeRecovery (hdrives : call.drives = true) (run : OrchestratorRunState)
    (candidateOwner : Option String) :
    Drives terms i call (At i (UnderLease owner)) (executeRecovery owner run candidateOwner)
      (fun _ _ => True) := by
  unfold executeRecovery
  cases recoveryWork run candidateOwner with
  | error raised => exact Plainly.throw
  | ok work =>
      refine Plainly.bind (drives_ask firm_underLease fun s r s' h => by cases h; rfl) ?_
      intro prepared
      cases prepared with
      | error raised => exact Plainly.throw
      | ok =>
          refine Plainly.bind drives_startRecovery ?_
          intro flight
          refine Plainly.bind (drives_recoveryRounds hdrives flight.rounds) fun _ => ?_
          cases flight.result with
          | error raised => exact Plainly.throw
          | ok => exact Plainly.finish firm_underLease.stable

theorem genericRecoveryFailureDecision_ownerId {claim : RecoveryClaim} {raised : DriverRaised}
    {now : Timestamp} {release : ReleaseRecovery} :
    (genericRecoveryFailureDecision claim raised now release).ownerId = release.ownerId := by
  simp only [genericRecoveryFailureDecision]
  by_cases h : raised = .kernelConflict ∧
      (if raised = .kernelConflict then claim.failureCount + 1 else 0) ≥ 3
  · rw [if_pos h]
  · rw [if_neg h]

theorem drives_releaseRecoveredRun (result : Except DriverRaised Unit) :
    Drives terms i call (At i fun driver _ _ => OffDuty owner driver)
      (releaseRecoveredRun owner result) (fun _ _ => True) := by
  have hdone : Drives terms i call (At i fun driver _ _ => OffDuty owner driver) (pure ())
      (fun _ _ => True) := Plainly.finish firm_offDuty.stable
  unfold releaseRecoveredRun
  refine Plainly.bind (drives_load firm_offDuty) ?_
  intro current
  cases current with
  | none => exact hdone
  | some current =>
      simp only
      split
      · exact hdone
      · refine Plainly.bind (drives_ask firm_offDuty fun s r s' h => by cases h; rfl) ?_
        intro now
        have hreleases : ∀ request : ReleaseRecovery, request.ownerId = owner →
            Drives terms i call (At i fun driver _ _ => OffDuty owner driver)
              (calling (releaseRecovery request)) (fun _ => At i fun driver _ _ =>
                OffDuty owner driver) := by
          rintro request rfl
          exact drives_releaseRecovery request
        refine Plainly.bind (hreleases _ ?_) fun _ => hdone
        cases result with
        | ok => rfl
        | error raised => exact genericRecoveryFailureDecision_ownerId

theorem drives_recoverRun :
    Drives terms i .recover (fun s => s.drivers i = none) (recoverRun terms i)
      (fun _ _ => True) := by
  refine drives_inFlight ?_
  have hfirm := @firm_fresh (SessionCall.owner terms i .recover)
  refine Plainly.bind (drives_load hfirm) ?_
  intro candidate
  cases candidate with
  | none => exact Plainly.finish hfirm.stable
  | some candidate =>
      refine Plainly.bind drives_firstAttempt ?_
      intro claimNow
      refine Plainly.bind (drives_claimRecovery rfl) ?_
      intro claimed
      have hclaims : Firm (Claims (terms.recoveryOwner i) claimNow claimed) :=
        firm_offDuty.and firm_won.imp
      cases claimed.run with
      | none => exact Plainly.finish hclaims.stable
      | some run =>
          simp only
          split
          · exact Plainly.finish hclaims.stable
          · next hwritten =>
              have hwritten : StoreOutcome.isWritten claimed.outcome = true := by
                simpa using hwritten
              refine Plainly.bind (Plainly.pre (drives_claimed (terms.recoveryOwner i) claimNow) ?_) fun _ => ?_
              · exact fun _ _ hP => hP.mono fun _ _ _ h => h.2 hwritten
              · refine Plainly.bind ((drives_attempt
                  (drives_executeRecovery rfl run candidate.recoveryClaim.ownerId)
                  fun _ => Contract.Stable.const True).pre ?_) ?_
                · refine fun s _ hP => ⟨hP.mono fun _ _ _ h => ?_, hP⟩
                  obtain ⟨_, hduty, -⟩ := h
                  exact hduty.named
                · intro result
                  refine Plainly.bind (drives_finishKernel.pre fun _ _ hP => hP.1) fun _ => ?_
                  exact drives_releaseRecoveredRun result

end Recovery

/-! ## Calls that do not execute the Run -/

section Others

variable {terms : SessionTerms} {i : Nat} {call : SessionCall}

/-- Nobody's claim is in the row that the operation writes. -/
def writesUnowned : StoreOp → Prop
  | .upsertLease claim | .insertLease claim => claim.ownerId = none
  | .scheduleLease .. => True
  | op => leavesRow op = true

theorem keeps_unowned {op : StoreOp} (h : writesUnowned op) :
    Keeps terms i call (fun _ _ _ => False) op := by
  intro _ s reply stored hs hP _ houtcome
  -- without a driver only the row has to be looked at
  have hrow : RowStep s (s.store i op stored) (rowWrite op) := by
    cases op with
    | upsertLease claim =>
        rcases mem_conditionalWrite.mp houtcome with
          ⟨-, ⟨-, rfl⟩ | ⟨-, rfl | rfl⟩⟩ | ⟨-, rfl, -⟩
        · exact .canceled claim rfl h
        · exact .canceled claim rfl h
        · exact .kept _ rfl
        · exact .kept _ rfl
    | insertLease claim =>
        cases hlease : s.stored.lease with
        | some row =>
            simp only [StoreOp.outcomes, hlease, List.mem_cons, Prod.mk.injEq, List.not_mem_nil,
              or_false] at houtcome
            rcases houtcome with ⟨-, rfl⟩ | ⟨-, rfl⟩ <;> exact .kept _ rfl
        | none =>
            simp only [StoreOp.outcomes, hlease] at houtcome
            have hfree : ∀ before, s.stored.lease = some before → before.ownerId = none :=
              fun before hbefore => by simp [hlease] at hbefore
            have hwrite : rowWrite (.insertLease claim) = .unowned := by
              simp only [rowWrite, show claim.ownerId = none from h, Option.elim_none]
            rw [hwrite]
            rcases mem_conditionalWrite.mp houtcome with
              ⟨-, ⟨-, rfl⟩ | ⟨-, rfl | rfl⟩⟩ | ⟨-, rfl, -⟩
            · exact .unowned claim rfl h hfree
            · exact .unowned claim rfl h hfree
            · exact .kept _ rfl
            · exact .kept _ rfl
    | scheduleLease due nextAttemptAt =>
        have happlied : s.stored.lease.any (fun row => row.kind == .execution &&
            row.ownerId.isNone && row.quarantinedAt.isNone && row.nextAttemptAt == some due) =
              true → stored = { s.stored with
                lease := s.stored.lease.map ({ · with nextAttemptAt := some nextAttemptAt }) } →
            RowStep s (s.store i (.scheduleLease due nextAttemptAt) stored) .unowned := by
          rintro happlies rfl
          obtain ⟨row, hrow, hcheck⟩ := (Option.any_eq_true _ _).mp happlies
          have hunowned : row.ownerId = none := by
            simp only [Bool.and_eq_true] at hcheck
            simpa using hcheck.1.1.2
          refine .unowned { row with nextAttemptAt := some nextAttemptAt } ?_ hunowned ?_
          · simp [SharedRun.store, hrow]
          · intro before hbefore
            rw [hrow] at hbefore
            cases hbefore
            exact hunowned
        rcases mem_conditionalWrite.mp houtcome with
          ⟨happlies, ⟨-, hstored⟩ | ⟨-, hstored | hstored⟩⟩ | ⟨-, hstored, -⟩
        · exact happlied happlies hstored
        · exact happlied happlies hstored
        · exact .kept _ (by rw [hstored]; rfl)
        · exact .kept _ (by rw [hstored]; rfl)
    | claimLease | updateLease => cases h
    | _ => exact .kept _ (outcomes_lease h houtcome)
  exact ⟨hrow, fun driver hdriver => (hP driver hdriver).elim⟩

theorem drives_unowned {α : Type} {p : StoreProg α}
    (hp : Uses (Keeps terms i call fun _ _ _ => False) p) :
    Drives terms i call (At i fun _ _ _ => False) (calling p)
      (fun _ => At i fun _ _ _ => False) :=
  drives_uses firm_nobody hp

theorem drives_nothing :
    Drives terms i call (At i fun _ _ _ => False) (pure ()) (fun _ _ => True) :=
  Plainly.finish firm_nobody.stable

theorem drives_scheduleRunRecovery (nextAttemptAt : Timestamp) (attempts : Nat) :
    Drives terms i call (At i fun _ _ _ => False) (scheduleRunRecovery nextAttemptAt attempts)
      (fun _ _ => True) := by
  induction attempts with
  | zero => exact Plainly.throw
  | succ attempts ih =>
      unfold scheduleRunRecovery
      refine Plainly.bind (drives_load firm_nobody) ?_
      intro run
      cases run with
      | none => exact Plainly.throw
      | some run =>
          refine Plainly.bind (drives_unowned (uses_scheduleRecovery keeps_reading
            (fun _ => keeps_unowned trivial) fun _ hclaim => keeps_unowned hclaim)) ?_
          intro result
          split
          · exact drives_nothing
          · split
            · exact drives_nothing
            · exact ih

theorem drives_repairCancelingRecovery (now : Timestamp) :
    Drives terms i call (At i fun _ _ _ => False) (repairCancelingRecovery now)
      (fun _ _ => True) := by
  have hreplace : ∀ requestedAt, Drives terms i call (At i fun _ _ _ => False)
      (calling (replaceCancellationRecovery requestedAt)) (fun _ _ => True) :=
    fun _ => (drives_unowned (uses_replaceCancellationRecovery keeps_reading
      (keeps_unowned rfl))).drop
  unfold repairCancelingRecovery
  refine Plainly.bind (drives_uses firm_nobody (uses_findRun keeps_reading)) ?_
  intro document
  cases document with
  | none => exact drives_nothing
  | some document =>
      simp only
      split
      · exact drives_nothing
      · refine Plainly.bind (drives_uses firm_nobody (uses_loadRecoveryClaim keeps_reading)) ?_
        intro row
        cases row with
        | none => exact hreplace _
        | some claim =>
            simp only
            split
            · split
              · exact (drives_uses firm_nobody (uses_mirrorRecoveryClaim keeps_reading)).drop
              · exact drives_nothing
            · exact hreplace _

end Others

/-! ## The system -/

theorem session_proof (terms : SessionTerms) :
    (sessionSystem terms).Proof (DriversInv terms)
      (fun i call => StepBy (call.owner terms i) i) (fun i s => s.drivers i = none)
      (fun _ _ _ _ => True) where
  starts s hidle := by
    refine ⟨⟨?_, ?_, ?_⟩, hidle.drivers⟩
    · intro i j driver other hdriver
      simp [hidle.drivers i] at hdriver
    · intro i driver hdriver
      simp [hidle.drivers i] at hdriver
    · intro session owner hslot
      simp [hidle.leaseOwners session] at hslot
  environment _ _ hs henv := hs.environment henv
  staysFresh i s s' _ hothers _ hnone := by
    rcases hothers with henv | ⟨j, call, hne, hstep⟩
    · cases henv with
      | ticks => simp [hnone]
      | dies k =>
          by_cases hk : i = k
          · subst hk
            simp
          · simp [Function.update_of_ne hk, hnone]
    · exact hstep.none_iff (Ne.symm hne) hnone
  body i call := by
    have hdone : ∀ {p : DriverProg Unit},
        Drives terms i call (fun s => s.drivers i = none) p (fun _ _ => True) →
        ((sessionSystem terms).contract (DriversInv terms)
          (fun i call => StepBy (call.owner terms i) i) i call).Triple
          (fun s => s.drivers i = none ∧ (sessionSystem terms).admits s call) p.run
          (fun _ _ => True) := by
      intro p h
      refine Contract.Triple.conseq h (fun _ _ hP => hP.1) fun _ _ _ _ => trivial
    have hoff : ∀ s : SharedRun, s.drivers i = none → At i (fun _ _ _ => False) s :=
      fun s hnone driver hdriver => by simp [hnone] at hdriver
    refine hdone ?_
    cases call with
    | prompt session run => exact drives_prompt run
    | continueRun session => exact drives_continueRun
    | observeTool session => exact drives_observeTool
    | recover => exact drives_recoverRun
    | checkpoint run expected commandId =>
        refine Plainly.pre ?_ fun s _ hnone => hoff s hnone
        exact Plainly.bind (drives_unowned (uses_casMutate keeps_reading)) fun _ => drives_nothing
    | cancel request =>
        refine Plainly.pre ?_ fun s _ hnone => hoff s hnone
        exact Plainly.bind (drives_unowned (uses_requestCancellation keeps_reading
          (keeps_unowned rfl))) fun _ => drives_nothing
    | repair now =>
        exact (drives_repairCancelingRecovery now).pre fun s _ hnone => hoff s hnone
    | schedule nextAttemptAt =>
        exact (drives_scheduleRunRecovery nextAttemptAt 4).pre fun s _ hnone => hoff s hnone
  staysReturned _ _ _ := Contract.Stable.const True

/-! ## The lease of an executing driver -/

/-- The call executes the Run under a claim that was accepted, its lease attempts have all come
in time and none was refused, and neither a cancellation nor another call with its owner id has
written the row since. -/
structure InCharge (s : SharedRun) (i : Nat) (driver : Driver) : Prop where
  found : s.drivers i = some driver
  leased : driver.leased = true
  executing : driver.executing = true
  timely : driver.lapsed = false
  kept : driver.grip ≠ .displaced
  alone : driver.grip ≠ .contested

def OwnsLease (s : SharedRun) (owner : String) : Prop :=
  ∃ row, s.stored.lease = some row ∧ row.ownerId = some owner ∧
    ∃ expires, row.leaseExpiresAt = some expires ∧ s.clock < expires

/-- The Run, as it is loaded now, has an expired claim of this owner and needs settlement. -/
def NeedsSettlement (s : SharedRun) (owner : String) : Prop :=
  ∃ document, s.stored.run = some document ∧
    let run := overlayClaim document s.stored.lease
    run.recoveryClaim.ownerId = some owner ∧
      run.recoveryClaim.leaseExpiresAt.any (· ≤ s.clock) = true ∧
      interruptedRunNeedsSettlement run.status run.recoveryClaim.ownerId = true

section Leases

variable {terms : SessionTerms} {s : SharedRun} {i j : Nat} {driver other : Driver}

theorem InCharge.held (hs : DriversInv terms s) (h : InCharge s i driver) :
    driver.grip = .held := by
  have hwritten := (hs.ok i driver h.found).leased h.leased h.timely
  cases hgrip : driver.grip with
  | absent => exact absurd hgrip hwritten
  | held => rfl
  | displaced => exact absurd hgrip h.kept
  | contested => exact absurd hgrip h.alone

theorem held_owns (hs : DriversInv terms s) (hdriver : s.drivers i = some driver)
    (hleased : driver.leased = true) (htimely : driver.lapsed = false)
    (hheld : driver.grip = .held) : OwnsLease s driver.owner := by
  have hok := hs.ok i driver hdriver
  obtain ⟨attempted, hattempted⟩ := hok.attempting hleased
  obtain ⟨row, hrow, howner, hexpires⟩ := hok.held hheld
  obtain ⟨expires, hexpires, hlater⟩ := hexpires htimely attempted hattempted
  exact ⟨row, hrow, howner, expires, hexpires,
    Nat.lt_of_le_of_lt (hok.timely htimely attempted hattempted) hlater⟩

theorem InCharge.owns (hs : DriversInv terms s) (h : InCharge s i driver) :
    OwnsLease s driver.owner :=
  held_owns hs h.found h.leased h.timely (h.held hs)

theorem not_needsSettlement (hs : DriversInv terms s) (hdriver : s.drivers i = some driver)
    (hleased : driver.leased = true) (htimely : driver.lapsed = false)
    (halone : driver.grip ≠ .contested) : ¬ NeedsSettlement s driver.owner := by
  rintro ⟨document, -, howner, hexpired, hneeds⟩
  have hok := hs.ok i driver hdriver
  have hrow : ∃ row, s.stored.lease = some row ∧
      (row.ownerId ≠ some driver.owner ∨ OwnsLease s driver.owner) := by
    cases hgrip : driver.grip with
    | absent => exact absurd hgrip (hok.leased hleased htimely)
    | contested => exact absurd hgrip halone
    | held =>
        obtain ⟨row, hrow, -⟩ := hok.held hgrip
        exact ⟨row, hrow, Or.inr (held_owns hs hdriver hleased htimely hgrip)⟩
    | displaced =>
        obtain ⟨row, hrow, hforeign⟩ := hok.displaced hgrip
        exact ⟨row, hrow, Or.inl hforeign⟩
  obtain ⟨row, hrow, hcase⟩ := hrow
  rw [hrow] at howner hexpired hneeds
  simp only [overlayClaim] at howner hexpired hneeds
  split at howner
  · -- a canceling Run is not settled as interrupted
    next hcanceling =>
      simp [hcanceling, interruptedRunNeedsSettlement, activeExecutionStatuses] at hneeds
  · next hlaid =>
      rw [if_neg hlaid] at hexpired
      rcases hcase with hforeign | ⟨row', hrow', -, expires, hexpires, hlater⟩
      · exact hforeign howner
      · rw [hrow] at hrow'
        cases hrow'
        simp [hexpires] at hexpired
        exact absurd hexpired (Nat.not_le.mpr hlater)

end Leases

def driverOutcomes (i : Nat) (s : SharedRun) : (op : DriverOp) → List (op.Res × SharedRun)
  | .enter owner =>
      [((), { s with drivers := Function.update s.drivers i (some { owner := owner }) })]
  | .leaseOwner session => [(s.leaseOwners session, s)]
  | .takeLeaseOwner session =>
      [(s.leaseOwners session,
        { s with leaseOwners := Function.update s.leaseOwners session none })]
  | .taskActive session => [(s.taskActive session, s)]
  | .now => [(s.clock, s)]
  | .attempt =>
      [(s.clock, s.modify i fun driver => { driver with attempted := some s.clock })]
  | .claimed (some session) =>
      (s.drivers i).toList.map fun driver =>
        ((), { s.modify i fun driver => { driver with leased := true } with
          leaseOwners := Function.update s.leaseOwners session (some driver.owner) })
  | .refused => [((), s.modify i fun driver => { driver with attempted := none })]
  | .startKernel session =>
      [(⟨0, 0, .settled⟩,
        { s.modify i fun driver => { driver with executing := true } with
          tasks := Function.update s.tasks session (some i) })]
  | .finishKernel =>
      [((), s.modify i fun driver =>
        { driver with attempted := none, leased := false, executing := false })]
  | _ => []

theorem driverOutcomes_sound {i : Nat} {s s' : SharedRun} {op : DriverOp} {reply : op.Res}
    (h : (reply, s') ∈ driverOutcomes i s op) : op.Outcome i s reply s' := by
  cases op with
  | claimed session =>
      cases session with
      | none => simp [driverOutcomes] at h
      | some session =>
          simp only [driverOutcomes, List.mem_map, Option.mem_toList, Prod.mk.injEq,
            true_and] at h
          obtain ⟨driver, hdriver, rfl⟩ := h
          exact .claimedHosted session driver hdriver
  | leave | renewed | prepareRecovery | startRecovery | create => simp [driverOutcomes] at h
  | _ =>
      cases List.mem_singleton.mp h
      constructor

def acting (call : SessionCall) (s : SharedRun) (i : Nat) : Bool :=
  !call.drives || (s.drivers i).isSome

theorem canStep_of_acting {call : SessionCall} {s : SharedRun} {i : Nat}
    (h : acting call s i = true) (op : StoreOp ⊕ DriverOp) : canStep call s i op := by
  have halive : call.drives = true → (s.drivers i).isSome = true := by
    intro hdrives
    simpa [acting, hdrives] using h
  unfold canStep
  split
  · trivial
  · exact halive

def DriverOp.isEnter : DriverOp → Bool
  | .enter _ => true
  | _ => false

def sessionOutcomes (i : Nat) (call : SessionCall) :
    (op : StoreOp ⊕ DriverOp) → SharedRun → List (DriverRes op × SharedRun)
  | .inl op, s =>
      ((op.outcomes s.stored).map fun (reply, stored) => (reply, s.store i op stored)).filter
        fun _ => acting call s i
  | .inr op, s => (driverOutcomes i s op).filter fun _ => acting call s i || op.isEnter

theorem sessionOutcomes_sound {i : Nat} {call : SessionCall} {op : StoreOp ⊕ DriverOp}
    {s s' : SharedRun} {reply : DriverRes op} (h : (reply, s') ∈ sessionOutcomes i call op s) :
    canStep call s i op ∧ SessionStep i s op reply s' := by
  cases op with
  | inl op =>
      obtain ⟨hmem, hacting⟩ := List.mem_filter.mp h
      obtain ⟨⟨reply, stored⟩, houtcome, heq⟩ := List.mem_map.mp hmem
      cases heq
      exact ⟨canStep_of_acting hacting _, .store houtcome⟩
  | inr op =>
      obtain ⟨hmem, hacting⟩ := List.mem_filter.mp h
      refine ⟨?_, .driver (driverOutcomes_sound hmem)⟩
      by_cases hcall : acting call s i = true
      · exact canStep_of_acting hcall _
      · cases op with
        | enter owner => trivial
        | _ => simp [hcall, DriverOp.isEnter] at hacting

def sessionStepper (terms : SessionTerms) : (sessionSystem terms).Stepper where
  admits _ _ := true
  outcomes := sessionOutcomes
  environment n s := { s with
    clock := s.clock + n
    drivers := fun j => (s.drivers j).map (Driver.tick (s.clock + n)) }
  admits_sound _ _ _ := trivial
  outcomes_sound _ _ _ _ _ _ h := sessionOutcomes_sound h
  environment_sound n _ := .ticks _ (Nat.le_add_right _ n)

def sampleTerms : SessionTerms where
  sessionId session := String.ofList (List.replicate session 's')
  token i := String.ofList (List.replicate i 't')

/-- Two processes host a session of the same Room epoch. -/
def sharedTerms : SessionTerms := { sampleTerms with sessionId := fun _ => "room" }

def idleRun : SharedRun where
  stored := ⟨some sampleRun, none⟩
  clock := 600000
  leaseOwners _ := none
  tasks _ := none
  drivers _ := none

def idleConfig (terms : SessionTerms) : Config (sessionSystem terms) where
  shared := idleRun
  threads := fun _ => .unborn
  returned := []

theorem idleConfig_reachable (terms : SessionTerms) :
    (sessionSystem terms).Reachable (idleConfig terms) :=
  .init _ ⟨⟨fun _ => rfl, fun _ => rfl⟩, fun _ => rfl, rfl⟩

def calls (i : Nat) (outcomes : List Nat) : List (System.Move SessionCall) :=
  outcomes.map (.act i)

def executesUnderLease : List (System.Move SessionCall) :=
  [.start 0 (.continueRun 0)] ++
  calls 0 [0, 0, 0, 0, 0, 0, 0, 0, 0, 0, 0, 0, 0, 0, 0, 1, 0, 0, 0, 0]

def Driver.inCharge (driver : Driver) : Bool :=
  driver.leased && driver.executing && !driver.lapsed && driver.grip != .displaced &&
    driver.grip != .contested

theorem inCharge_of_check {s : SharedRun} {i : Nat} {driver : Driver}
    (hdriver : s.drivers i = some driver) (h : driver.inCharge = true) : InCharge s i driver := by
  simp only [Driver.inCharge, Bool.and_eq_true, Bool.not_eq_true', bne_iff_ne] at h
  exact ⟨hdriver, h.1.1.1.1, h.1.1.1.2, h.1.1.2, h.1.2, h.2⟩

/-- The driver executes the Run in time, and the row is not its unexpired claim. -/
structure Unleased (s : SharedRun) (i : Nat) (driver : Driver) : Prop where
  found : s.drivers i = some driver
  executing : driver.executing = true
  timely : driver.lapsed = false
  unowned : ¬ OwnsLease s driver.owner

def unleased (check : Driver → Bool) (i : Nat) (s : SharedRun) : Bool :=
  (s.drivers i).any fun driver => driver.executing && !driver.lapsed &&
    s.stored.leaseOwner != some driver.owner && check driver

theorem unleased_of_check {check : Driver → Bool} {i : Nat} {s : SharedRun}
    (h : unleased check i s = true) : ∃ driver, Unleased s i driver ∧ check driver = true := by
  obtain ⟨driver, hdriver, h⟩ := (Option.any_eq_true _ _).mp h
  simp only [Bool.and_eq_true, Bool.not_eq_true', bne_iff_ne] at h
  obtain ⟨⟨⟨hexecuting, htimely⟩, hnot⟩, hcheck⟩ := h
  refine ⟨driver, ⟨hdriver, hexecuting, htimely, ?_⟩, hcheck⟩
  rintro ⟨row, hrow, howner, -⟩
  exact hnot (by rw [leaseOwner_of_lease hrow, howner])

/-- The second session is refused while the first executes, and starts the kernel. -/
def executesWhenRefused : List (System.Move SessionCall) :=
  executesUnderLease ++ [.start 1 (.continueRun 1)] ++ calls 1 (List.replicate 11 0)

/-- An observation enters while the call before still names its lease, which it then releases. -/
def executesWhenReleased : List (System.Move SessionCall) :=
  executesUnderLease ++ calls 0 [0] ++ [.start 1 (.observeTool 0)] ++
  calls 1 (List.replicate 4 0) ++ calls 0 (List.replicate 7 0)

def canceledMeanwhile : List (System.Move SessionCall) :=
  executesUnderLease ++ [.start 1 (.cancel ⟨1, ⟨"cancel", ["run"]⟩, .userRequested, 500000⟩)] ++
  calls 1 [0, 0, 0, 0, 1, 0, 0, 0, 0, 0]

/-- A release stalls until its claim has expired; it then takes the claim of the next session. -/
def releasedLate : List (System.Move SessionCall) :=
  executesUnderLease ++ calls 0 (List.replicate 7 0) ++
  [.environment 70000, .start 1 (.continueRun 1)] ++
  calls 1 [0, 0, 0, 0, 0, 0, 0, 0, 0, 0, 0, 0, 0, 1, 0, 0, 0, 0] ++ calls 0 [0]

end Hybro.Sessions
