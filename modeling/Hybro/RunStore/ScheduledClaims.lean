import Hybro.RunStore.OutboxRules
import Hybro.RunStore.SoundRuns

/-! # Claims of scheduled Runs

`claim_recovery` with `allow_scheduled`, on documents that no one else touches meanwhile. The
Run that was loaded may be scheduled for later, but the dedicated row is tested again, and a
row that is not due is refused there.
-/

namespace Hybro.RunStore

open Orchestrator Interleaving

/-! ## A call alone -/

/-- The replies of a healthy database that no one else writes to. -/
def StoreOp.undisturbed : (op : StoreOp) → op.Res → Bool
  | .findRun, .unavailable | .findLease, .unavailable | .listDueIntents _ _, .unavailable
  | .afterProject _ _, .unavailable => false
  | .replaceRun _ _, .unavailable | .mirrorClaim _, .unavailable | .claimLease _ _, .unavailable
  | .updateLease _ _, .unavailable | .scheduleLease _ _, .unavailable
  | .insertLease _, .unavailable | .upsertLease _, .unavailable => false
  -- no other Run owns the indexed values of this one
  | .replaceRun _ _, .duplicateKey => false
  | _, _ => true

/-- The result of a call that runs alone, and the documents it leaves; none when it raises. -/
def alone {α : Type} : StoreProg α → Stored → Option (α × Stored)
  | .done a, stored => some (a, stored)
  | .act op next, stored =>
      match (op.outcomes stored).find? fun outcome => op.undisturbed outcome.1 with
      | none => none
      | some (reply, after) => alone (next reply) after

/-- Both the row and the Run belong to the owner whose claim was accepted. -/
def claimTaken (ownerId : String) (request : ClaimRecovery) (stored : Stored) : Bool :=
  (alone (claimRecovery ownerId request) stored).any fun (result, after) =>
    result.outcome == .accepted && after.leaseOwner == some ownerId &&
      after.run.any (·.recoveryClaim.ownerId == some ownerId)

section Alone

variable {α β : Type} {stored : Stored}

theorem alone_bind (p : StoreProg α) (f : α → StoreProg β) (stored : Stored) :
    alone (p >>= f) stored = (alone p stored).bind fun result => alone (f result.1) result.2 := by
  induction p generalizing stored with
  | done a => rfl
  | act op next ih =>
      change alone (.act op fun reply => next reply >>= f) stored = _
      simp only [alone]
      cases (op.outcomes stored).find? fun outcome => op.undisturbed outcome.1 with
      | none => rfl
      | some outcome => exact ih outcome.1 outcome.2

@[simp] theorem alone_raise (message : String) : alone (raise (α := α) message) stored = none :=
  rfl

@[simp] theorem alone_findRun : alone findRun stored = some (stored.run, stored) := rfl

@[simp] theorem alone_loadRecoveryClaim :
    alone loadRecoveryClaim stored = some (stored.lease, stored) := rfl

theorem alone_validated_of_sound {run : OrchestratorRunState} (hvalid : run.Valid)
    (hpaired : Paired run.recoveryClaim) : alone (validated run) stored = some (run, stored) := by
  have hrun : aggregateIdentityAndUniqueness run = .ok () :=
    aggregateIdentityAndUniqueness_eq_ok.mpr hvalid
  simp only [validated, alone_bind, checked, hrun]
  rw [show quarantineFieldsArePaired run.recoveryClaim = .ok () from hpaired]
  rfl

theorem alone_validated_of_not_valid {run : OrchestratorRunState} (hvalid : ¬ run.Valid) :
    alone (validated run) stored = none := by
  rw [← aggregateIdentityAndUniqueness_eq_ok] at hvalid
  simp only [validated, alone_bind]
  cases quarantineFieldsArePaired run.recoveryClaim with
  | error message => rfl
  | ok value =>
      cases hrun : aggregateIdentityAndUniqueness run with
      | error message => rfl
      | ok value => exact absurd hrun hvalid

end Alone

/-! ## Loading -/

/-- The Run as `load` presents it. -/
def Stored.loaded (stored : Stored) : Option OrchestratorRunState :=
  stored.run.map (overlayClaim · stored.lease)

theorem SoundRun.overlay {document : OrchestratorRunState} {row : Option RecoveryClaim}
    (h : SoundRun document) (hrow : ∀ claim, row = some claim → Paired claim) :
    SoundRun (overlayClaim document row) := by
  cases row with
  | none => exact h
  | some claim =>
      simp only [overlayClaim]
      split
      · exact h
      · next hlags =>
          refine h.mirror (hrow claim rfl) fun hcanceling => ?_
          by_contra hkind
          exact hlags ⟨hcanceling, hkind⟩

theorem alone_load {stored : Stored} (h : SoundStored stored) :
    alone load stored = some (stored.loaded, stored) := by
  cases hrun : stored.run with
  | none => simp [load, alone_bind, hrun, Stored.loaded, alone, pure]
  | some document =>
      have hsound := (h.run document hrun).overlay h.lease
      simp [load, alone_bind, hrun, Stored.loaded, alone, pure,
        alone_validated_of_sound hsound.valid hsound.paired]

/-! ## The dedicated lease -/

/-- There is no row, or the row is due by itself. -/
def Stored.leaseIsDue (stored : Stored) (claimedAt : Timestamp) : Prop :=
  ∀ row, stored.lease = some row → recoveryClaimIsDue row claimedAt = true

def acquiredClaim (ownerId : String) (leaseExpiresAt : Timestamp) (row : Option RecoveryClaim) :
    RecoveryClaim :=
  { row.getD {} with
    ownerId := some ownerId, leaseExpiresAt := some leaseExpiresAt, nextAttemptAt := none }

theorem claimable_of_due {row : RecoveryClaim} {claimedAt : Timestamp}
    (h : recoveryClaimIsDue row claimedAt = true) : claimable row claimedAt = true := by
  simp only [recoveryClaimIsDue, claimable, Bool.and_eq_true, Bool.or_eq_true] at h ⊢
  exact ⟨h.1, Or.inr h.2⟩

theorem acquiredClaim_paired {ownerId : String} {leaseExpiresAt claimedAt : Timestamp}
    {stored : Stored} (h : SoundStored stored) (hdue : stored.leaseIsDue claimedAt) :
    Paired (acquiredClaim ownerId leaseExpiresAt stored.lease) := by
  cases hrow : stored.lease with
  | none => rfl
  | some row =>
      have hfree := hdue row hrow
      simp only [recoveryClaimIsDue, Bool.and_eq_true, Option.isNone_iff_eq_none] at hfree
      exact paired_owner (h.lease row hrow) hfree.1.1 _ _ _

theorem alone_claimDedicated_of_due {ownerId : String} {leaseExpiresAt claimedAt : Timestamp}
    {stored : Stored} (h : stored.leaseIsDue claimedAt) :
    alone (claimDedicatedRecoveryLease ownerId leaseExpiresAt claimedAt) stored =
      some (some (acquiredClaim ownerId leaseExpiresAt stored.lease),
        { stored with lease := some (acquiredClaim ownerId leaseExpiresAt stored.lease) }) := by
  cases hrow : stored.lease with
  | none =>
      simp [claimDedicatedRecoveryLease, alone_bind, hrow, alone, StoreOp.outcomes, answers,
        conditionalWrite, StoreOp.undisturbed, insertRecoveryLease, acquiredClaim]
  | some row =>
      have hdue := h row hrow
      simp [claimDedicatedRecoveryLease, alone_bind, hrow, hdue, alone, StoreOp.outcomes,
        conditionalWrite, StoreOp.undisturbed, acquiredClaim, claimable_of_due hdue]

theorem alone_claimDedicated_of_not_due {ownerId : String} {leaseExpiresAt claimedAt : Timestamp}
    {stored : Stored} (h : ¬ stored.leaseIsDue claimedAt) :
    alone (claimDedicatedRecoveryLease ownerId leaseExpiresAt claimedAt) stored =
      some (none, stored) := by
  simp only [Stored.leaseIsDue, not_forall] at h
  obtain ⟨row, hrow, hdue⟩ := h
  simp [claimDedicatedRecoveryLease, alone_bind, hrow, hdue, alone, pure]

/-! ## The version-fenced mutation -/

theorem overlayClaim_same (document : OrchestratorRunState) (row : Option RecoveryClaim) :
    ∃ claim, overlayClaim document row = { document with recoveryClaim := claim } := by
  cases row with
  | none => exact ⟨document.recoveryClaim, rfl⟩
  | some claim =>
      simp only [overlayClaim]
      split
      · exact ⟨document.recoveryClaim, rfl⟩
      · exact ⟨claim, rfl⟩

@[simp] theorem overlayClaim_stateVersion (document : OrchestratorRunState)
    (row : Option RecoveryClaim) :
    (overlayClaim document row).stateVersion = document.stateVersion := by
  obtain ⟨claim, heq⟩ := overlayClaim_same document row
  rw [heq]

@[simp] theorem overlayClaim_status (document : OrchestratorRunState)
    (row : Option RecoveryClaim) : (overlayClaim document row).status = document.status := by
  obtain ⟨claim, heq⟩ := overlayClaim_same document row
  rw [heq]

@[simp] theorem overlayClaim_processedCommandIds (document : OrchestratorRunState)
    (row : Option RecoveryClaim) :
    (overlayClaim document row).processedCommandIds = document.processedCommandIds := by
  obtain ⟨claim, heq⟩ := overlayClaim_same document row
  rw [heq]

theorem withCommand_same (run : OrchestratorRunState) (commandId : CommandId) :
    ∃ commands, withCommand run commandId = { run with processedCommandIds := commands } := by
  unfold withCommand
  split
  · exact ⟨run.processedCommandIds, rfl⟩
  · exact ⟨_, rfl⟩

theorem SoundRun.next {run : OrchestratorRunState} (h : SoundRun run) {commandId : CommandId} :
    (withCommand { run with stateVersion := run.stateVersion + 1 } commandId).Valid := by
  have hvalid := h.valid
  have hnext : ({ run with stateVersion := run.stateVersion + 1 } : OrchestratorRunState).Valid := by
    refine ⟨⟨hvalid.batchMessageIdsUnique, hvalid.callIdsUnique, hvalid.artifactRefsUnique,
      hvalid.commandIdsUnique, hvalid.intentIdsUnique, hvalid.publicCallIdsUnique,
      hvalid.cancellation, hvalid.acceptedArePublic, hvalid.offsetMatchesText⟩, ?_⟩
    intro hterminal
    have hclosed := hvalid.terminalClosed hterminal
    exact ⟨hclosed.inactive, hclosed.entriesTerminal, hclosed.batchesFlushed⟩
  unfold withCommand
  split
  · exact hnext
  · next hfresh =>
      refine ⟨⟨hnext.batchMessageIdsUnique, hnext.callIdsUnique, hnext.artifactRefsUnique,
        ?_, hnext.intentIdsUnique, hnext.publicCallIdsUnique, hnext.cancellation,
        hnext.acceptedArePublic, hnext.offsetMatchesText⟩, ?_⟩
      · refine List.Nodup.append hnext.commandIdsUnique (List.nodup_singleton commandId) ?_
        intro command hmem hcommand
        rw [List.mem_singleton.mp hcommand] at hmem
        exact hfresh hmem
      · intro hterminal
        have hclosed := hnext.terminalClosed hterminal
        exact ⟨hclosed.inactive, hclosed.entriesTerminal, hclosed.batchesFlushed⟩

theorem alone_casMutate {stored : Stored} (current run : OrchestratorRunState)
    (commandId : CommandId) (h : SoundStored stored) (hcurrent : stored.loaded = some current)
    (hfresh : commandId ∉ current.processedCommandIds)
    (hversion : run.stateVersion = current.stateVersion + 1)
    (hvalid : (withCommand run commandId).Valid) (hpaired : Paired run.recoveryClaim)
    (hallowed : cancellationTransitionAllowed current (withCommand run commandId) = true) :
    alone (casMutate run current.stateVersion commandId) stored =
      alone (mirrorAfterReplace (withCommand run commandId))
        { stored with run := some (withCommand run commandId) } := by
  obtain ⟨document, hdocument, hoverlay⟩ := Option.map_eq_some_iff.mp hcurrent
  have hstored : document.stateVersion = current.stateVersion := by
    rw [← hoverlay, overlayClaim_stateVersion]
  have hcandidate : alone (validated (withCommand run commandId)) stored =
      some (withCommand run commandId, stored) := by
    refine alone_validated_of_sound hvalid ?_
    rw [withCommand_recoveryClaim]
    exact hpaired
  simp [casMutate, alone_bind, alone_load h, hcurrent, hfresh, hversion, hcandidate, hallowed,
    replaceRun, alone, StoreOp.outcomes, conditionalWrite, StoreOp.undisturbed, hdocument, hstored]

theorem alone_casMutate_of_not_valid {stored : Stored} (current : OrchestratorRunState)
    {run : OrchestratorRunState} {commandId : CommandId} (h : SoundStored stored) (hcurrent : stored.loaded = some current)
    (hfresh : commandId ∉ current.processedCommandIds)
    (hversion : run.stateVersion = current.stateVersion + 1)
    (hvalid : ¬ (withCommand run commandId).Valid) :
    alone (casMutate run current.stateVersion commandId) stored = none := by
  simp [casMutate, alone_bind, alone_load h, hcurrent, hfresh, hversion,
    alone_validated_of_not_valid hvalid]

theorem alone_mirrorAfterReplace {stored : Stored} {candidate : OrchestratorRunState}
    (hrun : stored.run = some candidate) (hlease : stored.lease = some candidate.recoveryClaim) :
    alone (mirrorAfterReplace candidate) stored =
      some (⟨.accepted, some candidate⟩, stored) := by
  have hmirror : alone (mirrorRecoveryClaim candidate.recoveryClaim) stored = some ((), stored) := by
    have hsame : ({ stored with
        run := stored.run.map ({ · with recoveryClaim := candidate.recoveryClaim }) } : Stored) =
        stored := by
      cases stored
      cases hrun
      rfl
    unfold mirrorRecoveryClaim
    simp only [alone, StoreOp.outcomes, hsame]
    cases (stored.run.any fun run =>
        candidate.recoveryClaim.kind == .cancellation || run.status != .canceling) with
    | true => simp [conditionalWrite, StoreOp.undisturbed, alone]
    | false => simp [conditionalWrite, StoreOp.undisturbed, alone]
  by_cases hkind : candidate.recoveryClaim.kind = .execution
  · simp [mirrorAfterReplace, alone_bind, hlease, hkind, hmirror, alone, pure]
  · simp [mirrorAfterReplace, alone_bind, hlease, hkind, alone, pure]

/-! ## The claim -/

section Claim

variable {stored : Stored} {document : OrchestratorRunState} {ownerId : String}
  {request : ClaimRecovery}

/-- A request for the version that is there, with a lease that outlasts the claim. -/
structure ClaimRecovery.Fits (request : ClaimRecovery) (document : OrchestratorRunState) : Prop where
  scheduled : request.allowScheduled = true
  version : request.expectedStateVersion = document.stateVersion
  expires : request.claimedAt < request.leaseExpiresAt

theorem claim_transition (row : Option RecoveryClaim) (claim : RecoveryClaim) (version : Nat)
    (commandId : CommandId) :
    cancellationTransitionAllowed (overlayClaim document (some claim))
      (withCommand { overlayClaim document row with
        recoveryClaim := claim, stateVersion := version } commandId) = true := by
  obtain ⟨first, hfirst⟩ := overlayClaim_same document (some claim)
  obtain ⟨second, hsecond⟩ := overlayClaim_same document row
  rw [hfirst, hsecond]
  obtain ⟨commands, hcommands⟩ := withCommand_same
    { document with recoveryClaim := claim, stateVersion := version } commandId
  rw [hcommands]
  by_cases hcanceling : document.status = .canceling
  · simp [cancellationTransitionAllowed, hcanceling]
  · simp [cancellationTransitionAllowed, hcanceling]

/-- The rest of `claim_recovery`, with the row that was acquired. -/
def claimAcquired (ownerId : String) (run : OrchestratorRunState) :
    Option RecoveryClaim → StoreProg MongoRunStoreResult
  | none => do
      let latest ← load
      return ⟨.conflict, latest⟩
  | some acquired => do
      let claimed ← casMutate
        { run with recoveryClaim := acquired, stateVersion := run.stateVersion + 1 }
        run.stateVersion (claimCommand ownerId run.stateVersion)
      if claimed.outcome ≠ .accepted ∧ claimed.outcome ≠ .replayed then
        rollBackClaim ownerId run claimed
      else
        return claimed

theorem alone_claimRecovery (h : SoundStored stored) (hdocument : stored.run = some document)
    (hunowned : (overlayClaim document stored.lease).recoveryClaim.ownerId = none)
    (hfits : request.Fits document) :
    alone (claimRecovery ownerId request) stored =
      (alone (claimDedicatedRecoveryLease ownerId request.leaseExpiresAt request.claimedAt)
        stored).bind fun acquired =>
          alone (claimAcquired ownerId (overlayClaim document stored.lease) acquired.1)
            acquired.2 := by
  have hloaded : stored.loaded = some (overlayClaim document stored.lease) := by
    simp [Stored.loaded, hdocument]
  have hexpires : ¬ request.leaseExpiresAt ≤ request.claimedAt := Nat.not_le.mpr hfits.expires
  simp only [claimRecovery, alone_bind, alone_load h, hloaded, Option.bind_some]
  simp only [overlayClaim_stateVersion, hfits.version, hunowned, hfits.scheduled, hexpires]
  simp only [ne_eq, not_true, Option.isSome_none, Bool.false_eq_true, false_and, or_self, if_false,
    Bool.not_true, alone_bind]
  congr 1
  funext acquired
  unfold claimAcquired
  simp only [overlayClaim_stateVersion]
  rfl

def Stored.rowFollows (stored : Stored) (document : OrchestratorRunState) : Prop :=
  document.status = .canceling → stored.leaseKind = some .cancellation

theorem acquiredClaim_kind (leaseExpiresAt : Timestamp) :
    (acquiredClaim ownerId leaseExpiresAt stored.lease).kind = .cancellation ↔
      stored.leaseKind = some .cancellation := by
  cases hrow : stored.lease with
  | none => simp [acquiredClaim, Stored.leaseKind, hrow]
  | some row => simp [acquiredClaim, Stored.leaseKind, hrow]

theorem alone_claimAcquired (ownerId : String) (h : SoundStored stored) (hdocument : stored.run = some document)
    (hdue : stored.leaseIsDue request.claimedAt) (hfollows : stored.rowFollows document) :
    let acquired := acquiredClaim ownerId request.leaseExpiresAt stored.lease
    ∃ candidate : OrchestratorRunState, candidate.recoveryClaim = acquired ∧
      alone (claimAcquired ownerId (overlayClaim document stored.lease) (some acquired))
          { stored with lease := some acquired } =
        some (⟨.accepted, some candidate⟩, ⟨some candidate, some acquired⟩) := by
  intro acquired
  have hpaired : Paired acquired := acquiredClaim_paired h hdue
  have hsound := (h.run document hdocument).overlay h.lease
  have hmirror : SoundRun { overlayClaim document stored.lease with recoveryClaim := acquired } := by
    refine hsound.mirror hpaired fun hcanceling => ?_
    rw [overlayClaim_status] at hcanceling
    exact (acquiredClaim_kind request.leaseExpiresAt).mpr (hfollows hcanceling)
  have hfresh : claimCommand ownerId document.stateVersion ∉ document.processedCommandIds := by
    intro hmem
    exact Nat.lt_irrefl _ ((h.run document hdocument).claimsPast ownerId document.stateVersion hmem)
  generalize hcandidate : withCommand { overlayClaim document stored.lease with
    recoveryClaim := acquired, stateVersion := document.stateVersion + 1 }
    (claimCommand ownerId document.stateVersion) = candidate
  have hclaim : candidate.recoveryClaim = acquired := by
    rw [← hcandidate, withCommand_recoveryClaim]
  have hwrite := alone_casMutate (overlayClaim document (some acquired))
    { overlayClaim document stored.lease with
      recoveryClaim := acquired, stateVersion := document.stateVersion + 1 }
    (claimCommand ownerId document.stateVersion) (h.withLease hpaired) (by simp [Stored.loaded, hdocument]) (by simpa using hfresh)
    (by simp) (by simpa using hmirror.next) hpaired (claim_transition _ _ _ _)
  refine ⟨candidate, hclaim, ?_⟩
  rw [hcandidate, alone_mirrorAfterReplace rfl (by rw [hclaim])] at hwrite
  simp only [overlayClaim_stateVersion] at hwrite
  simp only [claimAcquired, alone_bind, overlayClaim_stateVersion, hwrite]
  simp [alone, pure]

/-- Without its row, the claim of a canceling Run is no cancellation, and no valid Run. -/
theorem alone_claimAcquired_of_not_follows (ownerId : String) (h : SoundStored stored)
    (hdocument : stored.run = some document) (hdue : stored.leaseIsDue request.claimedAt)
    (hfollows : ¬ stored.rowFollows document) :
    let acquired := acquiredClaim ownerId request.leaseExpiresAt stored.lease
    alone (claimAcquired ownerId (overlayClaim document stored.lease) (some acquired))
      { stored with lease := some acquired } = none := by
  intro acquired
  have hpaired : Paired acquired := acquiredClaim_paired h hdue
  simp only [Stored.rowFollows, Classical.not_imp] at hfollows
  obtain ⟨hcanceling, hkind⟩ := hfollows
  have hfresh : claimCommand ownerId document.stateVersion ∉ document.processedCommandIds := by
    intro hmem
    exact Nat.lt_irrefl _ ((h.run document hdocument).claimsPast ownerId document.stateVersion hmem)
  have hinvalid : ¬ (withCommand { overlayClaim document stored.lease with
      recoveryClaim := acquired, stateVersion := document.stateVersion + 1 }
      (claimCommand ownerId document.stateVersion)).Valid := by
    intro hvalid
    have hcancellation := (hvalid.cancellation.1 (by simpa using hcanceling)).2.2.2
    rw [withCommand_recoveryClaim] at hcancellation
    exact hkind ((acquiredClaim_kind request.leaseExpiresAt).mp hcancellation)
  have hwrite := alone_casMutate_of_not_valid (overlayClaim document (some acquired))
    (h.withLease hpaired) (by simp [Stored.loaded, hdocument]) (by simpa using hfresh) (by simp) hinvalid
  simp only [overlayClaim_stateVersion] at hwrite
  simp only [claimAcquired, alone_bind, overlayClaim_stateVersion, hwrite]
  rfl

theorem claimTaken_iff (h : SoundStored stored) (hdocument : stored.run = some document)
    (hunowned : (overlayClaim document stored.lease).recoveryClaim.ownerId = none)
    (hfits : request.Fits document) :
    claimTaken ownerId request stored = true ↔
      stored.leaseIsDue request.claimedAt ∧ stored.rowFollows document := by
  unfold claimTaken
  rw [alone_claimRecovery h hdocument hunowned hfits]
  by_cases hdue : stored.leaseIsDue request.claimedAt
  · rw [alone_claimDedicated_of_due hdue]
    by_cases hfollows : stored.rowFollows document
    · obtain ⟨candidate, hclaim, htaken⟩ :=
        alone_claimAcquired ownerId h hdocument hdue hfollows
      simp only [Option.bind_some, htaken]
      simp [hdue, hfollows, hclaim, Stored.leaseOwner, acquiredClaim]
    · have hraised :=
        alone_claimAcquired_of_not_follows ownerId h hdocument hdue hfollows
      simp [hraised, hdue, hfollows]
  · have hconflict : ∀ run : OrchestratorRunState,
        alone (claimAcquired ownerId run none) stored = some (⟨.conflict, stored.loaded⟩, stored) := by
      intro run
      simp [claimAcquired, alone_bind, alone_load h, alone, pure]
    simp [alone_claimDedicated_of_not_due hdue, hconflict, hdue]

end Claim

/-- In every state that the calls can reach, the claim of an unowned Run that is not
quarantined takes it exactly when its row is due and follows a cancellation. -/
theorem scheduled_claim {cfg : Config storeSystem} (hreach : storeSystem.Reachable cfg)
    {document : OrchestratorRunState} (hdocument : cfg.shared.stored.run = some document)
    (hunowned :
      (overlayClaim document cfg.shared.stored.lease).recoveryClaim.ownerId = none)
    (ownerId : String) {request : ClaimRecovery} (hfits : request.Fits document) :
    claimTaken ownerId request cfg.shared.stored = true ↔
      cfg.shared.stored.leaseIsDue request.claimedAt ∧
        cfg.shared.stored.rowFollows document :=
  claimTaken_iff (storeSystem_sound hreach) hdocument hunowned hfits

/-! ## A dormant Run -/

def storeStepper : storeSystem.Stepper where
  admits _ c :=
    match c with
    | .cancel request => request.commandId.label != "claim"
    | .mutate _ _ => false
    | _ => true
  outcomes i c op s := s.outcomes i c op
  environment n s := { s with clock := s.clock + n }
  admits_sound := by
    intro s c h
    cases c with
    | cancel request => exact bne_iff_ne.mp h
    | mutate update commandId => cases h
    | claim ownerId request => trivial
    | renew request => trivial
    | release request => trivial
    | schedule request => trivial
    | repair now => trivial
  outcomes_sound := fun _ _ _ _ _ _ h => Database.outcomes_executes h
  environment_sound := fun n s => ⟨rfl, Nat.le_add_right _ n, rfl⟩

theorem sampleRun_sound : SoundRun sampleRun where
  valid := aggregateIdentityAndUniqueness_eq_ok.mp (by decide)
  paired := rfl
  claimsPast := fun _ _ hmem => nomatch hmem

def createdConfig : Config storeSystem where
  shared := ⟨⟨some sampleRun, none⟩, 600000, []⟩
  threads := fun _ => .unborn
  returned := []

theorem createdConfig_reachable : storeSystem.Reachable createdConfig := by
  refine .init _ ⟨⟨rfl, ?_⟩, fun _ => rfl, rfl⟩
  intro run hrun
  cases hrun
  exact sampleRun_sound

def claimThenRelease : List (System.Move StoreCall) :=
  [.start 0 (.claim "worker" ⟨0, 700000, 600000, false⟩)] ++
  [0, 0, 0, 0, 0, 0, 0, 0, 1, 0, 0].map (.act 0) ++
  [.finish 0, .start 1 (.release ⟨1, "worker", some 900000, 0, none, none⟩)] ++
  [0, 0, 0, 0, 0, 1, 0, 0].map (.act 1) ++ [.finish 1]

def dormant (stored : Stored) : Bool :=
  stored.run.any fun document =>
    let claim := (overlayClaim document stored.lease).recoveryClaim
    !document.status.isTerminal && claim.ownerId.isNone && claim.quarantinedAt.isNone &&
      document.stateVersion == 2 && document.status != .canceling

theorem dormant_reachable : ∃ cfg, storeSystem.Reachable cfg ∧ dormant cfg.shared.stored = true ∧
    cfg.shared.stored.lease = some { nextAttemptAt := some 900000 } := by
  obtain ⟨cfg, hreach, hcheck⟩ := System.Stepper.exists_of_play storeStepper claimThenRelease
    (fun cfg => dormant cfg.shared.stored &&
      cfg.shared.stored.lease == some { nextAttemptAt := some 900000 })
    createdConfig_reachable (by decide +kernel)
  simp only [Bool.and_eq_true, beq_iff_eq] at hcheck
  exact ⟨cfg, hreach, hcheck⟩

theorem scheduled_claim_dormant : ∃ cfg, storeSystem.Reachable cfg ∧
    claimTaken "driver" ⟨2, 990000, 950000, true⟩ cfg.shared.stored = true := by
  obtain ⟨cfg, hreach, hdormant, hlease⟩ := dormant_reachable
  obtain ⟨document, hdocument, hchecks⟩ := (Option.any_eq_true _ _).mp hdormant
  simp only [Bool.and_eq_true, Option.isNone_iff_eq_none, beq_iff_eq, bne_iff_ne] at hchecks
  obtain ⟨⟨⟨⟨-, hunowned⟩, -⟩, hversion⟩, hstatus⟩ := hchecks
  have hfits : ClaimRecovery.Fits ⟨2, 990000, 950000, true⟩ document :=
    ⟨rfl, hversion.symm, by decide⟩
  refine ⟨cfg, hreach, ?_⟩
  refine (scheduled_claim hreach hdocument hunowned "driver" hfits).mpr ⟨?_, ?_⟩
  · intro row hrow
    rw [hlease] at hrow
    cases hrow
    decide
  · exact fun hcanceling => absurd hcanceling hstatus

/-- Before the release's next attempt, the row of the dormant Run is refused to a driver. -/
theorem scheduled_claim_refused :
    ¬ ∀ (cfg : Config storeSystem) (document : OrchestratorRunState) (ownerId : String)
        (request : ClaimRecovery), storeSystem.Reachable cfg →
      cfg.shared.stored.run = some document → document.status.isTerminal = false →
      (overlayClaim document cfg.shared.stored.lease).recoveryClaim.ownerId = none →
      (overlayClaim document cfg.shared.stored.lease).recoveryClaim.quarantinedAt = none →
      request.Fits document → claimTaken ownerId request cfg.shared.stored = true := by
  intro h
  obtain ⟨cfg, hreach, hdormant, hlease⟩ := dormant_reachable
  obtain ⟨document, hdocument, hchecks⟩ := (Option.any_eq_true _ _).mp hdormant
  simp only [Bool.and_eq_true, Option.isNone_iff_eq_none, beq_iff_eq, bne_iff_ne,
    Bool.not_eq_true'] at hchecks
  obtain ⟨⟨⟨⟨hopen, hunowned⟩, hfree⟩, hversion⟩, -⟩ := hchecks
  have hfits : ClaimRecovery.Fits ⟨2, 800000, 700000, true⟩ document :=
    ⟨rfl, hversion.symm, by decide⟩
  have htaken := h cfg document "driver" _ hreach hdocument hopen hunowned hfree hfits
  have hdue := ((claimTaken_iff (storeSystem_sound hreach) hdocument hunowned hfits).mp htaken).1
  have hrow := hdue _ hlease
  exact absurd hrow (by decide)

end Hybro.RunStore
