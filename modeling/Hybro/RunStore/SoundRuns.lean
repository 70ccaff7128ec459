import Hybro.Library.Sending
import Hybro.RunStore.StoreRules

/-! # Stored Runs are sound

The recovery operations of the store together with the mutations of the kernel. Whatever
they do to the two documents, the Run passes its validator, quarantine fields are paired,
and a claim command that was processed belongs to an earlier version.
-/

namespace Hybro.RunStore

open Orchestrator Interleaving

/-! ## The system -/

/-- `repair_canceling_recovery` for one canceling document. -/
def repairCancelingRun (now : Timestamp) : StoreProg Unit := do
  match ← findRun with
  | none => return ()
  | some document =>
      if document.status ≠ .canceling then
        return ()
      match ← loadRecoveryClaim with
      | some claim =>
          if claim.kind = .cancellation then
            if document.recoveryClaim.kind = .cancellation then
              return ()
            else
              mirrorRecoveryClaim claim
          else
            replaceCancellationRecovery (document.cancellationRequestedAt.getD now)
      | none => replaceCancellationRecovery (document.cancellationRequestedAt.getD now)

/-- The calls on one Run: its recovery operations, and a mutation by the kernel, which
updates the Run that it loaded. -/
inductive StoreCall
  | claim (ownerId : String) (request : ClaimRecovery)
  | renew (request : RenewRecovery)
  | release (request : ReleaseRecovery)
  | schedule (request : ScheduleRecovery)
  | cancel (request : RequestCancellation)
  | repair (now : Timestamp)
  | mutate (update : OrchestratorRunState → OrchestratorRunState) (commandId : CommandId)

def storeBody : StoreCall → StoreProg Unit
  | .claim ownerId request => do
      let _ ← claimRecovery ownerId request
      return ()
  | .renew request => do
      let _ ← renewRecovery request
      return ()
  | .release request => do
      let _ ← releaseRecovery request
      return ()
  | .schedule request => do
      let _ ← scheduleRecovery request
      return ()
  | .cancel request => do
      let _ ← requestCancellation request
      return ()
  | .repair now => repairCancelingRun now
  | .mutate update commandId => do
      match ← load with
      | none => return ()
      | some run =>
          let _ ← casMutate { update run with stateVersion := run.stateVersion + 1 }
            run.stateVersion commandId
          return ()

/-- `claim:{owner_id}:{state_version}` -/
def claimCommand (ownerId : String) (stateVersion : Nat) : CommandId :=
  ⟨"claim", [ownerId, stateVersion]⟩

/-- Only a claim writes a command of a claim. -/
def StoreCall.Ordinary : StoreCall → Prop
  | .cancel request => request.commandId.label ≠ "claim"
  | .mutate update commandId => commandId.label ≠ "claim" ∧
      ∀ run, ∀ command ∈ (update run).processedCommandIds,
        command ∈ run.processedCommandIds ∨ command.label ≠ "claim"
  | _ => True

/-- A processed claim command belongs to an earlier version. -/
def ClaimsPast (run : OrchestratorRunState) : Prop :=
  ∀ ownerId version, claimCommand ownerId version ∈ run.processedCommandIds →
    version < run.stateVersion

def Paired (claim : RecoveryClaim) : Prop := quarantineFieldsArePaired claim = .ok ()

structure SoundRun (run : OrchestratorRunState) : Prop where
  valid : run.Valid
  paired : Paired run.recoveryClaim
  claimsPast : ClaimsPast run

structure SoundStored (stored : Stored) : Prop where
  run : ∀ run, stored.run = some run → SoundRun run
  lease : ∀ claim, stored.lease = some claim → Paired claim

structure Created (s : Database StoreCall) : Prop where
  lease : s.stored.lease = none
  run : ∀ run, s.stored.run = some run → SoundRun run

def storeSystem : System StoreOp StoreOp.Res where
  State := Database StoreCall
  Call := StoreCall
  Result := Unit
  exec := Executes
  environment := Ticks
  admits _ call := call.Ordinary
  body _ := storeBody
  initial := Created

/-! ## Operations -/

def offersSound : StoreOp → Prop
  | .replaceRun _ candidate => SoundRun candidate
  | .mirrorClaim claim | .claimLease _ claim | .updateLease _ claim | .insertLease claim
  | .upsertLease claim => Paired claim
  | _ => True

def toldSound : (op : StoreOp) → op.Res → Prop
  | .findRun, .answer (some run) => SoundRun run
  | .findLease, .answer (some claim) => Paired claim
  | _, _ => True

theorem paired_owner {claim : RecoveryClaim} (h : Paired claim) (hfree : claim.quarantinedAt = none)
    (ownerId : Option String) (leaseExpiresAt nextAttemptAt : Option Timestamp) :
    Paired { claim with
      ownerId := ownerId, leaseExpiresAt := leaseExpiresAt, nextAttemptAt := nextAttemptAt } := by
  simpa [Paired, quarantineFieldsArePaired, hfree] using h

theorem SoundRun.mirror {run : OrchestratorRunState} {claim : RecoveryClaim} (h : SoundRun run)
    (hclaim : Paired claim) (hkind : run.status = .canceling → claim.kind = .cancellation) :
    SoundRun { run with recoveryClaim := claim } := by
  have hvalid := h.valid
  refine ⟨⟨⟨hvalid.batchMessageIdsUnique, hvalid.callIdsUnique, hvalid.artifactRefsUnique,
    hvalid.commandIdsUnique, hvalid.intentIdsUnique, hvalid.publicCallIdsUnique, ?_,
    hvalid.acceptedArePublic, hvalid.offsetMatchesText⟩, ?_⟩, hclaim, h.claimsPast⟩
  · obtain ⟨hcanceling, hcanceled, hneither⟩ := hvalid.cancellation
    refine ⟨fun hstatus => ?_, hcanceled, hneither⟩
    obtain ⟨hcommand, hrequested, hcause, -⟩ := hcanceling hstatus
    exact ⟨hcommand, hrequested, hcause, hkind hstatus⟩
  · intro hterminal
    have hclosed := hvalid.terminalClosed hterminal
    exact ⟨hclosed.inactive, hclosed.entriesTerminal, hclosed.batchesFlushed⟩

theorem sound_conditionalWrite {applies : Bool} {before after stored : Stored} {reply : WriteReply}
    (hbefore : SoundStored before) (hafter : applies = true → SoundStored after)
    (h : (reply, stored) ∈ conditionalWrite applies before after) : SoundStored stored := by
  cases mem_conditionalWrite.mp h with
  | inl happlied =>
      obtain ⟨happlies, hcases⟩ := happlied
      cases hcases with
      | inl hcounted =>
          rw [hcounted.2]
          exact hafter happlies
      | inr hlost =>
          cases hlost.2 with
          | inl heq =>
              rw [heq]
              exact hafter happlies
          | inr heq =>
              rw [heq]
              exact hbefore
  | inr hrefused =>
      rw [hrefused.2.1]
      exact hbefore

theorem SoundStored.withLease {stored : Stored} {claim : RecoveryClaim} (h : SoundStored stored)
    (hclaim : Paired claim) : SoundStored { stored with lease := some claim } := by
  refine ⟨h.run, ?_⟩
  intro row hrow
  cases hrow
  exact hclaim

theorem sound_outcomes {op : StoreOp} {reply : op.Res} {before after : Stored}
    (hbefore : SoundStored before) (hoffers : offersSound op)
    (h : (reply, after) ∈ op.outcomes before) : SoundStored after ∧ toldSound op reply := by
  cases op with
  | findRun =>
      obtain ⟨rfl, hreply⟩ := mem_answers.mp h
      refine ⟨hbefore, ?_⟩
      cases hreply with
      | inl heq =>
          subst heq
          cases hrun : after.run with
          | none => trivial
          | some run => exact hbefore.run run hrun
      | inr heq =>
          subst heq
          trivial
  | findLease =>
      obtain ⟨rfl, hreply⟩ := mem_answers.mp h
      refine ⟨hbefore, ?_⟩
      cases hreply with
      | inl heq =>
          subst heq
          cases hlease : after.lease with
          | none => trivial
          | some claim => exact hbefore.lease claim hlease
      | inr heq =>
          subst heq
          trivial
  | replaceRun expected candidate =>
      refine ⟨?_, trivial⟩
      cases List.mem_cons.mp h with
      | inl heq =>
          rw [(Prod.mk.inj heq).2]
          exact hbefore
      | inr hwrite =>
          refine sound_conditionalWrite hbefore ?_ hwrite
          intro _
          refine ⟨?_, hbefore.lease⟩
          intro run hrun
          cases hrun
          exact hoffers
  | mirrorClaim claim =>
      refine ⟨sound_conditionalWrite hbefore ?_ h, trivial⟩
      intro happlies
      refine ⟨?_, hbefore.lease⟩
      intro run hrun
      obtain ⟨document, hdocument, rfl⟩ := Option.map_eq_some_iff.mp hrun
      refine (hbefore.run document hdocument).mirror hoffers fun hcanceling => ?_
      simpa [hdocument, hcanceling] using happlies
  | claimLease claimedAt claim =>
      exact ⟨sound_conditionalWrite hbefore (fun _ => hbefore.withLease hoffers) h, trivial⟩
  | updateLease ownerId claim =>
      exact ⟨sound_conditionalWrite hbefore (fun _ => hbefore.withLease hoffers) h, trivial⟩
  | scheduleLease due nextAttemptAt =>
      refine ⟨sound_conditionalWrite hbefore ?_ h, trivial⟩
      intro _
      refine ⟨hbefore.run, ?_⟩
      intro claim hclaim
      obtain ⟨row, hrow, rfl⟩ := Option.map_eq_some_iff.mp hclaim
      exact hbefore.lease row hrow
  | insertLease claim =>
      refine ⟨?_, trivial⟩
      cases hlease : before.lease with
      | some row =>
          simp only [StoreOp.outcomes, hlease, List.mem_cons, Prod.mk.injEq, List.not_mem_nil,
            or_false] at h
          cases h with
          | inl heq =>
              rw [heq.2]
              exact hbefore
          | inr heq =>
              rw [heq.2]
              exact hbefore
      | none =>
          simp only [StoreOp.outcomes, hlease] at h
          exact sound_conditionalWrite hbefore (fun _ => hbefore.withLease hoffers) h
  | upsertLease claim =>
      exact ⟨sound_conditionalWrite hbefore (fun _ => hbefore.withLease hoffers) h, trivial⟩
  | listDueIntents dueAt limit =>
      obtain ⟨rfl, -⟩ := mem_answers.mp h
      exact ⟨hbefore, trivial⟩
  | project intent run =>
      simp only [StoreOp.outcomes, List.mem_cons, Prod.mk.injEq, List.not_mem_nil, or_false] at h
      have hsame : after = before := by tauto
      rw [hsame]
      exact ⟨hbefore, trivial⟩
  | afterProject intent run =>
      obtain ⟨rfl, -⟩ := mem_answers.mp h
      exact ⟨hbefore, trivial⟩
  | raise message => cases reply

/-! ## Programs -/

section Programs

variable {α β : Type}

/-- The program writes sound documents as long as it reads such. -/
abbrev WritesSound (p : StoreProg α) (Q : α → Prop) : Prop := p.Sends offersSound toldSound Q

theorem sends_raise {message : String} {Q : α → Prop} :
    WritesSound (raise (α := α) message) Q :=
  ⟨trivial, fun reply => nomatch reply⟩

theorem sends_checked {check : Except String Unit} {Q : Unit → Prop}
    (h : check = .ok () → Q ()) : WritesSound (checked check) Q := by
  cases check with
  | error message => exact sends_raise
  | ok value => exact h rfl

theorem sends_validated (run : OrchestratorRunState) :
    WritesSound (validated run) fun result =>
      result = run ∧ run.Valid ∧ Paired run.recoveryClaim := by
  have hclaim : WritesSound (checked (quarantineFieldsArePaired run.recoveryClaim))
      fun _ => Paired run.recoveryClaim := sends_checked id
  have hrun : WritesSound (checked (aggregateIdentityAndUniqueness run)) fun _ => run.Valid :=
    sends_checked aggregateIdentityAndUniqueness_eq_ok.mp
  exact hclaim.bind fun _ hpaired => hrun.bind fun _ hvalid => ⟨rfl, hvalid, hpaired⟩

theorem sends_findRun : WritesSound findRun fun run => ∀ r, run = some r → SoundRun r := by
  refine ⟨trivial, fun reply hreply => ?_⟩
  cases reply with
  | unavailable => exact sends_raise
  | answer run =>
      intro r hr
      subst hr
      exact hreply

theorem sends_loadRecoveryClaim :
    WritesSound loadRecoveryClaim fun row => ∀ claim, row = some claim → Paired claim := by
  refine ⟨trivial, fun reply hreply => ?_⟩
  cases reply with
  | unavailable => exact sends_raise
  | answer row =>
      intro claim hclaim
      subst hclaim
      exact hreply

theorem overlayClaim_claimsPast {document : OrchestratorRunState} (h : ClaimsPast document)
    (row : Option RecoveryClaim) : ClaimsPast (overlayClaim document row) := by
  cases row with
  | none => exact h
  | some claim =>
      simp only [overlayClaim]
      split <;> exact h

theorem sends_load : WritesSound load fun run => ∀ r, run = some r → SoundRun r := by
  refine sends_findRun.bind fun run hrun => ?_
  cases run with
  | none => exact fun r hr => nomatch hr
  | some document =>
      refine sends_loadRecoveryClaim.bind fun row _ => ?_
      refine (sends_validated _).bind fun run hvalidated => ?_
      obtain ⟨rfl, hvalid, hpaired⟩ := hvalidated
      intro r hr
      cases hr
      exact ⟨hvalid, hpaired, overlayClaim_claimsPast (hrun document rfl).claimsPast row⟩

theorem sends_mirrorRecoveryClaim {claim : RecoveryClaim} (h : Paired claim) :
    WritesSound (mirrorRecoveryClaim claim) fun _ => True := by
  refine ⟨h, fun reply _ => ?_⟩
  cases reply with
  | counted => trivial
  | duplicateKey => exact sends_raise
  | unavailable => exact sends_raise

theorem sends_mirrorAfterReplace (candidate : OrchestratorRunState) :
    WritesSound (mirrorAfterReplace candidate) fun _ => True := by
  refine sends_loadRecoveryClaim.bind fun row hrow => ?_
  cases row with
  | none => trivial
  | some claim =>
      simp only
      split
      · exact (sends_mirrorRecoveryClaim (hrow claim rfl)).bind fun _ _ => trivial
      · trivial

theorem sends_replaceRun {candidate : OrchestratorRunState} {expected : Nat}
    {commandId : CommandId} (h : SoundRun candidate) :
    WritesSound (replaceRun candidate expected commandId) fun _ => True := by
  refine ⟨h, fun reply _ => ?_⟩
  cases reply with
  | counted matched =>
      cases matched with
      | true => exact sends_mirrorAfterReplace candidate
      | false => exact sends_load.bind fun _ _ => trivial
  | duplicateKey => exact sends_load.bind fun _ _ => trivial
  | unavailable =>
      refine sends_load.bind fun winner _ => ?_
      split
      · trivial
      · exact sends_raise

theorem sends_casMutate {run : OrchestratorRunState} {expected : Nat} {commandId : CommandId}
    (h : ClaimsPast (withCommand run commandId)) :
    WritesSound (casMutate run expected commandId) fun _ => True := by
  refine sends_load.bind fun current _ => ?_
  cases current with
  | none => trivial
  | some current =>
      simp only
      split
      · trivial
      · split
        · trivial
        · refine (sends_validated _).bind fun candidate hvalidated => ?_
          obtain ⟨rfl, hvalid, hpaired⟩ := hvalidated
          split
          · trivial
          · exact sends_replaceRun ⟨hvalid, hpaired, h⟩

theorem claimsPast_next {run next : OrchestratorRunState} {commandId : CommandId}
    (h : SoundRun run) (hversion : next.stateVersion = run.stateVersion + 1)
    (hcommands : ∀ command ∈ next.processedCommandIds,
      command ∈ run.processedCommandIds ∨ command.label ≠ "claim")
    (hcommand : ∀ ownerId version, commandId = claimCommand ownerId version →
      version ≤ run.stateVersion) : ClaimsPast (withCommand next commandId) := by
  intro ownerId version hmem
  rw [withCommand_stateVersion, hversion]
  have hcases : claimCommand ownerId version ∈ next.processedCommandIds ∨
      claimCommand ownerId version = commandId := by
    unfold withCommand at hmem
    split at hmem
    · exact Or.inl hmem
    · simpa using hmem
  cases hcases with
  | inr heq =>
      have hle := hcommand ownerId version heq.symm
      omega
  | inl hold =>
      cases hcommands _ hold with
      | inl hknown =>
          have hlt := h.claimsPast ownerId version hknown
          omega
      | inr hlabel => exact absurd rfl hlabel

theorem sends_confirmLease (claim : RecoveryClaim) :
    WritesSound (confirmLease claim) fun _ => True := by
  refine sends_loadRecoveryClaim.bind fun persisted _ => ?_
  split
  · trivial
  · exact sends_raise

theorem sends_updateDedicatedRecoveryLease {ownerId : String} {claim : RecoveryClaim}
    (h : Paired claim) :
    WritesSound (updateDedicatedRecoveryLease ownerId claim) fun _ => True := by
  refine ⟨h, fun reply _ => ?_⟩
  cases reply with
  | counted => trivial
  | duplicateKey => exact sends_raise
  | unavailable => exact sends_confirmLease claim

theorem sends_insertRecoveryLease {claim : RecoveryClaim} (h : Paired claim) :
    WritesSound (insertRecoveryLease claim) fun _ => True := by
  refine ⟨trivial, fun reply _ => ?_⟩
  cases reply with
  | unavailable => exact (sends_confirmLease claim).bind fun _ _ => trivial
  | answer row =>
      cases row with
      | some row => trivial
      | none =>
          refine ⟨h, fun inserted _ => ?_⟩
          cases inserted with
          | counted => trivial
          | duplicateKey => trivial
          | unavailable => exact (sends_confirmLease claim).bind fun _ _ => trivial

theorem sends_claimDedicatedRecoveryLease (ownerId : String) (leaseExpiresAt claimedAt : Timestamp) :
    WritesSound (claimDedicatedRecoveryLease ownerId leaseExpiresAt claimedAt) fun _ => True := by
  refine sends_loadRecoveryClaim.bind fun existing hexisting => ?_
  split
  · trivial
  · next hdue =>
      have hpaired : Paired { existing.getD {} with
          ownerId := some ownerId, leaseExpiresAt := some leaseExpiresAt, nextAttemptAt := none } := by
        cases existing with
        | none => rfl
        | some row =>
            refine paired_owner (hexisting row rfl) ?_ _ _ _
            have hfree : recoveryClaimIsDue row claimedAt = true := by simpa using hdue
            simp only [recoveryClaimIsDue, Bool.and_eq_true, Option.isNone_iff_eq_none] at hfree
            exact hfree.1.1
      refine ⟨hpaired, fun reply _ => ?_⟩
      cases reply with
      | counted matched =>
          cases matched with
          | true => trivial
          | false => exact sends_insertRecoveryLease hpaired
      | duplicateKey => trivial
      | unavailable => exact (sends_confirmLease _).bind fun _ _ => trivial

theorem sends_replaceCancellationRecovery (requestedAt : Timestamp) :
    WritesSound (replaceCancellationRecovery requestedAt) fun _ => True := by
  have hpaired : Paired (cancellationClaim requestedAt) := rfl
  refine ⟨hpaired, fun reply _ => ?_⟩
  cases reply with
  | counted => exact sends_mirrorRecoveryClaim hpaired
  | duplicateKey => exact sends_raise
  | unavailable => exact sends_raise

/-! ## Calls -/

theorem sends_rollBackClaim {ownerId : String} {run : OrchestratorRunState}
    (claimed : MongoRunStoreResult) (h : Paired run.recoveryClaim) :
    WritesSound (rollBackClaim ownerId run claimed) fun _ => True := by
  have hreleased : Paired { run.recoveryClaim with ownerId := none, leaseExpiresAt := none } := by
    simp only [Paired, quarantineFieldsArePaired, check_bind_eq_ok, require_eq_ok] at h ⊢
    exact ⟨h.1, fun _ => rfl⟩
  refine (sends_updateDedicatedRecoveryLease hreleased).bind fun updated _ => ?_
  split
  · exact (sends_mirrorRecoveryClaim hreleased).bind fun _ _ => trivial
  · trivial

theorem sends_claimRecovery (ownerId : String) (request : ClaimRecovery) :
    WritesSound (claimRecovery ownerId request) fun _ => True := by
  refine sends_load.bind fun run hrun => ?_
  cases run with
  | none => trivial
  | some run =>
      have hsound := hrun run rfl
      simp only
      split
      · trivial
      · refine (sends_claimDedicatedRecoveryLease _ _ _).bind fun acquired _ => ?_
        cases acquired with
        | none => exact sends_load.bind fun _ _ => trivial
        | some acquired =>
            refine (sends_casMutate ?_).bind fun claimed _ => ?_
            · refine claimsPast_next hsound rfl (fun _ hmem => Or.inl hmem) ?_
              intro owner version heq
              have hversion : run.stateVersion = version := by
                have hparts := congrArg CommandId.parts heq
                simp only [claimCommand, List.cons.injEq] at hparts
                simpa using hparts.2
              exact Nat.le_of_eq hversion.symm
            · split
              · exact sends_rollBackClaim claimed hsound.paired
              · trivial

theorem sends_renewRecovery (request : RenewRecovery) :
    WritesSound (renewRecovery request) fun _ => True := by
  refine sends_load.bind fun run hrun => ?_
  cases run with
  | none => trivial
  | some run =>
      simp only
      split
      · trivial
      · have hpaired : Paired { run.recoveryClaim with
            leaseExpiresAt := some request.leaseExpiresAt } := (hrun run rfl).paired
        refine (sends_updateDedicatedRecoveryLease hpaired).bind fun updated _ => ?_
        split
        · exact (sends_mirrorRecoveryClaim hpaired).bind fun _ _ => trivial
        · exact sends_load.bind fun _ _ => trivial

theorem not_claimCommand {commandId : CommandId} (h : commandId.label ≠ "claim")
    (ownerId : String) (version : Nat) : commandId ≠ claimCommand ownerId version := by
  intro heq
  exact h (congrArg CommandId.label heq)

theorem sends_nextVersion {run next : OrchestratorRunState} {expected : Nat}
    {commandId : CommandId} (h : SoundRun run)
    (hversion : next.stateVersion = run.stateVersion + 1)
    (hcommands : next.processedCommandIds = run.processedCommandIds)
    (hlabel : commandId.label ≠ "claim") :
    WritesSound (casMutate next expected commandId) fun _ => True := by
  refine sends_casMutate (claimsPast_next h hversion ?_ ?_)
  · intro command hmem
    rw [hcommands] at hmem
    exact Or.inl hmem
  · exact fun ownerId version heq => absurd heq (not_claimCommand hlabel ownerId version)

theorem sends_mirrorRelease {ownerId : String} {run : OrchestratorRunState} {claim : RecoveryClaim}
    (h : SoundRun run) (hclaim : Paired claim) :
    WritesSound (mirrorRelease ownerId run claim) fun _ => True := by
  have hwrite : WritesSound (casMutate
      { run with recoveryClaim := claim, stateVersion := run.stateVersion + 1 } run.stateVersion
      ⟨"release", [ownerId, run.stateVersion]⟩) fun _ => True :=
    sends_nextVersion h rfl rfl (by simp)
  refine hwrite.bind fun released _ => ?_
  split
  · refine (sends_mirrorRecoveryClaim hclaim).bind fun _ _ => ?_
    refine sends_load.bind fun latest _ => ?_
    cases latest with
    | none => trivial
    | some latest =>
        simp only
        split <;> trivial
  · trivial

theorem sends_releaseRecovery (request : ReleaseRecovery) :
    WritesSound (releaseRecovery request) fun _ => True := by
  refine sends_load.bind fun run hrun => ?_
  cases run with
  | none => trivial
  | some run =>
      simp only
      split
      · trivial
      · generalize hreleased : ({ kind := run.recoveryClaim.kind
                                  nextAttemptAt := request.nextAttemptAt
                                  failureCount := request.failureCount
                                  quarantinedAt := request.quarantinedAt
                                  quarantineReason := request.quarantineReason } : RecoveryClaim) =
          claim
        have hcheck : WritesSound (checked (quarantineFieldsArePaired claim))
            fun _ => Paired claim := sends_checked id
        refine hcheck.bind fun _ hpaired => ?_
        refine (sends_updateDedicatedRecoveryLease hpaired).bind fun updated _ => ?_
        split
        · exact sends_mirrorRelease (hrun run rfl) hpaired
        · exact sends_load.bind fun _ _ => trivial

theorem sends_scheduleRecovery (request : ScheduleRecovery) :
    WritesSound (scheduleRecovery request) fun _ => True := by
  refine sends_load.bind fun run hrun => ?_
  cases run with
  | none => trivial
  | some run =>
      simp only
      split
      · trivial
      · cases hdue : run.recoveryClaim.nextAttemptAt with
        | none => trivial
        | some due =>
            have hpaired : Paired { run.recoveryClaim with
                nextAttemptAt := some request.nextAttemptAt } := (hrun run rfl).paired
            simp only
            split
            · trivial
            · have hwrite : WritesSound (casMutate
                  { run with
                    recoveryClaim := { run.recoveryClaim with
                      nextAttemptAt := some request.nextAttemptAt }
                    stateVersion := run.stateVersion + 1 }
                  run.stateVersion ⟨"schedule-recovery", [run.stateVersion, request.nextAttemptAt]⟩)
                  fun _ => True := sends_nextVersion (hrun run rfl) rfl rfl (by simp)
              refine hwrite.bind fun admitted _ => ?_
              split
              · trivial
              · refine ⟨trivial, fun reply _ => ?_⟩
                cases reply with
                | duplicateKey => exact sends_raise
                | unavailable => exact sends_raise
                | counted matched =>
                    cases matched with
                    | true => exact sends_load.bind fun _ _ => trivial
                    | false =>
                        refine sends_loadRecoveryClaim.bind fun row _ => ?_
                        cases row with
                        | some claim => exact sends_load.bind fun _ _ => trivial
                        | none =>
                            refine ⟨hpaired, fun inserted _ => ?_⟩
                            cases inserted with
                            | counted => exact sends_load.bind fun _ _ => trivial
                            | duplicateKey => exact sends_load.bind fun _ _ => trivial
                            | unavailable => exact sends_raise

theorem sends_requestCancellation {request : RequestCancellation}
    (hlabel : request.commandId.label ≠ "claim") :
    WritesSound (requestCancellation request) fun _ => True := by
  refine sends_load.bind fun run hrun => ?_
  cases run with
  | none => trivial
  | some run =>
      simp only
      split
      · exact (sends_replaceCancellationRecovery _).bind fun _ _ => trivial
      · split
        · trivial
        · have hwrite : WritesSound (casMutate (cancelingRun run request) run.stateVersion
              request.commandId) fun _ => True := sends_nextVersion (hrun run rfl) rfl rfl hlabel
          refine hwrite.bind fun stored _ => ?_
          split
          · refine (sends_replaceCancellationRecovery _).bind fun _ _ => ?_
            refine sends_load.bind fun latest _ => ?_
            cases latest <;> trivial
          · trivial

theorem sends_repairCancelingRun (now : Timestamp) :
    WritesSound (repairCancelingRun now) fun _ => True := by
  refine sends_findRun.bind fun run _ => ?_
  cases run with
  | none => trivial
  | some document =>
      simp only
      split
      · trivial
      · refine sends_loadRecoveryClaim.bind fun row hrow => ?_
        cases row with
        | none => exact sends_replaceCancellationRecovery _
        | some claim =>
            simp only
            split
            · split
              · trivial
              · exact sends_mirrorRecoveryClaim (hrow claim rfl)
            · exact sends_replaceCancellationRecovery _

theorem sends_storeBody {call : StoreCall} (h : call.Ordinary) :
    WritesSound (storeBody call) fun _ => True := by
  cases call with
  | claim ownerId request => exact (sends_claimRecovery ownerId request).bind fun _ _ => trivial
  | renew request => exact (sends_renewRecovery request).bind fun _ _ => trivial
  | release request => exact (sends_releaseRecovery request).bind fun _ _ => trivial
  | schedule request => exact (sends_scheduleRecovery request).bind fun _ _ => trivial
  | cancel request => exact (sends_requestCancellation h).bind fun _ _ => trivial
  | repair now => exact sends_repairCancelingRun now
  | mutate update commandId =>
      refine sends_load.bind fun run hrun => ?_
      cases run with
      | none => trivial
      | some run =>
          refine (sends_casMutate (claimsPast_next (hrun run rfl) rfl ?_ ?_)).bind
            fun _ _ => trivial
          · exact h.2 run
          · exact fun ownerId version heq => absurd heq (not_claimCommand h.1 ownerId version)

end Programs

theorem storeSystem_sound {cfg : Config storeSystem} (h : storeSystem.Reachable cfg) :
    SoundStored cfg.shared.stored := by
  have hsending : storeSystem.Sending (fun s => SoundStored s.stored) offersSound toldSound cfg := by
    refine System.Reachable.sending ?_ ?_ ?_ ?_ h
    · intro s hcreated
      refine ⟨hcreated.run, ?_⟩
      intro claim hclaim
      rw [hcreated.lease] at hclaim
      cases hclaim
    · intro s s' hs hticks
      rw [hticks.stored]
      exact hs
    · intro i call op s reply s' hs hoffers hexec
      exact sound_outcomes hs hoffers hexec.outcome
    · intro i call s hordinary
      exact sends_storeBody hordinary
  exact hsending.shared

end Hybro.RunStore
