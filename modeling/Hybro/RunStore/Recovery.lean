import Hybro.RunStore.RecoveryRules

/-! # Recovery leases and cancellation

Every recovery call of the store takes legal steps only, so what the lease log
shows holds in every interleaving: who may hold the lease, which heartbeat writes
land, and when a cancellation row can be overwritten.
-/

namespace Hybro.RunStore

open Orchestrator Interleaving

variable {tokens : OwnerTokens} {i : Nat} {c : RecoveryCall}

/-! ## The dedicated lease -/

theorem triple_confirmLease {K K' : Database RecoveryCall → Prop} {claim : RecoveryClaim}
    (hK : Frame (leases tokens) i K) (hK' : Persistent (leases tokens) K')
    (h : ∀ s reply s', Traced tokens s → K s →
      LegalStep tokens (entryOf i c .findLease reply s s') s s' →
      s.stored.lease = some claim → K' s') :
    ((leases tokens).contract i c).Triple K (confirmLease claim) (fun _ s => K s ∧ K' s) := by
  have hrow : ∀ row, Persistent (leases tokens) (fun s => row = some claim → K' s) :=
    fun row => Persistent.imp hK'
  refine Contract.Triple.bind _ (triple_loadRecoveryClaim (fun row s => row = some claim → K' s)
    hK hrow ?_) ?_
  · intro s reply s' hs hKs hstep _ hclaim
    exact h s reply s' hs hKs hstep hclaim
  · intro row
    split
    · next heq => exact triple_done (hK.and (hrow row).frame) fun _ _ h => ⟨h.1, h.2 heq⟩
    · exact triple_raise

theorem triple_updateDedicatedRecoveryLease {K : Database RecoveryCall → Prop} {owner : String}
    {claim : RecoveryClaim} (hK : Persistent (leases tokens) K)
    (hlegal : ∀ s reply s', Traced tokens s → K s → s.stored.leaseOwner = some owner →
      s'.stored = { s.stored with lease := some claim } →
      LeaseChange tokens (entryOf i c (.updateLease owner claim) reply s s') s.log) :
    ((leases tokens).contract i c).Triple K (updateDedicatedRecoveryLease owner claim)
      (fun ok s => K s ∧ (ok = true →
        FencedWrite i owner s.log ∨ ReadBack i owner claim s.log)) := by
  have hsent : Persistent (leases tokens) (fun s => ∃ sent ∈ s.log, sent.thread = i ∧
      ∃ written, sent.op = .updateLease owner written) :=
    Persistent.log (P := fun log => ∃ sent ∈ log, sent.thread = i ∧
      ∃ written, sent.op = .updateLease owner written)
      fun e log ⟨sent, hmem, h⟩ => ⟨sent, List.mem_cons_of_mem e hmem, h⟩
  have hfenced : ∀ p : Prop, Persistent (leases tokens) (fun s => p → FencedWrite i owner s.log) :=
    fun p => Persistent.imp (Persistent.log fun e _ h => h.mono e)
  refine triple_act (fun reply s => (K s ∧ (reply = .counted true → FencedWrite i owner s.log)) ∧
    ∃ sent ∈ s.log, sent.thread = i ∧ ∃ written, sent.op = .updateLease owner written)
    hK.frame ?_ ?_
  · intro s reply s' hs hKs hexec
    have hnow : ∃ sent ∈ s'.log, sent.thread = i ∧
        ∃ written, sent.op = .updateLease owner written := by
      rw [hexec.log]
      exact ⟨_, List.mem_cons_self, rfl, claim, rfl⟩
    rcases mem_conditionalWrite.mp hexec.outcome with ⟨happlies, hafter⟩ | ⟨-, hsame, hreply⟩
    · have howner : s.stored.leaseOwner = some owner := by simpa using happlies
      have hwrite : FencedWrite i owner s'.log := by
        rw [hexec.log]
        exact ⟨_, List.mem_cons_self, rfl, ⟨claim, rfl⟩, howner⟩
      have hstep : LegalStep tokens (entryOf i c (.updateLease owner claim) reply s s') s s' := by
        have hcases : s'.stored = { s.stored with lease := some claim } ∨
            s'.stored = s.stored := by
          rcases hafter with ⟨-, h⟩ | ⟨-, h⟩
          · exact Or.inl h
          · exact h
        rcases hcases with h | h
        · exact legalStep_of_executes hexec (Or.inr (hlegal s reply s' hs hKs howner h))
            (Or.inl (by rw [h]))
        · exact legalStep_of_read tokens hexec h
      exact ⟨hstep, ⟨hK.step s s' _ hs hstep hKs, fun _ => hwrite⟩, hnow⟩
    · have hstep := legalStep_of_read tokens hexec hsame
      refine ⟨hstep, ⟨hK.step s s' _ hs hstep hKs, ?_⟩, hnow⟩
      rintro rfl
      rcases hreply with h | h <;> cases h
  · intro reply
    have hframe := ((hK.and (hfenced (reply = .counted true))).and hsent).frame (i := i)
    cases reply with
    | counted matched =>
        refine triple_done hframe ?_
        rintro s - ⟨⟨hKs, hwrite⟩, -⟩
        exact ⟨hKs, fun hmatched => Or.inl (hwrite (by rw [hmatched]))⟩
    | duplicateKey => exact triple_raise
    | unavailable =>
        have hread : Persistent (leases tokens) (fun s => ReadBack i owner claim s.log) :=
          Persistent.log fun e _ h => h.mono e
        refine (triple_confirmLease hframe hread ?_).post ?_
        · intro s reply s' hs hKs hstep hrow
          exact ⟨[], _, s.log, by rw [hstep.log, List.nil_append], rfl, rfl, hrow, hKs.2⟩
        · exact fun ok s _ h => ⟨h.1.1.1, fun _ => Or.inr h.2⟩

def Acquired (tokens : OwnerTokens) (i v : Nat) (claim : RecoveryClaim)
    (s : Database RecoveryCall) : Prop :=
  ClaimSafe tokens i v s ∧ ClaimLogged claim s

theorem persistent_acquired {v : Nat} (claim : RecoveryClaim) :
    Persistent (leases tokens) (Acquired tokens i v claim) :=
  (Persistent.claimSafe v).and (persistent_claimLogged claim)

structure BeforeClaim (tokens : OwnerTokens) (i : Nat) (request : ClaimRecovery) (v : Nat)
    (s : Database RecoveryCall) : Prop where
  unseen : ¬ Seen (tokens.token i) s.log
  clock : request.claimedAt ≤ s.clock
  version : v ≤ s.stored.version

theorem frame_beforeClaim {request : ClaimRecovery} {v : Nat} :
    Frame (leases tokens) i (BeforeClaim tokens i request v) := by
  have h : Frame (leases tokens) i (fun s => ¬ Seen (tokens.token i) s.log ∧
      request.claimedAt ≤ s.clock ∧ v ≤ s.stored.version) :=
    frame_unseen.and ((Persistent.clock request.claimedAt).and (Persistent.version v)).frame
  exact ⟨fun s s' ht hb => (fun x => ⟨x.1, x.2.1, x.2.2⟩) (h.environment s s' ht ⟨hb.1, hb.2, hb.3⟩),
    fun s s' e hs hstep hne hb =>
      (fun x => ⟨x.1, x.2.1, x.2.2⟩) (h.other s s' e hs hstep hne ⟨hb.1, hb.2, hb.3⟩),
    fun s s' e hs hstep hq hb =>
      (fun x => ⟨x.1, x.2.1, x.2.2⟩) (h.quiet s s' e hs hstep hq ⟨hb.1, hb.2, hb.3⟩)⟩

theorem acquire_legal {request : ClaimRecovery} {v : Nat} {claim : RecoveryClaim} {op : StoreOp}
    {reply : op.Res} {s s' : Database RecoveryCall} (hs : Traced tokens s)
    (hbefore : BeforeClaim tokens i request v s) (hexec : Executes i (.claim request) op s reply s')
    (howner : claim.ownerId = some (tokens.token i))
    (hexpiry : claim.leaseExpiresAt = some request.leaseExpiresAt)
    (hafter : s'.stored = { s.stored with lease := some claim })
    (hfree : ∀ r, s.stored.lease = some r →
      r.ownerId = none ∨ ∀ expiry ∈ r.leaseExpiresAt, expiry ≤ request.claimedAt)
    (hkind : (entryOf i (.claim request) op reply s s').CurrentCopy →
      s.stored.leaseKind = some .cancellation → claim.kind = .cancellation) :
    LegalStep tokens (entryOf i (.claim request) op reply s s') s s' ∧
      Acquired tokens i v claim s' := by
  have hrow : s'.stored.lease = some claim := by rw [hafter]
  have hchange : LeaseChange tokens (entryOf i (.claim request) op reply s s') s.log := by
    refine .acquire request claim rfl hrow howner hexpiry ?_ hbefore.unseen hkind
    intro r hr
    rcases hfree r hr with hnone | hexpired
    · exact Or.inl hnone
    · exact Or.inr fun expiry he => Nat.le_trans (hexpired expiry he) hbefore.clock
  have hlegal := legalStep_of_executes hexec (Or.inr hchange) (Or.inl (by rw [hafter]))
  have hversion : s'.stored.version = s.stored.version := by simp [Stored.version, hafter]
  refine ⟨hlegal, ClaimSafe.acquire hs hlegal hbefore.version hversion ?_, ?_⟩
  · exact leaseOwner_eq_some.mpr ⟨claim, hrow, howner⟩
  · intro owner ho
    rw [hlegal.log]
    exact held_cons_self hrow ho

theorem claimable_free {row : RecoveryClaim} {claimedAt : Timestamp}
    (h : claimable row claimedAt = true) :
    row.ownerId = none ∨ ∀ expiry ∈ row.leaseExpiresAt, expiry ≤ claimedAt := by
  simp only [claimable, Bool.and_eq_true, Bool.or_eq_true, Option.isNone_iff_eq_none] at h
  exact h.2.imp_right fun hall expiry hmem => by simpa using Option.all_eq_true _ _ |>.mp hall _ hmem

theorem triple_confirmAcquired (request : ClaimRecovery) (v : Nat) {claim : RecoveryClaim}
    (howner : claim.ownerId = some (tokens.token i)) :
    ((leases tokens).contract i (.claim request)).Triple
      (fun s => Acquired tokens i v claim s ∨ BeforeClaim tokens i request v s)
      (do let _ ← confirmLease claim; return some claim)
      (fun acquired s => ∀ taken, acquired = some taken → Acquired tokens i v taken s) := by
  have hframe : Frame (leases tokens) i
      (fun s => Acquired tokens i v claim s ∨ BeforeClaim tokens i request v s) :=
    (persistent_acquired claim).frame.or frame_beforeClaim
  have hacquired : Persistent (leases tokens) (Acquired tokens i v claim) := persistent_acquired claim
  refine Contract.Triple.bind _ (triple_confirmLease hframe hacquired ?_) ?_
  · intro s reply s' hs hcase hstep hrow
    rcases hcase with htaken | hbefore
    · exact hacquired.step s s' _ hs hstep htaken
    · exact absurd ⟨_, hs.rowLogged.held claim _ hrow howner⟩ hbefore.unseen
  · intro _
    refine triple_done (hframe.and hacquired.frame) ?_
    intro s _ h taken htaken
    cases htaken
    exact h.2

theorem triple_insertRecoveryLease {request : ClaimRecovery} {v : Nat} {claim : RecoveryClaim}
    (howner : claim.ownerId = some (tokens.token i))
    (hexpiry : claim.leaseExpiresAt = some request.leaseExpiresAt) :
    ((leases tokens).contract i (.claim request)).Triple (BeforeClaim tokens i request v)
      (insertRecoveryLease claim)
      (fun acquired s => ∀ taken, acquired = some taken → Acquired tokens i v taken s) := by
  have hlost := triple_confirmAcquired request v howner
  refine triple_findLease (fun _ _ => True) frame_beforeClaim (fun _ _ _ _ _ _ _ => trivial)
    ?_ (hlost.pre fun _ _ h => Or.inr h)
  intro row
  cases row with
  | some row =>
      exact triple_done (frame_beforeClaim.and (Persistent.const True).frame)
        fun _ _ _ taken htaken => by cases htaken
  | none =>
      refine Contract.Triple.pre ?_ (fun _ _ h => h.1)
      refine triple_act (fun reply s => (reply = .counted true ∧ Acquired tokens i v claim s) ∨
        (reply = .unavailable ∧
          (Acquired tokens i v claim s ∨ BeforeClaim tokens i request v s)) ∨
        (reply = .duplicateKey ∧ BeforeClaim tokens i request v s)) frame_beforeClaim ?_ ?_
      · intro s reply s' hs hbefore hexec
        have hkept : s'.stored = s.stored →
            LegalStep tokens (entryOf i (.claim request) (.insertLease claim) reply s s') s s' ∧
              BeforeClaim tokens i request v s' := by
          intro hsame
          have hstep := legalStep_of_read tokens hexec hsame
          exact ⟨hstep, frame_beforeClaim.quiet s s' _ hs hstep hsame hbefore⟩
        have houtcome := hexec.outcome
        cases hrow : s.stored.lease with
        | some row =>
            simp only [StoreOp.outcomes, hrow, List.mem_cons, Prod.mk.injEq, List.not_mem_nil,
              or_false] at houtcome
            rcases houtcome with ⟨rfl, hsame⟩ | ⟨rfl, hsame⟩
            · exact ⟨(hkept hsame).1, Or.inr (Or.inr ⟨rfl, (hkept hsame).2⟩)⟩
            · exact ⟨(hkept hsame).1, Or.inr (Or.inl ⟨rfl, Or.inr (hkept hsame).2⟩)⟩
        | none =>
            have htaken : s'.stored = { s.stored with lease := some claim } →
                LegalStep tokens (entryOf i (.claim request) (.insertLease claim) reply s s') s s' ∧
                  Acquired tokens i v claim s' := by
              intro hafter
              refine acquire_legal hs hbefore hexec howner hexpiry hafter ?_ ?_
              · intro r hr
                rw [hrow] at hr
                cases hr
              · intro _ hcancel
                simp [Stored.leaseKind, hrow] at hcancel
            simp only [StoreOp.outcomes, hrow] at houtcome
            rcases mem_conditionalWrite.mp houtcome with
              ⟨-, ⟨rfl, hafter⟩ | ⟨rfl, hafter | hsame⟩⟩ | ⟨hfalse, -⟩
            · exact ⟨(htaken hafter).1, Or.inl ⟨rfl, (htaken hafter).2⟩⟩
            · exact ⟨(htaken hafter).1, Or.inr (Or.inl ⟨rfl, Or.inl (htaken hafter).2⟩)⟩
            · exact ⟨(hkept hsame).1, Or.inr (Or.inl ⟨rfl, Or.inr (hkept hsame).2⟩)⟩
            · cases hfalse
      · intro reply
        cases reply with
        | counted matched =>
            refine Contract.Triple.pre (P := Acquired tokens i v claim) ?_ ?_
            · refine triple_done (persistent_acquired claim).frame ?_
              intro s _ h taken htaken
              cases htaken
              exact h
            · rintro s - (⟨-, h⟩ | ⟨h, -⟩ | ⟨h, -⟩)
              · exact h
              · cases h
              · cases h
        | duplicateKey =>
            refine Contract.Triple.pre (P := fun _ => True) ?_ (fun _ _ _ => trivial)
            exact triple_done (Persistent.const True).frame fun _ _ _ taken htaken => by
              cases htaken
        | unavailable =>
            refine hlost.pre ?_
            rintro s - (⟨h, -⟩ | ⟨-, h⟩ | ⟨h, -⟩)
            · cases h
            · exact h
            · cases h

private theorem triple_notAcquired {request : ClaimRecovery} {v : Nat}
    {P : Database RecoveryCall → Prop} :
    ((leases tokens).contract i (.claim request)).Triple P
      (.done none : StoreProg (Option RecoveryClaim))
      (fun acquired s => ∀ taken, acquired = some taken → Acquired tokens i v taken s) :=
  (triple_done (P := fun _ => True) (Persistent.const True).frame
    fun _ _ _ taken htaken => by cases htaken).pre fun _ _ _ => trivial

theorem triple_claimDedicatedRecoveryLease {request : ClaimRecovery} {v : Nat} :
    ((leases tokens).contract i (.claim request)).Triple (BeforeClaim tokens i request v)
      (claimDedicatedRecoveryLease (tokens.token i) request.leaseExpiresAt request.claimedAt)
      (fun acquired s => ∀ taken, acquired = some taken → Acquired tokens i v taken s) := by
  refine Contract.Triple.bind _ ((triple_loadRecoveryClaim (fun _ _ => True) frame_beforeClaim
    (fun _ => Persistent.const True) fun _ _ _ _ _ _ _ => trivial).post fun _ _ _ h => h.1) ?_
  intro existing
  split
  · exact triple_notAcquired
  · generalize hclaim : ({ existing.getD {} with
      ownerId := some (tokens.token i), leaseExpiresAt := some request.leaseExpiresAt,
      nextAttemptAt := none } : RecoveryClaim) = claim
    have howner : claim.ownerId = some (tokens.token i) := by rw [← hclaim]
    have hexpiry : claim.leaseExpiresAt = some request.leaseExpiresAt := by rw [← hclaim]
    refine triple_act (fun reply s =>
      (reply = .counted true ∧ Acquired tokens i v claim s) ∨
      (reply = .counted false ∧ BeforeClaim tokens i request v s) ∨
      (reply = .unavailable ∧
        (Acquired tokens i v claim s ∨ BeforeClaim tokens i request v s))) frame_beforeClaim ?_ ?_
    · intro s reply s' hs hbefore hexec
      have hkept : s'.stored = s.stored →
          LegalStep tokens (entryOf i (.claim request) (.claimLease request.claimedAt claim)
            reply s s') s s' ∧ BeforeClaim tokens i request v s' := by
        intro hsame
        have hstep := legalStep_of_read tokens hexec hsame
        exact ⟨hstep, frame_beforeClaim.quiet s s' _ hs hstep hsame hbefore⟩
      have htaken : s.stored.lease.any (claimable · request.claimedAt) = true →
          s'.stored = { s.stored with lease := some claim } →
          LegalStep tokens (entryOf i (.claim request) (.claimLease request.claimedAt claim)
            reply s s') s s' ∧ Acquired tokens i v claim s' := by
        intro happlies hafter
        obtain ⟨row, hrow, hclaimable⟩ := (Option.any_eq_true _ _).mp happlies
        refine acquire_legal hs hbefore hexec howner hexpiry hafter ?_ ?_
        · intro r hr
          rw [hrow] at hr
          cases hr
          exact claimable_free hclaimable
        · intro hcopy hcancel
          obtain ⟨row', hrow', hkind⟩ := leaseKind_eq_some.mp hcancel
          rw [hrow] at hrow'
          cases hrow'
          simpa [StoreOp.keepsCancellation, hclaimable] using hcopy rfl row hrow hkind
      rcases mem_conditionalWrite.mp hexec.outcome with
        ⟨happlies, ⟨rfl, hafter⟩ | ⟨rfl, hafter | hsame⟩⟩ | ⟨-, hsame, rfl | rfl⟩
      · exact ⟨(htaken happlies hafter).1, Or.inl ⟨rfl, (htaken happlies hafter).2⟩⟩
      · exact ⟨(htaken happlies hafter).1,
          Or.inr (Or.inr ⟨rfl, Or.inl (htaken happlies hafter).2⟩)⟩
      · exact ⟨(hkept hsame).1, Or.inr (Or.inr ⟨rfl, Or.inr (hkept hsame).2⟩)⟩
      · exact ⟨(hkept hsame).1, Or.inr (Or.inl ⟨rfl, (hkept hsame).2⟩)⟩
      · exact ⟨(hkept hsame).1, Or.inr (Or.inr ⟨rfl, Or.inr (hkept hsame).2⟩)⟩
    · intro reply
      cases reply with
      | counted matched =>
          cases matched with
          | true =>
              refine Contract.Triple.pre (P := Acquired tokens i v claim) ?_ ?_
              · refine triple_done (persistent_acquired claim).frame ?_
                intro s _ h taken htaken
                cases htaken
                exact h
              · rintro s - (⟨-, h⟩ | ⟨h, -⟩ | ⟨h, -⟩)
                · exact h
                · cases h
                · cases h
          | false =>
              refine (triple_insertRecoveryLease howner hexpiry).pre ?_
              rintro s - (⟨h, -⟩ | ⟨-, h⟩ | ⟨h, -⟩)
              · cases h
              · exact h
              · cases h
      | duplicateKey => exact triple_notAcquired
      | unavailable =>
          refine (triple_confirmAcquired request v howner).pre ?_
          rintro s - (⟨h, -⟩ | ⟨h, -⟩ | ⟨-, h⟩)
          · cases h
          · cases h
          · exact h

/-! ## Claiming -/

def claimPost (i : Nat) (result : MongoRunStoreResult) (s : Database RecoveryCall) : Prop :=
  result.outcome = .accepted → Committed i s.log

theorem persistent_claimPost (result : MongoRunStoreResult) :
    Persistent (leases tokens) (claimPost i result) :=
  Persistent.imp Persistent.committed

private theorem triple_claimRefused {P : Database RecoveryCall → Prop} {outcome : StoreOutcome}
    {run : Option OrchestratorRunState} (hne : outcome ≠ .accepted) :
    ((leases tokens).contract i c).Triple P (.done ⟨outcome, run⟩) (claimPost i) :=
  (triple_done (P := fun _ => True) (Persistent.const True).frame
    fun _ _ _ hacc => absurd hacc hne).pre fun _ _ _ => trivial

theorem triple_rollBackClaim {request : ClaimRecovery} {run : OrchestratorRunState}
    {claimed : MongoRunStoreResult} :
    ((leases tokens).contract i (.claim request)).Triple (claimPost i claimed)
      (rollBackClaim (tokens.token i) run claimed) (claimPost i) := by
  have hpost : Persistent (leases tokens) (claimPost i claimed) := persistent_claimPost claimed
  refine Contract.Triple.bind _ ((triple_updateDedicatedRecoveryLease hpost ?_).post
    fun _ _ _ h => h.1) ?_
  · intro s reply s' hs _ howner hafter
    refine .surrender (tokens.token i) _ rfl howner (congrArg Stored.lease hafter) rfl ?_
    intro hcopy hcancel
    obtain ⟨row, hrow, hkind⟩ := leaseKind_eq_some.mp hcancel
    obtain ⟨row', hrow', howner'⟩ := leaseOwner_eq_some.mp howner
    rw [hrow] at hrow'
    cases hrow'
    simpa [StoreOp.keepsCancellation, howner'] using hcopy rfl row hrow hkind
  · intro ok
    cases ok with
    | false => exact triple_done hpost.frame fun _ _ h => h
    | true =>
        refine Contract.Triple.bind (fun _ => claimPost i claimed) ?_ fun _ => ?_
        · refine triple_mirrorRecoveryClaim hpost ?_ ?_
          · exact fun _ _ owner howner => by cases howner
          · exact fun _ _ owner howner => by cases howner
        · exact triple_done hpost.frame fun _ _ h => h

theorem triple_claimRecovery {request : ClaimRecovery} :
    ((leases tokens).contract i (.claim request)).Triple
      (fun s => ¬ Seen (tokens.token i) s.log ∧ request.claimedAt ≤ s.clock)
      (claimRecovery (tokens.token i) request) (claimPost i) := by
  have hstart : Frame (leases tokens) i
      (fun s => ¬ Seen (tokens.token i) s.log ∧ request.claimedAt ≤ s.clock) :=
    frame_unseen.and (Persistent.clock request.claimedAt).frame
  refine Contract.Triple.bind _ (triple_load (leaseFacts tokens) hstart) ?_
  intro run
  cases run with
  | none => exact triple_claimRefused (by simp)
  | some run =>
      simp only
      split
      · exact triple_claimRefused (by simp)
      · refine Contract.Triple.bind _ ((triple_claimDedicatedRecoveryLease
          (v := run.stateVersion)).pre ?_) ?_
        · exact fun s _ h => ⟨h.1.1, h.1.2, (h.2 run rfl).version⟩
        · intro acquired
          cases acquired with
          | none =>
              have hnothing : Frame (leases tokens) i (fun _ => True) := (Persistent.const True).frame
              refine Contract.Triple.bind (fun _ _ => True)
                (Contract.Triple.conseq (triple_load (leaseFacts tokens) hnothing) (fun _ _ _ => trivial)
                  fun _ _ _ _ => trivial) ?_
              exact fun latest => triple_claimRefused (by simp)
          | some claim =>
              have hready : CasReady tokens i (.claim request)
                  { run with recoveryClaim := claim, stateVersion := run.stateVersion + 1 }
                  run.stateVersion (Acquired tokens i run.stateVersion claim) := {
                persistent := persistent_acquired claim
                logged := fun _ h => h.2
                attempted := fun _ _ owner howner => by cases howner
                backed := fun _ _ owner howner => by cases howner
                exclusive := fun _ _ h hversion => ⟨h.1.seen, h.1.exclusive hversion⟩ }
              refine Contract.Triple.bind (claimPost i)
                (Contract.Triple.conseq (triple_casMutate_ready hready) ?_ ?_) ?_
              · exact fun s _ h => h claim rfl
              · exact fun result s _ h hacc => h.2 hacc rfl
              · intro claimed
                split
                · exact triple_rollBackClaim
                · exact triple_done (persistent_claimPost claimed).frame fun _ _ h => h

/-! ## Renewing and releasing -/

private theorem triple_loadResult {P : Database RecoveryCall → Prop} {outcome : StoreOutcome} :
    ((leases tokens).contract i c).Triple P
      (do let latest ← load; return (⟨outcome, latest⟩ : MongoRunStoreResult))
      (fun _ _ => True) := by
  have hnothing : Frame (leases tokens) i (fun _ => True) := (Persistent.const True).frame
  refine Contract.Triple.bind (fun _ _ => True)
    (Contract.Triple.conseq (triple_load (leaseFacts tokens) hnothing) (fun _ _ _ => trivial)
      fun _ _ _ _ => trivial) ?_
  exact fun latest => triple_anyResult

theorem Loaded.row_kind {s : Database RecoveryCall} {run : OrchestratorRunState}
    {owner : String} {row : RecoveryClaim} (h : Loaded run s) (hs : Traced tokens s)
    (hclaim : run.recoveryClaim.ownerId = some owner) (hrow : s.stored.lease = some row)
    (howner : row.ownerId = some owner) : run.recoveryClaim.kind = row.kind :=
  hs.held_unique (h.claim owner hclaim) (hs.rowLogged.held row owner hrow howner)

theorem triple_renewRecovery {request : RenewRecovery} :
    ((leases tokens).contract i (.renew request)).Triple (fun _ => True)
      (renewRecovery request) (fun _ _ => True) := by
  refine Contract.Triple.bind _ (triple_load (leaseFacts tokens) (Persistent.const True).frame) ?_
  intro run
  cases run with
  | none => exact triple_anyResult
  | some run =>
      simp only
      split
      · exact triple_anyResult
      · next hchecks =>
          have howner : run.recoveryClaim.ownerId = some request.ownerId := by
            simp only [not_or, not_not] at hchecks
            exact hchecks.2
          generalize hclaim : ({ run.recoveryClaim with
            leaseExpiresAt := some request.leaseExpiresAt } : RecoveryClaim) = claim
          have hclaimOwner : claim.ownerId = some request.ownerId := by rw [← hclaim]; exact howner
          have hclaimKind : claim.kind = run.recoveryClaim.kind := by rw [← hclaim]
          have hloaded : Persistent (leases tokens) (Loaded run) := persistent_loaded run
          refine Contract.Triple.bind _ ((triple_updateDedicatedRecoveryLease hloaded ?_).pre ?_) ?_
          · intro s reply s' hs hl hheld hafter
            obtain ⟨row, hrow, hrowOwner⟩ := leaseOwner_eq_some.mp hheld
            refine .renew request row claim rfl hrow hrowOwner (congrArg Stored.lease hafter)
              hclaimOwner (by rw [← hclaim]) ?_
            rw [hclaimKind]
            exact hl.row_kind hs howner hrow hrowOwner
          · exact fun s _ h => h.2 run rfl
          · intro ok
            cases ok with
            | false => exact triple_loadResult
            | true =>
                have hwritten : Persistent (leases tokens) (fun s => Loaded run s ∧
                    Backed i (.renew request) claim s.log) :=
                  hloaded.and (Persistent.log fun e _ h => h.mono e)
                refine Contract.Triple.bind (fun _ _ => True)
                  (Contract.Triple.conseq (triple_mirrorRecoveryClaim hwritten ?_ ?_) ?_
                    fun _ _ _ _ => trivial) ?_
                · intro s h owner ho
                  rw [hclaimOwner] at ho
                  cases ho
                  rw [hclaimKind]
                  exact h.1.claim request.ownerId howner
                · exact fun s h => h.2
                · intro s _ h
                  refine ⟨h.1, ?_⟩
                  intro owner ho
                  cases ho
                  exact h.2 rfl
                · exact fun _ => triple_anyResult

theorem Backed.attempted {claim : RecoveryClaim} {log : List RecoveryEntry}
    (h : Backed i c claim log) : Attempted i c log := by
  intro owner howner
  rcases h owner howner with ⟨e, hmem, hthread, ⟨written, hop⟩, -⟩ | hread
  · exact ⟨e, hmem, hthread, written, hop⟩
  · obtain ⟨newer, e, older, rfl, -, -, -, sent, hmem, hsent⟩ := hread
    exact ⟨sent, List.mem_append_right newer (List.mem_cons_of_mem e hmem), hsent⟩

theorem triple_mirrorRelease {owner : String} {run : OrchestratorRunState} {claim : RecoveryClaim}
    (hunowned : claim.ownerId = none) (hnoClaim : c.isClaim = false) :
    ((leases tokens).contract i c).Triple (fun s => Backed i c claim s.log)
      (mirrorRelease owner run claim) (fun _ _ => True) := by
  have hlogged : ∀ s, ClaimLogged claim s := by
    intro s o ho
    rw [hunowned] at ho
    cases ho
  have hready : CasReady tokens i c
      { run with recoveryClaim := claim, stateVersion := run.stateVersion + 1 } run.stateVersion
      (fun s => Backed i c claim s.log) := {
    persistent := Persistent.log fun e _ h => h.mono e
    logged := fun s _ => hlogged s
    attempted := fun _ h => h.attempted
    backed := fun _ h => h
    exclusive := fun hclaim => by rw [hnoClaim] at hclaim; cases hclaim }
  refine Contract.Triple.bind _ ((triple_casMutate_ready hready).post fun _ _ _ h => h.1) ?_
  intro released
  split
  · refine Contract.Triple.bind _ (triple_mirrorRecoveryClaim hready.persistent
      (fun s _ => hlogged s) fun _ h => h) fun _ => ?_
    refine Contract.Triple.bind _ (triple_load (leaseFacts tokens) hready.persistent.frame) ?_
    intro latest
    cases latest with
    | none => exact triple_anyResult
    | some latest =>
        simp only
        split
        · exact triple_anyResult
        · exact triple_anyResult
  · exact triple_anyResult

theorem triple_releaseRecovery {request : ReleaseRecovery} :
    ((leases tokens).contract i (.release request)).Triple (fun _ => True)
      (releaseRecovery request) (fun _ _ => True) := by
  refine Contract.Triple.bind _ (triple_load (leaseFacts tokens) (Persistent.const True).frame) ?_
  intro run
  cases run with
  | none => exact triple_anyResult
  | some run =>
      simp only
      split
      · exact triple_anyResult
      · next hchecks =>
          have howner : run.recoveryClaim.ownerId = some request.ownerId := by
            simp only [not_or, not_not] at hchecks
            exact hchecks.2
          generalize hclaim : ({ kind := run.recoveryClaim.kind
                                 nextAttemptAt := request.nextAttemptAt
                                 failureCount := request.failureCount
                                 quarantinedAt := request.quarantinedAt
                                 quarantineReason := request.quarantineReason } : RecoveryClaim) =
            claim
          have hunowned : claim.ownerId = none := by rw [← hclaim]
          have hclaimKind : claim.kind = run.recoveryClaim.kind := by rw [← hclaim]
          have hloaded : Persistent (leases tokens) (Loaded run) := persistent_loaded run
          refine Contract.Triple.bind (fun _ => Loaded run)
            (((triple_checked hloaded.frame).pre fun s _ h => h.2 run rfl).post
              fun _ _ _ h => h.2) fun _ => ?_
          refine Contract.Triple.bind _ (triple_updateDedicatedRecoveryLease hloaded ?_) ?_
          · intro s reply s' hs hl hheld hafter
            refine .surrender request.ownerId claim rfl hheld (congrArg Stored.lease hafter)
              hunowned ?_
            intro _ hcancel
            obtain ⟨row, hrow, hkind⟩ := leaseKind_eq_some.mp hcancel
            obtain ⟨row', hrow', hrowOwner⟩ := leaseOwner_eq_some.mp hheld
            rw [hrow] at hrow'
            cases hrow'
            rw [hclaimKind, hl.row_kind hs howner hrow hrowOwner, hkind]
          · intro ok
            cases ok with
            | false => exact triple_loadResult
            | true =>
                refine (triple_mirrorRelease hunowned rfl).pre ?_
                intro s _ h owner ho
                cases ho
                exact h.2 rfl

/-! ## Scheduling -/

theorem casReady_unowned {run : OrchestratorRunState} {expectedStateVersion : Nat}
    (hnoClaim : c.isClaim = false) (hnoOwner : c.heartbeatOwner = none)
    (hunowned : run.recoveryClaim.ownerId = none) :
    CasReady tokens i c run expectedStateVersion (fun _ => True) where
  persistent := Persistent.const True
  logged := fun _ _ owner howner => by rw [hunowned] at howner; cases howner
  attempted := fun _ _ owner howner => by rw [hnoOwner] at howner; cases howner
  backed := fun _ _ owner howner => by rw [hnoOwner] at howner; cases howner
  exclusive := fun hclaim => by rw [hnoClaim] at hclaim; cases hclaim

theorem scheduleLease_legal {request : ScheduleRecovery} {due : Timestamp}
    {s s' : Database RecoveryCall} {reply : WriteReply}
    (hexec : Executes i (.schedule request) (.scheduleLease due request.nextAttemptAt) s reply s') :
    LegalStep tokens
      (entryOf i (.schedule request) (.scheduleLease due request.nextAttemptAt) reply s s') s s' := by
  rcases mem_conditionalWrite.mp hexec.outcome with ⟨happlies, hafter⟩ | ⟨-, hsame, -⟩
  · obtain ⟨row, hrow, hrowChecks⟩ := (Option.any_eq_true _ _).mp happlies
    simp only [Bool.and_eq_true, beq_iff_eq, Option.isNone_iff_eq_none] at hrowChecks
    obtain ⟨⟨⟨hkind, hunowned⟩, -⟩, -⟩ := hrowChecks
    have hwritten : s'.stored = { s.stored with
        lease := s.stored.lease.map ({ · with nextAttemptAt := some request.nextAttemptAt }) } →
        LegalStep tokens (entryOf i (.schedule request)
          (.scheduleLease due request.nextAttemptAt) reply s s') s s' := by
      intro h
      refine legalStep_of_executes hexec (Or.inr ?_) (Or.inl (by rw [h]))
      refine .schedule request { row with nextAttemptAt := some request.nextAttemptAt } rfl ?_
        (by simp only [h, hrow, Option.map_some]) hunowned ?_
      · simp [Stored.leaseOwner, hrow, hunowned]
      · simp [Stored.leaseKind, hrow, hkind]
    rcases hafter with ⟨-, h⟩ | ⟨-, h | h⟩
    · exact hwritten h
    · exact hwritten h
    · exact legalStep_of_read tokens hexec h
  · exact legalStep_of_read tokens hexec hsame

theorem insertUnowned_legal {request : ScheduleRecovery} {claim : RecoveryClaim}
    {s s' : Database RecoveryCall} {reply : WriteReply} (hunowned : claim.ownerId = none)
    (hexec : Executes i (.schedule request) (.insertLease claim) s reply s') :
    LegalStep tokens (entryOf i (.schedule request) (.insertLease claim) reply s s') s s' := by
  have houtcome := hexec.outcome
  cases hrow : s.stored.lease with
  | some row =>
      simp only [StoreOp.outcomes, hrow, List.mem_cons, Prod.mk.injEq, List.not_mem_nil,
        or_false] at houtcome
      rcases houtcome with ⟨-, hsame⟩ | ⟨-, hsame⟩
      · exact legalStep_of_read tokens hexec hsame
      · exact legalStep_of_read tokens hexec hsame
  | none =>
      simp only [StoreOp.outcomes, hrow] at houtcome
      have hwritten : s'.stored = { s.stored with lease := some claim } →
          LegalStep tokens (entryOf i (.schedule request) (.insertLease claim) reply s s') s s' := by
        intro h
        refine legalStep_of_executes hexec (Or.inr ?_) (Or.inl (by rw [h]))
        refine .schedule request claim rfl ?_ (congrArg Stored.lease h) hunowned ?_
        · simp [Stored.leaseOwner, hrow]
        · simp [Stored.leaseKind, hrow]
      rcases mem_conditionalWrite.mp houtcome with ⟨-, ⟨-, h⟩ | ⟨-, h | h⟩⟩ | ⟨hfalse, -⟩
      · exact hwritten h
      · exact hwritten h
      · exact legalStep_of_read tokens hexec h
      · cases hfalse

theorem triple_scheduleRecovery {request : ScheduleRecovery} :
    ((leases tokens).contract i (.schedule request)).Triple (fun _ => True)
      (scheduleRecovery request) (fun _ _ => True) := by
  have hnothing : Frame (leases tokens) i (fun _ => True) := (Persistent.const True).frame
  refine Contract.Triple.bind (fun _ _ => True)
    ((triple_load (leaseFacts tokens) hnothing).post fun _ _ _ _ => trivial) ?_
  intro run
  cases run with
  | none => exact triple_anyResult
  | some run =>
      simp only
      split
      · exact triple_anyResult
      · next hchecks =>
          split
          · exact triple_anyResult
          · next due hdue =>
              split
              · exact triple_anyResult
              · generalize hclaim : ({ run.recoveryClaim with
                  nextAttemptAt := some request.nextAttemptAt } : RecoveryClaim) = claim
                have hunowned : claim.ownerId = none := by
                  rw [← hclaim]
                  simp only [not_or] at hchecks
                  simpa using hchecks.2.2.2.2.1
                refine Contract.Triple.bind (fun _ _ => True)
                  ((triple_casMutate_ready (casReady_unowned rfl rfl hunowned)).post
                    fun _ _ _ _ => trivial) ?_
                intro admitted
                split
                · exact triple_anyResult
                · refine triple_act (fun _ _ => True) hnothing
                    (fun s reply s' _ _ hexec => ⟨scheduleLease_legal hexec, trivial⟩) ?_
                  intro reply
                  cases reply with
                  | counted matched =>
                      cases matched with
                      | true => exact triple_loadResult
                      | false =>
                          refine Contract.Triple.bind (fun _ _ => True)
                            ((triple_loadRecoveryClaim (fun _ _ => True) hnothing
                              (fun _ => Persistent.const True)
                              fun _ _ _ _ _ _ _ => trivial).post fun _ _ _ _ => trivial) ?_
                          intro row
                          cases row with
                          | some row => exact triple_loadResult
                          | none =>
                              refine triple_act (fun _ _ => True) hnothing
                                (fun s reply s' _ _ hexec =>
                                  ⟨insertUnowned_legal hunowned hexec, trivial⟩) ?_
                              intro inserted
                              cases inserted with
                              | counted matched => exact triple_loadResult
                              | duplicateKey => exact triple_loadResult
                              | unavailable => exact triple_raise
                  | duplicateKey => exact triple_raise
                  | unavailable => exact triple_raise

/-! ## Canceling -/

def cancelPost (result : MongoRunStoreResult) (s : Database RecoveryCall) : Prop :=
  result.outcome = .accepted → ∃ e ∈ s.log, e.after.leaseKind = some .cancellation

theorem persistent_cancelPost (result : MongoRunStoreResult) :
    Persistent (leases tokens) (cancelPost result) :=
  Persistent.imp (Persistent.log (P := fun log => ∃ e ∈ log, e.after.leaseKind =
    some .cancellation) fun e _ ⟨e', hmem, h⟩ => ⟨e', List.mem_cons_of_mem e hmem, h⟩)

private theorem triple_cancelRefused {P : Database RecoveryCall → Prop} {outcome : StoreOutcome}
    {run : Option OrchestratorRunState} (hne : outcome ≠ .accepted) :
    ((leases tokens).contract i c).Triple P (.done ⟨outcome, run⟩) cancelPost :=
  (triple_done (P := fun _ => True) (Persistent.const True).frame
    fun _ _ _ hacc => absurd hacc hne).pre fun _ _ _ => trivial

theorem triple_replaceCancellationRecovery {request : RequestCancellation} :
    ((leases tokens).contract i (.cancel request)).Triple (fun _ => True)
      (replaceCancellationRecovery request.requestedAt)
      (fun _ s => ∃ e ∈ s.log, e.after.leaseKind = some .cancellation) := by
  have hlogged : Persistent (leases tokens) (fun s => ∃ e ∈ s.log, e.after.leaseKind =
      some .cancellation) :=
    Persistent.log (P := fun log => ∃ e ∈ log, e.after.leaseKind = some .cancellation)
      fun e _ ⟨e', hmem, h⟩ => ⟨e', List.mem_cons_of_mem e hmem, h⟩
  refine triple_act (fun reply s => ∀ matched, reply = .counted matched →
    ∃ e ∈ s.log, e.after.leaseKind = some .cancellation) (Persistent.const True).frame ?_ ?_
  · intro s reply s' hs _ hexec
    have hwritten : s'.stored =
        { s.stored with lease := some (cancellationClaim request.requestedAt) } →
        LegalStep tokens (entryOf i (.cancel request)
          (.upsertLease (cancellationClaim request.requestedAt)) reply s s') s s' := by
      intro h
      refine legalStep_of_executes hexec (Or.inr ?_) (Or.inl (by rw [h]))
      exact .cancel request _ rfl (congrArg Stored.lease h) rfl rfl
    rcases mem_conditionalWrite.mp hexec.outcome with ⟨-, ⟨rfl, h⟩ | ⟨rfl, h | h⟩⟩ | ⟨hfalse, -⟩
    · refine ⟨hwritten h, fun _ _ => ?_⟩
      rw [hexec.log]
      exact ⟨_, List.mem_cons_self, by rw [h]; rfl⟩
    · exact ⟨hwritten h, fun _ h => by cases h⟩
    · exact ⟨legalStep_of_read tokens hexec h, fun _ h => by cases h⟩
    · cases hfalse
  · intro reply
    cases reply with
    | counted matched =>
        refine Contract.Triple.pre (triple_mirrorRecoveryClaim hlogged ?_ ?_)
          fun _ _ h => h matched rfl
        · exact fun _ _ owner howner => by cases howner
        · exact fun _ _ owner howner => by cases howner
    | duplicateKey => exact triple_raise
    | unavailable => exact triple_raise

theorem triple_requestCancellation {request : RequestCancellation} :
    ((leases tokens).contract i (.cancel request)).Triple (fun _ => True)
      (requestCancellation request) cancelPost := by
  have hnothing : Frame (leases tokens) i (fun _ => True) := (Persistent.const True).frame
  have hlogged : Persistent (leases tokens) (fun s => ∃ e ∈ s.log, e.after.leaseKind =
      some .cancellation) :=
    Persistent.log (P := fun log => ∃ e ∈ log, e.after.leaseKind = some .cancellation)
      fun e _ ⟨e', hmem, h⟩ => ⟨e', List.mem_cons_of_mem e hmem, h⟩
  refine Contract.Triple.bind (fun _ _ => True)
    ((triple_load (leaseFacts tokens) hnothing).post fun _ _ _ _ => trivial) ?_
  intro run
  cases run with
  | none => exact triple_cancelRefused (by simp)
  | some run =>
      simp only
      split
      · refine Contract.Triple.bind _ triple_replaceCancellationRecovery fun _ => ?_
        exact triple_cancelRefused (by simp)
      · split
        · exact triple_cancelRefused (by simp)
        · refine Contract.Triple.bind (fun _ _ => True)
            ((triple_casMutate_ready (casReady_unowned rfl rfl rfl)).post fun _ _ _ _ => trivial) ?_
          intro stored
          split
          · refine Contract.Triple.bind _ triple_replaceCancellationRecovery fun _ => ?_
            refine Contract.Triple.bind _ ((triple_load (leaseFacts tokens) hlogged.frame).post fun _ _ _ h => h.1) ?_
            intro latest
            cases latest with
            | none => exact triple_done hlogged.frame fun _ _ h _ => h
            | some latest => exact triple_done hlogged.frame fun _ _ h _ => h
          · next hrefused =>
              obtain ⟨outcome, run⟩ := stored
              exact triple_cancelRefused fun hacc => hrefused (Or.inl hacc)

/-! ## Every interleaving -/

/-- What a call that returned promises of the log. -/
def recoveryPost (i : Nat) (c : RecoveryCall) (result : MongoRunStoreResult)
    (s : Database RecoveryCall) : Prop :=
  match c with
  | .claim _ => claimPost i result s
  | .cancel _ => cancelPost result s
  | _ => True

theorem persistent_recoveryPost (result : MongoRunStoreResult) :
    Persistent (leases tokens) (recoveryPost i c result) := by
  cases c with
  | claim request => exact persistent_claimPost result
  | cancel request => exact persistent_cancelPost result
  | renew request => exact Persistent.const True
  | release request => exact Persistent.const True
  | schedule request => exact Persistent.const True

/-- The recovery calls meet the rely-guarantee obligations with the legal steps as
their guarantee. -/
theorem recovery_proof (tokens : OwnerTokens) :
    (recoverySystem tokens).Proof (Traced tokens) (leases tokens).guarantee
      (fun i s => ¬ Seen (tokens.token i) s.log) recoveryPost where
  starts := by
    intro s hs
    refine ⟨.initial s hs, ?_⟩
    rintro i ⟨kind, e, hmem, -⟩
    rw [hs.log] at hmem
    cases hmem
  environment := fun s s' hs hticks => .tick s s' hs hticks
  staysFresh := by
    intro i s s' hs hothers hs' hunseen
    exact (frame_unseen (i := i)).stable (c := .schedule ⟨0, 0⟩) s s' hs hothers hs' hunseen
  body := by
    intro i c
    cases c with
    | cancel request => exact triple_requestCancellation.pre fun _ _ _ => trivial
    | claim request => exact triple_claimRecovery.pre fun s _ h => ⟨h.1, h.2 request rfl⟩
    | renew request => exact triple_renewRecovery.pre fun _ _ _ => trivial
    | release request => exact triple_releaseRecovery.pre fun _ _ _ => trivial
    | schedule request => exact triple_scheduleRecovery.pre fun _ _ _ => trivial
  staysReturned := fun _ _ result => (persistent_recoveryPost result).stable

/-! ## Schedules -/

def wordTokens : OwnerTokens where
  token n := String.ofList (List.replicate (n + 1) 'w')
  distinct := by
    intro m n h
    have hlengths := congrArg List.length (String.ofList_injective h)
    simpa using hlengths

def recoveryStepper (tokens : OwnerTokens) : (recoverySystem tokens).Stepper where
  admits s c :=
    match c with
    | .claim request => request.claimedAt ≤ s.clock
    | _ => true
  outcomes i c op s := s.outcomes i c op
  environment n s := { s with clock := s.clock + n }
  admits_sound := by
    rintro s c h request rfl
    simpa using h
  outcomes_sound := fun _ _ _ _ _ _ h => Database.outcomes_executes h
  environment_sound := fun n s => ⟨rfl, Nat.le_add_right _ n, rfl⟩

def dueConfig (tokens : OwnerTokens) : Config (recoverySystem tokens) where
  shared := ⟨⟨some sampleRun, none⟩, 600000, []⟩
  threads := fun _ => .unborn
  returned := []

theorem dueConfig_reachable (tokens : OwnerTokens) :
    (recoverySystem tokens).Reachable (dueConfig tokens) := by
  refine .init _ ⟨⟨rfl, rfl, ?_⟩, fun _ => rfl, rfl⟩
  intro run hrun
  cases hrun
  rfl

def acts (i : Nat) (outcomes : List Nat) : List (System.Move RecoveryCall) :=
  outcomes.map (.act i)

/-! ## Cancellation -/

def CancellationRowKept {tokens : OwnerTokens} (cfg : Config (recoverySystem tokens)) : Prop :=
  ∀ i request result, (i, .cancel request, result) ∈ cfg.returned → result.outcome = .accepted →
    (∃ run, cfg.shared.stored.run = some run ∧ run.status = .canceling) →
    cfg.shared.stored.leaseKind = some .cancellation

/-- As long as no claim writes a stale execution copy over it, the cancellation row
outlives every interleaving. -/
theorem cancellation_row_kept (tokens : OwnerTokens) {cfg : Config (recoverySystem tokens)}
    (hreach : (recoverySystem tokens).Reachable cfg)
    (hcopies : ∀ e ∈ cfg.shared.log, LogEntry.CurrentCopy e) : CancellationRowKept cfg := by
  have hsound := hreach.sound (recovery_proof tokens)
  intro i request result hreturned haccepted _
  exact hsound.shared.cancellation_kept hcopies (hsound.returned i _ result hreturned haccepted)

def claimThenCancel : List (System.Move RecoveryCall) :=
  [.start 0 (.claim ⟨0, 700000, 600000, false⟩)] ++ acts 0 [0, 0, 0, 0, 0, 0, 0, 0, 1, 0, 0] ++
  [.finish 0, .start 1 (.cancel ⟨1, ⟨"cancel", ["run"]⟩, .userRequested, 500000⟩)] ++
  acts 1 [0, 0, 0, 0, 1, 0, 0, 0, 0, 0] ++ [.finish 1]

/-- A worker takes the cancellation row after the cancellation was accepted, and it stays one. -/
def cancelThenClaim : List (System.Move RecoveryCall) :=
  claimThenCancel ++ [.start 2 (.claim ⟨2, 800000, 600000, false⟩)] ++
  acts 2 [0, 0, 0, 0, 0, 0, 1, 0] ++ [.finish 2]

theorem cancellation_row_kept_cancelThenClaim :
    ∃ cfg, (recoverySystem wordTokens).Reachable cfg ∧ CancellationRowKept cfg ∧
      cfg.returned.length = 3 ∧ cfg.shared.stored.leaseOwner = some (wordTokens.token 2) ∧
      cfg.shared.stored.leaseKind = some .cancellation := by
  obtain ⟨cfg, hreach, hcheck⟩ := System.Stepper.exists_of_play (recoveryStepper wordTokens)
    cancelThenClaim (fun cfg =>
      cfg.returned.length == 3 && cfg.shared.stored.leaseOwner == some (wordTokens.token 2) &&
      cfg.shared.stored.leaseKind == some .cancellation &&
      cfg.shared.log.all fun e => decide (LogEntry.CurrentCopy e))
    (dueConfig_reachable wordTokens) (by decide +kernel)
  simp only [Bool.and_eq_true, beq_iff_eq, List.all_eq_true, decide_eq_true_eq] at hcheck
  obtain ⟨⟨⟨hreturned, howner⟩, hkind⟩, hcopies⟩ := hcheck
  exact ⟨cfg, hreach, cancellation_row_kept wordTokens hreach hcopies, hreturned, howner, hkind⟩

/-- A claim reads no row, the cancellation runs to its end, and the claim's conditional
update then finds the cancellation row due. -/
def staleClaim : List (System.Move RecoveryCall) :=
  [.start 0 (.claim ⟨0, 700000, 600000, false⟩)] ++ acts 0 [0, 0, 0] ++
  [.start 1 (.cancel ⟨0, ⟨"cancel", ["run"]⟩, .userRequested, 500000⟩)] ++
  acts 1 [0, 0, 0, 0, 1, 0, 0, 0, 0, 0] ++ [.finish 1] ++ acts 0 [0]

theorem cancellation_row_overwritten :
    ¬ ∀ (tokens : OwnerTokens) (cfg : Config (recoverySystem tokens)),
      (recoverySystem tokens).Reachable cfg → CancellationRowKept cfg := by
  intro h
  obtain ⟨cfg, hreach, hcheck⟩ := System.Stepper.exists_of_play (recoveryStepper wordTokens)
    staleClaim (fun cfg =>
      (cfg.returned.any fun returned => returned.2.1.isCancel &&
        returned.2.2.outcome == .accepted) &&
      (cfg.shared.stored.run.any fun run => run.status == .canceling) &&
      cfg.shared.stored.leaseKind == some .execution)
    (dueConfig_reachable wordTokens) (by decide +kernel)
  simp only [Bool.and_eq_true, beq_iff_eq, List.any_eq_true, Option.any_eq_true] at hcheck
  obtain ⟨⟨⟨⟨i, c, result⟩, hreturned, hcancel, haccepted⟩, run, hrun, hcanceling⟩, hkind⟩ := hcheck
  cases c with
  | cancel request =>
      have hkept := h wordTokens cfg hreach i request result hreturned haccepted
        ⟨run, hrun, hcanceling⟩
      rw [hkind] at hkept
      cases hkept
  | claim request => cases hcancel
  | renew request => cases hcancel
  | release request => cases hcancel
  | schedule request => cases hcancel

/-! ## Exclusive leases -/

/-- At most one accepted claim is live: when a claim is accepted, every claim accepted
before it was given up, lost to a cancellation, or had run to its last expiry. -/
def ClaimsExclusive (tokens : OwnerTokens) (log : List RecoveryEntry) : Prop :=
  ∀ e older, e :: older <:+ log → e.commitsClaim → Exclusive tokens e.thread older e.clock

/-- A renew or release changes the row only when its owner holds it, and the Run
document only behind a row write that found the row held by its owner or whose
lost reply was made up by reading the row back as written. -/
def HeartbeatsBacked (log : List RecoveryEntry) : Prop :=
  ∀ (e : RecoveryEntry) older owner, e :: older <:+ log → e.call.heartbeatOwner = some owner →
    (e.after.lease ≠ e.before.lease → e.before.leaseOwner = some owner) ∧
    (e.after.run ≠ e.before.run → FencedWrite e.thread owner older ∨
      ∃ claim, e.after.claim = some claim ∧ ReadBack e.thread owner claim older)

theorem recovery_lease_exclusive (tokens : OwnerTokens) {cfg : Config (recoverySystem tokens)}
    (hreach : (recoverySystem tokens).Reachable cfg) :
    (∀ i request result, (i, .claim request, result) ∈ cfg.returned →
      result.outcome = .accepted → Committed i cfg.shared.log) ∧
    ClaimsExclusive tokens cfg.shared.log ∧ HeartbeatsBacked cfg.shared.log := by
  have hsound := hreach.sound (recovery_proof tokens)
  refine ⟨?_, ?_, ?_⟩
  · intro i request result hreturned haccepted
    exact hsound.returned i _ result hreturned haccepted
  · intro e older hsuffix hcommits
    exact hsound.shared.claims_exclusive hsuffix hcommits
  · intro e older owner hsuffix hcall
    exact hsound.shared.heartbeat_fenced hsuffix hcall

/-- A claim whose lease runs out between the row write and the mirror of its renewal:
another worker claims the Run in between. -/
def staleMirror : List (System.Move RecoveryCall) :=
  [.start 0 (.claim ⟨0, 600100, 600000, false⟩)] ++ acts 0 [0, 0, 0, 0, 0, 0, 0, 0, 1, 0, 0] ++
  [.finish 0, .start 1 (.renew ⟨1, wordTokens.token 0, 600200⟩)] ++ acts 1 [0, 0, 0] ++
  [.environment 300, .start 2 (.claim ⟨1, 600400, 600300, false⟩)] ++
  acts 2 [0, 0, 0, 0, 0, 0, 1, 0, 0] ++ [.finish 2] ++ acts 1 [0]

theorem recovery_lease_exclusive_staleMirror :
    ∃ cfg, (recoverySystem wordTokens).Reachable cfg ∧ ClaimsExclusive wordTokens cfg.shared.log ∧
      HeartbeatsBacked cfg.shared.log ∧ cfg.returned.length = 2 := by
  obtain ⟨cfg, hreach, hcheck⟩ := System.Stepper.exists_of_play (recoveryStepper wordTokens)
    staleMirror (fun cfg => cfg.returned.length == 2)
    (dueConfig_reachable wordTokens) (by decide +kernel)
  obtain ⟨-, hclaims, hheartbeats⟩ := recovery_lease_exclusive wordTokens hreach
  exact ⟨cfg, hreach, hclaims, hheartbeats, by simpa using hcheck⟩

/-- A heartbeat changes neither document while its owner does not hold the row. -/
def HeartbeatsFenced (log : List RecoveryEntry) : Prop :=
  ∀ e ∈ log, ∀ owner, e.call.heartbeatOwner = some owner → e.before.leaseOwner ≠ some owner →
    e.after.lease = e.before.lease ∧ e.after.claim = e.before.claim

/-- The mirror of the late renewal lands on the claim of the new owner. -/
theorem recovery_mirror_unfenced :
    ¬ ∀ (tokens : OwnerTokens) (cfg : Config (recoverySystem tokens)),
      (recoverySystem tokens).Reachable cfg →
      ClaimsExclusive tokens cfg.shared.log ∧ HeartbeatsFenced cfg.shared.log := by
  intro h
  obtain ⟨cfg, hreach, hcheck⟩ := System.Stepper.exists_of_play (recoveryStepper wordTokens)
    staleMirror (fun cfg => cfg.shared.log.any fun e =>
      e.call.heartbeatOwner == some (wordTokens.token 0) &&
      e.before.leaseOwner != some (wordTokens.token 0) && e.after.claim != e.before.claim)
    (dueConfig_reachable wordTokens) (by decide +kernel)
  simp only [List.any_eq_true, Bool.and_eq_true, beq_iff_eq, bne_iff_ne] at hcheck
  obtain ⟨e, hmem, ⟨hcall, howner⟩, hchanged⟩ := hcheck
  exact hchanged ((h wordTokens cfg hreach).2 e hmem _ hcall howner).2

end Hybro.RunStore
