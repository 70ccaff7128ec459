import Hybro.RunStore.LeaseLog
import Hybro.RunStore.StoreRules

/-! # Rules for the recovery programs

The recovery calls as one system of interleaved programs under the discipline of
the lease log, and the rules for the store pieces that write.
-/

namespace Hybro.RunStore

open Orchestrator Interleaving

/-! ## The system -/

def recoveryBody (tokens : OwnerTokens) (i : Nat) : RecoveryCall → StoreProg MongoRunStoreResult
  | .cancel request => requestCancellation request
  | .claim request => claimRecovery (tokens.token i) request
  | .renew request => renewRecovery request
  | .release request => releaseRecovery request
  | .schedule request => scheduleRecovery request

/-- Any number of recovery calls on one Run. A claim attempt carries its own
owner id, and its `claimed_at` was read from the clock before. -/
def recoverySystem (tokens : OwnerTokens) : System StoreOp StoreOp.Res where
  State := Database RecoveryCall
  Call := RecoveryCall
  Result := MongoRunStoreResult
  exec := Executes
  environment := Ticks
  admits s c := ∀ request, c = .claim request → request.claimedAt ≤ s.clock
  body := recoveryBody tokens
  initial := NeverClaimed

variable {tokens : OwnerTokens} {i : Nat} {c : RecoveryCall}

theorem legalStep_of_executes {op : StoreOp} {reply : op.Res} {s s' : Database RecoveryCall}
    (h : Executes i c op s reply s')
    (hlease : s'.stored.lease = s.stored.lease ∨
      LeaseChange tokens (entryOf i c op reply s s') s.log)
    (hrun : s'.stored.run = s.stored.run ∨ RunChange tokens (entryOf i c op reply s s') s.log) :
    LegalStep tokens (entryOf i c op reply s s') s s' :=
  ⟨h.log, h.clock, rfl, rfl, rfl, hlease, hrun⟩

variable (tokens) in
theorem legalStep_of_read {op : StoreOp} {reply : op.Res} {s s' : Database RecoveryCall}
    (h : Executes i c op s reply s') (hsame : s'.stored = s.stored) :
    LegalStep tokens (entryOf i c op reply s s') s s' :=
  legalStep_of_executes h (Or.inl (by rw [hsame])) (Or.inl (by rw [hsame]))

def leases (tokens : OwnerTokens) : Discipline RecoveryCall where
  inv := Traced tokens
  legal := LegalStep tokens
  environment := Ticks
  keeps := fun hs hstep => .entry _ _ _ hs hstep
  quiet := fun _ hexec hsame => legalStep_of_read tokens hexec hsame

/-! ## Assertions that survive the others -/

theorem Persistent.log {P : List RecoveryEntry → Prop} (h : ∀ e log, P log → P (e :: log)) :
    Persistent (leases tokens) (fun s => P s.log) := by
  constructor
  · intro s s' ht hP
    simpa only [ht.log] using hP
  · intro s s' e _ hstep hP
    simpa only [hstep.log] using h e s.log hP

theorem Persistent.clock (n : Timestamp) : Persistent (leases tokens) (fun s => n ≤ s.clock) := by
  constructor
  · intro s s' ht hP
    exact Nat.le_trans hP ht.clock
  · intro s s' e _ hstep hP
    simpa only [hstep.clock] using hP

theorem Persistent.version (n : Nat) :
    Persistent (leases tokens) (fun s => n ≤ s.stored.version) := by
  constructor
  · intro s s' ht hP
    simpa only [ht.stored] using hP
  · intro s s' e _ hstep hP
    exact Nat.le_trans hP hstep.version_le

theorem Persistent.claimSafe (v : Nat) : Persistent (leases tokens) (ClaimSafe tokens i v) :=
  ⟨fun _ _ ht h => h.tick ht, fun _ _ _ hs hstep h => h.step hs hstep⟩

theorem Persistent.held (owner : String) (kind : RecoveryKind) :
    Persistent (leases tokens) (fun s => Held owner kind s.log) :=
  Persistent.log fun e _ h => h.mono e

theorem Persistent.committed : Persistent (leases tokens) (fun s => Committed i s.log) :=
  Persistent.log fun _ _ h => committed_cons.mpr (Or.inr h)

theorem frame_unseen : Frame (leases tokens) i (fun s => ¬ Seen (tokens.token i) s.log) := by
  have hback : ∀ s s' : Database RecoveryCall, ∀ e : RecoveryEntry, Traced tokens s →
      LegalStep tokens e s s' → (e.thread ≠ i ∨ s'.stored = s.stored) →
      ¬ Seen (tokens.token i) s.log → ¬ Seen (tokens.token i) s'.log := by
    intro s s' e hs hstep hcase hunseen hseen
    rw [hstep.log] at hseen
    obtain ⟨kind, e', hmem, row, hrow, howner, hkind⟩ := hseen
    rcases List.mem_cons.mp hmem with rfl | hmem
    · have hbefore : ∃ before, s.stored.lease = some before ∧
          before.ownerId = some (tokens.token i) := by
        rcases hcase with hne | hquiet
        · rcases hstep.held_cases hrow howner with ⟨htoken, -, -⟩ | ⟨before, h1, h2, -⟩
          · exact absurd (tokens.distinct htoken).symm hne
          · exact ⟨before, h1, h2⟩
        · exact ⟨row, by rw [← hquiet, ← hstep.after, hrow], howner⟩
      obtain ⟨before, h1, h2⟩ := hbefore
      exact hunseen ⟨_, hs.rowLogged.held before _ h1 h2⟩
    · exact hunseen ⟨kind, e', hmem, row, hrow, howner, hkind⟩
  constructor
  · intro s s' ht h
    simpa only [ht.log] using h
  · exact fun s s' e hs hstep hne => hback s s' e hs hstep (Or.inl hne)
  · exact fun s s' e hs hstep hq => hback s s' e hs hstep (Or.inr hq)

/-! ## Reading -/

def ClaimLogged (claim : RecoveryClaim) (s : Database RecoveryCall) : Prop :=
  ∀ owner, claim.ownerId = some owner → Held owner claim.kind s.log

/-- What a loaded Run says of the database for ever after. -/
structure Loaded (run : OrchestratorRunState) (s : Database RecoveryCall) : Prop where
  version : run.stateVersion ≤ s.stored.version
  claim : ClaimLogged run.recoveryClaim s

theorem persistent_claimLogged (claim : RecoveryClaim) :
    Persistent (leases tokens) (ClaimLogged claim) :=
  Persistent.all fun owner => (Persistent.held owner claim.kind).imp

theorem persistent_loaded (run : OrchestratorRunState) : Persistent (leases tokens) (Loaded run) := by
  have h : Persistent (leases tokens) (fun s => run.stateVersion ≤ s.stored.version ∧
      ClaimLogged run.recoveryClaim s) :=
    (Persistent.version run.stateVersion).and (persistent_claimLogged run.recoveryClaim)
  exact ⟨fun s s' ht hl => ⟨(h.environment s s' ht ⟨hl.1, hl.2⟩).1, (h.environment s s' ht ⟨hl.1, hl.2⟩).2⟩,
    fun s s' e hs hstep hl =>
      ⟨(h.step s s' e hs hstep ⟨hl.1, hl.2⟩).1, (h.step s s' e hs hstep ⟨hl.1, hl.2⟩).2⟩⟩

theorem rowClaim_logged {s s' : Database RecoveryCall} {e : RecoveryEntry}
    {row : RecoveryClaim} (hs : Traced tokens s) (hstep : LegalStep tokens e s s')
    (hrow : s.stored.lease = some row) : ClaimLogged row s' := by
  intro owner howner
  rw [hstep.log]
  exact (hs.rowLogged.held row owner hrow howner).mono e

/-- What the recovery calls know of a loaded Run and of a row they have read. -/
def leaseFacts (tokens : OwnerTokens) : StoreFacts (leases tokens) where
  document := Loaded
  row := ClaimLogged
  documentPersistent := persistent_loaded
  rowPersistent := persistent_claimLogged
  documentRead := by
    intro s s' e run hs hstep hsame hrun
    constructor
    · simp [Stored.version, hsame, hrun]
    · intro owner howner
      rw [hstep.log]
      exact (hs.document_held hrun howner).mono e
  rowRead := fun hs hstep _ hrow => rowClaim_logged hs hstep hrow
  overlay := fun hrun hrow => ⟨hrun.version, hrow⟩

def plainFacts : StoreFacts (leases tokens) where
  document := fun _ _ => True
  row := fun _ _ => True
  documentPersistent := fun _ => Persistent.const True
  rowPersistent := fun _ => Persistent.const True
  documentRead := fun _ _ _ _ => trivial
  rowRead := fun _ _ _ _ => trivial
  overlay := fun _ _ => trivial

/-! ## Writing -/

/-- Before a heartbeat call writes the Run document it has sent its fenced row write. -/
def Attempted (i : Nat) (c : RecoveryCall) (log : List RecoveryEntry) : Prop :=
  ∀ owner, c.heartbeatOwner = some owner →
    ∃ sent ∈ log, sent.thread = i ∧ ∃ written, sent.op = .updateLease owner written

theorem backed_of_read {claim : RecoveryClaim} {s s' : Database RecoveryCall} {e : RecoveryEntry}
    (hattempted : Attempted i c s.log) (hstep : LegalStep tokens e s s') (hthread : e.thread = i)
    (hop : e.op = .findLease) (hrow : s.stored.lease = some claim) : Backed i c claim s'.log := by
  intro owner howner
  refine Or.inr ⟨[], e, s.log, by rw [hstep.log, List.nil_append], hthread, hop, ?_,
    hattempted owner howner⟩
  rw [hstep.before, hrow]

theorem triple_mirrorRecoveryClaim {K : Database RecoveryCall → Prop} {claim : RecoveryClaim}
    (hK : Persistent (leases tokens) K) (hlogged : ∀ s, K s → ClaimLogged claim s)
    (hbacked : ∀ s, K s → Backed i c claim s.log) :
    ((leases tokens).contract i c).Triple K (mirrorRecoveryClaim claim) (fun _ => K) := by
  refine triple_act (fun _ => K) hK.frame ?_ ?_
  · intro s reply s' hs hKs hexec
    have hlegal : LegalStep tokens (entryOf i c (.mirrorClaim claim) reply s s') s s' := by
      rcases mem_conditionalWrite.mp hexec.outcome with ⟨happlies, hafter⟩ | ⟨-, hsame, -⟩
      · have hcases : s'.stored = { s.stored with
            run := s.stored.run.map ({ · with recoveryClaim := claim }) } ∨
            s'.stored = s.stored := by
          rcases hafter with ⟨-, h⟩ | ⟨-, h⟩
          · exact Or.inl h
          · exact h
        rcases hcases with h | h
        · obtain ⟨document, hdocument, -⟩ := (Option.any_eq_true _ _).mp happlies
          refine legalStep_of_executes hexec (Or.inl (by rw [h])) (Or.inr ?_)
          exact .mirror document claim hdocument (by simp [h, hdocument]) (hlogged s hKs)
            (hbacked s hKs)
        · exact legalStep_of_read tokens hexec h
      · exact legalStep_of_read tokens hexec hsame
    exact ⟨hlegal, hK.step s s' _ hs hlegal hKs⟩
  · intro reply
    cases reply with
    | counted matched => exact triple_done hK.frame fun _ _ h => h
    | duplicateKey => exact triple_raise
    | unavailable => exact triple_raise

theorem triple_mirrorAfterReplace {K : Database RecoveryCall → Prop}
    {candidate : OrchestratorRunState} (hK : Persistent (leases tokens) K)
    (hattempted : ∀ s, K s → Attempted i c s.log) :
    ((leases tokens).contract i c).Triple K (mirrorAfterReplace candidate) (fun _ => K) := by
  have hpersistent : ∀ row : Option RecoveryClaim, Persistent (leases tokens) (fun s =>
      ∀ claim, row = some claim → ClaimLogged claim s ∧ Backed i c claim s.log) := by
    intro row
    refine Persistent.all fun claim => Persistent.imp ?_
    exact (persistent_claimLogged claim).and (Persistent.log fun e _ h => h.mono e)
  refine Contract.Triple.bind _ (triple_loadRecoveryClaim (fun row s => ∀ claim,
    row = some claim → ClaimLogged claim s ∧ Backed i c claim s.log) hK.frame hpersistent ?_) ?_
  · intro s reply s' hs hKs hstep _ claim hclaim
    exact ⟨rowClaim_logged hs hstep hclaim, backed_of_read (hattempted s hKs) hstep rfl rfl hclaim⟩
  · intro row
    have hrow := hK.and (hpersistent row)
    cases row with
    | none => exact triple_done hrow.frame fun _ _ h => h.1
    | some claim =>
        simp only
        split
        · refine Contract.Triple.bind (fun _ s => K s) ?_ fun _ => ?_
          · refine (triple_mirrorRecoveryClaim hrow ?_ ?_).post fun _ _ _ h => h.1
            · exact fun s h => (h.2 claim rfl).1
            · exact fun s h => (h.2 claim rfl).2
          · exact triple_done hK.frame fun _ _ h => h
        · exact triple_done hrow.frame fun _ _ h => h.1

/-- What a caller of `cas_mutate` has to know about its candidate. -/
structure CasReady (tokens : OwnerTokens) (i : Nat) (c : RecoveryCall)
    (run : OrchestratorRunState) (expectedStateVersion : Nat) (K : Database RecoveryCall → Prop) :
    Prop where
  persistent : Persistent (leases tokens) K
  logged : ∀ s, K s → ClaimLogged run.recoveryClaim s
  attempted : ∀ s, K s → Attempted i c s.log
  backed : ∀ s, K s → Backed i c run.recoveryClaim s.log
  exclusive : c.isClaim = true → ∀ s, K s → s.stored.version = expectedStateVersion →
    Seen (tokens.token i) s.log ∧ Exclusive tokens i s.log s.clock

def AcceptedCommits (i : Nat) (c : RecoveryCall) (result : MongoRunStoreResult)
    (s : Database RecoveryCall) : Prop :=
  result.outcome = .accepted → c.isClaim = true → Committed i s.log

theorem replaceRun_legal {K : Database RecoveryCall → Prop} {run : OrchestratorRunState}
    {expectedStateVersion : Nat} {commandId : CommandId}
    (hready : CasReady tokens i c run expectedStateVersion K)
    (hversion : run.stateVersion = expectedStateVersion + 1) {s s' : Database RecoveryCall}
    {reply : WriteReply} (hKs : K s)
    (hexec : Executes i c (.replaceRun expectedStateVersion (withCommand run commandId)) s reply s') :
    LegalStep tokens
      (entryOf i c (.replaceRun expectedStateVersion (withCommand run commandId)) reply s s') s s' ∧
      (reply = .counted true → c.isClaim = true → Committed i s'.log) := by
  rcases replaceRun_cases hexec with ⟨hsame, hreply⟩ | ⟨hafter, document, hdocument, hexpected⟩
  · exact ⟨legalStep_of_read tokens hexec hsame, fun h => absurd h hreply⟩
  · have hbefore : s.stored.version = expectedStateVersion := by
      simp [Stored.version, hdocument, hexpected]
    have hnew : s'.stored.version = expectedStateVersion + 1 := by
      simp [Stored.version, hafter, hversion]
    refine ⟨legalStep_of_executes hexec (Or.inl (by rw [hafter])) (Or.inr ?_), ?_⟩
    · refine .commit document (withCommand run commandId) hdocument (congrArg Stored.run hafter)
        ?_ ?_ ?_ ?_
      · rw [withCommand_stateVersion, hversion, hexpected]
      · rw [withCommand_recoveryClaim]
        exact hready.logged s hKs
      · rw [withCommand_recoveryClaim]
        exact hready.backed s hKs
      · exact fun hclaim => hready.exclusive hclaim s hKs hbefore
    · intro _ hclaim
      rw [hexec.log]
      have hlt : s.stored.version < s'.stored.version := by omega
      exact committed_cons.mpr (Or.inl ⟨rfl, hclaim, hlt⟩)

theorem triple_casMutate_ready {K : Database RecoveryCall → Prop} {run : OrchestratorRunState}
    {expectedStateVersion : Nat} {commandId : CommandId}
    (hready : CasReady tokens i c run expectedStateVersion K) :
    ((leases tokens).contract i c).Triple K (casMutate run expectedStateVersion commandId)
      (fun result s => K s ∧ AcceptedCommits i c result s) := by
  have hK := hready.persistent
  have hC : Persistent (leases tokens) (fun s => c.isClaim = true → Committed i s.log) :=
    Persistent.imp Persistent.committed
  refine (triple_casMutate plainFacts hK (fun hversion s reply s' _ hKs hexec =>
    replaceRun_legal hready hversion hKs hexec) ?_).post fun _ _ _ h => ⟨h.1, h.2.1⟩
  refine (triple_mirrorAfterReplace (hK.and hC) fun s h => hready.attempted s h.1).post ?_
  exact fun result s _ h => ⟨h.1, fun _ => h.2, fun _ _ => trivial⟩

end Hybro.RunStore
