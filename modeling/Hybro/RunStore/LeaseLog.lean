import Hybro.RunStore.Store

/-! # The log of one recovery lease

What the recovery calls may do to the lease row and to the claim embedded in the
Run document, stated over the log of the database, and what follows for every
log that grows by such steps. Nothing here looks at the programs.
-/

namespace Hybro.RunStore

open Orchestrator

/-! ## Calls and owners -/

inductive RecoveryCall
  | cancel (request : RequestCancellation)
  | claim (request : ClaimRecovery)
  | renew (request : RenewRecovery)
  | release (request : ReleaseRecovery)
  | schedule (request : ScheduleRecovery)
  deriving DecidableEq

/-- The owner id of each claim attempt, different for different attempts. -/
structure OwnerTokens where
  token : Nat → String
  distinct : Function.Injective token

variable (tokens : OwnerTokens)

abbrev RecoveryEntry := LogEntry RecoveryCall

def RecoveryCall.isClaim : RecoveryCall → Bool
  | .claim _ => true
  | _ => false

def RecoveryCall.isCancel : RecoveryCall → Bool
  | .cancel _ => true
  | _ => false

/-- The owner for whom a renew or a release speaks. -/
def RecoveryCall.heartbeatOwner : RecoveryCall → Option String
  | .renew request => some request.ownerId
  | .release request => some request.ownerId
  | _ => none

/-- A conditional row write that matches `row` carries a cancellation claim. -/
def StoreOp.keepsCancellation (row : RecoveryClaim) : StoreOp → Bool
  | .claimLease claimedAt claim => !claimable row claimedAt || claim.kind == .cancellation
  | .updateLease ownerId claim => row.ownerId != some ownerId || claim.kind == .cancellation
  | _ => true

def Stored.claim (stored : Stored) : Option RecoveryClaim := stored.run.map (·.recoveryClaim)

def Stored.version (stored : Stored) : Nat := stored.run.elim 0 (·.stateVersion)

namespace LogEntry

def commitsClaim (e : RecoveryEntry) : Prop :=
  e.call.isClaim = true ∧ e.before.version < e.after.version

/-- The call gives up the lease of `owner`: a release by it, or the rollback of its claim. -/
def givesUp (e : RecoveryEntry) (owner : String) : Prop :=
  match e.call with
  | .release request => request.ownerId = owner
  | .claim _ => tokens.token e.thread = owner
  | _ => False

/-- A claim that finds a cancellation row does not write an execution claim over it:
its copy of the row is not older than the cancellation. -/
def CurrentCopy (e : RecoveryEntry) : Prop :=
  e.call.isClaim = true → ∀ row ∈ e.before.lease, row.kind = .cancellation →
    e.op.keepsCancellation row = true

instance (e : RecoveryEntry) : Decidable e.CurrentCopy :=
  inferInstanceAs (Decidable (_ → ∀ row ∈ e.before.lease, _ → _))

end LogEntry

/-! ## Facts a log shows -/

/-- `owner` held the row with a claim of this kind. -/
def Held (owner : String) (kind : RecoveryKind) (log : List RecoveryEntry) : Prop :=
  ∃ e ∈ log, ∃ row, e.after.lease = some row ∧ row.ownerId = some owner ∧ row.kind = kind

def Seen (owner : String) (log : List RecoveryEntry) : Prop :=
  ∃ kind, Held owner kind log

/-- The lease expiry that `owner` wrote last. -/
def lastExpiry (owner : String) : List RecoveryEntry → Option Timestamp
  | [] => none
  | e :: older =>
      match e.after.lease with
      | some row => if row.ownerId = some owner then row.leaseExpiresAt else lastExpiry owner older
      | none => lastExpiry owner older

/-- `owner` released the lease, or a cancellation replaced its row. -/
def Surrendered (owner : String) (log : List RecoveryEntry) : Prop :=
  ∃ e ∈ log, e.before.leaseOwner = some owner ∧ e.after.leaseOwner = none ∧
    (e.givesUp tokens owner ∨ e.call.isCancel = true)

def Expired (owner : String) (log : List RecoveryEntry) (clock : Timestamp) : Prop :=
  ∃ expiry, lastExpiry owner log = some expiry ∧ expiry ≤ clock

/-- The claim of thread `i` was accepted. -/
def Committed (i : Nat) (log : List RecoveryEntry) : Prop :=
  ∃ e ∈ log, e.thread = i ∧ e.commitsClaim

/-- Thread `i` sent a row write fenced by `owner` and it found the row held by `owner`. -/
def FencedWrite (i : Nat) (owner : String) (log : List RecoveryEntry) : Prop :=
  ∃ e ∈ log, e.thread = i ∧ (∃ claim, e.op = .updateLease owner claim) ∧
    e.before.leaseOwner = some owner

/-- Thread `i` sent a row write fenced by `owner` and later read the row back holding `claim`. -/
def ReadBack (i : Nat) (owner : String) (claim : RecoveryClaim) (log : List RecoveryEntry) : Prop :=
  ∃ newer e older, log = newer ++ e :: older ∧ e.thread = i ∧ e.op = .findLease ∧
    e.before.lease = some claim ∧
    ∃ sent ∈ older, sent.thread = i ∧ ∃ written, sent.op = .updateLease owner written

/-- What a renew or release has behind it when it writes `claim` to the Run document. -/
def Backed (i : Nat) (call : RecoveryCall) (claim : RecoveryClaim) (log : List RecoveryEntry) :
    Prop :=
  ∀ owner, call.heartbeatOwner = some owner →
    FencedWrite i owner log ∨ ReadBack i owner claim log

/-- No other accepted claim is live: its owner gave it up, lost it to a cancellation
or let it expire. -/
def Exclusive (i : Nat) (log : List RecoveryEntry) (clock : Timestamp) : Prop :=
  ∀ j, j ≠ i → Committed j log →
    Surrendered tokens (tokens.token j) log ∨ Expired (tokens.token j) log clock

/-! ## Legal steps -/

inductive LeaseChange (e : RecoveryEntry) (older : List RecoveryEntry) : Prop
  | acquire (request : ClaimRecovery) (row : RecoveryClaim) (hcall : e.call = .claim request)
      (hafter : e.after.lease = some row) (howner : row.ownerId = some (tokens.token e.thread))
      (hexpiry : row.leaseExpiresAt = some request.leaseExpiresAt)
      (hfree : ∀ r, e.before.lease = some r →
        r.ownerId = none ∨ ∀ expiry ∈ r.leaseExpiresAt, expiry ≤ e.clock)
      (hunseen : ¬ Seen (tokens.token e.thread) older)
      (hkind : e.CurrentCopy → e.before.leaseKind = some .cancellation → row.kind = .cancellation)
  | renew (request : RenewRecovery) (before row : RecoveryClaim) (hcall : e.call = .renew request)
      (hbefore : e.before.lease = some before) (hheld : before.ownerId = some request.ownerId)
      (hafter : e.after.lease = some row) (howner : row.ownerId = some request.ownerId)
      (hexpiry : row.leaseExpiresAt = some request.leaseExpiresAt)
      (hkind : row.kind = before.kind)
  | surrender (owner : String) (row : RecoveryClaim) (hgives : e.givesUp tokens owner)
      (hheld : e.before.leaseOwner = some owner) (hafter : e.after.lease = some row)
      (hfreed : row.ownerId = none)
      (hkind : e.CurrentCopy → e.before.leaseKind = some .cancellation → row.kind = .cancellation)
  | schedule (request : ScheduleRecovery) (row : RecoveryClaim) (hcall : e.call = .schedule request)
      (hheld : e.before.leaseOwner = none) (hafter : e.after.lease = some row)
      (hfreed : row.ownerId = none) (hkind : e.before.leaseKind ≠ some .cancellation)
  | cancel (request : RequestCancellation) (row : RecoveryClaim) (hcall : e.call = .cancel request)
      (hafter : e.after.lease = some row) (hfreed : row.ownerId = none)
      (hkind : row.kind = .cancellation)

inductive RunChange (e : RecoveryEntry) (older : List RecoveryEntry) : Prop
  | mirror (document : OrchestratorRunState) (claim : RecoveryClaim)
      (hbefore : e.before.run = some document)
      (hafter : e.after.run = some { document with recoveryClaim := claim })
      (hheld : ∀ owner, claim.ownerId = some owner → Held owner claim.kind older)
      (hbacked : Backed e.thread e.call claim older)
  | commit (document candidate : OrchestratorRunState) (hbefore : e.before.run = some document)
      (hafter : e.after.run = some candidate)
      (hversion : candidate.stateVersion = document.stateVersion + 1)
      (hheld : ∀ owner, candidate.recoveryClaim.ownerId = some owner →
        Held owner candidate.recoveryClaim.kind older)
      (hbacked : Backed e.thread e.call candidate.recoveryClaim older)
      (hexclusive : e.call.isClaim = true →
        Seen (tokens.token e.thread) older ∧ Exclusive tokens e.thread older e.clock)

structure LegalStep (e : RecoveryEntry) (s s' : Database RecoveryCall) : Prop where
  log : s'.log = e :: s.log
  clock : s'.clock = s.clock
  entryClock : e.clock = s.clock
  before : e.before = s.stored
  after : e.after = s'.stored
  lease : e.after.lease = e.before.lease ∨ LeaseChange tokens e s.log
  run : e.after.run = e.before.run ∨ RunChange tokens e s.log

structure NeverClaimed (s : Database RecoveryCall) : Prop where
  log : s.log = []
  lease : s.stored.lease = none
  run : ∀ run, s.stored.run = some run → run.recoveryClaim.ownerId = none

inductive Traced : Database RecoveryCall → Prop
  | initial (s : Database RecoveryCall) (h : NeverClaimed s) : Traced s
  | entry (s s' : Database RecoveryCall) (e : RecoveryEntry) (h : Traced s)
      (hstep : LegalStep tokens e s s') : Traced s'
  | tick (s s' : Database RecoveryCall) (h : Traced s) (hticks : Ticks s s') : Traced s'

variable {tokens}

/-! ## Logs only grow -/

theorem Held.mono {owner : String} {kind : RecoveryKind} {log : List RecoveryEntry}
    (h : Held owner kind log) (e : RecoveryEntry) : Held owner kind (e :: log) := by
  obtain ⟨e', hmem, hrow⟩ := h
  exact ⟨e', List.mem_cons_of_mem e hmem, hrow⟩

theorem Seen.mono {owner : String} {log : List RecoveryEntry} (h : Seen owner log)
    (e : RecoveryEntry) : Seen owner (e :: log) :=
  h.imp fun _ hheld => hheld.mono e

theorem Surrendered.mono {owner : String} {log : List RecoveryEntry}
    (h : Surrendered tokens owner log) (e : RecoveryEntry) :
    Surrendered tokens owner (e :: log) := by
  obtain ⟨e', hmem, hrest⟩ := h
  exact ⟨e', List.mem_cons_of_mem e hmem, hrest⟩

theorem FencedWrite.mono {i : Nat} {owner : String} {log : List RecoveryEntry}
    (h : FencedWrite i owner log) (e : RecoveryEntry) : FencedWrite i owner (e :: log) := by
  obtain ⟨e', hmem, hrest⟩ := h
  exact ⟨e', List.mem_cons_of_mem e hmem, hrest⟩

theorem ReadBack.mono {i : Nat} {owner : String} {claim : RecoveryClaim}
    {log : List RecoveryEntry} (h : ReadBack i owner claim log) (e : RecoveryEntry) :
    ReadBack i owner claim (e :: log) := by
  obtain ⟨newer, e', older, hlog, hrest⟩ := h
  exact ⟨e :: newer, e', older, by rw [hlog, List.cons_append], hrest⟩

theorem Backed.mono {i : Nat} {call : RecoveryCall} {claim : RecoveryClaim}
    {log : List RecoveryEntry} (h : Backed i call claim log) (e : RecoveryEntry) :
    Backed i call claim (e :: log) :=
  fun owner howner => (h owner howner).imp (·.mono e) (·.mono e)

theorem committed_cons {i : Nat} {e : RecoveryEntry} {log : List RecoveryEntry} :
    Committed i (e :: log) ↔ (e.thread = i ∧ e.commitsClaim) ∨ Committed i log := by
  simp [Committed]

/-! ## The holder of the row -/

theorem lastExpiry_cons_of_ne {owner : String} {e : RecoveryEntry} {log : List RecoveryEntry}
    (h : e.after.leaseOwner ≠ some owner) : lastExpiry owner (e :: log) = lastExpiry owner log := by
  simp only [lastExpiry]
  cases hrow : e.after.lease with
  | none => rfl
  | some row =>
      have howner : row.ownerId ≠ some owner := by simpa [Stored.leaseOwner, hrow] using h
      simp [howner]

theorem lastExpiry_cons_of_eq {owner : String} {e : RecoveryEntry} {log : List RecoveryEntry}
    {row : RecoveryClaim} (hrow : e.after.lease = some row) (howner : row.ownerId = some owner) :
    lastExpiry owner (e :: log) = row.leaseExpiresAt := by
  simp [lastExpiry, hrow, howner]

theorem held_cons_self {owner : String} {e : RecoveryEntry} {log : List RecoveryEntry}
    {row : RecoveryClaim} (hrow : e.after.lease = some row) (howner : row.ownerId = some owner) :
    Held owner row.kind (e :: log) :=
  ⟨e, List.mem_cons_self, row, hrow, howner, rfl⟩

theorem leaseOwner_eq_some {stored : Stored} {owner : String} :
    stored.leaseOwner = some owner ↔ ∃ row, stored.lease = some row ∧ row.ownerId = some owner := by
  simp [Stored.leaseOwner, Option.bind_eq_some_iff]

theorem leaseKind_eq_some {stored : Stored} {kind : RecoveryKind} :
    stored.leaseKind = some kind ↔ ∃ row, stored.lease = some row ∧ row.kind = kind := by
  simp [Stored.leaseKind]

structure RowLogged (s : Database RecoveryCall) : Prop where
  held : ∀ row owner, s.stored.lease = some row → row.ownerId = some owner →
    Held owner row.kind s.log
  expiry : ∀ row owner, s.stored.lease = some row → row.ownerId = some owner →
    lastExpiry owner s.log = row.leaseExpiresAt ∧ row.leaseExpiresAt.isSome

theorem LeaseChange.expiry {e : RecoveryEntry} {older : List RecoveryEntry} {row : RecoveryClaim}
    {owner : String} (h : LeaseChange tokens e older) (hrow : e.after.lease = some row)
    (howner : row.ownerId = some owner) : row.leaseExpiresAt.isSome := by
  cases h with
  | acquire request row' hcall hafter howner' hexpiry hfree hunseen hkind =>
      rw [hafter] at hrow
      cases hrow
      simp [hexpiry]
  | renew request before row' hcall hbefore hheld hafter howner' hexpiry hkind =>
      rw [hafter] at hrow
      cases hrow
      simp [hexpiry]
  | surrender owner' row' hgives hheld hafter hfreed hkind =>
      rw [hafter] at hrow
      cases hrow
      rw [hfreed] at howner
      cases howner
  | schedule request row' hcall hheld hafter hfreed hkind =>
      rw [hafter] at hrow
      cases hrow
      rw [hfreed] at howner
      cases howner
  | cancel request row' hcall hafter hfreed hkind =>
      rw [hafter] at hrow
      cases hrow
      rw [hfreed] at howner
      cases howner

theorem Traced.rowLogged {s : Database RecoveryCall} (h : Traced tokens s) : RowLogged s := by
  induction h with
  | initial s h => exact ⟨by simp [h.lease], by simp [h.lease]⟩
  | entry s s' e _ hstep ih =>
      constructor
      · intro row owner hrow howner
        rw [hstep.log]
        exact held_cons_self (hstep.after ▸ hrow) howner
      · intro row owner hrow howner
        have hafter : e.after.lease = some row := hstep.after ▸ hrow
        rw [hstep.log, lastExpiry_cons_of_eq hafter howner]
        refine ⟨rfl, ?_⟩
        rcases hstep.lease with hsame | hchange
        · exact (ih.expiry row owner (by rw [← hstep.before, ← hsame, hafter]) howner).2
        · exact hchange.expiry hafter howner
  | tick s s' _ hticks ih =>
      constructor
      · rw [hticks.stored, hticks.log]
        exact ih.held
      · rw [hticks.stored, hticks.log]
        exact ih.expiry

/-- A row that changes into the hands of an owner is a first acquisition or a renewal. -/
theorem LeaseChange.held_cases {e : RecoveryEntry} {older : List RecoveryEntry}
    {row : RecoveryClaim} {owner : String} (h : LeaseChange tokens e older)
    (hrow : e.after.lease = some row) (howner : row.ownerId = some owner) :
    (owner = tokens.token e.thread ∧ e.call.isClaim = true ∧ ¬ Seen owner older) ∨
    (∃ before, e.before.lease = some before ∧ before.ownerId = some owner ∧
      before.kind = row.kind) := by
  cases h with
  | acquire request row' hcall hafter howner' hexpiry hfree hunseen hkind =>
      rw [hafter] at hrow
      cases hrow
      rw [howner'] at howner
      cases howner
      exact Or.inl ⟨rfl, by rw [hcall]; rfl, hunseen⟩
  | renew request before row' hcall hbefore hheld hafter howner' hexpiry hkind =>
      rw [hafter] at hrow
      cases hrow
      rw [howner'] at howner
      cases howner
      exact Or.inr ⟨before, hbefore, hheld, hkind.symm⟩
  | surrender owner' row' hgives hheld hafter hfreed hkind =>
      rw [hafter] at hrow
      cases hrow
      rw [hfreed] at howner
      cases howner
  | schedule request row' hcall hheld hafter hfreed hkind =>
      rw [hafter] at hrow
      cases hrow
      rw [hfreed] at howner
      cases howner
  | cancel request row' hcall hafter hfreed hkind =>
      rw [hafter] at hrow
      cases hrow
      rw [hfreed] at howner
      cases howner

theorem LegalStep.held_cases {e : RecoveryEntry} {s s' : Database RecoveryCall}
    {row : RecoveryClaim} {owner : String} (hstep : LegalStep tokens e s s')
    (hrow : e.after.lease = some row) (howner : row.ownerId = some owner) :
    (owner = tokens.token e.thread ∧ e.call.isClaim = true ∧ ¬ Seen owner s.log) ∨
    (∃ before, s.stored.lease = some before ∧ before.ownerId = some owner ∧
      before.kind = row.kind) := by
  rcases hstep.lease with hsame | hchange
  · exact Or.inr ⟨row, by rw [← hstep.before, ← hsame, hrow], howner, rfl⟩
  · rw [← hstep.before]
    exact hchange.held_cases hrow howner

theorem Traced.held_unique {s : Database RecoveryCall} (h : Traced tokens s) :
    ∀ {owner kind kind'}, Held owner kind s.log → Held owner kind' s.log → kind = kind' := by
  induction h with
  | initial s h =>
      intro owner kind kind' hheld
      simp [Held, h.log] at hheld
  | tick s s' _ hticks ih =>
      rw [hticks.log]
      exact ih
  | entry s s' e hs hstep ih =>
      -- the new entry repeats the kind the row had before, or shows a new owner
      have hnew : ∀ {owner kind row}, e.after.lease = some row → row.ownerId = some owner →
          Held owner kind s.log → row.kind = kind := by
        intro owner kind row hrow howner hheld
        rcases hstep.held_cases hrow howner with ⟨-, -, hunseen⟩ | ⟨before, hbefore, hbowner, hkind⟩
        · exact absurd ⟨kind, hheld⟩ hunseen
        · rw [← hkind]
          exact ih (hs.rowLogged.held before owner hbefore hbowner) hheld
      intro owner kind kind' hheld hheld'
      rw [hstep.log] at hheld hheld'
      obtain ⟨e₁, hmem₁, row₁, hrow₁, howner₁, rfl⟩ := hheld
      obtain ⟨e₂, hmem₂, row₂, hrow₂, howner₂, rfl⟩ := hheld'
      rcases List.mem_cons.mp hmem₁ with rfl | hold₁
      · rcases List.mem_cons.mp hmem₂ with rfl | hold₂
        · rw [hrow₁] at hrow₂
          cases hrow₂
          rfl
        · exact hnew hrow₁ howner₁ ⟨e₂, hold₂, row₂, hrow₂, howner₂, rfl⟩
      · rcases List.mem_cons.mp hmem₂ with rfl | hold₂
        · exact (hnew hrow₂ howner₂ ⟨e₁, hold₁, row₁, hrow₁, howner₁, rfl⟩).symm
        · exact ih ⟨e₁, hold₁, row₁, hrow₁, howner₁, rfl⟩ ⟨e₂, hold₂, row₂, hrow₂, howner₂, rfl⟩

theorem Traced.document_held {s : Database RecoveryCall} (h : Traced tokens s) :
    ∀ {document owner}, s.stored.run = some document →
      document.recoveryClaim.ownerId = some owner →
      Held owner document.recoveryClaim.kind s.log := by
  induction h with
  | initial s h =>
      intro document owner hrun howner
      rw [h.run document hrun] at howner
      cases howner
  | tick s s' _ hticks ih =>
      rw [hticks.stored, hticks.log]
      exact ih
  | entry s s' e _ hstep ih =>
      intro document owner hrun howner
      rw [hstep.log]
      have hafter : e.after.run = some document := hstep.after ▸ hrun
      rcases hstep.run with hsame | hchange
      · exact (ih (by rw [← hstep.before, ← hsame, hafter]) howner).mono e
      · cases hchange with
        | mirror old claim hbefore hafter' hheld hbacked =>
            rw [hafter'] at hafter
            cases hafter
            exact (hheld owner howner).mono e
        | commit old candidate hbefore hafter' hversion hheld hbacked hexclusive =>
            rw [hafter'] at hafter
            cases hafter
            exact (hheld owner howner).mono e

/-! ## Versions -/

theorem LegalStep.version_cases {e : RecoveryEntry} {s s' : Database RecoveryCall}
    (hstep : LegalStep tokens e s s') :
    (s'.stored.version = s.stored.version ∧ s'.stored.run.isSome = s.stored.run.isSome) ∨
    (s'.stored.version = s.stored.version + 1 ∧ s.stored.run.isSome ∧ s'.stored.run.isSome ∧
      RunChange tokens e s.log) := by
  rw [← hstep.before, ← hstep.after]
  rcases hstep.run with hsame | hchange
  · exact Or.inl (by simp [Stored.version, hsame])
  · cases hchange with
    | mirror document claim hbefore hafter hheld hbacked =>
        exact Or.inl (by simp [Stored.version, hbefore, hafter])
    | commit document candidate hbefore hafter hversion hheld hbacked hexclusive =>
        exact Or.inr ⟨by simp [Stored.version, hbefore, hafter, hversion], by simp [hbefore],
          by simp [hafter],
          .commit document candidate hbefore hafter hversion hheld hbacked hexclusive⟩

theorem LegalStep.version_le {e : RecoveryEntry} {s s' : Database RecoveryCall}
    (hstep : LegalStep tokens e s s') : s.stored.version ≤ s'.stored.version := by
  rcases hstep.version_cases with ⟨h, -⟩ | ⟨h, -⟩ <;> omega

/-- A claim's commit has the row behind it and nobody else's live claim beside it. -/
theorem LegalStep.commitsClaim {e : RecoveryEntry} {s s' : Database RecoveryCall}
    (hstep : LegalStep tokens e s s') (h : e.commitsClaim) :
    Seen (tokens.token e.thread) s.log ∧ Exclusive tokens e.thread s.log e.clock := by
  obtain ⟨hclaim, hversion⟩ := h
  rcases hstep.run with hsame | hchange
  · simp [Stored.version, hsame] at hversion
  · cases hchange with
    | mirror document claim hbefore hafter hheld hbacked =>
        simp [Stored.version, hbefore, hafter] at hversion
    | commit document candidate hbefore hafter hversion' hheld hbacked hexclusive =>
        exact hexclusive hclaim

theorem Traced.committed_seen {s : Database RecoveryCall} (h : Traced tokens s) {i : Nat}
    (hcommitted : Committed i s.log) : Seen (tokens.token i) s.log := by
  induction h with
  | initial s h => simp [Committed, h.log] at hcommitted
  | tick s s' _ hticks ih =>
      rw [hticks.log] at hcommitted ⊢
      exact ih hcommitted
  | entry s s' e _ hstep ih =>
      rw [hstep.log] at hcommitted ⊢
      rcases committed_cons.mp hcommitted with ⟨rfl, hcommits⟩ | hold
      · exact (hstep.commitsClaim hcommits).1.mono e
      · exact (ih hold).mono e

/-! ## Losing the row -/

theorem Expired.cons {owner : String} {log : List RecoveryEntry} {clock : Timestamp}
    {e : RecoveryEntry} (h : Expired owner log clock) (hafter : e.after.leaseOwner ≠ some owner) :
    Expired owner (e :: log) clock := by
  obtain ⟨expiry, hlast, hle⟩ := h
  exact ⟨expiry, by rw [lastExpiry_cons_of_ne hafter, hlast], hle⟩

theorem LegalStep.loses {e : RecoveryEntry} {s s' : Database RecoveryCall} {owner : String}
    (hstep : LegalStep tokens e s s') (hs : Traced tokens s)
    (hbefore : s.stored.leaseOwner = some owner) (hafter : e.after.leaseOwner ≠ some owner) :
    Surrendered tokens owner (e :: s.log) ∨ Expired owner (e :: s.log) e.clock := by
  rw [← hstep.before] at hbefore
  obtain ⟨row, hrow, howner⟩ := leaseOwner_eq_some.mp hbefore
  have hsurrendered : ∀ {row'}, e.after.lease = some row' → row'.ownerId = none →
      (e.givesUp tokens owner ∨ e.call.isCancel = true) →
      Surrendered tokens owner (e :: s.log) := by
    intro row' hrow' hfreed hcause
    exact ⟨e, List.mem_cons_self, hbefore, by simp [Stored.leaseOwner, hrow', hfreed], hcause⟩
  rcases hstep.lease with hsame | hchange
  · exact absurd (by simpa [Stored.leaseOwner, hsame] using hbefore) hafter
  · cases hchange with
    | acquire request row' hcall hafter' howner' hexpiry hfree hunseen hkind =>
        rcases hfree row hrow with hnone | hexpired
        · rw [hnone] at howner
          cases howner
        · have hlogged := hs.rowLogged.expiry row owner (hstep.before ▸ hrow) howner
          obtain ⟨expiry, hexp⟩ := Option.isSome_iff_exists.mp hlogged.2
          refine Or.inr (Expired.cons ⟨expiry, by rw [hlogged.1, hexp], ?_⟩ hafter)
          exact hexpired expiry hexp
    | renew request before row' hcall hbefore' hheld hafter' howner' hexpiry hkind =>
        rw [hrow] at hbefore'
        cases hbefore'
        rw [hheld] at howner
        cases howner
        exact absurd (leaseOwner_eq_some.mpr ⟨row', hafter', howner'⟩) hafter
    | surrender owner' row' hgives hheld hafter' hfreed hkind =>
        rw [hheld] at hbefore
        cases hbefore
        exact Or.inl (hsurrendered hafter' hfreed (Or.inl hgives))
    | schedule request row' hcall hheld hafter' hfreed hkind =>
        rw [hheld] at hbefore
        cases hbefore
    | cancel request row' hcall hafter' hfreed hkind =>
        exact Or.inl (hsurrendered hafter' hfreed (Or.inr (by rw [hcall]; rfl)))

/-- Every owner the row has had still holds it, gave it up, or let it expire. -/
theorem Traced.accounted {s : Database RecoveryCall} (h : Traced tokens s) {owner : String}
    (hseen : Seen owner s.log) :
    Surrendered tokens owner s.log ∨ s.stored.leaseOwner = some owner ∨
      Expired owner s.log s.clock := by
  induction h with
  | initial s h =>
      obtain ⟨kind, e, hmem, -⟩ := hseen
      simp [h.log] at hmem
  | tick s s' _ hticks ih =>
      rw [hticks.log] at hseen
      rw [hticks.log, hticks.stored]
      rcases ih hseen with hsurrendered | hholds | ⟨expiry, hlast, hle⟩
      · exact Or.inl hsurrendered
      · exact Or.inr (Or.inl hholds)
      · exact Or.inr (Or.inr ⟨expiry, hlast, Nat.le_trans hle hticks.clock⟩)
  | entry s s' e hs hstep ih =>
      rw [hstep.log, hstep.clock, ← hstep.after]
      by_cases hafter : e.after.leaseOwner = some owner
      · exact Or.inr (Or.inl hafter)
      · have hold : Seen owner s.log := by
          obtain ⟨kind, e', hmem, row, hrow, howner, hkind⟩ := hseen
          rw [hstep.log] at hmem
          rcases List.mem_cons.mp hmem with rfl | hmem
          · exact absurd (leaseOwner_eq_some.mpr ⟨row, hrow, howner⟩) hafter
          · exact ⟨kind, e', hmem, row, hrow, howner, hkind⟩
        rcases ih hold with hsurrendered | hholds | hexpired
        · exact Or.inl (hsurrendered.mono e)
        · have hlost := hstep.loses hs hholds hafter
          rw [hstep.entryClock] at hlost
          exact hlost.imp_right Or.inr
        · exact Or.inr (Or.inr (hexpired.cons hafter))

/-! ## A claim between its two writes -/

/-- Thread `i` has acquired the row. As long as the Run document stays at version
`v`, no other accepted claim is live. -/
structure ClaimSafe (tokens : OwnerTokens) (i v : Nat) (s : Database RecoveryCall) : Prop where
  seen : Seen (tokens.token i) s.log
  version : v ≤ s.stored.version
  alone : s.stored.version = v → ∀ j, j ≠ i → Committed j s.log →
    Surrendered tokens (tokens.token j) s.log ∨
      (Expired (tokens.token j) s.log s.clock ∧ s.stored.leaseOwner ≠ some (tokens.token j))

theorem ClaimSafe.exclusive {i v : Nat} {s : Database RecoveryCall} (h : ClaimSafe tokens i v s)
    (hversion : s.stored.version = v) : Exclusive tokens i s.log s.clock :=
  fun j hj hcommitted => (h.alone hversion j hj hcommitted).imp_right And.left

theorem LegalStep.committed_of_version {e : RecoveryEntry} {s s' : Database RecoveryCall}
    (hstep : LegalStep tokens e s s') (hversion : s'.stored.version = s.stored.version) {j : Nat}
    (h : Committed j (e :: s.log)) : Committed j s.log := by
  rcases committed_cons.mp h with ⟨-, -, hlt⟩ | hold
  · rw [hstep.before, hstep.after, hversion] at hlt
    exact absurd hlt (Nat.lt_irrefl _)
  · exact hold

theorem LegalStep.not_back {e : RecoveryEntry} {s s' : Database RecoveryCall}
    (hstep : LegalStep tokens e s s') {owner : String} (hseen : Seen owner s.log)
    (h : s.stored.leaseOwner ≠ some owner) : e.after.leaseOwner ≠ some owner := by
  intro hafter
  obtain ⟨row, hrow, howner⟩ := leaseOwner_eq_some.mp hafter
  rcases hstep.held_cases hrow howner with ⟨-, -, hunseen⟩ | ⟨before, hbefore, hbowner, -⟩
  · exact hunseen hseen
  · exact h (leaseOwner_eq_some.mpr ⟨before, hbefore, hbowner⟩)

theorem ClaimSafe.step {i v : Nat} {e : RecoveryEntry} {s s' : Database RecoveryCall}
    (h : ClaimSafe tokens i v s) (hs : Traced tokens s) (hstep : LegalStep tokens e s s') :
    ClaimSafe tokens i v s' where
  seen := by
    rw [hstep.log]
    exact h.seen.mono e
  version := Nat.le_trans h.version hstep.version_le
  alone := by
    intro hversion j hj hcommitted
    have hle := hstep.version_le
    have hge := h.version
    rw [hstep.log] at hcommitted ⊢
    have hold := hstep.committed_of_version (by omega) hcommitted
    rcases h.alone (by omega) j hj hold with hsurrendered | ⟨hexpired, hnot⟩
    · exact Or.inl (hsurrendered.mono e)
    · have hafter := hstep.not_back (hs.committed_seen hold) hnot
      rw [hstep.clock, ← hstep.after]
      exact Or.inr ⟨hexpired.cons hafter, hafter⟩

theorem ClaimSafe.tick {i v : Nat} {s s' : Database RecoveryCall} (h : ClaimSafe tokens i v s)
    (hticks : Ticks s s') : ClaimSafe tokens i v s' where
  seen := by
    rw [hticks.log]
    exact h.seen
  version := by
    rw [hticks.stored]
    exact h.version
  alone := by
    rw [hticks.stored, hticks.log]
    intro hversion j hj hcommitted
    rcases h.alone hversion j hj hcommitted with hsurrendered | ⟨⟨expiry, hlast, hle⟩, hnot⟩
    · exact Or.inl hsurrendered
    · exact Or.inr ⟨⟨expiry, hlast, Nat.le_trans hle hticks.clock⟩, hnot⟩

theorem ClaimSafe.acquire {v : Nat} {e : RecoveryEntry} {s s' : Database RecoveryCall}
    (hs : Traced tokens s) (hstep : LegalStep tokens e s s') (hv : v ≤ s.stored.version)
    (hversion : s'.stored.version = s.stored.version)
    (hafter : e.after.leaseOwner = some (tokens.token e.thread)) :
    ClaimSafe tokens e.thread v s' where
  seen := by
    obtain ⟨row, hrow, howner⟩ := leaseOwner_eq_some.mp hafter
    rw [hstep.log]
    exact ⟨row.kind, held_cons_self hrow howner⟩
  version := Nat.le_trans hv hstep.version_le
  alone := by
    intro _ j hj hcommitted
    rw [hstep.log] at hcommitted ⊢
    have hother : e.after.leaseOwner ≠ some (tokens.token j) := by
      rw [hafter]
      exact fun heq => hj (tokens.distinct (Option.some.inj heq)).symm
    have hold := hstep.committed_of_version hversion hcommitted
    rw [hstep.clock, ← hstep.after]
    rcases hs.accounted (hs.committed_seen hold) with hsurrendered | hholds | hexpired
    · exact Or.inl (hsurrendered.mono e)
    · have hlost := hstep.loses hs hholds hother
      rw [hstep.entryClock] at hlost
      exact hlost.imp_right fun hexpired => ⟨hexpired, hother⟩
    · exact Or.inr ⟨hexpired.cons hother, hother⟩

/-! ## What every log shows -/

theorem Traced.claims_exclusive {s : Database RecoveryCall} (h : Traced tokens s)
    {e : RecoveryEntry} {older : List RecoveryEntry} (hsuffix : e :: older <:+ s.log)
    (hcommits : e.commitsClaim) : Exclusive tokens e.thread older e.clock := by
  induction h with
  | initial s h => simp [h.log] at hsuffix
  | tick s s' _ hticks ih => exact ih (hticks.log ▸ hsuffix)
  | entry s s' e' _ hstep ih =>
      rw [hstep.log] at hsuffix
      rcases List.suffix_cons_iff.mp hsuffix with heq | hold
      · cases heq
        exact (hstep.commitsClaim hcommits).2
      · exact ih hold

/-- A renew or release writes the row only when its owner holds it, and the Run
document only behind such a write or a row read back as written. -/
theorem Traced.heartbeat_fenced {s : Database RecoveryCall} (h : Traced tokens s)
    {e : RecoveryEntry} {older : List RecoveryEntry} {owner : String}
    (hsuffix : e :: older <:+ s.log) (hcall : e.call.heartbeatOwner = some owner) :
    (e.after.lease ≠ e.before.lease → e.before.leaseOwner = some owner) ∧
    (e.after.run ≠ e.before.run → FencedWrite e.thread owner older ∨
      ∃ claim, e.after.claim = some claim ∧
        ReadBack e.thread owner claim older) := by
  induction h with
  | initial s h => simp [h.log] at hsuffix
  | tick s s' _ hticks ih => exact ih (hticks.log ▸ hsuffix)
  | entry s s' e' _ hstep ih =>
      rw [hstep.log] at hsuffix
      rcases List.suffix_cons_iff.mp hsuffix with heq | hold
      · cases heq
        constructor
        · intro hne
          cases hstep.lease.resolve_left hne with
          | acquire request row hcall' =>
              rw [hcall'] at hcall
              cases hcall
          | renew request before row hcall' hbefore hheld =>
              rw [hcall'] at hcall
              cases hcall
              exact leaseOwner_eq_some.mpr ⟨before, hbefore, hheld⟩
          | surrender owner' row hgives hheld =>
              rw [hheld]
              simp only [LogEntry.givesUp] at hgives
              cases hc : e.call <;> simp_all [RecoveryCall.heartbeatOwner]
          | schedule request row hcall' =>
              rw [hcall'] at hcall
              cases hcall
          | cancel request row hcall' =>
              rw [hcall'] at hcall
              cases hcall
        · intro hne
          cases hstep.run.resolve_left hne with
          | mirror document claim hbefore hafter hheld hbacked =>
              exact (hbacked owner hcall).imp_right fun hread => ⟨claim, by simp [Stored.claim, hafter], hread⟩
          | commit document candidate hbefore hafter hversion hheld hbacked hexclusive =>
              exact (hbacked owner hcall).imp_right fun hread => ⟨_, by simp [Stored.claim, hafter], hread⟩
      · exact ih hold

theorem LegalStep.keeps_cancellation {e : RecoveryEntry} {s s' : Database RecoveryCall}
    (hstep : LegalStep tokens e s s') (hcopy : e.CurrentCopy)
    (h : s.stored.leaseKind = some .cancellation) : s'.stored.leaseKind = some .cancellation := by
  rw [← hstep.before] at h
  rw [← hstep.after]
  rcases hstep.lease with hsame | hchange
  · rw [Stored.leaseKind, hsame]
    exact h
  · cases hchange with
    | acquire request row hcall hafter howner hexpiry hfree hunseen hkind =>
        exact leaseKind_eq_some.mpr ⟨row, hafter, hkind hcopy h⟩
    | renew request before row hcall hbefore hheld hafter howner hexpiry hkind =>
        obtain ⟨row', hrow', hcancellation⟩ := leaseKind_eq_some.mp h
        rw [hbefore] at hrow'
        cases hrow'
        exact leaseKind_eq_some.mpr ⟨row, hafter, by rw [hkind, hcancellation]⟩
    | surrender owner row hgives hheld hafter hfreed hkind =>
        exact leaseKind_eq_some.mpr ⟨row, hafter, hkind hcopy h⟩
    | schedule request row hcall hheld hafter hfreed hkind => exact absurd h hkind
    | cancel request row hcall hafter hfreed hkind =>
        exact leaseKind_eq_some.mpr ⟨row, hafter, hkind⟩

theorem Traced.cancellation_kept {s : Database RecoveryCall} (h : Traced tokens s)
    (hcopies : ∀ e ∈ s.log, e.CurrentCopy)
    (hcancel : ∃ e ∈ s.log, e.after.leaseKind = some .cancellation) :
    s.stored.leaseKind = some .cancellation := by
  induction h with
  | initial s h => simp [h.log] at hcancel
  | tick s s' _ hticks ih =>
      rw [hticks.log] at hcopies hcancel
      rw [hticks.stored]
      exact ih hcopies hcancel
  | entry s s' e _ hstep ih =>
      rw [hstep.log] at hcopies hcancel
      obtain ⟨e', hmem, hkind⟩ := hcancel
      rcases List.mem_cons.mp hmem with rfl | hmem
      · rw [← hstep.after]
        exact hkind
      · refine hstep.keeps_cancellation (hcopies e List.mem_cons_self) (ih ?_ ⟨e', hmem, hkind⟩)
        exact fun e'' h'' => hcopies e'' (List.mem_cons_of_mem e h'')

end Hybro.RunStore
