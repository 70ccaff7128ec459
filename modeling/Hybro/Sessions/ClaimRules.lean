import Hybro.Sessions.StoreCalls

/-! # Claims, renewals and releases of a driver

What a call knows of its driver from its first attempt to the release, and the rules of
the store programs that write the row.
-/

namespace Hybro.Sessions

open Orchestrator Interleaving RunStore

/-! ## What a call knows -/

/-- The call does not execute the Run under a lease. -/
structure OffDuty (owner : String) (driver : Driver) : Prop where
  named : driver.owner = owner
  unleased : driver.leased = false

/-- The last attempt was accepted: a claim that is still there lasts from the attempt on. -/
def Settled (attempted : Timestamp) (driver : Driver) (lease : Option RecoveryClaim) : Prop :=
  driver.lapsed = false → driver.grip = .held → ∃ row, lease = some row ∧
    ∃ expires, row.leaseExpiresAt = some expires ∧ attempted + executionLease ≤ expires

/-- A row in the name of the owner is one that had expired at the attempt. -/
def Outdated (owner : String) (attempted : Timestamp) (lease : Option RecoveryClaim) : Prop :=
  ∀ row, lease = some row → row.ownerId = some owner → row.leaseExpiresAt.all (· ≤ attempted) = true

/-- The call has tried for the row at `attempted`; unless it wrote the row, a row in its
name is an old one. -/
structure Bidding (owner : String) (attempted : Timestamp) (driver : Driver)
    (lease : Option RecoveryClaim) (clock : Timestamp) : Prop extends OffDuty owner driver where
  since : driver.attempted = some attempted
  past : attempted ≤ clock
  outdated : driver.grip = .absent → Outdated owner attempted lease

/-- The call has written the row, which is enough while its attempts come in time. -/
structure Won (owner : String) (attempted : Timestamp) (driver : Driver)
    (lease : Option RecoveryClaim) : Prop extends OffDuty owner driver where
  since : driver.attempted = some attempted
  written : driver.lapsed = false → driver.grip ≠ .absent
  settled : Settled attempted driver lease

/-- The call has an accepted claim; its last attempt was at `attempted`. -/
structure OnDuty (owner : String) (attempted : Timestamp) (driver : Driver) : Prop where
  named : driver.owner = owner
  leased : driver.leased = true
  since : driver.attempted = some attempted

section Firm

variable {owner : String} {attempted : Timestamp}

theorem Loses.outdated {driver driver' : Driver} {lease' : Option RecoveryClaim}
    (h : Loses driver driver' lease') (howner : driver.owner = owner)
    (habsent : driver'.grip = .absent) : Outdated owner attempted lease' := by
  intro row hrow hown
  rcases h with rfl | ⟨⟨row', hrow', hforeign⟩, -⟩
  · cases habsent
  · rw [hrow'] at hrow
    cases hrow
    exact absurd (howner ▸ hown) hforeign

theorem Loses.fields {driver driver' : Driver} {lease' : Option RecoveryClaim}
    (h : Loses driver driver' lease') : driver'.attempted = driver.attempted ∧
      driver'.lapsed = driver.lapsed ∧ driver'.leased = driver.leased := by
  rcases h with rfl | ⟨-, ⟨-, rfl⟩ | ⟨-, rfl⟩ | ⟨-, -, rfl⟩⟩ <;> simp

theorem OffDuty.loses {driver driver' : Driver} {lease' : Option RecoveryClaim}
    (h : OffDuty owner driver) (hloses : Loses driver driver' lease') : OffDuty owner driver' :=
  ⟨hloses.owner.trans h.named, hloses.fields.2.2.trans h.unleased⟩

theorem firm_offDuty : Firm (fun driver _ _ => OffDuty owner driver) where
  ticks _ _ _ _ _ h := ⟨h.named, h.unleased⟩
  loses _ _ _ _ _ hloses h := h.loses hloses

theorem Settled.tick {driver : Driver} {lease : Option RecoveryClaim} {clock : Timestamp}
    (h : Settled attempted driver lease) : Settled attempted (driver.tick clock) lease :=
  fun htime hheld => h (tick_lapsed.mp htime).1 hheld

theorem Loses.settled {driver driver' : Driver} {lease' : Option RecoveryClaim}
    (h : Loses driver driver' lease') : Settled attempted driver' lease' :=
  fun _ hheld => absurd hheld h.not_held

theorem firm_bidding : Firm (Bidding owner attempted) where
  ticks _ _ _ _ hlater h :=
    ⟨⟨h.named, h.unleased⟩, h.since, Nat.le_trans h.past hlater, h.outdated⟩
  loses _ _ _ _ _ hloses h :=
    ⟨h.toOffDuty.loses hloses, hloses.fields.1.trans h.since, h.past,
      hloses.outdated h.named⟩

theorem firm_won : Firm (fun driver lease _ => Won owner attempted driver lease) where
  ticks _ _ _ _ _ h :=
    ⟨⟨h.named, h.unleased⟩, h.since,
      fun htime => h.written (tick_lapsed.mp htime).1, h.settled.tick⟩
  loses driver driver' _ _ _ hloses h := by
    refine ⟨h.toOffDuty.loses hloses, hloses.fields.1.trans h.since, ?_, hloses.settled⟩
    intro htime
    rw [hloses.fields.2.1] at htime
    have hwritten := h.written htime
    rcases hloses with rfl | ⟨-, ⟨-, rfl⟩ | ⟨-, rfl⟩ | ⟨-, hlost, rfl⟩⟩
    · simp
    · exact hwritten
    · simp
    · rcases hlost with hlapsed | hnone
      · rw [hlapsed] at htime
        cases htime
      · have hattempted := h.since
        rw [hnone] at hattempted
        cases hattempted

theorem OnDuty.loses {driver driver' : Driver} {lease' : Option RecoveryClaim}
    (h : OnDuty owner attempted driver) (hloses : Loses driver driver' lease') :
    OnDuty owner attempted driver' :=
  ⟨hloses.owner.trans h.named, hloses.fields.2.2.trans h.leased,
    hloses.fields.1.trans h.since⟩

theorem firm_onDuty : Firm (fun driver _ _ => OnDuty owner attempted driver) where
  ticks _ _ _ _ _ h := ⟨h.named, h.leased, h.since⟩
  loses _ _ _ _ _ hloses h := h.loses hloses

theorem firm_settled : Firm (fun driver lease _ => Settled attempted driver lease) where
  ticks _ _ _ _ _ h := h.tick
  loses _ _ _ _ _ hloses _ := hloses.settled

theorem Firm.imp {P : Prop} {φ : Claimant} (hφ : Firm φ) :
    Firm (fun driver lease clock => P → φ driver lease clock) where
  ticks _ _ _ _ hlater h hP := hφ.ticks _ _ _ _ hlater (h hP)
  loses _ _ _ _ _ hloses h hP := hφ.loses _ _ _ _ _ hloses (h hP)

theorem Firm.and {φ ψ : Claimant} (hφ : Firm φ) (hψ : Firm ψ) :
    Firm (fun driver lease clock => φ driver lease clock ∧ ψ driver lease clock) where
  ticks _ _ _ _ hlater h := ⟨hφ.ticks _ _ _ _ hlater h.1, hψ.ticks _ _ _ _ hlater h.2⟩
  loses _ _ _ _ _ hloses h := ⟨hφ.loses _ _ _ _ _ hloses h.1, hψ.loses _ _ _ _ _ hloses h.2⟩

theorem firm_nobody : Firm (fun _ _ _ => False) := ⟨fun _ _ _ _ _ h => h, fun _ _ _ _ _ _ h => h⟩

end Firm

/-! ## Programs whose every operation keeps an assertion -/

section Keeps

variable {terms : SessionTerms} {i : Nat} {call : SessionCall} {φ : Claimant} {α : Type}
  {owner : String}

abbrev Keeps (terms : SessionTerms) (i : Nat) (call : SessionCall) (φ : Claimant) (op : StoreOp) :
    Prop :=
  raised? op = none → Moves terms i call φ op (fun _ => φ)

theorem moves_reading {op : StoreOp} (hop : leavesRow op = true) {ψ : op.Res → Claimant}
    (h : ∀ (s : SharedRun) reply stored, (reply, stored) ∈ op.outcomes s.stored → ∀ driver,
      s.drivers i = some driver → φ driver s.stored.lease s.clock →
      ψ reply driver s.stored.lease s.clock) : Moves terms i call φ op ψ := by
  intro s reply stored hs hP _ houtcome
  have hlease := outcomes_lease hop houtcome
  refine ⟨.kept _ hlease, ?_⟩
  intro driver hdriver
  rw [Driver.wrote, regrip_of_lease hlease, hlease]
  exact ⟨hs.ok i driver hdriver, h s reply stored houtcome driver hdriver (hP driver hdriver)⟩

theorem keeps_reading : AllowsReads (Keeps terms i call φ) :=
  fun _ hop _ => moves_reading hop fun _ _ _ _ _ _ h => h

theorem drives_uses (hφ : Firm φ) {p : StoreProg α} (hp : Uses (Keeps terms i call φ) p) :
    Drives terms i call (At i φ) (calling p) (fun _ => At i φ) := by
  induction p with
  | done a => exact Plainly.pure hφ.stable fun _ _ h => h
  | act op next ih =>
      cases hop : raised? op with
      | some message =>
          rw [calling_raise hop]
          exact Plainly.throw
      | none => exact drives_store hφ hop (hp.1 hop) fun reply => ih reply (hp.2 reply)

theorem drives_load (hφ : Firm φ) :
    Drives terms i call (At i φ) (calling load) (fun _ => At i φ) :=
  drives_uses hφ (uses_load keeps_reading)

theorem drives_loadRecoveryClaim (hφ : Firm φ) (ψ : Option RecoveryClaim → Claimant)
    (hψ : ∀ row, Firm (ψ row))
    (h : ∀ driver lease clock, φ driver lease clock → ψ lease driver lease clock) :
    Drives terms i call (At i φ) (calling loadRecoveryClaim) (fun row => At i (ψ row)) := by
  let known : Reply (Option RecoveryClaim) → Claimant := fun reply driver lease clock =>
    ∀ row, reply = .answer row → ψ row driver lease clock
  show Drives terms i call (At i φ) (calling (.act .findLease fun reply => answered reply .done)) _
  refine drives_store (ψ := known) hφ rfl ?_ ?_
  · refine moves_reading rfl ?_
    intro s reply stored houtcome driver _ hknown row hreply
    obtain ⟨-, hanswer | hanswer⟩ := mem_answers.mp houtcome
    · rw [hreply] at hanswer
      cases hanswer
      exact h driver _ _ hknown
    · rw [hreply] at hanswer
      cases hanswer
  · intro reply
    cases reply with
    | answer row =>
        have hdone : Drives terms i call (At i (ψ row)) (pure row) (fun row => At i (ψ row)) :=
          Plainly.pure (hψ row).stable fun _ _ h => h
        exact hdone.pre fun s _ hP driver hdriver => hP driver hdriver row rfl
    | unavailable => exact Plainly.throw

/-- After a lost reply the write counts when the row is exactly as it was to be. -/
theorem drives_confirmLease {claim : RecoveryClaim} {ψ : Claimant} (hφ : Firm φ) (hψ : Firm ψ)
    (h : ∀ driver clock, φ driver (some claim) clock → ψ driver (some claim) clock) :
    Drives terms i call (At i φ) (calling (confirmLease claim)) (fun _ => At i ψ) := by
  unfold confirmLease
  rw [calling_bind]
  refine Plainly.bind (drives_loadRecoveryClaim hφ
    (fun row driver lease clock => row = some claim → ψ driver lease clock)
    (fun _ => hψ.imp) ?_) ?_
  · rintro driver _ clock hknown rfl
    exact h driver clock hknown
  · intro persisted
    by_cases hsame : persisted = some claim
    · rw [if_pos hsame]
      have hdone : Drives terms i call (At i ψ) (pure true) (fun _ => At i ψ) :=
        Plainly.pure hψ.stable fun _ _ h => h
      exact hdone.pre fun s _ hP driver hdriver => hP driver hdriver hsame
    · rw [if_neg hsame]
      exact Plainly.throw

end Keeps

/-! ## Operations that write the row -/

section Writes

variable {terms : SessionTerms} {i : Nat} {call : SessionCall} {owner : String}
  {attempted : Timestamp} {claim : RecoveryClaim} {driver : Driver} {op : StoreOp}
  {before after : Stored} {clock : Timestamp}

theorem DriverOk.wrote_own (h : DriverOk driver before.lease clock)
    (hafter : after.lease = some claim) (howner : claim.ownerId = some driver.owner)
    {expires : Timestamp} (hexpires : claim.leaseExpiresAt = some expires)
    (hlater : ∀ attempted, driver.attempted = some attempted →
      attempted + executionLease ≤ expires) :
    DriverOk (driver.wrote op before after) after.lease clock := by
  by_cases hsame : after.lease = before.lease
  · rw [Driver.wrote, regrip_of_lease hsame, hsame]
    exact h
  · have hwrote : driver.wrote op before after = { driver with grip := .held } := by
      simp [Driver.wrote, Driver.regrip, hsame, leaseOwner_of_lease hafter, howner]
    rw [hwrote, hafter]
    refine ⟨fun _ => ⟨claim, rfl, howner, ?_⟩, by simp, h.timely, h.past, h.attempting,
      fun _ _ => by simp⟩
    intro _ attempted hattempted
    exact ⟨expires, hexpires, Nat.lt_of_lt_of_le
      (Nat.add_lt_add_left (by decide) attempted) (hlater attempted hattempted)⟩

theorem OffDuty.wrote (h : OffDuty owner driver) : OffDuty owner (driver.wrote op before after) := by
  rw [wrote_fields]
  exact ⟨h.named, h.unleased⟩

@[simp] theorem wrote_attempted : (driver.wrote op before after).attempted = driver.attempted := by
  rw [wrote_fields]

theorem DriverOk.wrote_unowned (h : DriverOk driver before.lease clock)
    (hoff : driver.leased = false) (hafter : after.lease = some claim)
    (howner : claim.ownerId = none) :
    DriverOk (driver.wrote op before after) after.lease clock := by
  by_cases hsame : after.lease = before.lease
  · rw [Driver.wrote, regrip_of_lease hsame, hsame]
    exact h
  · by_cases hheld : driver.grip = .held
    · have hwrote : driver.wrote op before after =
          { driver with grip := if rowWrite op = .cancels then .displaced else .absent } := by
        simp [Driver.wrote, Driver.regrip, hsame, leaseOwner_of_lease hafter, howner, hheld]
      rw [hwrote, hafter]
      refine ⟨?_, fun _ => ⟨claim, rfl, by simp [howner]⟩, h.timely, h.past, h.attempting,
        fun hleased => ?_⟩
      · dsimp only
        split <;> simp
      · rw [hoff] at hleased
        cases hleased
    · have hwrote : driver.wrote op before after = driver := by
        simp [Driver.wrote, Driver.regrip, hsame, leaseOwner_of_lease hafter, howner, hheld]
      rw [hwrote, hafter]
      exact ⟨fun hgrip => absurd hgrip hheld, fun _ => ⟨claim, rfl, by simp [howner]⟩, h.timely,
        h.past, h.attempting, h.leased⟩

theorem unapplied (op : StoreOp) {s : SharedRun} {φ : Claimant} (ψ : Claimant) (hs : DriversInv terms s)
    (hP : At i φ s) (h : ∀ driver, φ driver s.stored.lease s.clock →
      ψ driver s.stored.lease s.clock) :
    RowStep s (s.store i op s.stored) (rowWrite op) ∧
      ∀ driver, s.drivers i = some driver →
        DriverOk (driver.wrote op s.stored s.stored) s.stored.lease s.clock ∧
          ψ (driver.wrote op s.stored s.stored) s.stored.lease s.clock := by
  refine ⟨.kept _ rfl, ?_⟩
  intro driver hdriver
  rw [Driver.wrote, regrip_of_lease rfl]
  exact ⟨hs.ok i driver hdriver, h driver (hP driver hdriver)⟩

theorem moves_giveBack (hclaim : claim.ownerId = none) :
    Moves terms i call (fun driver _ _ => OffDuty owner driver) (.updateLease owner claim)
      (fun _ driver _ _ => OffDuty owner driver) := by
  intro s reply stored hs hP _ houtcome
  have hcase : stored = s.stored ∨
      (s.stored.leaseOwner = some owner ∧ stored.lease = some claim) := by
    rcases mem_conditionalWrite.mp houtcome with
      ⟨happlies, ⟨-, rfl⟩ | ⟨-, rfl | rfl⟩⟩ | ⟨-, rfl, -⟩
    · exact Or.inr ⟨by simpa using happlies, rfl⟩
    · exact Or.inr ⟨by simpa using happlies, rfl⟩
    · exact Or.inl rfl
    · exact Or.inl rfl
  rcases hcase with rfl | ⟨howned, hafter⟩
  · exact unapplied _ (fun driver _ _ => OffDuty owner driver) hs hP fun _ h => h
  · constructor
    · refine .given owner claim hafter hclaim ?_
      intro before hbefore
      rwa [leaseOwner_of_lease hbefore] at howned
    · intro driver hdriver
      have hoff := hP driver hdriver
      exact ⟨(hs.ok i driver hdriver).wrote_unowned hoff.unleased hafter hclaim, hoff.wrote⟩

structure ClaimsFor (owner : String) (attempted : Timestamp) (claim : RecoveryClaim) : Prop where
  owner : claim.ownerId = some owner
  expires : claim.leaseExpiresAt = some (attempted + executionLease)

theorem ClaimsFor.won (hclaim : ClaimsFor owner attempted claim) (hoff : OffDuty owner driver)
    (hattempted : driver.attempted = some attempted) (hgrip : driver.grip ≠ .absent) :
    Won owner attempted driver (some claim) :=
  ⟨hoff, hattempted, fun _ => hgrip,
    fun _ _ => ⟨claim, rfl, _, hclaim.expires, Nat.le_refl _⟩⟩

theorem wrote_claim (op : StoreOp) {s : SharedRun} {stored : Stored} (hs : DriversInv terms s)
    (hclaim : ClaimsFor owner attempted claim) (hdriver : s.drivers i = some driver)
    (hbid : Bidding owner attempted driver s.stored.lease s.clock)
    (hafter : stored.lease = some claim) (hchanged : stored.lease ≠ s.stored.lease) :
    DriverOk (driver.wrote op s.stored stored) stored.lease s.clock ∧
      Won owner attempted (driver.wrote op s.stored stored) stored.lease ∧
      Bidding owner attempted (driver.wrote op s.stored stored) stored.lease s.clock := by
  have howner : claim.ownerId = some driver.owner := hbid.named ▸ hclaim.owner
  have hgrip : (driver.wrote op s.stored stored).grip ≠ .absent := by
    simp [Driver.wrote, Driver.regrip, hchanged, leaseOwner_of_lease hafter, howner]
  have hsince : (driver.wrote op s.stored stored).attempted = some attempted := by
    rw [wrote_attempted, hbid.since]
  refine ⟨(hs.ok i driver hdriver).wrote_own hafter howner hclaim.expires ?_, ?_, ?_⟩
  · intro time htime
    rw [hbid.since] at htime
    cases htime
    exact Nat.le_refl _
  · rw [hafter]
    exact hclaim.won hbid.toOffDuty.wrote hsince hgrip
  · exact ⟨hbid.toOffDuty.wrote, hsince, hbid.past, fun habsent => absurd habsent hgrip⟩

theorem claimable_mono {row : RecoveryClaim} {later : Timestamp}
    (h : claimable row attempted = true) (hle : attempted ≤ later) :
    claimable row later = true := by
  simp only [claimable, Bool.and_eq_true, Bool.or_eq_true] at h ⊢
  have hall : ∀ time : Option Timestamp, time.all (· ≤ attempted) = true →
      time.all (· ≤ later) = true := by
    intro time htime
    cases time with
    | none => rfl
    | some time => simpa using Nat.le_trans (by simpa using htime) hle
  exact ⟨⟨h.1.1, hall _ h.1.2⟩, h.2.imp id (hall _)⟩

def Bid (owner : String) (attempted : Timestamp) : WriteReply → Claimant
  | .counted true => fun driver lease _ => Won owner attempted driver lease
  | _ => Bidding owner attempted

theorem bid_of_bidding {reply : WriteReply} {lease : Option RecoveryClaim}
    (hreply : reply ≠ .counted true) (h : Bidding owner attempted driver lease clock) :
    Bid owner attempted reply driver lease clock := by
  cases reply with
  | counted matched =>
      cases matched with
      | true => exact absurd rfl hreply
      | false => exact h
  | duplicateKey => exact h
  | unavailable => exact h

theorem moves_claim {s : SharedRun} {stored : Stored} {ψ : Claimant}
    (hwrite : rowWrite op = .under owner) (hs : DriversInv terms s)
    (hP : At i (Bidding owner attempted) s) (hself : (s.drivers i).isSome = true)
    (hclaim : ClaimsFor owner attempted claim) (hafter : stored.lease = some claim)
    (hchanged : stored.lease ≠ s.stored.lease)
    (hfree : ∀ row, s.stored.lease = some row → claimable row attempted = true)
    (h : ∀ driver lease clock, Won owner attempted driver lease →
      Bidding owner attempted driver lease clock → ψ driver lease clock) :
    RowStep s (s.store i op stored) (rowWrite op) ∧
      ∀ driver, s.drivers i = some driver →
        DriverOk (driver.wrote op s.stored stored) stored.lease s.clock ∧
          ψ (driver.wrote op s.stored stored) stored.lease s.clock := by
  obtain ⟨self, hself⟩ := Option.isSome_iff_exists.mp hself
  constructor
  · rw [hwrite]
    refine .taken owner claim hafter hclaim.owner ?_
    exact fun before hbefore => Or.inr (claimable_mono (hfree before hbefore) (hP self hself).past)
  · intro driver hdriver
    obtain ⟨hok, hwon, hbid⟩ := wrote_claim op hs hclaim hdriver (hP driver hdriver) hafter hchanged
    exact ⟨hok, h _ _ _ hwon hbid⟩

def Inserted (owner : String) (attempted : Timestamp) : WriteReply → Claimant
  | .counted _ => fun driver lease _ => Won owner attempted driver lease
  | _ => Bidding owner attempted

theorem bid_of_won {reply : WriteReply} {lease : Option RecoveryClaim}
    (hwon : Won owner attempted driver lease)
    (hbid : Bidding owner attempted driver lease clock) :
    Bid owner attempted reply driver lease clock := by
  by_cases hreply : reply = .counted true
  · rw [hreply]
    exact hwon
  · exact bid_of_bidding hreply hbid

theorem inserted_of_won {reply : WriteReply} {lease : Option RecoveryClaim}
    (hwon : Won owner attempted driver lease)
    (hbid : Bidding owner attempted driver lease clock) :
    Inserted owner attempted reply driver lease clock := by
  cases reply with
  | counted => exact hwon
  | duplicateKey => exact hbid
  | unavailable => exact hbid

theorem moves_claimLease (hdrives : call.drives = true)
    (hclaim : ClaimsFor owner attempted claim) :
    Moves terms i call (Bidding owner attempted) (.claimLease attempted claim)
      (Bid owner attempted) := by
  intro s reply stored hs hP hcan houtcome
  have hwrite : rowWrite (.claimLease attempted claim) = .under owner := by
    simp [rowWrite, hclaim.owner]
  have happlied : (s.stored.lease.any (claimable · attempted)) = true →
      stored = { s.stored with lease := some claim } →
      RowStep s (s.store i (.claimLease attempted claim) stored)
        (rowWrite (.claimLease attempted claim)) ∧
        ∀ driver, s.drivers i = some driver →
          DriverOk (driver.wrote (.claimLease attempted claim) s.stored stored) stored.lease
            s.clock ∧ Bid owner attempted reply
              (driver.wrote (.claimLease attempted claim) s.stored stored) stored.lease s.clock := by
    intro happlies hstored
    have hafter : stored.lease = some claim := by rw [hstored]
    obtain ⟨row, hrow, hclaimable⟩ := (Option.any_eq_true _ _).mp happlies
    refine moves_claim hwrite hs hP (hcan hdrives) hclaim hafter ?_ ?_
      fun _ _ _ => bid_of_won
    · -- the row of the claim itself is not free
      rw [hafter, hrow]
      intro heq
      cases heq
      have hnot : ¬ attempted + executionLease ≤ attempted := by simp [executionLease]
      simp [claimable, hclaim.owner, hclaim.expires, hnot] at hclaimable
    · intro before hbefore
      rw [hrow] at hbefore
      cases hbefore
      exact hclaimable
  rcases mem_conditionalWrite.mp houtcome with
    ⟨happlies, ⟨-, hstored⟩ | ⟨hreply, hstored | hstored⟩⟩ | ⟨-, hstored, hreply⟩
  · exact happlied happlies hstored
  · exact happlied happlies hstored
  · rw [hstored]
    exact unapplied _ _ hs hP fun _ h => bid_of_bidding (by simp [hreply]) h
  · rw [hstored]
    refine unapplied _ _ hs hP fun _ h => bid_of_bidding ?_ h
    rcases hreply with rfl | rfl <;> simp

theorem moves_insertLease (hdrives : call.drives = true)
    (hclaim : ClaimsFor owner attempted claim) :
    Moves terms i call (Bidding owner attempted) (.insertLease claim)
      (Inserted owner attempted) := by
  intro s reply stored hs hP hcan houtcome
  cases hlease : s.stored.lease with
  | some row =>
      simp only [StoreOp.outcomes, hlease, List.mem_cons, Prod.mk.injEq, List.not_mem_nil,
        or_false] at houtcome
      rcases houtcome with ⟨hreply, rfl⟩ | ⟨hreply, rfl⟩
      · rw [hreply]
        exact unapplied _ _ hs hP fun _ h => h
      · rw [hreply]
        exact unapplied _ _ hs hP fun _ h => h
  | none =>
      simp only [StoreOp.outcomes, hlease] at houtcome
      have hwrite : rowWrite (.insertLease claim) = .under owner := by
        simp [rowWrite, hclaim.owner]
      have happlied : stored = { s.stored with lease := some claim } →
          RowStep s (s.store i (.insertLease claim) stored) (rowWrite (.insertLease claim)) ∧
            ∀ driver, s.drivers i = some driver →
              DriverOk (driver.wrote (.insertLease claim) s.stored stored) stored.lease s.clock ∧
                Inserted owner attempted reply (driver.wrote (.insertLease claim) s.stored stored)
                  stored.lease s.clock := by
        intro hstored
        have hafter : stored.lease = some claim := by rw [hstored]
        refine moves_claim hwrite hs hP (hcan hdrives) hclaim hafter ?_ ?_
          fun _ _ _ => inserted_of_won
        · simp [hafter, hlease]
        · intro before hbefore
          rw [hlease] at hbefore
          cases hbefore
      rcases mem_conditionalWrite.mp houtcome with
        ⟨-, ⟨-, hstored⟩ | ⟨hreply, hstored | hstored⟩⟩ | ⟨hno, -, -⟩
      · exact happlied hstored
      · exact happlied hstored
      · rw [hstored, hreply]
        exact unapplied _ _ hs hP fun _ h => h
      · cases hno

theorem moves_renew {expires : Timestamp} (howner : claim.ownerId = some owner) (hexpires : claim.leaseExpiresAt = some expires)
    (hlater : attempted + executionLease ≤ expires) :
    Moves terms i call (fun driver _ _ => OnDuty owner attempted driver)
      (.updateLease owner claim) (fun reply driver lease _ => OnDuty owner attempted driver ∧
        (reply = .counted true → Settled attempted driver lease)) := by
  intro s reply stored hs hP _ houtcome
  have happlied : s.stored.leaseOwner = some owner →
      stored = { s.stored with lease := some claim } →
      RowStep s (s.store i (.updateLease owner claim) stored) (.under owner) ∧
        ∀ driver, s.drivers i = some driver →
          DriverOk (driver.wrote (.updateLease owner claim) s.stored stored) stored.lease
            s.clock ∧ OnDuty owner attempted
              (driver.wrote (.updateLease owner claim) s.stored stored) ∧
            (reply = .counted true → Settled attempted
              (driver.wrote (.updateLease owner claim) s.stored stored) stored.lease) := by
    intro howned hstored
    have hafter : stored.lease = some claim := by rw [hstored]
    constructor
    · refine .taken owner claim hafter howner ?_
      intro before hbefore
      rw [leaseOwner_of_lease hbefore] at howned
      exact Or.inl howned
    · intro driver hdriver
      have hduty := hP driver hdriver
      refine ⟨(hs.ok i driver hdriver).wrote_own hafter (hduty.named ▸ howner) hexpires ?_, ?_, ?_⟩
      · intro time htime
        rw [hduty.since] at htime
        cases htime
        exact hlater
      · rw [wrote_fields]
        exact ⟨hduty.named, hduty.leased, hduty.since⟩
      · exact fun _ _ _ => ⟨claim, hafter, expires, hexpires, hlater⟩
  let duty : Claimant := fun driver lease _ => OnDuty owner attempted driver ∧
    (reply = .counted true → Settled attempted driver lease)
  rcases mem_conditionalWrite.mp houtcome with
    ⟨happlies, ⟨-, hstored⟩ | ⟨hreply, hstored | hstored⟩⟩ | ⟨-, hstored, hreply⟩
  · exact happlied (by simpa using happlies) hstored
  · exact happlied (by simpa using happlies) hstored
  · rw [hstored]
    exact unapplied _ duty hs hP fun _ h => ⟨h, fun heq => by simp [hreply] at heq⟩
  · rw [hstored]
    refine unapplied _ duty hs hP fun _ h => ⟨h, fun heq => ?_⟩
    rcases hreply with rfl | rfl <;> cases heq

end Writes

end Hybro.Sessions
