import Hybro.Sessions.CallRules

/-! # Operations of a driving call

What a call knows before and after each operation of its process, from entering to leaving.
-/

namespace Hybro.Sessions

open Orchestrator Interleaving RunStore

/-! ## Operations of a call -/

/-- The call has entered and has not tried for the row. -/
structure Fresh (owner : String) (driver : Driver) : Prop extends OffDuty owner driver where
  fresh : driver.grip ≠ .held

def UnderLease (owner : String) : Claimant := fun driver lease _ =>
  ∃ attempted, OnDuty owner attempted driver ∧ Settled attempted driver lease

def Acquired (owner : String) : Bool → Claimant
  | true => UnderLease owner
  | false => fun driver _ _ => OffDuty owner driver

section Operations

variable {terms : SessionTerms} {i : Nat} {call : SessionCall} {owner : String}
  {attempted : Timestamp} {s s' : SharedRun} {φ : Claimant}

theorem firm_fresh : Firm (fun driver _ _ => Fresh owner driver) where
  ticks _ _ _ _ _ h := ⟨⟨h.named, h.unleased⟩, h.fresh⟩
  loses _ _ _ _ _ hloses h := ⟨h.toOffDuty.loses hloses, hloses.not_held⟩

theorem firm_underLease : Firm (UnderLease owner) where
  ticks _ _ _ _ _ h := by
    obtain ⟨attempted, hduty, hsettled⟩ := h
    exact ⟨attempted, ⟨hduty.named, hduty.leased, hduty.since⟩, hsettled.tick⟩
  loses _ _ _ _ _ hloses h := by
    obtain ⟨attempted, hduty, hsettled⟩ := h
    exact ⟨attempted, hduty.loses hloses, hloses.settled⟩

theorem firm_acquired {renewing : Bool} : Firm (Acquired owner renewing) := by
  cases renewing with
  | true => exact firm_underLease
  | false => exact firm_offDuty

/-- An attempt starts a renewal period, for which a claim that is held has to last. -/
theorem drives_leaseAttempt {ψ : Timestamp → Claimant} (hφ : Firm φ) (hψ : ∀ now, Firm (ψ now))
    (h : ∀ driver lease clock, DriverOk driver lease clock → φ driver lease clock →
      (driver.grip = .held → HoldsRow { driver with attempted := some clock } lease) ∧
        ψ clock { driver with attempted := some clock } lease clock) :
    Drives terms i call (At i φ) (driverOp .attempt) (fun now => At i (ψ now)) := by
  refine drives_modify hφ hψ ?_
  intro s r s' hs hP hop
  cases hop with
  | attempted =>
      refine ⟨_, modified_modify (fun _ => rfl) (fun _ => rfl), ?_⟩
      intro driver hdriver
      have hok := hs.ok i driver hdriver
      obtain ⟨hholds, hafter⟩ := h driver s.stored.lease s.clock hok (hP driver hdriver)
      refine ⟨⟨hholds, hok.displaced, ?_, ?_, fun _ => ⟨_, rfl⟩, hok.leased⟩, hafter⟩
      · rintro - _ ⟨⟩
        exact Nat.le_add_right _ _
      · rintro _ ⟨⟩
        exact Nat.le_refl _

theorem drives_firstAttempt :
    Drives terms i call (At i fun driver _ _ => Fresh owner driver) (driverOp .attempt)
      (fun now => At i fun driver _ clock => Trying owner now driver clock) := by
  refine drives_leaseAttempt firm_fresh (fun _ => firm_trying) ?_
  intro driver lease clock _ hfresh
  constructor
  · exact fun hheld => absurd hheld hfresh.fresh
  · exact ⟨⟨hfresh.named, hfresh.unleased⟩, rfl, Nat.le_refl _, hfresh.fresh⟩

theorem drives_nextAttempt :
    Drives terms i call (At i (UnderLease owner)) (driverOp .attempt)
      (fun now => At i fun driver _ _ => OnDuty owner now driver) := by
  refine drives_leaseAttempt firm_underLease (fun _ => firm_onDuty) ?_
  rintro driver lease clock hok ⟨before, hduty, hsettled⟩
  constructor
  · intro hheld
    obtain ⟨row, hrow, howner, -⟩ := hok.held hheld
    refine ⟨row, hrow, howner, ?_⟩
    rintro htime _ ⟨⟩
    obtain ⟨row', hrow', expires, hexpires, hlast⟩ := hsettled htime hheld
    have htimely : clock ≤ before + attemptPeriod := hok.timely htime before hduty.since
    rw [hrow] at hrow'
    cases hrow'
    refine ⟨expires, hexpires, ?_⟩
    calc clock + attemptPeriod ≤ before + attemptPeriod + attemptPeriod :=
          Nat.add_le_add_right htimely _
      _ = before + (attemptPeriod + attemptPeriod) := Nat.add_assoc ..
      _ < before + executionLease := Nat.add_lt_add_left (by decide) _
      _ ≤ expires := hlast
  · exact ⟨hduty.named, hduty.leased, rfl⟩

theorem onDuty_of_won {lease : Option RecoveryClaim} {driver : Driver} {clock : Timestamp}
    (hok : DriverOk driver lease clock) (h : Won owner attempted driver lease) :
    DriverOk { driver with leased := true } lease clock ∧
      UnderLease owner { driver with leased := true } lease clock := by
  refine ⟨⟨hok.held, hok.displaced, hok.timely, hok.past, fun _ => ⟨attempted, h.since⟩,
    fun _ htime => h.written htime⟩, attempted, ⟨h.named, rfl, h.since⟩, h.settled⟩

theorem drives_claimedHosted (attempted : Timestamp) {session : Nat}
    (howner : owner = terms.sessionOwner session) :
    Drives terms i call (At i fun driver lease _ => Won owner attempted driver lease)
      (driverOp (.claimed (some session))) (fun _ => At i (UnderLease owner)) := by
  refine drives_modify firm_won (fun _ => firm_underLease) ?_
  intro s r s' hs hP hop
  cases hop with
  | claimedHosted _ self hself =>
      refine ⟨_, ⟨rfl, rfl, rfl, fun _ => rfl, fun _ => rfl, ?_⟩,
        fun driver hdriver => onDuty_of_won (hs.ok i driver hdriver) (hP driver hdriver)⟩
      intro slot name hslot
      by_cases hsame : slot = session
      · subst hsame
        simp only [Function.update_self, Option.some.injEq] at hslot
        right
        rw [← hslot, (hP self hself).named, howner]
      · simp only [Function.update_of_ne hsame] at hslot
        exact Or.inl hslot

theorem drives_claimed (owner : String) (attempted : Timestamp) :
    Drives terms i call (At i fun driver lease _ => Won owner attempted driver lease)
      (driverOp (.claimed none)) (fun _ => At i (UnderLease owner)) := by
  refine drives_modify firm_won (fun _ => firm_underLease) ?_
  intro s r s' hs hP hop
  cases hop with
  | claimed =>
      exact ⟨_, modified_modify (fun _ => rfl) (fun _ => rfl),
        fun driver hdriver => onDuty_of_won (hs.ok i driver hdriver) (hP driver hdriver)⟩

theorem DriverOk.rest {driver driver' : Driver} {lease : Option RecoveryClaim}
    {clock : Timestamp} (h : DriverOk driver lease clock) (howner : driver'.owner = driver.owner)
    (hgrip : driver'.grip = driver.grip) (hattempted : driver'.attempted = none)
    (hleased : driver'.leased = false) : DriverOk driver' lease clock := by
  refine ⟨?_, ?_, ?_, ?_, ?_, ?_⟩
  · intro hheld
    obtain ⟨row, hrow, hown, -⟩ := h.held (hgrip.symm.trans hheld)
    exact ⟨row, hrow, howner ▸ hown, fun _ _ hsome => by simp [hattempted] at hsome⟩
  · intro hdisplaced
    rw [howner]
    exact h.displaced (hgrip.symm.trans hdisplaced)
  · simp [hattempted]
  · simp [hattempted]
  · simp [hleased]
  · simp [hleased]

theorem drives_refusal (owner : String) :
    Drives terms i call (At i fun driver _ _ => OffDuty owner driver) (driverOp .refused)
      (fun _ => At i fun driver _ _ => OffDuty owner driver) := by
  refine drives_modify firm_offDuty (fun _ => firm_offDuty) ?_
  intro s r s' hs hP hop
  cases hop with
  | refused =>
      refine ⟨_, modified_modify (fun _ => rfl) (fun _ => rfl), ?_⟩
      intro driver hdriver
      have hoff := hP driver hdriver
      exact ⟨(hs.ok i driver hdriver).rest rfl rfl rfl hoff.unleased, hoff.named, hoff.unleased⟩

theorem drives_finishKernel :
    Drives terms i call (At i fun driver _ _ => driver.owner = owner) (driverOp .finishKernel)
      (fun _ => At i fun driver _ _ => OffDuty owner driver) := by
  have hfirm : Firm (fun driver _ _ => driver.owner = owner) :=
    ⟨fun _ _ _ _ _ h => h, fun _ _ _ _ _ hloses h => hloses.owner.trans h⟩
  refine drives_modify hfirm (fun _ => firm_offDuty) ?_
  intro s r s' hs hP hop
  cases hop with
  | finished =>
      refine ⟨_, modified_modify (fun _ => rfl) (fun _ => rfl), ?_⟩
      exact fun driver hdriver => ⟨(hs.ok i driver hdriver).rest rfl rfl rfl rfl,
        hP driver hdriver, rfl⟩

theorem DriverOk.execute {driver : Driver} {lease : Option RecoveryClaim} {clock : Timestamp}
    (h : DriverOk driver lease clock) : DriverOk { driver with executing := true } lease clock :=
  ⟨h.held, h.displaced, h.timely, h.past, h.attempting, h.leased⟩

theorem UnderLease.execute {driver : Driver} {lease : Option RecoveryClaim} {clock : Timestamp}
    (h : UnderLease owner driver lease clock) :
    UnderLease owner { driver with executing := true } lease clock := by
  obtain ⟨attempted, hduty, hsettled⟩ := h
  exact ⟨attempted, ⟨hduty.named, hduty.leased, hduty.since⟩, hsettled⟩

/-- The kernel is started with an accepted claim or without one. -/
theorem drives_startKernel {session : Nat} {renewing : Bool} :
    Drives terms i call (At i (Acquired owner renewing)) (driverOp (.startKernel session))
      (fun _ => At i (Acquired owner renewing)) := by
  refine drives_modify firm_acquired (fun _ => firm_acquired) ?_
  intro s r s' hs hP hop
  cases hop with
  | started =>
      refine ⟨_, ⟨rfl, rfl, rfl, fun _ => rfl, fun _ => rfl, fun _ _ h => Or.inl h⟩, ?_⟩
      intro driver hdriver
      have hknown := hP driver hdriver
      refine ⟨(hs.ok i driver hdriver).execute, ?_⟩
      cases renewing with
      | true =>
          have hlease : UnderLease owner driver s.stored.lease s.clock := hknown
          exact hlease.execute
      | false =>
          have hoff : OffDuty owner driver := hknown
          exact ⟨hoff.named, hoff.unleased⟩

theorem drives_startRecovery :
    Drives terms i call (At i (UnderLease owner)) (driverOp .startRecovery)
      (fun _ => At i (UnderLease owner)) := by
  refine drives_modify firm_underLease (fun _ => firm_underLease) ?_
  intro s r s' hs hP hop
  cases hop with
  | startedRecovery =>
      refine ⟨_, modified_modify (fun _ => rfl) (fun _ => rfl), ?_⟩
      exact fun driver hdriver =>
        ⟨(hs.ok i driver hdriver).execute, UnderLease.execute (hP driver hdriver)⟩

theorem DriverOk.lapse {driver : Driver} {lease : Option RecoveryClaim} {clock : Timestamp}
    (h : DriverOk driver lease clock) (refused : Bool) :
    DriverOk { driver with lapsed := driver.lapsed || refused } lease clock := by
  have htime : ∀ {lapsed : Bool}, (lapsed || refused) = false → lapsed = false := by simp
  refine ⟨?_, h.displaced, fun h' => h.timely (htime h'), h.past, h.attempting,
    fun hleased h' => h.leased hleased (htime h')⟩
  intro hheld
  obtain ⟨row, hrow, howner, hexpires⟩ := h.held hheld
  exact ⟨row, hrow, howner, fun h' => hexpires (htime h')⟩

theorem drives_renewed {outcome : StoreOutcome} :
    Drives terms i call (At i (Renews owner attempted (StoreOutcome.isWritten outcome)))
      (driverOp (.renewed outcome)) (fun _ => At i (UnderLease owner)) := by
  refine drives_modify firm_renews (fun _ => firm_underLease) ?_
  intro s r s' hs hP hop
  cases hop with
  | renewed =>
      refine ⟨_, modified_modify (fun _ => rfl) (fun _ => rfl), ?_⟩
      intro driver hdriver
      obtain ⟨hduty, hsettled⟩ := hP driver hdriver
      refine ⟨(hs.ok i driver hdriver).lapse _, attempted,
        ⟨hduty.named, hduty.leased, hduty.since⟩, ?_⟩
      intro htime hheld
      simp only [Bool.or_eq_false_iff, Bool.not_eq_eq_eq_not, Bool.not_false] at htime
      exact hsettled htime.2 htime.1 hheld

theorem drives_takeLeaseOwner {session : Nat} (hφ : Firm φ) :
    Drives terms i call (At i φ) (driverOp (.takeLeaseOwner session))
      (fun owner s => (∀ name, owner = some name → name = terms.sessionOwner session) ∧
        At i φ s) := by
  refine Contract.Raises.effect hφ.stable
    (fun _ => (Contract.Stable.const _).and hφ.stable) (fun _ => Contract.Stable.const True) ?_
  rintro s r s' hs hP ⟨-, hexec⟩
  cases hexec with
  | driver h =>
      cases h with
      | tookLeaseOwner =>
          have hmodified : Modified terms i id s
              { s with leaseOwners := Function.update s.leaseOwners session none } := by
            refine ⟨?_, rfl, rfl, fun _ => rfl, fun _ => rfl, ?_⟩
            · simp [SharedRun.modify]
            · intro slot name hslot
              by_cases hsame : slot = session
              · subst hsame
                simp at hslot
              · simp only [Function.update_of_ne hsame] at hslot
                exact Or.inl hslot
          obtain ⟨hby, hinv⟩ : StepBy (call.owner terms i) i s _ ∧ DriversInv terms _ :=
            hmodified.step hs fun driver hdriver => hs.ok i driver hdriver
          exact ⟨hby, hinv, fun name hname => hs.slots session name hname, hP⟩

theorem drives_leave {P : SharedRun → Prop} (hP : (driverContract terms i call).Stable P) :
    Drives terms i call P (driverOp .leave) (fun _ _ => True) := by
  refine Contract.Raises.effect hP (fun _ => Contract.Stable.const True)
    (fun _ => Contract.Stable.const True) ?_
  rintro s r s' hs - ⟨-, hexec⟩
  cases hexec with
  | driver h =>
      cases h with
      | left =>
          have hby : StepBy (call.owner terms i) i s
              { s with drivers := Function.update s.drivers i none } := by
            refine ⟨rfl, fun driver hdriver => by simp at hdriver, .unowned, .kept _ rfl, ?_⟩
            intro j hne
            simp [Function.update_of_ne hne, regrip_of_lease]
          exact ⟨hby, hs.step hby (fun driver hdriver => by simp at hdriver) hs.slots, trivial⟩

theorem drives_enter :
    Drives terms i call (fun s => s.drivers i = none) (driverOp (.enter (call.owner terms i)))
      (fun _ => At i fun driver _ _ => Fresh (call.owner terms i) driver) := by
  have hstable : (driverContract terms i call).Stable fun s => s.drivers i = none := by
    intro s s' _ hrely _ hnone
    rcases hrely with henv | ⟨j, _, hne, hstep⟩
    · cases henv with
      | ticks => simp [hnone]
      | dies k =>
          by_cases hk : i = k
          · subst hk
            simp
          · simp [Function.update_of_ne hk, hnone]
    · exact StepBy.none_iff hstep (Ne.symm hne) hnone
  refine Contract.Raises.effect hstable (fun _ => firm_fresh.stable)
    (fun _ => Contract.Stable.const True) ?_
  rintro s r s' hs hnone ⟨-, hexec⟩
  cases hexec with
  | driver h =>
      cases h with
      | entered =>
          have hby : StepBy (call.owner terms i) i s
              { s with drivers :=
                  Function.update s.drivers i (some { owner := call.owner terms i }) } := by
            refine ⟨rfl, ?_, .unowned, .kept _ rfl, ?_⟩
            · intro driver hdriver
              simp only [Function.update_self, Option.some.injEq] at hdriver
              exact Or.inl (by rw [← hdriver])
            · intro j hne
              simp [Function.update_of_ne hne, regrip_of_lease]
          have hself : ∀ driver, Function.update s.drivers i
              (some { owner := call.owner terms i }) i = some driver →
              driver = { owner := call.owner terms i } := by
            intro driver hdriver
            simpa using hdriver.symm
          refine ⟨hby, hs.step hby ?_ hs.slots, ?_⟩
          · intro driver hdriver
            rw [hself driver hdriver]
            exact ⟨⟨nofun, nofun, nofun, nofun, nofun, nofun⟩, nofun⟩
          · intro driver hdriver
            rw [hself driver hdriver]
            exact ⟨⟨rfl, rfl⟩, by simp⟩

theorem drives_create {run : OrchestratorRunState} (hφ : Firm φ) :
    Drives terms i call (At i φ) (driverOp (.create run)) (fun _ => At i φ) := by
  refine drives_modify hφ (fun _ => hφ) ?_
  intro s r s' hs hP hop
  cases hop with
  | created _ _ hfree hanswer =>
      refine ⟨id, ⟨by simp [SharedRun.modify], rfl, rfl, fun _ => rfl, fun _ => rfl, fun _ _ h => Or.inl h⟩, ?_⟩
      exact fun driver hdriver => ⟨hs.ok i driver hdriver, hP driver hdriver⟩
  | notCreated _ _ hanswer =>
      refine ⟨id, ⟨by simp [SharedRun.modify], rfl, rfl, fun _ => rfl, fun _ => rfl, fun _ _ h => Or.inl h⟩, ?_⟩
      exact fun driver hdriver => ⟨hs.ok i driver hdriver, hP driver hdriver⟩

theorem drives_ask {op : DriverOp} (hφ : Firm φ)
    (hsame : ∀ s r s', op.Outcome i s r s' → s' = s) :
    Drives terms i call (At i φ) (driverOp op) (fun _ => At i φ) :=
  (drives_look (fun _ => True) hφ fun s r s' _ _ _ hop => ⟨hsame s r s' hop, trivial⟩).post
    fun _ _ _ h => h.2

end Operations

end Hybro.Sessions
