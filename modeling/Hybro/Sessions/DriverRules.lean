import Hybro.Sessions.Drivers

/-! # What a step does to the drivers

Nobody takes the row from a driver whose attempts come in time, except a cancellation and the
calls that have its owner id.
-/

namespace Hybro.Sessions

open Orchestrator Interleaving RunStore

/-! ## Invariant -/

/-- The row carries the claim of the driver, and the claim outlasts the time in which the
next attempt has to come. -/
def HoldsRow (driver : Driver) (lease : Option RecoveryClaim) : Prop :=
  ∃ row, lease = some row ∧ row.ownerId = some driver.owner ∧
    (driver.lapsed = false → ∀ attempted, driver.attempted = some attempted →
      ∃ expires, row.leaseExpiresAt = some expires ∧ attempted + attemptPeriod < expires)

structure DriverOk (driver : Driver) (lease : Option RecoveryClaim) (clock : Timestamp) :
    Prop where
  held : driver.grip = .held → HoldsRow driver lease
  displaced : driver.grip = .displaced →
    ∃ row, lease = some row ∧ row.ownerId ≠ some driver.owner
  timely : driver.lapsed = false → ∀ attempted, driver.attempted = some attempted →
    clock ≤ attempted + attemptPeriod
  past : ∀ attempted, driver.attempted = some attempted → attempted ≤ clock
  attempting : driver.leased = true → ∃ attempted, driver.attempted = some attempted
  leased : driver.leased = true → driver.lapsed = false → driver.grip ≠ .absent

structure DriversInv (terms : SessionTerms) (s : SharedRun) : Prop where
  unique : ∀ i j driver other, s.drivers i = some driver → s.drivers j = some other →
    driver.grip = .held → other.grip = .held → i = j
  ok : ∀ i driver, s.drivers i = some driver → DriverOk driver s.stored.lease s.clock
  slots : ∀ session owner, s.leaseOwners session = some owner → owner = terms.sessionOwner session

/-! ## Steps -/

/-- What a step does to the row: a cancellation replaces it, a call takes a free row or one in
its own name, a call gives a row in its name back, and a row without an owner is written. -/
inductive RowStep (s s' : SharedRun) : RowWrite → Prop
  | kept (write : RowWrite) (hsame : s'.stored.lease = s.stored.lease) : RowStep s s' write
  | canceled (row : RecoveryClaim) (hrow : s'.stored.lease = some row)
      (howner : row.ownerId = none) : RowStep s s' .cancels
  | taken (owner : String) (row : RecoveryClaim) (hrow : s'.stored.lease = some row)
      (howner : row.ownerId = some owner)
      (hfree : ∀ before, s.stored.lease = some before →
        before.ownerId = some owner ∨ claimable before s.clock = true) :
      RowStep s s' (.under owner)
  | given (owner : String) (row : RecoveryClaim) (hrow : s'.stored.lease = some row)
      (howner : row.ownerId = none)
      (hown : ∀ before, s.stored.lease = some before → before.ownerId = some owner) :
      RowStep s s' (.under owner)
  | unowned (row : RecoveryClaim) (hrow : s'.stored.lease = some row)
      (howner : row.ownerId = none)
      (hfree : ∀ before, s.stored.lease = some before → before.ownerId = none) :
      RowStep s s' .unowned

/-- A step of thread `i`, whose call bears the name `name`. -/
structure StepBy (name : String) (i : Nat) (s s' : SharedRun) : Prop where
  clock : s'.clock = s.clock
  own : ∀ driver', s'.drivers i = some driver' → driver'.owner = name ∨
    ∃ driver, s.drivers i = some driver ∧ driver'.owner = driver.owner
  row : ∃ write, RowStep s s' write ∧ ∀ j, j ≠ i →
    s'.drivers j = (s.drivers j).map (Driver.regrip false write s.stored s'.stored)

def Loses (driver driver' : Driver) (lease' : Option RecoveryClaim) : Prop :=
  driver' = { driver with grip := .contested } ∨
  (∃ row, lease' = some row ∧ row.ownerId ≠ some driver.owner) ∧
    (driver.grip ≠ .held ∧ driver' = driver ∨
      driver.grip = .held ∧ driver' = { driver with grip := .displaced } ∨
      driver.grip = .held ∧ (driver.lapsed = true ∨ driver.attempted = none) ∧
        driver' = { driver with grip := .absent })

section Steps

variable {terms : SessionTerms} {name : String} {i j : Nat} {s s' : SharedRun}
  {driver driver' : Driver}
  {lease lease' : Option RecoveryClaim} {clock clock' : Timestamp}

theorem leaseOwner_of_lease {stored : Stored} {row : RecoveryClaim}
    (h : stored.lease = some row) : stored.leaseOwner = row.ownerId := by
  simp [Stored.leaseOwner, h]

theorem DriverOk.not_claimable (h : DriverOk driver lease clock) (hheld : driver.grip = .held)
    (htime : driver.lapsed = false) {attempted : Timestamp}
    (hattempted : driver.attempted = some attempted) {row : RecoveryClaim}
    (hrow : lease = some row) : claimable row clock = false := by
  obtain ⟨held, hlease, howner, hexpires⟩ := h.held hheld
  obtain ⟨expires, hexpires, hlater⟩ := hexpires htime attempted hattempted
  have htimely := h.timely htime attempted hattempted
  have hsame : held = row := by
    rw [hrow] at hlease
    exact (Option.some.inj hlease).symm
  subst hsame
  have hnot : ¬ expires ≤ clock := Nat.not_le.mpr (Nat.lt_of_le_of_lt htimely hlater)
  simp [claimable, howner, hexpires, hnot]

/-- A driver that nobody of its name writes under loses a row that is claimable only. -/
theorem DriverOk.foreign (h : DriverOk driver lease clock) {row : RecoveryClaim}
    (hrow : lease' = some row) (hne : row.ownerId ≠ some driver.owner)
    (hfree : driver.grip = .held → ∀ before, lease = some before →
      before.ownerId = some driver.owner → claimable before clock = true) :
    Loses driver (if driver.grip = .held then { driver with grip := .absent } else driver)
      lease' := by
  refine Or.inr ⟨⟨row, hrow, hne⟩, ?_⟩
  by_cases hheld : driver.grip = .held
  · refine Or.inr (Or.inr ⟨hheld, ?_, by rw [if_pos hheld]⟩)
    cases htime : driver.lapsed with
    | true => exact Or.inl rfl
    | false =>
        cases hattempted : driver.attempted with
        | none => exact Or.inr rfl
        | some attempted =>
            obtain ⟨before, hbefore, howned, -⟩ := h.held hheld
            have hclaimable := hfree hheld before hbefore howned
            rw [h.not_claimable hheld htime hattempted hbefore] at hclaimable
            cases hclaimable
  · exact Or.inl ⟨hheld, by rw [if_neg hheld]⟩

theorem StepBy.sees (h : StepBy name j s s') (hs : DriversInv terms s) (hne : i ≠ j)
    (hdriver : s.drivers i = some driver) :
    ∃ driver', s'.drivers i = some driver' ∧
      (driver' = driver ∧ s'.stored.lease = s.stored.lease ∨
        Loses driver driver' s'.stored.lease) := by
  obtain ⟨write, hrow, hothers⟩ := h.row
  refine ⟨_, by rw [hothers i hne, hdriver, Option.map_some], ?_⟩
  by_cases hsame : s'.stored.lease = s.stored.lease
  · exact Or.inl ⟨by simp [Driver.regrip, hsame], hsame⟩
  right
  by_cases hnamesake : write = .under driver.owner
  · exact Or.inl (by simp [Driver.regrip, hsame, hnamesake])
  have hok := hs.ok i driver hdriver
  have hplain : write ≠ .cancels → Driver.regrip false write s.stored s'.stored driver =
      if driver.grip = .held then { driver with grip := .absent } else driver := by
    intro hwrite
    simp [Driver.regrip, hsame, hnamesake, hwrite]
  cases hrow with
  | kept _ h => exact absurd h hsame
  | canceled row hrow howner =>
      refine Or.inr ⟨⟨row, hrow, by simp [howner]⟩, ?_⟩
      by_cases hheld : driver.grip = .held
      · exact Or.inr (Or.inl ⟨hheld, by simp [Driver.regrip, hsame, hheld]⟩)
      · exact Or.inl ⟨hheld, by simp [Driver.regrip, hsame, hheld]⟩
  | taken owner row hrow howner hfree =>
      have hdistinct : owner ≠ driver.owner := fun heq => hnamesake (by rw [heq])
      rw [hplain (by simp)]
      refine hok.foreign hrow (by simp [howner, hdistinct]) ?_
      intro _ before hbefore howned
      refine (hfree before hbefore).resolve_left fun hself => hdistinct ?_
      rw [howned] at hself
      exact (Option.some.inj hself).symm
  | given owner row hrow howner hown =>
      rw [hplain (by simp)]
      refine hok.foreign hrow (by simp [howner]) ?_
      intro _ before hbefore howned
      have hgiver := hown before hbefore
      rw [howned] at hgiver
      exact absurd (by rw [Option.some.inj hgiver]) hnamesake
  | unowned row hrow howner hfree =>
      rw [hplain (by simp)]
      refine hok.foreign hrow (by simp [howner]) ?_
      intro _ before hbefore howned
      rw [hfree before hbefore] at howned
      cases howned

theorem StepBy.none_iff (h : StepBy name j s s') (hne : i ≠ j) (hnone : s.drivers i = none) :
    s'.drivers i = none := by
  obtain ⟨_, -, hothers⟩ := h.row
  rw [hothers i hne, hnone]
  rfl

theorem Loses.owner (h : Loses driver driver' lease') : driver'.owner = driver.owner := by
  rcases h with rfl | ⟨-, ⟨-, rfl⟩ | ⟨-, rfl⟩ | ⟨-, -, rfl⟩⟩ <;> rfl

theorem Loses.not_held (h : Loses driver driver' lease') : driver'.grip ≠ .held := by
  rcases h with rfl | ⟨-, ⟨hheld, rfl⟩ | ⟨-, rfl⟩ | ⟨-, -, rfl⟩⟩
  · simp
  · exact hheld
  · simp
  · simp

theorem DriverOk.loses (h : DriverOk driver lease clock) (hloses : Loses driver driver' lease') :
    DriverOk driver' lease' clock := by
  rcases hloses with rfl | ⟨hforeign, ⟨hheld, rfl⟩ | ⟨-, rfl⟩ | ⟨-, hlost, rfl⟩⟩
  · exact ⟨nofun, nofun, h.timely, h.past, h.attempting, fun _ _ => by simp⟩
  · exact ⟨fun h => absurd h hheld, fun _ => hforeign, h.timely, h.past, h.attempting, h.leased⟩
  · exact ⟨nofun, fun _ => hforeign, h.timely, h.past, h.attempting, fun _ _ => by simp⟩
  · refine ⟨nofun, nofun, h.timely, h.past, h.attempting, ?_⟩
    intro hleased htime
    obtain ⟨attempted, hattempted⟩ := h.attempting hleased
    rcases hlost with hlapsed | hnone
    · rw [hlapsed] at htime
      cases htime
    · rw [hnone] at hattempted
      cases hattempted

@[simp] theorem tick_lapsed : (driver.tick clock').lapsed = false ↔
    driver.lapsed = false ∧ ∀ attempted, driver.attempted = some attempted →
      clock' ≤ attempted + attemptPeriod := by
  cases h : driver.attempted with
  | none => simp [Driver.tick, h]
  | some attempted => simp [Driver.tick, h]

theorem DriverOk.tick (h : DriverOk driver lease clock) (hlater : clock ≤ clock') :
    DriverOk (driver.tick clock') lease clock' where
  held := by
    intro hheld
    obtain ⟨row, hrow, howner, hexpires⟩ := h.held hheld
    exact ⟨row, hrow, howner, fun htime => hexpires (tick_lapsed.mp htime).1⟩
  displaced := h.displaced
  timely := fun htime attempted hattempted => (tick_lapsed.mp htime).2 attempted hattempted
  past := fun attempted hattempted => Nat.le_trans (h.past attempted hattempted) hlater
  attempting := h.attempting
  leased := fun hleased htime => h.leased hleased (tick_lapsed.mp htime).1

/-! ## Keeping the invariant -/

/-- A step of thread `i` keeps the invariant when its own driver is left in order. -/
theorem DriversInv.step (hs : DriversInv terms s) (h : StepBy name i s s')
    (hown : ∀ driver, s'.drivers i = some driver →
      DriverOk driver s'.stored.lease s'.clock ∧
        (driver.grip = .held → s'.stored.lease = s.stored.lease →
          ∃ before, s.drivers i = some before ∧ before.grip = .held))
    (hslots : ∀ session owner, s'.leaseOwners session = some owner →
      owner = terms.sessionOwner session) : DriversInv terms s' := by
  have hback : ∀ j, j ≠ i → ∀ driver, s'.drivers j = some driver →
      DriverOk driver s'.stored.lease s'.clock ∧ (driver.grip = .held →
        s'.stored.lease = s.stored.lease ∧ s.drivers j = some driver) := by
    intro j hne driver hdriver
    cases hbefore : s.drivers j with
    | none =>
        rw [h.none_iff hne hbefore] at hdriver
        cases hdriver
    | some before =>
        obtain ⟨after, hafter, hcase⟩ := h.sees hs hne hbefore
        rw [hdriver] at hafter
        cases hafter
        have hok := hs.ok j before hbefore
        rw [h.clock]
        rcases hcase with ⟨rfl, hlease⟩ | hloses
        · exact ⟨hlease ▸ hok, fun _ => ⟨hlease, rfl⟩⟩
        · exact ⟨hok.loses hloses, fun hheld => absurd hheld hloses.not_held⟩
  have honly : ∀ j driver other, j ≠ i → s'.drivers i = some driver →
      s'.drivers j = some other → driver.grip = .held → other.grip ≠ .held := by
    intro j driver other hne hdriver hother hheld hotherHeld
    obtain ⟨hlease, hbefore⟩ := (hback j hne other hother).2 hotherHeld
    obtain ⟨self, hself, hselfHeld⟩ := (hown driver hdriver).2 hheld hlease
    exact hne (hs.unique j i other self hbefore hself hotherHeld hselfHeld)
  refine ⟨?_, ?_, hslots⟩
  · intro j k driver other hdriver hother hheld hotherHeld
    by_cases hj : j = i
    · by_cases hk : k = i
      · rw [hj, hk]
      · exact absurd hotherHeld (honly k driver other hk (hj ▸ hdriver) hother hheld)
    · by_cases hk : k = i
      · exact absurd hheld (honly j other driver hj (hk ▸ hother) hdriver hotherHeld)
      · obtain ⟨-, hbefore⟩ := (hback j hj driver hdriver).2 hheld
        obtain ⟨-, hbefore'⟩ := (hback k hk other hother).2 hotherHeld
        exact hs.unique j k driver other hbefore hbefore' hheld hotherHeld
  · intro j driver hdriver
    by_cases hj : j = i
    · subst hj
      exact (hown driver hdriver).1
    · exact (hback j hj driver hdriver).1

theorem DriversInv.environment (hs : DriversInv terms s) (h : Environment s s') :
    DriversInv terms s' := by
  cases h with
  | ticks clock hlater =>
      refine ⟨?_, ?_, hs.slots⟩
      · intro j k driver other hdriver hother hheld hotherHeld
        obtain ⟨before, hbefore, rfl⟩ := Option.map_eq_some_iff.mp hdriver
        obtain ⟨before', hbefore', rfl⟩ := Option.map_eq_some_iff.mp hother
        exact hs.unique j k before before' hbefore hbefore' hheld hotherHeld
      · intro j driver hdriver
        obtain ⟨before, hbefore, rfl⟩ := Option.map_eq_some_iff.mp hdriver
        exact (hs.ok j before hbefore).tick hlater
  | dies k =>
      have hback : ∀ j driver, Function.update s.drivers k none j = some driver →
          s.drivers j = some driver := by
        intro j driver hdriver
        by_cases hj : j = k
        · subst hj
          simp at hdriver
        · rwa [Function.update_of_ne hj] at hdriver
      refine ⟨?_, fun j driver hdriver => hs.ok j driver (hback j driver hdriver), hs.slots⟩
      exact fun j k driver other hdriver hother =>
        hs.unique j k driver other (hback j driver hdriver) (hback k other hother)

end Steps

/-! ## Assertions about the own driver -/

abbrev Claimant := Driver → Option RecoveryClaim → Timestamp → Prop

def At (i : Nat) (φ : Claimant) (s : SharedRun) : Prop :=
  ∀ driver, s.drivers i = some driver → φ driver s.stored.lease s.clock

structure Firm (φ : Claimant) : Prop where
  ticks : ∀ driver lease clock clock', clock ≤ clock' → φ driver lease clock →
    φ (driver.tick clock') lease clock'
  loses : ∀ driver driver' lease lease' clock, Loses driver driver' lease' →
    φ driver lease clock → φ driver' lease' clock

/-- What call `call` of thread `i` is proved against. -/
abbrev driverContract (terms : SessionTerms) (i : Nat) (call : SessionCall) :
    Contract (StoreOp ⊕ DriverOp) DriverRes SharedRun :=
  (sessionSystem terms).contract (DriversInv terms)
    (fun i call => StepBy (call.owner terms i) i) i call

abbrev Drives (terms : SessionTerms) (i : Nat) (call : SessionCall) {α : Type}
    (P : SharedRun → Prop) (p : DriverProg α) (Q : α → SharedRun → Prop) : Prop :=
  Plainly (driverContract terms i call) P p Q

section Rules

variable {terms : SessionTerms} {name : String} {i : Nat} {call : SessionCall} {s s' : SharedRun}
  {φ : Claimant} {α : Type}

theorem Firm.stable (hφ : Firm φ) : (driverContract terms i call).Stable (At i φ) := by
  intro s s' hs hrely _ hP driver hdriver
  rcases hrely with henv | ⟨j, _, hne, hstep⟩
  · cases henv with
    | ticks clock hlater =>
        obtain ⟨before, hbefore, rfl⟩ := Option.map_eq_some_iff.mp hdriver
        exact hφ.ticks before s.stored.lease s.clock clock hlater (hP before hbefore)
    | dies k =>
        by_cases hk : i = k
        · subst hk
          simp at hdriver
        · simp only [Function.update_of_ne hk] at hdriver
          exact hP driver hdriver
  · cases hbefore : s.drivers i with
    | none =>
        rw [StepBy.none_iff hstep (Ne.symm hne) hbefore] at hdriver
        cases hdriver
    | some before =>
        obtain ⟨after, hafter, hcase⟩ := StepBy.sees hstep hs (Ne.symm hne) hbefore
        rw [hdriver] at hafter
        cases hafter
        have hclock : s'.clock = s.clock := StepBy.clock hstep
        rw [hclock]
        rcases hcase with ⟨rfl, hlease⟩ | hloses
        · rw [hlease]
          exact hP driver hbefore
        · exact hφ.loses before driver _ _ _ hloses (hP before hbefore)

theorem regrip_of_lease {own : Bool} {write : RowWrite} {before after : Stored}
    (h : after.lease = before.lease) : Driver.regrip own write before after = id := by
  funext driver
  simp [Driver.regrip, h]

/-- A step that changes the own driver and neither the row nor the clock. -/
structure Modified (terms : SessionTerms) (i : Nat) (f : Driver → Driver) (s s' : SharedRun) :
    Prop where
  drivers : s'.drivers = (s.modify i f).drivers
  lease : s'.stored.lease = s.stored.lease
  clock : s'.clock = s.clock
  owner : ∀ driver, (f driver).owner = driver.owner
  grip : ∀ driver, (f driver).grip = driver.grip
  slots : ∀ session owner, s'.leaseOwners session = some owner →
    s.leaseOwners session = some owner ∨ owner = terms.sessionOwner session

theorem modified_modify {f : Driver → Driver} (howner : ∀ driver, (f driver).owner = driver.owner)
    (hgrip : ∀ driver, (f driver).grip = driver.grip) : Modified terms i f s (s.modify i f) :=
  ⟨rfl, rfl, rfl, howner, hgrip, fun _ _ h => Or.inl h⟩

theorem Modified.back {f : Driver → Driver} (h : Modified terms i f s s') {driver : Driver}
    (hdriver : s'.drivers i = some driver) :
    ∃ before, s.drivers i = some before ∧ driver = f before := by
  rw [h.drivers, SharedRun.modify] at hdriver
  simp only [Function.update_self] at hdriver
  obtain ⟨before, hbefore, heq⟩ := Option.map_eq_some_iff.mp hdriver
  exact ⟨before, hbefore, heq.symm⟩

theorem Modified.step {f : Driver → Driver} (h : Modified terms i f s s')
    (hs : DriversInv terms s)
    (hok : ∀ driver, s.drivers i = some driver → DriverOk (f driver) s.stored.lease s.clock) :
    StepBy name i s s' ∧ DriversInv terms s' := by
  have hstep : StepBy name i s s' := by
    refine ⟨h.clock, ?_, .unowned, .kept _ h.lease, ?_⟩
    · intro driver hdriver
      obtain ⟨before, hbefore, rfl⟩ := h.back hdriver
      exact Or.inr ⟨before, hbefore, h.owner before⟩
    · intro j hne
      rw [h.drivers, SharedRun.modify, regrip_of_lease h.lease]
      simp [Function.update_of_ne hne]
  refine ⟨hstep, hs.step hstep ?_ ?_⟩
  · intro driver hdriver
    obtain ⟨before, hbefore, rfl⟩ := h.back hdriver
    rw [h.lease, h.clock]
    exact ⟨hok before hbefore, fun hheld _ => ⟨before, hbefore, h.grip before ▸ hheld⟩⟩
  · intro session owner hslot
    exact (h.slots session owner hslot).elim (hs.slots session owner) id

/-! ## Operations of the process -/

theorem drives_modify {op : DriverOp} {ψ : op.Res → Claimant} (hφ : Firm φ)
    (hψ : ∀ r, Firm (ψ r))
    (hstep : ∀ s r s', DriversInv terms s → At i φ s → op.Outcome i s r s' →
      ∃ f, Modified terms i f s s' ∧ ∀ driver, s.drivers i = some driver →
        DriverOk (f driver) s.stored.lease s.clock ∧ ψ r (f driver) s.stored.lease s.clock) :
    Drives terms i call (At i φ) (driverOp op) (fun r => At i (ψ r)) := by
  refine Contract.Raises.effect hφ.stable (fun r => (hψ r).stable)
    (fun _ => Contract.Stable.const True) ?_
  rintro s r s' hs hP ⟨-, hexec⟩
  cases hexec with
  | driver h =>
      obtain ⟨f, hmodified, hf⟩ := hstep s r s' hs hP h
      obtain ⟨hby, hinv⟩ := hmodified.step hs fun driver hdriver => (hf driver hdriver).1
      refine ⟨hby, hinv, ?_⟩
      intro driver hdriver
      obtain ⟨before, hbefore, rfl⟩ := hmodified.back hdriver
      rw [hmodified.lease, hmodified.clock]
      exact (hf before hbefore).2

theorem StepBy.refl (s : SharedRun) : StepBy name i s s :=
  ⟨rfl, fun driver hdriver => Or.inr ⟨driver, hdriver, rfl⟩, .unowned, .kept _ rfl,
    fun j _ => by simp [regrip_of_lease]⟩

theorem drives_look {op : DriverOp} (χ : op.Res → Prop) (hφ : Firm φ)
    (hsame : ∀ s r s', DriversInv terms s → At i φ s → canStep call s i (.inr op) →
      op.Outcome i s r s' → s' = s ∧ χ r) :
    Drives terms i call (At i φ) (driverOp op) (fun r s => χ r ∧ At i φ s) := by
  refine Contract.Raises.effect hφ.stable
    (fun r => (Contract.Stable.const (χ r)).and hφ.stable)
    (fun _ => Contract.Stable.const True) ?_
  rintro s r s' hs hP ⟨hcan, hexec⟩
  cases hexec with
  | driver h =>
      obtain ⟨rfl, hr⟩ := hsame s r s' hs hP hcan h
      exact ⟨StepBy.refl _, hs, hr, hP⟩

theorem kept_named : (driverContract terms i call).Kept
    (At i fun driver _ _ => driver.owner = call.owner terms i) where
  stable := by
    refine Firm.stable ⟨fun _ _ _ _ _ h => h, ?_⟩
    exact fun _ _ _ _ _ hloses h => hloses.owner.trans h
  own s s' _ hstep hP driver' hdriver' := by
    rcases StepBy.own hstep driver' hdriver' with hname | ⟨driver, hdriver, howner⟩
    · exact hname
    · exact howner.trans (hP driver hdriver)

/-! ## Operations of the store -/

theorem calling_act {op : StoreOp} {next : op.Res → StoreProg α} (hop : raised? op = none) :
    calling (.act op next) =
      ExceptT.mk (.act (.inl op) fun reply => (calling (next reply)).run) := by
  rw [calling, hop]

theorem calling_raise {op : StoreOp} {next : op.Res → StoreProg α} {message : String}
    (hop : raised? op = some message) :
    calling (.act op next) = throw (.store message) := by
  rw [calling, hop]

theorem calling_bind {β : Type} (p : StoreProg α) (f : α → StoreProg β) :
    calling (p >>= f) = calling p >>= fun a => calling (f a) := by
  induction p with
  | done a => rfl
  | act op next ih =>
      rw [Prog.act_bind]
      cases hop : raised? op with
      | some message => rw [calling_raise hop, calling_raise hop]; rfl
      | none =>
          rw [calling_act hop, calling_act hop]
          exact congrArg (fun k : op.Res → DriverProg β =>
            (ExceptT.mk (.act (.inl op) fun reply => (k reply).run) : DriverProg β)) (funext ih)

abbrev Driver.wrote (driver : Driver) (op : StoreOp) (before after : Stored) : Driver :=
  driver.regrip true (rowWrite op) before after

theorem wrote_fields (op : StoreOp) (before after : Stored) (driver : Driver) :
    driver.wrote op before after =
      { driver with grip := (driver.wrote op before after).grip } := by
  unfold Driver.wrote Driver.regrip
  split_ifs <;> rfl

@[simp] theorem wrote_owner {op : StoreOp} {before after : Stored} {driver : Driver} :
    (driver.wrote op before after).owner = driver.owner := by
  rw [wrote_fields]

/-- What one operation has to do for a call that knows `φ` before and `ψ` after. -/
def Moves (terms : SessionTerms) (i : Nat) (call : SessionCall) (φ : Claimant) (op : StoreOp)
    (ψ : op.Res → Claimant) : Prop :=
  ∀ (s : SharedRun) reply stored, DriversInv terms s → At i φ s →
    (call.drives = true → (s.drivers i).isSome = true) →
    (reply, stored) ∈ op.outcomes s.stored →
    RowStep s (s.store i op stored) (rowWrite op) ∧
      ∀ driver, s.drivers i = some driver →
        DriverOk (driver.wrote op s.stored stored) stored.lease s.clock ∧
          ψ reply (driver.wrote op s.stored stored) stored.lease s.clock

theorem drives_store {op : StoreOp} {next : op.Res → StoreProg α} {ψ : op.Res → Claimant}
    {Q : α → SharedRun → Prop} (hφ : Firm φ) (hop : raised? op = none)
    (hstep : Moves terms i call φ op ψ)
    (hnext : ∀ reply, Drives terms i call (At i (ψ reply)) (calling (next reply)) Q) :
    Drives terms i call (At i φ) (calling (.act op next)) Q := by
  rw [calling_act hop]
  refine Contract.Triple.act (fun reply => At i (ψ reply)) hφ.stable ?_ hnext
  rintro s reply s' hs hP ⟨hcan, hexec⟩
  cases hexec with
  | store h =>
      rename_i stored
      obtain ⟨hrow, hown⟩ := hstep s reply stored hs hP hcan h
      have hback : ∀ driver, (s.store i op stored).drivers i = some driver →
          ∃ before, s.drivers i = some before ∧ driver = before.wrote op s.stored stored := by
        intro driver hdriver
        obtain ⟨before, hbefore, heq⟩ := Option.map_eq_some_iff.mp hdriver
        exact ⟨before, hbefore, by rw [← heq]; simp⟩
      have hby : StepBy (call.owner terms i) i s (s.store i op stored) := by
        refine ⟨rfl, ?_, rowWrite op, hrow, ?_⟩
        · intro driver hdriver
          obtain ⟨before, hbefore, rfl⟩ := hback driver hdriver
          exact Or.inr ⟨before, hbefore, wrote_owner⟩
        · intro j hne
          have hother : (j == i) = false := by simpa using hne
          simp [SharedRun.store, hother]
      refine ⟨hby, hs.step hby ?_ hs.slots, ?_⟩
      · intro driver hdriver
        obtain ⟨before, hbefore, rfl⟩ := hback driver hdriver
        refine ⟨(hown before hbefore).1, fun hheld hlease => ⟨before, hbefore, ?_⟩⟩
        have hsame : before.wrote op s.stored stored = before := by
          exact congrFun (regrip_of_lease hlease) before
        rwa [hsame] at hheld
      · intro driver hdriver
        obtain ⟨before, hbefore, rfl⟩ := hback driver hdriver
        exact (hown before hbefore).2

end Rules

end Hybro.Sessions
