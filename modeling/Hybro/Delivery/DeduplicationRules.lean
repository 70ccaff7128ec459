import Hybro.Delivery.Deduplication

/-! # The shared key of a delivery

What the record of a run says about the Redis key: a claim that is still out, and a
delivery whose confirmation has not elapsed, are shown by it. One lemma for each way in
which the key changes, and from these the invariant of the whole state.
-/

namespace Hybro.Delivery

variable {config : DedupConfig} {claimIds : Nat → String}

/-! ## What the record says -/

section Record

abbrev Noted (record : List (Nat × DedupNote)) (note : DedupNote) : Prop :=
  ∃ i, (i, note) ∈ record

def Outstanding (config : DedupConfig) (clock : Nat) (record : List (Nat × DedupNote))
    (claimId : String) : Prop :=
  ¬ Noted record (.dropped claimId) ∧
    ∃ time, Noted record (.leased claimId time) ∧ clock < time + config.reservationTtl

def Shows (redis : Option (Timed String)) (value : String) (time : Nat) : Prop :=
  ∃ expiresAt, redis = some ⟨value, expiresAt⟩ ∧ time ≤ expiresAt

theorem Shows.live {redis : Option (Timed String)} {value : String} {clock time : Nat}
    (h : Shows redis value time) (hclock : clock < time) :
    Delivery.live clock redis = some value := by
  obtain ⟨expiresAt, rfl, hle⟩ := h
  have hless : clock < expiresAt := by omega
  simp [Delivery.live, hless]

structure KeyInv (config : DedupConfig) (claimIds : Nat → String) (clock : Nat)
    (redis : Option (Timed String)) (record : List (Nat × DedupNote)) : Prop where
  leasedPast : ∀ claimId time, Noted record (.leased claimId time) →
    time ≤ clock ∧ ∃ k, claimId = claimIds k
  deliveredPast : ∀ time, Noted record (.delivered time) → time ≤ clock
  undeliveredPast : ∀ time, Noted record (.undelivered time) → time ≤ clock
  leased : ∀ claimId time, Noted record (.leased claimId time) →
    ¬ Noted record (.dropped claimId) → clock < time + config.reservationTtl →
    ∃ value, Shows redis value (time + config.reservationTtl) ∧
      (value = claimId ∨ isDelivered value = true)
  alone : ∀ claimId claimId', Outstanding config clock record claimId →
    Outstanding config clock record claimId' → claimId = claimId'
  delivered : ∀ time, Noted record (.delivered time) → clock < time + config.confirmedTtl →
    ∃ value, Shows redis value (time + config.confirmedTtl) ∧ isDelivered value = true
  ordered : record.Pairwise fun newer older => ∀ time time', newer.2 = .undelivered time →
    older.2 = .delivered time' → time' + config.confirmedTtl ≤ time

variable {clock : Nat} {redis : Option (Timed String)} {record : List (Nat × DedupNote)}
  {note : DedupNote} {i : Nat}

theorem Noted.cons (h : Noted record note) (entry : Nat × DedupNote) :
    Noted (entry :: record) note := by
  obtain ⟨j, hmem⟩ := h
  exact ⟨j, List.mem_cons_of_mem _ hmem⟩

theorem noted_cons {newest : DedupNote} (h : Noted ((i, newest) :: record) note) :
    note = newest ∨ Noted record note := by
  obtain ⟨j, hmem⟩ := h
  rcases List.mem_cons.mp hmem with heq | hold
  · exact .inl (Prod.mk.inj heq).2
  · exact .inr ⟨j, hold⟩

theorem keyInv_nil : KeyInv config claimIds clock redis [] where
  leasedPast := fun _ _ ⟨_, h⟩ => nomatch h
  deliveredPast := fun _ ⟨_, h⟩ => nomatch h
  undeliveredPast := fun _ ⟨_, h⟩ => nomatch h
  leased := fun _ _ ⟨_, h⟩ => nomatch h
  alone := fun _ _ ⟨_, _, ⟨_, h⟩, _⟩ => nomatch h
  delivered := fun _ ⟨_, h⟩ => nomatch h
  ordered := .nil

theorem Outstanding.of_cons {claimId : String}
    (h : Outstanding config clock ((i, note) :: record) claimId)
    (hother : ∀ time, note ≠ .leased claimId time) : Outstanding config clock record claimId := by
  obtain ⟨hkept, time, hnoted, hless⟩ := h
  exact ⟨fun hdropped => hkept (hdropped.cons _), time,
    (noted_cons hnoted).resolve_left (Ne.symm (hother time)), hless⟩

theorem KeyInv.live_of_outstanding {claimId : String}
    (h : KeyInv config claimIds clock redis record)
    (hout : Outstanding config clock record claimId) :
    ∃ value, live clock redis = some value ∧ (value = claimId ∨ isDelivered value = true) := by
  obtain ⟨hkept, time, hleased, hclock⟩ := hout
  obtain ⟨value, hshows, hvalue⟩ := h.leased claimId time hleased hkept hclock
  exact ⟨value, hshows.live hclock, hvalue⟩

/-! ## Changes of the key -/

theorem KeyInv.elapse {clock' : Nat} (h : KeyInv config claimIds clock redis record)
    (hclock : clock ≤ clock') : KeyInv config claimIds clock' redis record where
  leasedPast := by
    intro claimId time hnoted
    obtain ⟨hpast, hclaim⟩ := h.leasedPast claimId time hnoted
    exact ⟨by omega, hclaim⟩
  deliveredPast := fun time hnoted => Nat.le_trans (h.deliveredPast time hnoted) hclock
  undeliveredPast := fun time hnoted => Nat.le_trans (h.undeliveredPast time hnoted) hclock
  leased := fun claimId time hnoted hkept hless =>
    h.leased claimId time hnoted hkept (Nat.lt_of_le_of_lt hclock hless)
  alone := by
    rintro claimId claimId' ⟨hkept, time, hnoted, hless⟩ ⟨hkept', time', hnoted', hless'⟩
    exact h.alone claimId claimId' ⟨hkept, time, hnoted, Nat.lt_of_le_of_lt hclock hless⟩
      ⟨hkept', time', hnoted', Nat.lt_of_le_of_lt hclock hless'⟩
  delivered := fun time hnoted hless =>
    h.delivered time hnoted (Nat.lt_of_le_of_lt hclock hless)
  ordered := h.ordered

/-- A note that says nothing about a lease or a delivery. -/
def DedupNote.plain : DedupNote → Bool
  | .leased .. | .undelivered _ | .delivered _ => false
  | _ => true

theorem KeyInv.noted (h : KeyInv config claimIds clock redis record)
    (hplain : note.plain = true) : KeyInv config claimIds clock redis ((i, note) :: record) := by
  have hother : ∀ claimId time, note ≠ .leased claimId time := by
    rintro claimId time rfl
    cases hplain
  have hleased : ∀ claimId time, Noted ((i, note) :: record) (.leased claimId time) →
      Noted record (.leased claimId time) :=
    fun claimId time hnoted => (noted_cons hnoted).resolve_left (Ne.symm (hother claimId time))
  have hdelivered : ∀ time, Noted ((i, note) :: record) (.delivered time) →
      Noted record (.delivered time) := by
    intro time hnoted
    refine (noted_cons hnoted).resolve_left ?_
    rintro rfl
    cases hplain
  refine ⟨?_, ?_, ?_, ?_, ?_, ?_, ?_⟩
  · exact fun claimId time hnoted => h.leasedPast claimId time (hleased claimId time hnoted)
  · exact fun time hnoted => h.deliveredPast time (hdelivered time hnoted)
  · intro time hnoted
    rcases noted_cons hnoted with rfl | hold
    · cases hplain
    · exact h.undeliveredPast time hold
  · intro claimId time hnoted hkept hless
    exact h.leased claimId time (hleased claimId time hnoted)
      (fun hdropped => hkept (hdropped.cons _)) hless
  · exact fun claimId claimId' hfirst hsecond =>
      h.alone claimId claimId' (hfirst.of_cons (hother claimId)) (hsecond.of_cons (hother claimId'))
  · exact fun time hnoted hless => h.delivered time (hdelivered time hnoted) hless
  · refine List.pairwise_cons.mpr ⟨?_, h.ordered⟩
    rintro older _ time time' (rfl : note = _)
    cases hplain

/-- A reader of a key that shows no delivery: every confirmation has elapsed. -/
theorem KeyInv.undelivered (h : KeyInv config claimIds clock redis record)
    (hnone : (live clock redis).any isDelivered = false) :
    KeyInv config claimIds clock redis ((i, .undelivered clock) :: record) := by
  have hold : ∀ note, note ≠ .undelivered clock →
      Noted ((i, .undelivered clock) :: record) note → Noted record note :=
    fun note hne hnoted => (noted_cons hnoted).resolve_left hne
  refine ⟨?_, ?_, ?_, ?_, ?_, ?_, ?_⟩
  · exact fun claimId time hnoted => h.leasedPast claimId time (hold _ (by simp) hnoted)
  · exact fun time hnoted => h.deliveredPast time (hold _ (by simp) hnoted)
  · intro time hnoted
    rcases noted_cons hnoted with heq | hbefore
    · cases heq
      exact Nat.le_refl _
    · exact h.undeliveredPast time hbefore
  · intro claimId time hnoted hkept hless
    exact h.leased claimId time (hold _ (by simp) hnoted)
      (fun hdropped => hkept (hdropped.cons _)) hless
  · exact fun claimId claimId' hfirst hsecond =>
      h.alone claimId claimId' (hfirst.of_cons (by simp)) (hsecond.of_cons (by simp))
  · exact fun time hnoted hless => h.delivered time (hold _ (by simp) hnoted) hless
  · refine List.pairwise_cons.mpr ⟨?_, h.ordered⟩
    rintro ⟨j, older⟩ hmem time time' hnew (rfl : older = _)
    cases hnew
    by_contra hless
    obtain ⟨value, hshows, hvalue⟩ := h.delivered time' ⟨j, hmem⟩ (by omega)
    rw [hshows.live (by omega)] at hnone
    simp [hvalue] at hnone

theorem KeyInv.lease {claimId : String} (h : KeyInv config claimIds clock redis record)
    (hclaim : ∃ k, claimId = claimIds k) (hplain : isDelivered claimId = false)
    (hlive : ∀ value, live clock redis = some value → value = claimId) :
    KeyInv config claimIds clock (some ⟨claimId, clock + config.reservationTtl⟩)
      ((i, .leased claimId clock) :: record) := by
  have hold : ∀ note, note ≠ .leased claimId clock →
      Noted ((i, .leased claimId clock) :: record) note → Noted record note :=
    fun note hne hnoted => (noted_cons hnoted).resolve_left hne
  -- whoever is out has the key already
  have hsame : ∀ other, Outstanding config clock ((i, .leased claimId clock) :: record) other →
      other = claimId := by
    rintro other ⟨hkept, time, hnoted, hless⟩
    rcases noted_cons hnoted with heq | hbefore
    · cases heq
      rfl
    · have hout : Outstanding config clock record other :=
        ⟨fun hdropped => hkept (hdropped.cons _), time, hbefore, hless⟩
      obtain ⟨value, hvalue, hshown⟩ := h.live_of_outstanding hout
      have heq := hlive value hvalue
      subst heq
      rcases hshown with rfl | hdelivered
      · rfl
      · rw [hplain] at hdelivered
        cases hdelivered
  refine ⟨?_, ?_, ?_, ?_, ?_, ?_, ?_⟩
  · intro other time hnoted
    rcases noted_cons hnoted with heq | hbefore
    · cases heq
      exact ⟨Nat.le_refl _, hclaim⟩
    · exact h.leasedPast other time hbefore
  · exact fun time hnoted => h.deliveredPast time (hold _ (by simp) hnoted)
  · exact fun time hnoted => h.undeliveredPast time (hold _ (by simp) hnoted)
  · intro other time hnoted hkept hless
    have heq := hsame other ⟨hkept, time, hnoted, hless⟩
    have hpast : time ≤ clock := by
      rcases noted_cons hnoted with hnew | hbefore
      · cases hnew
        exact Nat.le_refl _
      · exact (h.leasedPast other time hbefore).1
    exact ⟨claimId, ⟨_, rfl, by omega⟩, .inl heq.symm⟩
  · intro first second hfirst hsecond
    rw [hsame first hfirst, hsame second hsecond]
  · intro time hnoted hless
    obtain ⟨value, hshows, hvalue⟩ := h.delivered time (hold _ (by simp) hnoted) hless
    have heq := hlive value (hshows.live hless)
    rw [heq, hplain] at hvalue
    cases hvalue
  · refine List.pairwise_cons.mpr ⟨?_, h.ordered⟩
    intro older _ time time' hnew
    cases hnew

theorem KeyInv.deliver {value : String} (h : KeyInv config claimIds clock redis record)
    (hvalue : isDelivered value = true) :
    KeyInv config claimIds clock (some ⟨value, clock + config.confirmedTtl⟩)
      ((i, .delivered clock) :: record) := by
  have hold : ∀ note, note ≠ .delivered clock →
      Noted ((i, .delivered clock) :: record) note → Noted record note :=
    fun note hne hnoted => (noted_cons hnoted).resolve_left hne
  have hpast : ∀ time, Noted ((i, .delivered clock) :: record) (.delivered time) →
      time ≤ clock := by
    intro time hnoted
    rcases noted_cons hnoted with heq | hbefore
    · cases heq
      exact Nat.le_refl _
    · exact h.deliveredPast time hbefore
  have hshorter := config.reservationTtl_le
  refine ⟨?_, hpast, ?_, ?_, ?_, ?_, ?_⟩
  · exact fun claimId time hnoted => h.leasedPast claimId time (hold _ (by simp) hnoted)
  · exact fun time hnoted => h.undeliveredPast time (hold _ (by simp) hnoted)
  · intro claimId time hnoted _ _
    have hleasedPast := (h.leasedPast claimId time (hold _ (by simp) hnoted)).1
    exact ⟨value, ⟨_, rfl, by omega⟩, .inr hvalue⟩
  · exact fun claimId claimId' hfirst hsecond =>
      h.alone claimId claimId' (hfirst.of_cons (by simp)) (hsecond.of_cons (by simp))
  · intro time hnoted _
    have hdeliveredPast := hpast time hnoted
    exact ⟨value, ⟨_, rfl, by omega⟩, hvalue⟩
  · refine List.pairwise_cons.mpr ⟨?_, h.ordered⟩
    intro older _ time time' hnew
    cases hnew

theorem KeyInv.delete {claimId : String} (h : KeyInv config claimIds clock redis record)
    (hplain : isDelivered claimId = false) (hlive : live clock redis = some claimId)
    (hdropped : Noted record (.dropped claimId)) :
    KeyInv config claimIds clock none record where
  leasedPast := h.leasedPast
  deliveredPast := h.deliveredPast
  undeliveredPast := h.undeliveredPast
  leased := by
    intro other time hnoted hkept hless
    obtain ⟨value, hvalue, hshown⟩ := h.live_of_outstanding ⟨hkept, time, hnoted, hless⟩
    rw [hlive] at hvalue
    cases hvalue
    rcases hshown with rfl | hdelivered
    · exact absurd hdropped hkept
    · rw [hplain] at hdelivered
      cases hdelivered
  alone := h.alone
  delivered := by
    intro time hnoted hless
    obtain ⟨value, hshows, hvalue⟩ := h.delivered time hnoted hless
    have hshown := hshows.live hless
    rw [hlive] at hshown
    cases hshown
    rw [hplain] at hvalue
    cases hvalue
  ordered := h.ordered

end Record

/-! ## The whole state -/

def CacheEntry.Claimed (claimIds : Nat → String) (entry : CacheEntry) : Prop :=
  entry.l2Owned = true ∧ ∃ k, entry.claimId = some (claimIds k)

def HoldsClaims (claimIds : Nat → String) (dedup : Dedup) : Prop :=
  ∀ w timed, (dedup.workers w).reservations = some timed → timed.value.Claimed claimIds

structure DedupInv (config : DedupConfig) (claimIds : Nat → String) (s : DedupRun) : Prop where
  key : KeyInv config claimIds s.dedup.clock s.dedup.redis s.record
  claims : HoldsClaims claimIds s.dedup

def DedupOp.Proper (config : DedupConfig) (claimIds : Nat → String)
    (record : List (Nat × DedupNote)) : DedupOp → Prop
  | .storeReservation _ entry => entry.Claimed claimIds
  | .setnx claimId ttl => (∃ k, claimId = claimIds k) ∧ ttl = config.reservationTtl
  | .compareSet expected value ttl => (∃ k, expected = claimIds k) ∧
      ((value = expected ∧ ttl = config.reservationTtl) ∨
        (isDelivered value = true ∧ ttl = config.confirmedTtl))
  | .set value ttl => isDelivered value = true ∧ ttl = config.confirmedTtl
  | .compareDelete expected => (∃ k, expected = claimIds k) ∧ Noted record (.dropped expected)
  | _ => True

section Run

variable {s s' : DedupRun} {i : Nat} {op : DedupOp} {reply : op.Res}

theorem dedupInv_empty : DedupInv config claimIds {} where
  key := keyInv_nil
  claims := fun _ _ h => nomatch h

theorem Elapses.keeps (h : Elapses s s') (hinv : DedupInv config claimIds s) :
    DedupInv config claimIds s' where
  key := by
    rw [h.redis, h.record]
    exact hinv.key.elapse h.clock
  claims := by
    intro w timed hheld
    rcases h.reservations w with hsame | hnone
    · exact hinv.claims w timed (hsame ▸ hheld)
    · rw [hnone] at hheld
      cases hheld

theorem HoldsClaims.setWorker {dedup : Dedup} {w : Nat} {worker : Worker}
    (h : HoldsClaims claimIds dedup)
    (hworker : ∀ timed, worker.reservations = some timed → timed.value.Claimed claimIds) :
    HoldsClaims claimIds (dedup.setWorker w worker) := by
  intro w' timed hheld
  by_cases hw : w' = w
  · subst hw
    exact hworker timed (by simpa [Dedup.setWorker] using hheld)
  · refine h w' timed ?_
    simpa [Dedup.setWorker, Function.update_of_ne hw] using hheld

theorem HoldsClaims.found {dedup : Dedup} {w : Nat} {p : CacheEntry → Bool} {entry : CacheEntry}
    (h : HoldsClaims claimIds dedup)
    (hfound : (live dedup.clock (dedup.workers w).reservations).filter p = some entry) :
    entry.Claimed claimIds := by
  obtain ⟨hlive, -⟩ := Option.filter_eq_some_iff.mp hfound
  obtain ⟨timed, hfiltered, rfl⟩ := Option.map_eq_some_iff.mp hlive
  exact h w timed (Option.filter_eq_some_iff.mp hfiltered).1

theorem DedupOp.Proper.keeps (hplain : ∀ k, isDelivered (claimIds k) = false)
    (hproper : op.Proper config claimIds s.record) (hinv : DedupInv config claimIds s)
    (h : op.outcome config i s = (reply, s')) : DedupInv config claimIds s' := by
  obtain ⟨-, rfl⟩ := Prod.mk.inj h
  obtain ⟨hkey, hclaims⟩ := hinv
  cases op with
  | look w =>
      refine ⟨?_, hclaims⟩
      simp only [DedupOp.run]
      split
      · exact hkey.noted rfl
      · exact hkey
  | find w claimId =>
      refine ⟨?_, hclaims⟩
      simp only [DedupOp.run]
      split
      · exact hkey.noted rfl
      · exact hkey
  | storeReservation w entry =>
      refine ⟨hkey.noted rfl, hclaims.setWorker ?_⟩
      rintro timed heq
      cases heq
      exact hproper
  | storeDelivered w status => exact ⟨hkey.noted rfl, hclaims.setWorker (hclaims w)⟩
  | settle w status => exact ⟨hkey.noted rfl, hclaims.setWorker fun _ h => nomatch h⟩
  | accept w claimId status =>
      refine ⟨hkey.noted rfl, hclaims.setWorker ?_⟩
      intro timed heq
      simp only at heq
      split at heq
      · cases heq
      · exact hclaims w timed heq
  | drop w status claimId =>
      simp only [DedupOp.run]
      cases hdrop : s.dedup.droppable w status claimId with
      | none => exact ⟨hkey.noted rfl, hclaims⟩
      | some entry =>
          refine ⟨?_, hclaims.setWorker fun _ h => nomatch h⟩
          have hdropped : ∀ dropped : List String, KeyInv config claimIds s.dedup.clock
              s.dedup.redis ((dropped.map .dropped).map (i, ·) ++ s.record) := by
            intro dropped
            induction dropped with
            | nil => exact hkey
            | cons first rest ih => exact ih.noted rfl
          exact (hdropped entry.claimId.toList).noted rfl
  | setnx claimId ttl =>
      obtain ⟨⟨k, rfl⟩, rfl⟩ := hproper
      simp only [DedupOp.run]
      cases hlive : live s.dedup.clock s.dedup.redis with
      | some value => exact ⟨hkey, hclaims⟩
      | none =>
          refine ⟨?_, hclaims⟩
          have hundelivered := hkey.undelivered (i := i) (by rw [hlive]; rfl)
          refine (hundelivered.lease ⟨k, rfl⟩ (hplain k) ?_).noted rfl
          intro value hvalue
          rw [hlive] at hvalue
          cases hvalue
  | get =>
      refine ⟨?_, hclaims⟩
      simp only [DedupOp.run]
      split
      · exact hkey
      · rename_i hnone
        exact hkey.undelivered (by simpa using hnone)
  | compareSet expected value ttl =>
      obtain ⟨⟨k, rfl⟩, hvalue⟩ := hproper
      simp only [DedupOp.run]
      split
      · rename_i hlive
        refine ⟨?_, hclaims⟩
        rcases hvalue with ⟨rfl, rfl⟩ | ⟨hdelivered, rfl⟩
        · rw [if_neg (by simp [hplain k])]
          refine (hkey.lease ⟨k, rfl⟩ (hplain k) ?_).noted rfl
          intro value hvalue
          rw [hlive] at hvalue
          exact (Option.some.inj hvalue).symm
        · rw [if_pos hdelivered]
          exact (hkey.deliver hdelivered).noted rfl
      · exact ⟨hkey.noted rfl, hclaims⟩
  | set value ttl =>
      obtain ⟨hdelivered, rfl⟩ := hproper
      exact ⟨(hkey.deliver hdelivered).noted rfl, hclaims⟩
  | compareDelete expected =>
      obtain ⟨⟨k, rfl⟩, hdropped⟩ := hproper
      simp only [DedupOp.run]
      split
      · rename_i hlive
        exact ⟨(hkey.delete (hplain k) hlive hdropped).noted rfl, hclaims⟩
      · exact ⟨hkey, hclaims⟩

end Run

end Hybro.Delivery
