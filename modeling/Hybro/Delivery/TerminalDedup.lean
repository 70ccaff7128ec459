import Hybro.Delivery.DeduplicationRules

/-! # One terminal delivery at a time

Any number of reserves, renewals, confirmations and releases by any number of workers.
A thread is followed through its own notes in the record, which no other thread touches;
what the notes mean for everyone is the invariant of the key.
-/

namespace Hybro.Delivery

open Interleaving

variable {config : DedupConfig} {claimIds : Nat → String}

/-! ## The notes of one thread -/

def own (i : Nat) (s : DedupRun) : List DedupNote :=
  s.record.filterMap fun entry => if entry.1 = i then some entry.2 else none

variable {i j : Nat} {s s' : DedupRun} {note : DedupNote}

theorem mem_own : note ∈ own i s ↔ (i, note) ∈ s.record := by
  constructor
  · intro hmem
    obtain ⟨⟨k, other⟩, hentry, heq⟩ := List.mem_filterMap.mp hmem
    by_cases hk : k = i
    · have hnote : other = note := by simpa [hk] using heq
      exact hk ▸ hnote ▸ hentry
    · simp [hk] at heq
  · intro hmem
    exact List.mem_filterMap.mpr ⟨(i, note), hmem, by simp⟩

/-- A step of thread `j` adds notes of its own. -/
def Adds (j : Nat) (s s' : DedupRun) : Prop :=
  ∃ notes : List DedupNote, s'.record = notes.map (j, ·) ++ s.record

theorem own_append {notes : List DedupNote} (h : s'.record = notes.map (i, ·) ++ s.record) :
    own i s' = notes ++ own i s := by
  have hnew : (notes.map (i, ·)).filterMap
      (fun entry => if entry.1 = i then some entry.2 else none) = notes := by
    induction notes with
    | nil => rfl
    | cons first rest ih => simp
  unfold own
  rw [h, List.filterMap_append, hnew]

theorem Adds.own_eq (h : Adds j s s') (hother : j ≠ i) : own i s' = own i s := by
  obtain ⟨notes, hrecord⟩ := h
  have hnone : (notes.map (j, ·)).filterMap
      (fun entry => if entry.1 = i then some entry.2 else none) = [] := by
    refine List.filterMap_eq_nil_iff.mpr ?_
    intro entry hmem
    obtain ⟨note, -, rfl⟩ := List.mem_map.mp hmem
    exact if_neg hother
  unfold own
  rw [hrecord, List.filterMap_append, hnone, List.nil_append]

/-! ## Rules -/

def DedupOp.Says (config : DedupConfig) (claimIds : Nat → String) (op : DedupOp) (reply : op.Res)
    (notes : List DedupNote) : Prop :=
  ∃ s : Dedup, HoldsClaims claimIds s ∧ (op.run config s).1 = reply ∧
    (op.run config s).2.2 = notes

section Rules

variable (config claimIds) (i : Nat) (c : DedupCall)

abbrev dedupContract : Contract DedupOp DedupOp.Res DedupRun :=
  (dedupSystem config claimIds).contract (DedupInv config claimIds) (fun j _ => Adds j) i c

variable {config claimIds i c} {α : Type} {l : List DedupNote} {Q : α → List DedupNote → Prop}

theorem stable_own (P : List DedupNote → Prop) :
    (dedupContract config claimIds i c).Stable (fun s => P (own i s)) := by
  intro s s' _ hrely _ h
  rcases hrely with helapses | ⟨j, d, hother, hadds⟩
  · have hsame : own i s' = own i s := by
      unfold own
      rw [helapses.record]
    exact hsame ▸ h
  · exact hadds.own_eq hother ▸ h

theorem dedup_done {a : α} (h : Q a l) :
    (dedupContract config claimIds i c).Triple (fun s => own i s = l) (.done a)
      (fun a s => Q a (own i s)) :=
  Contract.Triple.done (stable_own (· = l)) fun _ _ heq => heq ▸ h

theorem dedup_act {op : DedupOp} {k : op.Res → DedupProg α}
    (hplain : ∀ k, isDelivered (claimIds k) = false)
    (hproper : ∀ s, own i s = l → op.Proper config claimIds s.record)
    (hk : ∀ reply notes, op.Says config claimIds reply notes →
      (dedupContract config claimIds i c).Triple (fun s => own i s = notes ++ l) (k reply)
        (fun a s => Q a (own i s))) :
    (dedupContract config claimIds i c).Triple (fun s => own i s = l) (.act op k)
      (fun a s => Q a (own i s)) := by
  refine Contract.Triple.act (fun reply s => ∃ notes, op.Says config claimIds reply notes ∧
    own i s = notes ++ l) (stable_own (· = l)) ?_ ?_
  · intro s reply s' hinv hown (hexec : op.outcome config i s = (reply, s'))
    have hkeeps := (hproper s hown).keeps hplain hinv hexec
    obtain ⟨hreply, rfl⟩ := Prod.mk.inj hexec
    refine ⟨⟨_, rfl⟩, hkeeps, (op.run config s.dedup).2.2, ⟨s.dedup, hinv.claims, hreply, rfl⟩, ?_⟩
    exact (own_append rfl).trans (congrArg _ hown)
  · rintro reply s hinv ⟨notes, hsays, hown⟩
    exact hk reply notes hsays s hinv hown

end Rules

/-! ## The methods -/

section Methods

variable {c : DedupCall} {w : Nat} {status : String} {reservation : DeliveryReservation}

structure ReserveTold (claimIds : Nat → String) (i : Nat) (answer : DeliveryReservation)
    (notes : List DedupNote) : Prop where
  answered : answer.Answered claimIds
  granted : answer.status = .reserved →
    answer.claimId = some (claimIds i) ∧ ∃ time, .leased (claimIds i) time ∈ notes
  shown : answer.status = .alreadyDelivered ∨ (answer.status = .inFlight ∧ .held ∈ notes) ∨
    ∃ time, .undelivered time ∈ notes

theorem dedup_reserve (hplain : ∀ k, isDelivered (claimIds k) = false) :
    (dedupContract config claimIds i c).Triple (fun s => own i s = [])
      (reserve config w (claimIds i) status) (fun a s => ReserveTold claimIds i a (own i s)) := by
  unfold reserve
  refine dedup_act hplain (fun _ _ => trivial) ?_
  rintro found notes ⟨s, -, hfound, hnotes⟩
  by_cases hcached : found.1 ≠ none
  · rw [if_pos hcached]
    exact dedup_done ⟨⟨rfl, rfl⟩, (by intro h; cases h), .inl rfl⟩
  · rw [if_neg hcached]
    by_cases hreserved : found.2 ≠ none
    · rw [if_pos hreserved]
      refine dedup_done ⟨⟨rfl, rfl⟩, (by intro h; cases h), .inr (.inl ⟨rfl, ?_⟩)⟩
      subst hfound hnotes
      simp only [DedupOp.run] at hcached hreserved ⊢
      rw [if_pos ⟨not_not.mp hcached, hreserved⟩]
      simp
    · rw [if_neg hreserved]
      refine dedup_act hplain (fun _ _ => ⟨⟨i, rfl⟩, rfl⟩) ?_
      rintro wasFirst more ⟨s, -, hfirst, hmore⟩
      cases wasFirst with
      | true =>
          have hgranted : more = [.wrote, .leased (claimIds i) s.clock, .undelivered s.clock] := by
            rw [← hmore]
            simp only [DedupOp.run] at hfirst ⊢
            split at hfirst
            · cases hfirst
            · rfl
          subst hgranted
          refine dedup_act hplain (fun _ _ => ⟨rfl, i, rfl⟩) ?_
          rintro - last -
          refine dedup_done ⟨⟨rfl, i, rfl⟩, fun _ => ⟨rfl, s.clock, ?_⟩, .inr (.inr ⟨s.clock, ?_⟩)⟩
          · simp
          · simp
      | false =>
          refine dedup_act hplain (fun _ _ => trivial) ?_
          rintro existing seen ⟨s', -, hexisting, hseen⟩
          by_cases hdelivered : existing.any isDelivered = true
          · simp only [hdelivered, if_true]
            refine dedup_act hplain (fun _ _ => trivial) ?_
            rintro - last -
            exact dedup_done ⟨⟨rfl, rfl⟩, (by intro h; cases h), .inl rfl⟩
          · simp only [Bool.false_eq_true, if_false, hdelivered]
            refine dedup_done ⟨⟨rfl, rfl⟩, (by intro h; cases h), .inr (.inr ⟨s'.clock, ?_⟩)⟩
            subst hexisting hseen
            simp only [DedupOp.run] at hdelivered ⊢
            rw [if_neg hdelivered]
            simp

def Inert (notes : List DedupNote) : Prop :=
  .stale ∈ notes ∨ .refused ∈ notes → .wrote ∉ notes

theorem inert_nil : Inert [] := fun _ h => nomatch h

theorem says_find {w : Nat} {claimId : String} {found : Option CacheEntry}
    {notes : List DedupNote} (h : (DedupOp.find w claimId).Says config claimIds found notes) :
    (found = none ∧ notes = [.stale]) ∨
      ∃ entry, found = some entry ∧ notes = [] ∧ entry.Claimed claimIds := by
  obtain ⟨s, hclaims, hfound, hnotes⟩ := h
  simp only [DedupOp.run] at hfound hnotes
  cases hentry : s.heldEntry w claimId with
  | none =>
      rw [hentry] at hfound hnotes
      exact .inl ⟨hfound.symm, hnotes.symm⟩
  | some entry =>
      rw [hentry] at hfound hnotes
      exact .inr ⟨entry, hfound.symm, hnotes.symm, hclaims.found hentry⟩

theorem says_compareSet {expected value : String} {ttl : Nat} {changed : Bool}
    {notes : List DedupNote}
    (h : (DedupOp.compareSet expected value ttl).Says config claimIds changed notes) :
    (changed = false ∧ notes = [.refused]) ∨ (changed = true ∧ ∃ time, notes =
      [.wrote, if isDelivered value then .delivered time else .leased expected time]) := by
  obtain ⟨s, -, hchanged, hnotes⟩ := h
  simp only [DedupOp.run] at hchanged hnotes
  split at hchanged
  · rename_i hlive
    rw [if_pos hlive] at hnotes
    exact .inr ⟨hchanged.symm, s.clock, hnotes.symm⟩
  · rename_i hlive
    rw [if_neg hlive] at hnotes
    exact .inl ⟨hchanged.symm, hnotes.symm⟩

theorem dedup_renew (hplain : ∀ k, isDelivered (claimIds k) = false)
    (hanswered : reservation.Answered claimIds) :
    (dedupContract config claimIds i c).Triple (fun s => own i s = [])
      (renew config w reservation) (fun _ s => Inert (own i s)) := by
  unfold renew
  split
  · rename_i claimId hstatus hclaim
    obtain ⟨k, rfl⟩ : ∃ k, claimId = claimIds k := by
      unfold DeliveryReservation.Answered at hanswered
      rw [hstatus, hclaim] at hanswered
      obtain ⟨-, k, heq⟩ := hanswered
      exact ⟨k, Option.some.inj heq⟩
    refine dedup_act hplain (fun _ _ => trivial) ?_
    intro found notes hsays
    rcases says_find hsays with ⟨rfl, rfl⟩ | ⟨cached, rfl, rfl, hentry⟩
    · exact dedup_done (by simp [Inert])
    · have hstore : ∀ l : List DedupNote, .stale ∉ l → .refused ∉ l →
          (dedupContract config claimIds i c).Triple (fun s => own i s = l)
            (.act (.storeReservation w cached) fun _ => .done true : DedupProg Bool)
            (fun _ s => Inert (own i s)) := by
        intro l hstale hrefused
        refine dedup_act hplain (fun _ _ => hentry) ?_
        rintro - more ⟨s, -, -, rfl⟩
        refine dedup_done fun h => ?_
        simp [DedupOp.run, hstale, hrefused] at h
      simp only [hentry.1, if_true]
      refine dedup_act hplain (fun _ _ => ⟨⟨k, rfl⟩, .inl ⟨rfl, rfl⟩⟩) ?_
      intro renewed more hmore
      rcases says_compareSet hmore with ⟨rfl, rfl⟩ | ⟨rfl, time, rfl⟩
      · exact dedup_done (by simp [Inert])
      · refine hstore _ ?_ ?_ <;> simp [hplain k]
  · exact dedup_done inert_nil

structure ConfirmTold (reservation : DeliveryReservation) (answer : Bool)
    (notes : List DedupNote) : Prop where
  inert : Inert notes
  told : answer = true → reservation.status = .alreadyDelivered ∨ ∃ time, .delivered time ∈ notes

theorem dedup_confirm (hplain : ∀ k, isDelivered (claimIds k) = false)
    (hanswered : reservation.Answered claimIds) :
    (dedupContract config claimIds i c).Triple (fun s => own i s = [])
      (confirm config w reservation) (fun a s => ConfirmTold reservation a (own i s)) := by
  unfold confirm
  split
  · rename_i claimId hstatus hclaim
    unfold DeliveryReservation.Answered at hanswered
    rw [hstatus, hclaim] at hanswered
    obtain ⟨howned, k, heq⟩ := hanswered
    cases heq
    refine dedup_act hplain (fun _ _ => trivial) ?_
    intro found notes hsays
    rcases says_find hsays with ⟨rfl, rfl⟩ | ⟨entry, rfl, rfl, hentry⟩
    · exact dedup_done ⟨by simp [Inert], fun h => nomatch h⟩
    · cases hcached : (some entry).filter (·.state = .reserved) with
      | none => exact dedup_done ⟨inert_nil, fun h => nomatch h⟩
      | some cached =>
          obtain ⟨heq, -⟩ := Option.filter_eq_some_iff.mp hcached
          cases heq
          simp only [hentry.1, howned, and_self, if_true]
          refine dedup_act hplain
            (fun _ _ => ⟨⟨k, rfl⟩, .inr ⟨isDelivered_deliveredValue _, rfl⟩⟩) ?_
          intro confirmed more hmore
          rcases says_compareSet hmore with ⟨rfl, rfl⟩ | ⟨rfl, time, rfl⟩
          · exact dedup_done ⟨by simp [Inert], fun h => nomatch h⟩
          · refine dedup_act hplain (fun _ _ => trivial) ?_
            rintro - last ⟨s, -, -, rfl⟩
            exact dedup_done ⟨by simp [Inert, DedupOp.run], fun _ => .inr ⟨time, by simp⟩⟩
  · refine dedup_done ⟨inert_nil, fun h => .inl ?_⟩
    simpa using h

def Marked (notes : List DedupNote) : Prop :=
  ∃ time, .delivered time ∈ notes

/-- A release that did not find its claim has written nothing. -/
def InertRelease (notes : List DedupNote) : Prop :=
  .stale ∈ notes → .wrote ∉ notes

theorem dedup_markDelivered (hplain : ∀ k, isDelivered (claimIds k) = false) :
    (dedupContract config claimIds i c).Triple (fun s => own i s = [])
      (markDeliveredAfterAcceptance config w reservation status)
      (fun _ s => Marked (own i s)) := by
  unfold markDeliveredAfterAcceptance
  refine dedup_act hplain (fun _ _ => trivial) ?_
  rintro - notes -
  refine dedup_act hplain (fun _ _ => ⟨isDelivered_deliveredValue _, rfl⟩) ?_
  rintro - more ⟨s, -, -, rfl⟩
  exact dedup_done ⟨s.clock, by simp [DedupOp.run]⟩

theorem dedup_release {reservation : Option DeliveryReservation}
    (hplain : ∀ k, isDelivered (claimIds k) = false) :
    (dedupContract config claimIds i c).Triple (fun s => own i s = [])
      (release w status reservation)
      (fun _ s => InertRelease (own i s)) := by
  unfold release
  refine dedup_act hplain (fun _ _ => trivial) ?_
  rintro claim notes ⟨s, hclaims, hclaim, hnotes⟩
  simp only [DedupOp.run] at hclaim hnotes
  cases hdrop : s.droppable w (normalizedStatus status) (reservation.bind (·.claimId)) with
  | none =>
      rw [hdrop] at hclaim hnotes
      subst hclaim hnotes
      exact dedup_done (by simp [InertRelease])
  | some entry =>
      rw [hdrop] at hclaim hnotes
      obtain ⟨howned, k, hentry⟩ := hclaims.found hdrop
      simp only [hentry, Option.toList_some, List.map_cons, List.map_nil] at hnotes
      subst hclaim hnotes
      simp only [howned, hentry]
      refine dedup_act hplain ?_ ?_
      · intro s' hown
        refine ⟨⟨k, rfl⟩, i, mem_own.mp ?_⟩
        rw [hown]
        simp
      · rintro removed more ⟨s', -, -, hmore⟩
        refine dedup_done ?_
        simp only [DedupOp.run] at hmore
        split at hmore <;> subst hmore <;> simp [InertRelease]

end Methods

/-! ## Every interleaving -/

/-- What a call that returned has done, by its own notes. -/
def DedupCall.Told (claimIds : Nat → String) (i : Nat) (call : DedupCall) (result : DedupResult)
    (notes : List DedupNote) : Prop :=
  match call, result with
  | .reserve .., .reservation answer => ReserveTold claimIds i answer notes
  | .renew .., _ => Inert notes
  | .confirm _ reservation, .flag answer => ConfirmTold reservation answer notes
  | .markDelivered .., _ => Marked notes
  | .release .., _ => InertRelease notes
  | _, _ => False

theorem dedup_proof (config : DedupConfig) {claimIds : Nat → String}
    (hplain : ∀ k, isDelivered (claimIds k) = false) :
    (dedupSystem config claimIds).Proof (DedupInv config claimIds) (fun j _ => Adds j)
      (fun i s => own i s = []) (fun i call result s => call.Told claimIds i result (own i s)) where
  starts := by
    rintro s rfl
    exact ⟨dedupInv_empty, fun _ => rfl⟩
  environment := fun s s' hinv helapses => helapses.keeps hinv
  staysFresh := fun i s s' hinv hothers hinv' hfresh =>
    stable_own (i := i) (c := .reserve 0 "") (· = []) s s' hinv hothers hinv' hfresh
  body := by
    intro i call
    have hfresh : ∀ s, DedupInv config claimIds s → own i s = [] ∧ call.Admitted claimIds →
        own i s = [] := fun s _ h => h.1
    have htold : ∀ result, (dedupContract config claimIds i call).Triple
        (fun s => call.Told claimIds i result (own i s)) (.done result)
        (fun result s => call.Told claimIds i result (own i s)) :=
      fun result => Contract.Triple.done (stable_own _) fun _ _ h => h
    cases call with
    | reserve w status =>
        exact (Contract.Triple.bind _ (dedup_reserve hplain) fun answer =>
          htold (.reservation answer)).pre hfresh
    | renew w reservation =>
        rintro s hinv ⟨hown, hanswered⟩
        exact Contract.Triple.bind _ (dedup_renew hplain hanswered)
          (fun answer => htold (.flag answer)) s hinv hown
    | confirm w reservation =>
        rintro s hinv ⟨hown, hanswered⟩
        exact Contract.Triple.bind _ (dedup_confirm hplain hanswered)
          (fun answer => htold (.flag answer)) s hinv hown
    | markDelivered w reservation status =>
        exact (Contract.Triple.bind _ (dedup_markDelivered hplain) fun _ =>
          htold .nothing).pre hfresh
    | release w status reservation =>
        exact (Contract.Triple.bind _ (dedup_release hplain) fun _ => htold .nothing).pre hfresh
  staysReturned := fun i call result => stable_own (call.Told claimIds i result)

theorem record_of_later {cfg cfg' : Config (dedupSystem config claimIds)}
    (h : System.Later _ cfg cfg') : ∃ new, cfg'.shared.record = new ++ cfg.shared.record := by
  refine h.shared (R := fun s s' : DedupRun => ∃ new, s'.record = new ++ s.record)
    (fun _ => ⟨[], rfl⟩) ?_ ?_ ?_
  · rintro s s' s'' ⟨new, hnew⟩ ⟨newer, hnewer⟩
    exact ⟨newer ++ new, by rw [hnewer, hnew, List.append_assoc]⟩
  · intro i call op s reply s' hexec
    obtain ⟨-, rfl⟩ := Prod.mk.inj hexec
    exact ⟨_, rfl⟩
  · intro s s' helapses
    exact ⟨[], helapses.record⟩

/-- A confirmation of a reservation, or a delivery that has been marked. -/
def DedupCall.Confirms (call : DedupCall) (result : DedupResult) : Prop :=
  (∃ w reservation, call = .confirm w reservation ∧ reservation.status = .reserved ∧
    result = .flag true) ∨ ∃ w reservation status, call = .markDelivered w reservation status

/-- What the reservations guarantee: at most one that was answered is out; after a confirmation no
reserve is granted, and only a worker that finds a reservation of its own does not learn of the
delivery; and a call that finds its claim gone writes nothing. -/
structure Deduplicated (cfg : Config (dedupSystem config claimIds)) : Prop where
  alone : ∀ i w status answer i' w' status' answer' claimId claimId',
    (i, DedupCall.reserve w status, DedupResult.reservation answer) ∈ cfg.returned →
    (i', DedupCall.reserve w' status', DedupResult.reservation answer') ∈ cfg.returned →
    answer.status = .reserved → answer.claimId = some claimId →
    answer'.status = .reserved → answer'.claimId = some claimId' →
    Outstanding config cfg.shared.dedup.clock cfg.shared.record claimId →
    Outstanding config cfg.shared.dedup.clock cfg.shared.record claimId' → i = i'
  remembered : ∀ j call result, (j, call, result) ∈ cfg.returned → call.Confirms result →
    ∃ time, (j, DedupNote.delivered time) ∈ cfg.shared.record ∧
      ∀ cfg' : Config (dedupSystem config claimIds), System.Later _ cfg cfg' →
        ∀ i w status answer, cfg.threads i = .unborn →
          (i, DedupCall.reserve w status, DedupResult.reservation answer) ∈ cfg'.returned →
          cfg'.shared.dedup.clock < time + config.confirmedTtl →
          answer.status = .alreadyDelivered ∨
            (answer.status = .inFlight ∧ (i, DedupNote.held) ∈ cfg'.shared.record)
  inert : ∀ i w reservation result,
    ((i, DedupCall.renew w reservation, result) ∈ cfg.returned ∨
      (i, DedupCall.confirm w reservation, result) ∈ cfg.returned) →
    (i, DedupNote.stale) ∈ cfg.shared.record ∨ (i, DedupNote.refused) ∈ cfg.shared.record →
    (i, DedupNote.wrote) ∉ cfg.shared.record
  inertRelease : ∀ i w status reservation result,
    (i, DedupCall.release w status reservation, result) ∈ cfg.returned →
    (i, DedupNote.stale) ∈ cfg.shared.record → (i, DedupNote.wrote) ∉ cfg.shared.record

/-- A reserve that starts after the key has been told of a delivery does not see it undelivered
while the confirmation lasts. -/
theorem not_undelivered {cfg cfg' : Config (dedupSystem config claimIds)} {i j time time' : Nat}
    (hkey : KeyInv config claimIds cfg'.shared.dedup.clock cfg'.shared.dedup.redis
      cfg'.shared.record)
    (hlater : System.Later _ cfg cfg') (hdelivered : (j, .delivered time) ∈ cfg.shared.record)
    (hfresh : own i cfg.shared = []) (hlasts : cfg'.shared.dedup.clock < time + config.confirmedTtl) :
    .undelivered time' ∉ own i cfg'.shared := by
  intro hmem
  obtain ⟨new, hrecord⟩ := record_of_later hlater
  have hnoted : (i, .undelivered time') ∈ cfg'.shared.record := mem_own.mp hmem
  have hpast := hkey.undeliveredPast time' ⟨i, hnoted⟩
  have hordered := hkey.ordered
  rw [hrecord] at hnoted hordered
  have hnew : (i, .undelivered time') ∈ new := by
    rcases List.mem_append.mp hnoted with hnew | hold
    · exact hnew
    · have hown := mem_own.mpr hold
      rw [hfresh] at hown
      cases hown
  have helapsed := (List.pairwise_append.mp hordered).2.2 _ hnew _ hdelivered time' time rfl rfl
  omega

/-- Every interleaving of the five methods, by any number of workers whose processes may end and
whose caches may lose entries at any time. -/
theorem reservations_deduplicated (hunique : Function.Injective claimIds)
    (hplain : ∀ k, isDelivered (claimIds k) = false)
    {cfg : Config (dedupSystem config claimIds)}
    (hreach : (dedupSystem config claimIds).Reachable cfg) : Deduplicated cfg := by
  have hproof := dedup_proof config hplain
  have hsound := hreach.sound hproof
  have hinv : DedupInv config claimIds cfg.shared := hsound.shared
  have htold : ∀ i call result, (i, call, result) ∈ cfg.returned →
      DedupCall.Told claimIds i call result (own i cfg.shared) := hsound.returned
  refine ⟨?_, ?_, ?_, ?_⟩
  · intro i w status answer i' w' status' answer' claimId claimId' hmem hmem' hreserved hclaim
      hreserved' hclaim' hout hout'
    have hfirst : ReserveTold claimIds i answer (own i cfg.shared) := htold _ _ _ hmem
    have hsecond : ReserveTold claimIds i' answer' (own i' cfg.shared) := htold _ _ _ hmem'
    have hsame := hinv.key.alone claimId claimId' hout hout'
    rw [(hfirst.granted hreserved).1] at hclaim
    rw [(hsecond.granted hreserved').1] at hclaim'
    cases hclaim
    cases hclaim'
    exact hunique hsame
  · intro j call result hmem hconfirms
    have hmarked : Marked (own j cfg.shared) := by
      rcases hconfirms with ⟨w, reservation, rfl, hreserved, rfl⟩ | ⟨w, reservation, status, rfl⟩
      · have hconfirmed : ConfirmTold reservation true (own j cfg.shared) := htold _ _ _ hmem
        rcases hconfirmed.told rfl with halready | hmarked
        · rw [hreserved] at halready
          cases halready
        · exact hmarked
      · exact htold j (.markDelivered w reservation status) result hmem
    obtain ⟨time, hdelivered⟩ := hmarked
    refine ⟨time, mem_own.mp hdelivered, ?_⟩
    intro cfg' hlater i w status answer hunborn hmem' hlasts
    have hsound' := (hreach.later hlater).sound hproof
    have hinv' : DedupInv config claimIds cfg'.shared := hsound'.shared
    have hanswer : ReserveTold claimIds i answer (own i cfg'.shared) :=
      hsound'.returned i _ _ hmem'
    rcases hanswer.shown with halready | ⟨hinFlight, hheld⟩ | ⟨time', hundelivered⟩
    · exact .inl halready
    · exact .inr ⟨hinFlight, mem_own.mp hheld⟩
    · exact absurd hundelivered (not_undelivered hinv'.key hlater (mem_own.mp hdelivered)
        (hsound.unborn i hunborn) hlasts)
  · intro i w reservation result hmem hgone hwrote
    have hinert : Inert (own i cfg.shared) := by
      rcases hmem with hrenew | hconfirm
      · exact htold _ _ _ hrenew
      · have hconfirmed := htold _ _ _ hconfirm
        cases result with
        | flag answer => exact ConfirmTold.inert hconfirmed
        | reservation answer => exact hconfirmed.elim
        | nothing => exact hconfirmed.elim
    exact hinert (hgone.imp mem_own.mpr mem_own.mpr) (mem_own.mpr hwrote)
  · intro i w status reservation result hmem hstale hwrote
    have hinert : InertRelease (own i cfg.shared) := htold _ _ _ hmem
    exact hinert (mem_own.mpr hstale) (mem_own.mpr hwrote)

/-! ## Schedules -/

def numeralId (i : Nat) : String := toString i

theorem numeralId_injective : Function.Injective numeralId :=
  fun _ _ h => PythonText.toString_nat_injective h

theorem isDelivered_numeralId (k : Nat) : isDelivered (numeralId k) = false := by
  unfold isDelivered PythonText.startsWith
  refine Bool.eq_false_iff.mpr fun hprefix => ?_
  have hsubset := (List.isPrefixOf_iff_prefix.mp hprefix).subset
  exact PythonText.not_mem_digits_of_not_isDigit (c := 'd') (by decide) k (hsubset (by decide))

/-- The lifetimes of the default configuration. -/
def defaultDedup : DedupConfig := ⟨300, 30, by decide, by decide⟩

/-- The answer of the reserve of thread `i`. -/
def granted (i : Nat) : DeliveryReservation := ⟨.reserved, some (numeralId i), true⟩

def DedupCall.reservation : DedupCall → Option DeliveryReservation
  | .reserve .. => none
  | .renew _ reservation | .confirm _ reservation | .markDelivered _ reservation _ =>
      some reservation
  | .release _ _ reservation => reservation

theorem DedupCall.admitted_of_reservation {call : DedupCall}
    (h : ∀ r, call.reservation = some r → r.Answered claimIds) : call.Admitted claimIds := by
  cases call with
  | reserve w status => trivial
  | renew w r => exact h r rfl
  | confirm w r => exact h r rfl
  | markDelivered w r status => exact h r rfl
  | release w status r => exact h

theorem granted_answered (k : Nat) : (granted k).Answered numeralId := ⟨rfl, k, rfl⟩

def dedupStepper : (dedupSystem defaultDedup numeralId).Stepper where
  admits _ call := call.reservation.all fun r => decide (r = granted 0 ∨ r = granted 1)
  outcomes i _ op s := [op.outcome defaultDedup i s]
  environment n s := { s with dedup := { s.dedup with clock := s.dedup.clock + n } }
  admits_sound := by
    intro s call h
    refine DedupCall.admitted_of_reservation fun r hr => ?_
    rw [hr] at h
    rcases of_decide_eq_true h with rfl | rfl
    · exact granted_answered 0
    · exact granted_answered 1
  outcomes_sound := fun i _ op s reply s' h => (List.mem_singleton.mp h).symm
  environment_sound := fun n s => ⟨Nat.le_add_right _ _, rfl, fun _ => .inl rfl, fun _ => .inl rfl,
    rfl⟩

def freshDedup : Config (dedupSystem defaultDedup numeralId) where
  shared := ({} : DedupRun)
  threads := fun _ => .unborn
  returned := []

theorem freshDedup_reachable : (dedupSystem defaultDedup numeralId).Reachable freshDedup :=
  .init _ ⟨rfl, fun _ => rfl, rfl⟩

def steps (i count : Nat) : List (System.Move DedupCall) :=
  List.replicate count (.act i 0) ++ [.finish i]

def returns (cfg : Config (dedupSystem defaultDedup numeralId)) :
    List (Nat × DedupCall × DedupResult) :=
  cfg.returned

def reserved (i w : Nat) (answer : DeliveryReservation) : Nat × DedupCall × DedupResult :=
  (i, .reserve w "completed", .reservation answer)

def confirmedDelivery : List (System.Move DedupCall) :=
  .start 0 (.reserve 0 "completed") :: steps 0 3 ++
    .start 1 (.reserve 1 "completed") :: steps 1 3 ++ .start 2 (.confirm 0 (granted 0)) :: steps 2 3

theorem reservations_deduplicated_confirmed :
    ∃ cfg : Config (dedupSystem defaultDedup numeralId),
      returns cfg = [(2, .confirm 0 (granted 0), .flag true),
        reserved 1 1 ⟨.inFlight, none, false⟩, reserved 0 0 (granted 0)] ∧ Deduplicated cfg := by
  obtain ⟨cfg, hreach, hcheck⟩ := System.Stepper.exists_of_play dedupStepper confirmedDelivery
    (fun cfg => decide (returns cfg = [(2, .confirm 0 (granted 0), .flag true),
      reserved 1 1 ⟨.inFlight, none, false⟩, reserved 0 0 (granted 0)]))
    freshDedup_reachable (by decide +kernel)
  exact ⟨cfg, of_decide_eq_true hcheck,
    reservations_deduplicated numeralId_injective isDelivered_numeralId hreach⟩

/-- A lease runs out, another worker reserves, and then the first delivery is accepted. -/
def lateDelivery : List (System.Move DedupCall) :=
  .start 0 (.reserve 0 "completed") :: steps 0 3 ++
    [.environment defaultDedup.reservationTtl] ++
    .start 1 (.reserve 1 "completed") :: steps 1 3 ++
    .start 2 (.markDelivered 0 (granted 0) "completed") :: steps 2 2

/-- A renewal that Redis has accepted is overtaken by the release of its claim. -/
def overtakenRenewal : List (System.Move DedupCall) :=
  .start 0 (.reserve 0 "completed") :: steps 0 3 ++
    [.start 1 (.renew 0 (granted 0)), .act 1 0, .act 1 0] ++
    .start 2 (.release 0 "completed" (some (granted 0))) :: steps 2 2

/-- A reserve by the worker whose reservation the late delivery did not see is answered in flight,
and the renewal brings back a claim that neither its worker nor Redis has any more. -/
theorem reservations_not_deduplicated :
    (∃ cfg cfg' : Config (dedupSystem defaultDedup numeralId),
      (dedupSystem defaultDedup numeralId).Reachable cfg ∧ System.Later _ cfg cfg' ∧
        (2, .markDelivered 0 (granted 0) "completed", .nothing) ∈ returns cfg ∧
        (2, DedupNote.delivered defaultDedup.reservationTtl) ∈ DedupRun.record cfg.shared ∧
        returns cfg' = reserved 3 1 ⟨.inFlight, none, false⟩ :: returns cfg ∧
        (DedupRun.dedup cfg'.shared).clock <
          defaultDedup.reservationTtl + defaultDedup.confirmedTtl) ∧
    (∃ cfg cfg' : Config (dedupSystem defaultDedup numeralId),
      (dedupSystem defaultDedup numeralId).Reachable cfg ∧ System.Later _ cfg cfg' ∧
        (2, .release 0 "completed" (some (granted 0)), .nothing) ∈ returns cfg ∧
        returns cfg' = (1, .renew 0 (granted 0), .flag true) :: returns cfg ∧
        (DedupRun.dedup cfg.shared).redis = none ∧
        ((DedupRun.dedup cfg.shared).workers 0).reservations = none ∧
        ((DedupRun.dedup cfg'.shared).workers 0).reservations ≠ none) := by
  constructor
  · obtain ⟨cfg, cfg', hreach, hlater, hcheck⟩ := System.Stepper.exists_later_of_play dedupStepper
      lateDelivery (.start 3 (.reserve 1 "completed") :: steps 3 1)
      (fun cfg cfg' => decide (
        (2, .markDelivered 0 (granted 0) "completed", .nothing) ∈ returns cfg ∧
        (2, DedupNote.delivered defaultDedup.reservationTtl) ∈ DedupRun.record cfg.shared ∧
        returns cfg' = reserved 3 1 ⟨.inFlight, none, false⟩ :: returns cfg ∧
        (DedupRun.dedup cfg'.shared).clock <
          defaultDedup.reservationTtl + defaultDedup.confirmedTtl))
      freshDedup_reachable (by decide +kernel)
    exact ⟨cfg, cfg', hreach, hlater, of_decide_eq_true hcheck⟩
  · obtain ⟨cfg, cfg', hreach, hlater, hcheck⟩ := System.Stepper.exists_later_of_play dedupStepper
      overtakenRenewal (steps 1 1)
      (fun cfg cfg' => decide (
        (2, .release 0 "completed" (some (granted 0)), .nothing) ∈ returns cfg ∧
        returns cfg' = (1, .renew 0 (granted 0), .flag true) :: returns cfg ∧
        (DedupRun.dedup cfg.shared).redis = none ∧
        ((DedupRun.dedup cfg.shared).workers 0).reservations = none ∧
        ((DedupRun.dedup cfg'.shared).workers 0).reservations ≠ none))
      freshDedup_reachable (by decide +kernel)
    exact ⟨cfg, cfg', hreach, hlater, of_decide_eq_true hcheck⟩

end Hybro.Delivery
