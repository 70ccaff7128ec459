import Hybro.Delivery.RoomEvents

/-! # What one operation does to the room log

Documents are only ever added. The invariant of the log, the steps that every thread
takes, and one rule for each operation under any interference.
-/

namespace Hybro.Delivery

open Interleaving

variable {V : Type} {log log' : RoomLog V} {event : RoomEvent V}

/-! ## Growth -/

structure Grows (log log' : RoomLog V) : Prop where
  events : ∀ event ∈ log.events, event ∈ log'.events
  healed : ∀ roomId, (log.counters roomId).healedThrough ≤ (log'.counters roomId).healedThrough
  inserted : ∀ entry ∈ log.inserted, entry ∈ log'.inserted

theorem Grows.refl (log : RoomLog V) : Grows log log :=
  ⟨fun _ h => h, fun _ => Nat.le_refl _, fun _ h => h⟩

theorem Grows.trans {log'' : RoomLog V} (h : Grows log log') (h' : Grows log' log'') :
    Grows log log'' where
  events := fun event hmem => h'.events event (h.events event hmem)
  healed := fun roomId => Nat.le_trans (h.healed roomId) (h'.healed roomId)
  inserted := fun entry hmem => h'.inserted entry (h.inserted entry hmem)

theorem Grows.filled {roomId : String} {n : Nat} (h : Grows log log')
    (hfilled : log.Filled roomId n) : log'.Filled roomId n := by
  obtain ⟨event, hmem, hat⟩ := hfilled
  exact ⟨event, h.events event hmem, hat⟩

theorem grows_insert (i : Nat) (event : RoomEvent V) : Grows log (log.insert i event) where
  events := fun _ hmem => List.mem_cons_of_mem _ hmem
  healed := fun _ => Nat.le_refl _
  inserted := fun _ hmem => List.mem_cons_of_mem _ hmem

theorem grows_setCounter {roomId : String} {counter : RoomCounter}
    (h : (log.counters roomId).healedThrough ≤ counter.healedThrough) :
    Grows log (log.setCounter roomId counter) where
  events := fun _ hmem => hmem
  healed := by
    intro room
    by_cases hroom : room = roomId
    · subst hroom
      simpa [RoomLog.setCounter] using h
    · simp [RoomLog.setCounter, Function.update_of_ne hroom]
  inserted := fun _ hmem => hmem

/-- Whatever a thread does, the log grows, and a new entry is its own insert. -/
theorem grows_of_outcomes {i : Nat} {op : LogOp V} {reply : op.Res}
    (h : (reply, log') ∈ op.outcomes i log) :
    Grows log log' ∧ ∀ entry ∈ log'.inserted,
      entry ∈ log.inserted ∨ (entry.1 = i ∧ op = .insertOne entry.2) := by
  cases op with
  | findOne id roomId =>
      obtain ⟨-, rfl⟩ := Prod.mk.inj (List.mem_singleton.mp h)
      exact ⟨.refl _, fun _ hmem => .inl hmem⟩
  | increment roomId =>
      obtain ⟨-, rfl⟩ := Prod.mk.inj (List.mem_singleton.mp h)
      exact ⟨grows_setCounter (Nat.le_refl _), fun _ hmem => .inl hmem⟩
  | insertOne event =>
      simp only [LogOp.outcomes] at h
      split at h
      · obtain ⟨-, rfl⟩ := Prod.mk.inj (List.mem_singleton.mp h)
        exact ⟨.refl _, fun _ hmem => .inl hmem⟩
      · obtain ⟨-, rfl⟩ := Prod.mk.inj (List.mem_singleton.mp h)
        refine ⟨grows_insert i event, ?_⟩
        intro entry hmem
        rcases List.mem_cons.mp hmem with rfl | hmem
        · exact .inr ⟨rfl, rfl⟩
        · exact .inl hmem
  | findCounter roomId =>
      obtain ⟨-, rfl⟩ := Prod.mk.inj (List.mem_singleton.mp h)
      exact ⟨.refl _, fun _ hmem => .inl hmem⟩
  | findSeqs roomId first last limit =>
      obtain ⟨-, rfl⟩ := Prod.mk.inj (List.mem_singleton.mp h)
      exact ⟨.refl _, fun _ hmem => .inl hmem⟩
  | maxHealed roomId through =>
      obtain ⟨-, rfl⟩ := Prod.mk.inj (List.mem_singleton.mp h)
      exact ⟨grows_setCounter (Nat.le_max_left _ _), fun _ hmem => .inl hmem⟩
  | raise message => cases h

/-! ## Tombstones -/

theorem tombstoneId_inj {roomId roomId' : String} {m n : Nat}
    (h : tombstoneId roomId m = tombstoneId roomId' n) : roomId = roomId' ∧ m = n := by
  obtain ⟨hroom, hseq⟩ := PythonText.numbered_inj (by decide : Char.isDigit ':' = false) h
  have hlists := congrArg String.toList hroom
  simp only [String.toList_append] at hlists
  exact ⟨String.toList_inj.mp (List.append_cancel_left hlists), hseq⟩

/-- The document stands where its id says, if that is the id of a tombstone. -/
def PlacedById (event : RoomEvent V) : Prop :=
  ∀ roomId n, event.id = tombstoneId roomId n → event.roomId = roomId ∧ event.roomSeq = n

theorem placedById_tombstone (roomId : String) (n : Nat) :
    PlacedById (tombstone roomId n : RoomEvent V) :=
  fun _ _ h => tombstoneId_inj h

/-- The key of an append is not the id of a tombstone. -/
def AppendCall.Ordinary (call : AppendCall V) : Prop :=
  ∀ roomId n, call.id ≠ tombstoneId roomId n

/-- A key that does not start as tombstone ids do. -/
def AppendCall.startsApart (call : AppendCall V) : Bool :=
  !PythonText.startsWith call.id "skip:"

theorem AppendCall.ordinary_of_startsApart {call : AppendCall V} (h : call.startsApart = true) :
    call.Ordinary := by
  intro roomId n heq
  have hstarts : PythonText.startsWith (tombstoneId roomId n) "skip:" = true := by
    rw [tombstoneId, String.append_assoc, String.append_assoc]
    exact PythonText.startsWith_append _ _
  rw [AppendCall.startsApart, heq, hstarts] at h
  cases h

theorem AppendCall.Ordinary.placedById {call : AppendCall V} (h : call.Ordinary) (n : Nat) :
    PlacedById (call.event n) :=
  fun roomId m heq => absurd heq (h roomId m)

/-! ## The invariant -/

structure LogInv (log : RoomLog V) : Prop where
  ids : (log.events.map (·.id)).Nodup
  positions : (log.events.map fun event => (event.roomId, event.roomSeq)).Nodup
  placed : ∀ event ∈ log.events, PlacedById event
  healed : ∀ roomId n, 0 < n → n ≤ (log.counters roomId).healedThrough → log.Filled roomId n
  inserted : ∀ entry ∈ log.inserted, entry.2 ∈ log.events

theorem logInv_empty : LogInv (RoomLog.empty : RoomLog V) where
  ids := List.nodup_nil
  positions := List.nodup_nil
  placed := fun _ h => nomatch h
  healed := by
    intro roomId n hpos hle
    have hzero : n ≤ 0 := hle
    omega
  inserted := fun _ h => nomatch h

theorem LogInv.insert {i : Nat} (h : LogInv log) (hfree : ¬ log.Occupied event)
    (hplaced : PlacedById event) : LogInv (log.insert i event) where
  ids := by
    refine List.nodup_cons.mpr ⟨?_, h.ids⟩
    intro hmem
    obtain ⟨other, hother, heq⟩ := List.mem_map.mp hmem
    exact hfree ⟨other, hother, .inl heq⟩
  positions := by
    refine List.nodup_cons.mpr ⟨?_, h.positions⟩
    intro hmem
    obtain ⟨other, hother, heq⟩ := List.mem_map.mp hmem
    exact hfree ⟨other, hother, .inr (Prod.mk.inj heq)⟩
  placed := by
    intro other hmem
    rcases List.mem_cons.mp hmem with rfl | hmem
    · exact hplaced
    · exact h.placed other hmem
  healed := fun roomId n hpos hle => (grows_insert i event).filled (h.healed roomId n hpos hle)
  inserted := by
    intro entry hmem
    rcases List.mem_cons.mp hmem with rfl | hmem
    · exact List.mem_cons_self
    · exact List.mem_cons_of_mem _ (h.inserted entry hmem)

theorem LogInv.setCounter {roomId : String} {counter : RoomCounter} (h : LogInv log)
    (hhealed : ∀ n, 0 < n → n ≤ counter.healedThrough → log.Filled roomId n) :
    LogInv (log.setCounter roomId counter) where
  ids := h.ids
  positions := h.positions
  placed := h.placed
  healed := by
    intro room n hpos hle
    by_cases hroom : room = roomId
    · subst hroom
      have hbound : n ≤ counter.healedThrough := by simpa [RoomLog.setCounter] using hle
      exact hhealed n hpos hbound
    · have hbound : n ≤ (log.counters room).healedThrough := by
        simpa [RoomLog.setCounter, Function.update_of_ne hroom] using hle
      exact h.healed room n hpos hbound
  inserted := h.inserted

theorem LogInv.eq_of_position {a b : RoomEvent V} (h : LogInv log) (ha : a ∈ log.events)
    (hb : b ∈ log.events) (hroom : a.roomId = b.roomId) (hseq : a.roomSeq = b.roomSeq) : a = b :=
  List.inj_on_of_nodup_map h.positions ha hb (Prod.ext hroom hseq)

theorem not_filled_of_eventAt {roomId : String} {n : Nat}
    (h : (log.eventAt roomId n).isNone = true) : ¬ log.Filled roomId n := by
  rintro ⟨event, hmem, hroom, hseq⟩
  have hother := List.find?_eq_none.mp (Option.isNone_iff_eq_none.mp h) event hmem
  simp [hroom, hseq] at hother

theorem Grows.eventAt {roomId : String} {n : Nat} (h : Grows log log') (hinv : LogInv log')
    (hat : log.eventAt roomId n = some event) : log'.eventAt roomId n = some event := by
  have hmem := h.events event (List.mem_of_find?_eq_some hat)
  have hplace : event.roomId = roomId ∧ event.roomSeq = n := by
    simpa using List.find?_some hat
  cases hfound : log'.eventAt roomId n with
  | none =>
      have hother := List.find?_eq_none.mp hfound event hmem
      simp [hplace] at hother
  | some other =>
      have hother : other.roomId = roomId ∧ other.roomSeq = n := by
        simpa using List.find?_some hfound
      rw [hinv.eq_of_position (List.mem_of_find?_eq_some hfound) hmem
        (hother.1.trans hplace.1.symm) (hother.2.trans hplace.2.symm)]

end Hybro.Delivery
