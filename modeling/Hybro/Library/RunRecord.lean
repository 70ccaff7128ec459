import Mathlib.Data.List.Basic

/-! # The record of a run

A record lists what has happened, newest first, each entry under the thread that did
it. The notes of one thread are its own part of the record; what held when an entry
was added is a condition on the entry and the record below it.
-/

namespace Hybro.RunRecord

variable {N : Type}

/-! ## The notes of one thread -/

def own (i : Nat) (record : List (Nat × N)) : List N :=
  record.filterMap fun entry => if entry.1 = i then some entry.2 else none

variable {i j : Nat} {record : List (Nat × N)} {note : N} {notes : List N}

theorem mem_own : note ∈ own i record ↔ (i, note) ∈ record := by
  constructor
  · intro hmem
    obtain ⟨⟨k, other⟩, hentry, heq⟩ := List.mem_filterMap.mp hmem
    by_cases hk : k = i
    · have hnote : other = note := by simpa [hk] using heq
      exact hk ▸ hnote ▸ hentry
    · simp [hk] at heq
  · intro hmem
    exact List.mem_filterMap.mpr ⟨(i, note), hmem, by simp⟩

theorem own_map_append : own i (notes.map (i, ·) ++ record) = notes ++ own i record := by
  have hnew : (notes.map (i, ·)).filterMap
      (fun entry => if entry.1 = i then some entry.2 else none) = notes := by
    induction notes with
    | nil => rfl
    | cons first rest ih => simp
  unfold own
  rw [List.filterMap_append, hnew]

theorem own_map_append_of_ne (hother : j ≠ i) :
    own i (notes.map (j, ·) ++ record) = own i record := by
  have hnone : (notes.map (j, ·)).filterMap
      (fun entry => if entry.1 = i then some entry.2 else none) = [] := by
    refine List.filterMap_eq_nil_iff.mpr ?_
    intro entry hmem
    obtain ⟨note, -, rfl⟩ := List.mem_map.mp hmem
    exact if_neg hother
  unfold own
  rw [List.filterMap_append, hnone, List.nil_append]

/-! ## What held when an entry was added -/

variable {E : Type} {P Q : E → List E → Prop} {entry : E} {older newer : List E}

/-- Every entry satisfies `P` together with the entries below it. -/
def Throughout (P : E → List E → Prop) (entries : List E) : Prop :=
  ∀ newer entry older, entries = newer ++ entry :: older → P entry older

theorem throughout_nil : Throughout P [] := by
  intro newer entry older h
  simp at h

theorem throughout_cons : Throughout P (entry :: older) ↔ P entry older ∧ Throughout P older := by
  constructor
  · intro h
    refine ⟨h [] entry older rfl, ?_⟩
    intro newer first rest heq
    exact h (entry :: newer) first rest (by rw [heq]; rfl)
  · rintro ⟨hentry, hrest⟩ newer first rest heq
    cases newer with
    | nil =>
        cases heq
        exact hentry
    | cons top newer =>
        cases heq
        exact hrest newer first rest rfl

theorem Throughout.below (h : Throughout P (newer ++ older)) : Throughout P older := by
  intro top entry rest heq
  exact h (newer ++ top) entry rest (by rw [heq, List.append_assoc])

end Hybro.RunRecord
