import Mathlib.Data.List.Dedup

/-! # Python lists

List idioms of the modelled code with the facts about them that its invariants
rest on.
-/

namespace Hybro.PythonList

variable {α : Type} [DecidableEq α]

/-- `list(dict.fromkeys(items))`: the first occurrence of every item. -/
def fromKeys (items : List α) : List α :=
  items.reverse.dedup.reverse

@[simp] theorem mem_fromKeys {x : α} {items : List α} : x ∈ fromKeys items ↔ x ∈ items := by
  simp [fromKeys]

theorem nodup_fromKeys (items : List α) : (fromKeys items).Nodup :=
  List.nodup_reverse.mpr (List.nodup_dedup _)

theorem fromKeys_of_nodup {items : List α} (h : items.Nodup) : fromKeys items = items := by
  rw [fromKeys, List.dedup_eq_self.mpr (List.nodup_reverse.mpr h), List.reverse_reverse]

theorem fromKeys_append_of_subset {items more : List α} (h : items.Nodup)
    (hmore : ∀ x ∈ more, x ∈ items) : fromKeys (items ++ more) = items := by
  have hsubset : more.reverse ⊆ items.reverse := by
    intro x hx
    exact List.mem_reverse.mpr (hmore x (List.mem_reverse.mp hx))
  rw [fromKeys, List.reverse_append, hsubset.dedup_append_right]
  exact fromKeys_of_nodup h

omit [DecidableEq α] in
/-- `items[-count:]`, where a count of zero keeps the whole list. -/
def lastItems (count : Nat) (items : List α) : List α :=
  if count = 0 then items else items.drop (items.length - count)

omit [DecidableEq α] in
theorem lastItems_sublist (count : Nat) (items : List α) : (lastItems count items).Sublist items := by
  unfold lastItems
  split
  · exact List.Sublist.refl _
  · exact List.drop_sublist _ _

omit [DecidableEq α] in
theorem length_lastItems_le {count : Nat} (h : 0 < count) (items : List α) :
    (lastItems count items).length ≤ count := by
  unfold lastItems
  rw [if_neg (by omega), List.length_drop]
  omega

/-! ## Loops that may raise -/

omit [DecidableEq α] in
/-- What each round of a `for` loop keeps of the items done holds at its end. -/
theorem foldlM_done {β ε : Type} {f : β → α → Except ε β} {P : List α → β → Prop}
    {items : List α} {s t : β} (hstart : P [] s)
    (hstep : ∀ done x rest s t, items = done ++ x :: rest → P done s → f s x = .ok t →
      P (done ++ [x]) t)
    (h : items.foldlM f s = .ok t) : P items t := by
  have hrest : ∀ rest done s, items = done ++ rest → P done s → rest.foldlM f s = .ok t →
      P items t := by
    intro rest
    induction rest with
    | nil =>
        intro done s hitems hdone hrun
        cases hrun
        rw [hitems, List.append_nil]
        exact hdone
    | cons x rest ih =>
        intro done s hitems hdone hrun
        rw [List.foldlM_cons] at hrun
        cases hx : f s x with
        | error e => rw [hx] at hrun; cases hrun
        | ok next =>
            rw [hx] at hrun
            exact ih (done ++ [x]) next (by simp [hitems])
              (hstep done x rest s next hitems hdone hx) hrun
  exact hrest items [] s rfl hstart h

end Hybro.PythonList
