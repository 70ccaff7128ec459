import Mathlib.Data.List.Basic
import Mathlib.Logic.Relation

/-! # Folds over the contiguous prefix of a log

A log assigns entries to the positions from 1 on. It may have holes, which are
filled later or skipped; what a position holds never changes. A fold reads the
positions in order up to a hole.
-/

namespace Hybro.LogPrefix

/-! ## Logs -/

inductive Entry (R : Type)
  | skipped
  | event (record : R)
  deriving DecidableEq

structure Log (R : Type) where
  entry : Nat → Option (Entry R)
  latest : Nat
  emptyAbove : ∀ position, latest < position → entry position = none

/-- The log that holds exactly this list, from position 1 on. -/
def Log.ofList {R : Type} (entries : List (Entry R)) : Log R where
  entry position := if position = 0 then none else entries[position - 1]?
  latest := entries.length
  emptyAbove position habove := by
    rw [if_neg (by omega)]
    exact List.getElem?_eq_none (by omega)

def Log.Extends {R : Type} (log later : Log R) : Prop :=
  ∀ position entry, log.entry position = some entry → later.entry position = some entry

def Log.Complete {R : Type} (log : Log R) (position : Nat) : Prop :=
  ∀ i, 1 ≤ i → i ≤ position → (log.entry i).isSome = true

/-- The entries above a position, in order, at most `limit` of them. -/
def Log.range {R : Type} (log : Log R) (after limit : Nat) : List (Nat × Entry R) :=
  ((List.range' (after + 1) (log.latest - after)).filterMap fun position =>
    (log.entry position).map (position, ·)).take limit

section Logs

variable {R : Type} {log later latest : Log R}

theorem Log.mem_range {after limit position : Nat} {entry : Entry R}
    (h : (position, entry) ∈ log.range after limit) : log.entry position = some entry := by
  have hmem := List.mem_of_mem_take h
  rw [List.mem_filterMap] at hmem
  obtain ⟨i, -, hi⟩ := hmem
  cases hentry : log.entry i with
  | none =>
      rw [hentry] at hi
      cases hi
  | some found =>
      rw [hentry] at hi
      cases hi
      exact hentry

end Logs

/-! ## Folds -/

/-- A fold over mutable state: a refused record may have changed the state already. -/
structure Fold (R F : Type) where
  init : F
  apply : F → R → F × Bool

section Folds

variable {R F : Type} (fold : Fold R F)

/-- One position: a skipped one leaves the state, a missing one has no fold. -/
def foldEntry (state : F) : Option (Entry R) → Option F
  | none => none
  | some .skipped => some state
  | some (.event record) =>
      if (fold.apply state record).2 then some (fold.apply state record).1 else none

def foldPrefix (log : Log R) : Nat → Option F
  | 0 => some fold.init
  | position + 1 =>
      (foldPrefix log position).bind fun state => foldEntry fold state (log.entry (position + 1))

variable {fold} {log later : Log R} {position : Nat} {state state' : F}

theorem foldPrefix_succ (h : foldPrefix fold log position = some state)
    (hentry : foldEntry fold state (log.entry (position + 1)) = some state') :
    foldPrefix fold log (position + 1) = some state' := by
  rw [foldPrefix, h]
  exact hentry

theorem foldPrefix_extends (hlater : log.Extends later)
    (h : foldPrefix fold log position = some state) :
    foldPrefix fold later position = some state := by
  induction position generalizing state with
  | zero => exact h
  | succ position ih =>
      obtain ⟨before, hbefore, hentry⟩ := Option.bind_eq_some_iff.mp h
      apply foldPrefix_succ (ih hbefore)
      cases hat : log.entry (position + 1) with
      | none =>
          rw [hat] at hentry
          cases hentry
      | some entry =>
          rw [hlater _ _ hat, ← hat]
          exact hentry

theorem foldPrefix_complete (h : foldPrefix fold log position = some state) :
    log.Complete position := by
  induction position generalizing state with
  | zero =>
      intro i hlow hhigh
      omega
  | succ position ih =>
      obtain ⟨before, hbefore, hentry⟩ := Option.bind_eq_some_iff.mp h
      intro i hlow hhigh
      by_cases hlast : i = position + 1
      · subst hlast
        cases hat : log.entry (position + 1) with
        | none =>
            rw [hat] at hentry
            cases hentry
        | some entry => rfl
      · exact ih hbefore i hlow (by omega)

end Folds

/-! ## Reading a page -/

inductive PageResult (F : Type)
  | refused (state : F)
  | read (state : F) (expected : Nat) (foldedAny reachedGap : Bool)

def readPage {R F : Type} (fold : Fold R F) (state : F) (expected : Nat) (foldedAny : Bool) :
    List (Nat × Entry R) → PageResult F
  | [] => .read state expected foldedAny false
  | (position, entry) :: rest =>
      if position < expected then readPage fold state expected foldedAny rest
      else if expected < position then .read state expected foldedAny true
      else
        match entry with
        | .skipped => readPage fold state (expected + 1) foldedAny rest
        | .event record =>
            if (fold.apply state record).2 then
              readPage fold (fold.apply state record).1 (expected + 1) true rest
            else .refused (fold.apply state record).1

theorem readPage_prefix {R F : Type} {fold : Fold R F} {log : Log R} {state state' : F}
    {expected expected' : Nat} {foldedAny foldedAny' reachedGap : Bool}
    {records : List (Nat × Entry R)} (hpositive : 1 ≤ expected)
    (hstate : foldPrefix fold log (expected - 1) = some state)
    (hrecords : ∀ position entry, (position, entry) ∈ records → log.entry position = some entry)
    (h : readPage fold state expected foldedAny records =
      .read state' expected' foldedAny' reachedGap) :
    expected ≤ expected' ∧ foldPrefix fold log (expected' - 1) = some state' := by
  induction records generalizing state expected foldedAny with
  | nil =>
      cases h
      exact ⟨Nat.le_refl _, hstate⟩
  | cons first rest ih =>
      obtain ⟨position, entry⟩ := first
      have hrest : ∀ position entry, (position, entry) ∈ rest → log.entry position = some entry :=
        fun position entry hmem => hrecords position entry (List.mem_cons_of_mem _ hmem)
      have hfirst := hrecords position entry (List.mem_cons_self ..)
      unfold readPage at h
      by_cases hbelow : position < expected
      · rw [if_pos hbelow] at h
        exact ih hpositive hstate hrest h
      by_cases habove : expected < position
      · rw [if_neg hbelow, if_pos habove] at h
        cases h
        exact ⟨Nat.le_refl _, hstate⟩
      rw [if_neg hbelow, if_neg habove] at h
      have hposition : position = expected - 1 + 1 := by omega
      rw [hposition] at hfirst
      have hnext : expected + 1 - 1 = expected - 1 + 1 := by omega
      cases entry with
      | skipped =>
          have hfolded : foldPrefix fold log (expected + 1 - 1) = some state := by
            rw [hnext]
            apply foldPrefix_succ hstate
            rw [hfirst]
            rfl
          obtain ⟨hle, hprefix⟩ := ih (by omega) hfolded hrest h
          exact ⟨by omega, hprefix⟩
      | event record =>
          dsimp only at h
          by_cases haccepted : (fold.apply state record).2 = true
          · rw [if_pos haccepted] at h
            have hfolded : foldPrefix fold log (expected + 1 - 1) =
                some (fold.apply state record).1 := by
              rw [hnext]
              apply foldPrefix_succ hstate
              rw [hfirst]
              show (if _ then _ else _) = _
              rw [if_pos haccepted]
            obtain ⟨hle, hprefix⟩ := ih (by omega) hfolded hrest h
            exact ⟨by omega, hprefix⟩
          · rw [if_neg haccepted] at h
            cases h

end Hybro.LogPrefix
