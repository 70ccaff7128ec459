import Mathlib.Data.List.Basic

/-! # Reading in pieces

A reader keeps a state between the pieces of its input. When a cut of the input makes no
difference, a run over any pieces gives what one read of the whole gives. The splitting of a text
at a separator is such a reader: it keeps what follows the last separator.
-/

namespace Hybro.Pieces

variable {σ α β : Type}

/-! ## Cuts -/

/-- What a read of one piece leaves, and what it gives. -/
abbrev Reader (σ α β : Type) := σ → List α → σ × List β

/-- Two pieces that are read one after the other give what their concatenation gives, in the
states that reading leads to. -/
structure Cuts (read : Reader σ α β) (settled : σ → Prop) : Prop where
  nil : ∀ s, settled s → read s [] = (s, [])
  settles : ∀ s piece, settled s → settled (read s piece).1
  append : ∀ s first second, settled s → read s (first ++ second) =
    ((read (read s first).1 second).1, (read s first).2 ++ (read (read s first).1 second).2)

def readAll (read : Reader σ α β) (s : σ) : List (List α) → σ × List β
  | [] => (s, [])
  | piece :: pieces =>
      let (next, given) := read s piece
      let (last, later) := readAll read next pieces
      (last, given ++ later)

variable {read : Reader σ α β} {settled : σ → Prop}

theorem Cuts.readAll_eq (h : Cuts read settled) {s : σ} (hs : settled s)
    (pieces : List (List α)) : readAll read s pieces = read s pieces.flatten := by
  induction pieces generalizing s with
  | nil => exact (h.nil s hs).symm
  | cons piece pieces ih =>
      have hlater := ih (h.settles s piece hs)
      simp only [readAll, List.flatten_cons, h.append s _ _ hs, hlater]

def select {γ : Type} (choose : β → Option γ) (read : Reader σ α β) : Reader σ α γ := fun s piece =>
  ((read s piece).1, (read s piece).2.filterMap choose)

theorem Cuts.select {γ : Type} (choose : β → Option γ) (h : Cuts read settled) :
    Cuts (select choose read) settled where
  nil s hs := by simp [Pieces.select, h.nil s hs]
  settles s piece hs := h.settles s piece hs
  append s first second hs := by simp [Pieces.select, h.append s first second hs]

/-- A reader that takes one element after the other. -/
def stepwise (step : σ → α → σ × List β) : Reader σ α β
  | s, [] => (s, [])
  | s, a :: rest =>
      let (next, given) := step s a
      let (last, later) := stepwise step next rest
      (last, given ++ later)

theorem stepwise_append (step : σ → α → σ × List β) (s : σ) (first second : List α) :
    stepwise step s (first ++ second) =
      ((stepwise step (stepwise step s first).1 second).1,
        (stepwise step s first).2 ++ (stepwise step (stepwise step s first).1 second).2) := by
  induction first generalizing s with
  | nil => simp [stepwise]
  | cons a rest ih => simp [stepwise, ih]

theorem cuts_stepwise (step : σ → α → σ × List β) : Cuts (stepwise step) fun _ => True where
  nil _ _ := rfl
  settles _ _ _ := trivial
  append s first second _ := stepwise_append step s first second

/-- One reader does on its own states what another one does on what they stand for. -/
structure Refines {τ : Type} (read : Reader σ α β) (stands : σ → τ) (plain : Reader τ α β)
    (settled : σ → Prop) : Prop where
  settles : ∀ s piece, settled s → settled (read s piece).1
  state : ∀ s piece, settled s → stands (read s piece).1 = (plain (stands s) piece).1
  given : ∀ s piece, settled s → (read s piece).2 = (plain (stands s) piece).2

theorem Refines.readAll {τ : Type} {stands : σ → τ} {plain : Reader τ α β}
    (h : Refines read stands plain settled) {s : σ} (hs : settled s) (pieces : List (List α)) :
    stands (readAll read s pieces).1 = (Pieces.readAll plain (stands s) pieces).1 ∧
      (readAll read s pieces).2 = (Pieces.readAll plain (stands s) pieces).2 := by
  induction pieces generalizing s with
  | nil => exact ⟨rfl, rfl⟩
  | cons piece pieces ih =>
      obtain ⟨hstate, hgiven⟩ := ih (h.settles s piece hs)
      simp only [Pieces.readAll, ← h.state s piece hs, h.given s piece hs, hstate, hgiven]
      exact ⟨trivial, trivial⟩

/-! ## Splitting -/

variable [DecidableEq α]

/-- The parts of a text between the separators, when that many characters belong to a separator
that was found. -/
def splitFrom (separator : List α) : Nat → List α → List (List α)
  | _, [] => [[]]
  | skipped + 1, _ :: rest => splitFrom separator skipped rest
  | 0, c :: rest =>
      if separator.isPrefixOf (c :: rest) then [] :: splitFrom separator (separator.length - 1) rest
      else
        match splitFrom separator 0 rest with
        | [] => [[c]]
        | part :: parts => (c :: part) :: parts

/-- `text.split(separator)` for a separator that is not empty. -/
def split (separator text : List α) : List (List α) := splitFrom separator 0 text

variable {separator : List α}

theorem splitFrom_drop (skipped : Nat) (text : List α) :
    splitFrom separator skipped text = split separator (text.drop skipped) := by
  induction skipped generalizing text with
  | zero => rfl
  | succ skipped ih =>
      cases text with
      | nil => rfl
      | cons c rest => exact ih rest

theorem split_nil : split separator [] = [[]] := rfl

theorem split_ne_nil (separator text : List α) : split separator text ≠ [] := by
  cases text with
  | nil => simp [split_nil]
  | cons c rest =>
      unfold split splitFrom
      split
      · simp
      · split <;> simp

theorem split_of_starts {c : α} {rest : List α} (h : separator <+: c :: rest)
    (hne : separator ≠ []) :
    split separator (c :: rest) = [] :: split separator ((c :: rest).drop separator.length) := by
  obtain ⟨d, tail, rfl⟩ := List.exists_cons_of_ne_nil hne
  have hprefix : (d :: tail).isPrefixOf (c :: rest) = true := List.isPrefixOf_iff_prefix.mpr h
  rw [split, splitFrom, if_pos hprefix, splitFrom_drop]
  rfl

/-- A character in front of the first part. -/
def push (c : α) : List (List α) → List (List α)
  | [] => [[c]]
  | part :: parts => (c :: part) :: parts

theorem split_of_not_starts {c : α} {rest : List α} (h : ¬separator <+: c :: rest) :
    split separator (c :: rest) = push c (split separator rest) := by
  have hprefix : ¬separator.isPrefixOf (c :: rest) = true := fun hp =>
    h (List.isPrefixOf_iff_prefix.mp hp)
  rw [split, splitFrom, if_neg hprefix]
  unfold push split
  rfl

theorem split_short (text : List α) (h : text.length < separator.length) :
    split separator text = [text] := by
  induction text with
  | nil => rfl
  | cons c rest ih =>
      have hnot : ¬separator <+: c :: rest := fun hprefix => by
        have hle := hprefix.length_le
        omega
      have hrest : rest.length < separator.length := by
        simp only [List.length_cons] at h
        omega
      rw [split_of_not_starts hnot, ih hrest]
      rfl

theorem split_eq_singleton {text part : List α} (h : split separator text = [part])
    (hne : separator ≠ []) : part = text := by
  induction text generalizing part with
  | nil =>
      rw [split_nil] at h
      exact (List.singleton_inj.mp h).symm
  | cons c rest ih =>
      by_cases hprefix : separator <+: c :: rest
      · rw [split_of_starts hprefix hne] at h
        exact absurd (List.cons.inj h).2 (split_ne_nil _ _)
      · rw [split_of_not_starts hprefix] at h
        cases hrest : split separator rest with
        | nil => exact absurd hrest (split_ne_nil _ rest)
        | cons first parts =>
            rw [hrest] at h
            obtain ⟨hpart, hparts⟩ := List.cons.inj h
            have hsame : first = rest := ih (hrest.trans (by rw [hparts]))
            rw [← hpart, hsame]

theorem split_append (hne : separator ≠ []) (first second : List α) :
    split separator (first ++ second) =
      (split separator first).dropLast ++
        split separator ((split separator first).getLast (split_ne_nil _ first) ++ second) := by
  induction hlength : first.length using Nat.strongRecOn generalizing first with
  | ind n ih =>
      cases first with
      | nil => simp [split_nil]
      | cons c rest =>
          by_cases hprefix : separator <+: c :: rest
          · -- a separator at the front closes an empty part
            have hlong : separator <+: c :: (rest ++ second) :=
              hprefix.trans (List.prefix_append (c :: rest) second)
            have hpos := List.length_pos_of_ne_nil hne
            have hshorter : ((c :: rest).drop separator.length).length < n := by
              rw [List.length_drop, hlength]
              simp only [List.length_cons] at hlength
              omega
            have hdrop : (c :: (rest ++ second)).drop separator.length =
                (c :: rest).drop separator.length ++ second := by
              rw [← List.cons_append, List.drop_append_of_le_length hprefix.length_le]
            have hlater := ih _ hshorter ((c :: rest).drop separator.length) rfl
            rw [List.cons_append, split_of_starts hlong hne, hdrop, hlater]
            simp only [split_of_starts hprefix hne]
            rw [List.dropLast_cons_of_ne_nil (split_ne_nil _ _),
              List.getLast_cons (split_ne_nil _ _), List.cons_append]
          · by_cases hcrossing : separator <+: c :: (rest ++ second)
            · -- the cut goes through a separator
              have hshort : (c :: rest).length < separator.length := by
                by_contra hle
                apply hprefix
                have hfirst : c :: rest <+: c :: (rest ++ second) :=
                  List.prefix_append (c :: rest) second
                exact List.prefix_of_prefix_length_le hcrossing hfirst (Nat.not_lt.mp hle)
              simp [split_short _ hshort]
            · have hlater := ih rest.length (by simp [← hlength]) rest rfl
              have hparts := split_of_not_starts hprefix
              rw [List.cons_append, split_of_not_starts hcrossing, hlater]
              simp only [hparts]
              obtain ⟨part, parts, hsplit⟩ :=
                List.exists_cons_of_ne_nil (split_ne_nil separator rest)
              simp only [hsplit, push]
              cases parts with
              | nil =>
                  have hsame : part = rest := split_eq_singleton hsplit hne
                  simp [hsame, split_of_not_starts hcrossing, push]
              | cons next parts => simp

/-! ## Blocks

A block is a text without the first character of the separator. -/

theorem split_block {d : α} {tail block : List α} (hblock : d ∉ block) (rest : List α) :
    split (d :: tail) (block ++ d :: tail ++ rest) = block :: split (d :: tail) rest := by
  induction block with
  | nil =>
      have hprefix : d :: tail <+: d :: (tail ++ rest) := List.prefix_append (d :: tail) rest
      have hrest := split_of_starts hprefix (List.cons_ne_nil d tail)
      rw [← List.cons_append, List.drop_left] at hrest
      exact hrest
  | cons c block ih =>
      have hne : d ≠ c := fun heq => hblock (heq ▸ List.mem_cons_self)
      have hnot : ¬d :: tail <+: c :: (block ++ d :: tail ++ rest) := fun hprefix =>
        hne (List.cons_prefix_cons.mp hprefix).1
      have hlater := ih fun hmem => hblock (List.mem_cons_of_mem c hmem)
      rw [List.cons_append, List.cons_append, split_of_not_starts hnot, hlater]
      rfl

theorem split_open {d : α} {tail block text : List α} (hblock : d ∉ block)
    (htext : text <+: block ++ d :: tail) (hopen : text ≠ block ++ d :: tail) :
    split (d :: tail) text = [text] := by
  induction block generalizing text with
  | nil =>
      apply split_short
      have hle := htext.length_le
      exact Nat.lt_of_le_of_ne hle fun heq => hopen (htext.eq_of_length heq)
  | cons c block ih =>
      cases text with
      | nil => rfl
      | cons first text =>
          obtain ⟨rfl, hlater⟩ := List.cons_prefix_cons.mp htext
          have hne : d ≠ first := fun heq => hblock (heq ▸ List.mem_cons_self)
          have hnot : ¬d :: tail <+: first :: text := fun hprefix =>
            hne (List.cons_prefix_cons.mp hprefix).1
          have hsplit := ih (fun hmem => hblock (List.mem_cons_of_mem first hmem)) hlater
            fun heq => hopen (by rw [heq, List.cons_append])
          rw [split_of_not_starts hnot, hsplit]
          rfl

theorem split_line {d : α} {tail block : List α} (hblock : d ∉ block) :
    split (d :: tail) block = [block] :=
  split_open hblock (List.prefix_append block (d :: tail)) (by simp)

/-- The parts that a piece closes; what follows the last separator is kept. -/
def readParts (separator : List α) : Reader (List α) α (List α) := fun kept piece =>
  let parts := split separator (kept ++ piece)
  (parts.getLast (split_ne_nil _ _), parts.dropLast)

theorem readParts_cuts (hne : separator ≠ []) :
    Cuts (readParts separator) (fun kept => split separator kept = [kept]) where
  nil kept hkept := by simp [readParts, hkept]
  settles kept piece _ := by
    have hparts := split_append hne (kept ++ piece) []
    rw [List.append_nil, List.append_nil] at hparts
    have hlast := List.dropLast_append_getLast (split_ne_nil separator (kept ++ piece))
    exact (List.append_cancel_left (hlast.trans hparts)).symm
  append kept first second _ := by
    have hparts := split_append hne (kept ++ first) second
    rw [List.append_assoc] at hparts
    simp only [readParts, hparts]
    rw [List.getLast_append_of_ne_nil _ (split_ne_nil _ _),
      List.dropLast_append_of_ne_nil (split_ne_nil _ _)]

end Hybro.Pieces
