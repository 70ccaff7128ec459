import Mathlib.Data.List.Basic

/-! # Backtracking text patterns

Regular expressions whose repetitions are over single characters, matched the
way a backtracking engine does it: leftmost start, first alternative first,
longest repetition first. Matching is structural, so it evaluates.
-/

namespace Hybro.TextPattern

abbrev Text := List Char

/-- A position in a text: what lies before it, nearest character first, what lies
after it, and the groups captured on the way. -/
structure Cursor where
  before : Text
  after : Text
  groups : List Text := []
  deriving DecidableEq

inductive Pattern
  | empty
  | char (p : Char → Bool)
  /-- Any number of characters of a class, as many as possible first. -/
  | many (p : Char → Bool)
  | seq (first second : Pattern)
  | alt (first second : Pattern)
  /-- A position between a word character and another one or the end. -/
  | boundary (word : Char → Bool)
  | notAhead (r : Pattern)
  /-- The end of the text, or the newline that ends it. -/
  | atEnd
  | group (r : Pattern)

namespace Pattern

def optional (r : Pattern) : Pattern := .alt r .empty

def many1 (p : Char → Bool) : Pattern := .seq (.char p) (.many p)

def oneOf : List Pattern → Pattern
  | [] => .notAhead .empty
  | [r] => r
  | r :: rest => .alt r (oneOf rest)

def all : List Pattern → Pattern
  | [] => .empty
  | [r] => r
  | r :: rest => .seq r (all rest)

end Pattern

/-- The longest repetition from which the rest can still match. -/
def greedy {α : Type} (p : Char → Bool) (k : Text → Text → Option α) : Text → Text → Option α
  | before, [] => k before []
  | before, x :: rest =>
      if p x then
        match greedy p k (x :: before) rest with
        | some a => some a
        | none => k before (x :: rest)
      else k before (x :: rest)

/-- Match from a cursor and go on with `k`; a failure of `k` backtracks. -/
def Pattern.run : Pattern → {α : Type} → Cursor → (Cursor → Option α) → Option α
  | .empty, _, c, k => k c
  | .char p, _, c, k =>
      match c.after with
      | [] => none
      | x :: rest => if p x then k { c with before := x :: c.before, after := rest } else none
  | .many p, _, c, k =>
      greedy p (fun before after => k { c with before := before, after := after }) c.before c.after
  | .seq first second, _, c, k => first.run c fun c' => second.run c' k
  | .alt first second, _, c, k =>
      match first.run c k with
      | some a => some a
      | none => second.run c k
  | .boundary word, _, c, k =>
      if c.before.head?.any word = c.after.head?.any word then none else k c
  | .notAhead r, _, c, k => if (r.run c fun _ => some ()).isSome then none else k c
  | .atEnd, _, c, k => if c.after = [] ∨ c.after = ['\n'] then k c else none
  | .group r, _, c, k => r.run c fun c' => k { c' with
      groups := c'.groups ++ [(c'.before.take (c'.before.length - c.before.length)).reverse] }

structure Match where
  text : Text
  groups : List Text
  deriving DecidableEq

def Match.group (m : Match) (n : Nat) : Text := m.groups[n - 1]?.getD []

def Pattern.matchAt (r : Pattern) (before after : Text) : Option Match :=
  r.run ⟨before, after, []⟩ fun c =>
    some ⟨after.take (after.length - c.after.length), c.groups⟩

def Pattern.searchFrom (r : Pattern) (before : Text) : Text → Option Nat
  | [] => (r.matchAt before []).map fun _ => 0
  | x :: rest =>
      match r.matchAt before (x :: rest) with
      | some _ => some 0
      | none => (r.searchFrom (x :: before) rest).map (· + 1)

def Pattern.search (r : Pattern) (text : Text) : Option Nat := r.searchFrom [] text

/-- Replace the matches from left to right; `skip` characters belong to the last one.
The pattern never matches the empty text. -/
def Pattern.subFrom (r : Pattern) (replace : Match → Text) : Nat → Text → Text → Text
  | _, _, [] => []
  | skip + 1, before, x :: rest => r.subFrom replace skip (x :: before) rest
  | 0, before, x :: rest =>
      match r.matchAt before (x :: rest) with
      | some m => replace m ++ r.subFrom replace (m.text.length - 1) (x :: before) rest
      | none => x :: r.subFrom replace 0 (x :: before) rest

def Pattern.sub (r : Pattern) (replace : Match → Text) (text : Text) : Text :=
  r.subFrom replace 0 [] text

def Pattern.spansFrom (r : Pattern) : Nat → Text → Text → List (Nat × Nat)
  | _, _, [] => []
  | skip + 1, before, x :: rest => r.spansFrom skip (x :: before) rest
  | 0, before, x :: rest =>
      match r.matchAt before (x :: rest) with
      | some m => (before.length, before.length + m.text.length) ::
          r.spansFrom (m.text.length - 1) (x :: before) rest
      | none => r.spansFrom 0 (x :: before) rest

def Pattern.spans (r : Pattern) (text : Text) : List (Nat × Nat) := r.spansFrom 0 [] text

/-! ## Plain substrings -/

/-- `str.replace`: every occurrence from left to right; `skip` characters belong to
the last one. -/
def replaceFrom (old new : Text) : Nat → Text → Text
  | _, [] => []
  | skip + 1, _ :: rest => replaceFrom old new skip rest
  | 0, x :: rest =>
      if old.isPrefixOf (x :: rest) then new ++ replaceFrom old new (old.length - 1) rest
      else x :: replaceFrom old new 0 rest

def replace (old new text : Text) : Text := replaceFrom old new 0 text

end Hybro.TextPattern
