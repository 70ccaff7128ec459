import Mathlib.Data.List.Infix

/-! # JavaScript text

A string is its UTF-16 code units. The classes and searches of `String.prototype` that the
modelled code relies on, with the facts that join two texts at an overlap.
-/

namespace Hybro.JsText

abbrev Text := List UInt16

def encode (c : Char) : Text :=
  if c.toNat < 65536 then [c.toNat.toUInt16]
  else [(55296 + (c.toNat - 65536) / 1024).toUInt16, (56320 + (c.toNat - 65536) % 1024).toUInt16]

def ofString (text : String) : Text :=
  text.toList.flatMap encode

/-- The class `\s` of a regular expression, which is also what `trim` removes. -/
def isSpace (unit : UInt16) : Bool :=
  (0x09 ≤ unit && unit ≤ 0x0d) || unit == 0x20 || unit == 0xa0 || unit == 0x1680 ||
    (0x2000 ≤ unit && unit ≤ 0x200a) || unit == 0x2028 || unit == 0x2029 || unit == 0x202f ||
    unit == 0x205f || unit == 0x3000 || unit == 0xfeff

/-- `text.trim()` -/
def trim (text : Text) : Text :=
  ((text.dropWhile isSpace).reverse.dropWhile isSpace).reverse

/-- `text.startsWith(part)` -/
def startsWith (text part : Text) : Bool :=
  part.isPrefixOf text

/-- `text.endsWith(part)` -/
def endsWith (text part : Text) : Bool :=
  part.isSuffixOf text

/-- `text.includes(part)` -/
def includes (text part : Text) : Bool :=
  text.tails.any (part.isPrefixOf ·)

/-- `text.replace(/^\s+/, ' ')` -/
def replaceLeadingSpace : Text → Text
  | [] => []
  | unit :: rest =>
      if isSpace unit then 0x20 :: rest.dropWhile isSpace else unit :: rest

@[simp] theorem startsWith_iff {text part : Text} : startsWith text part = true ↔ part <+: text :=
  List.isPrefixOf_iff_prefix

@[simp] theorem endsWith_iff {text part : Text} : endsWith text part = true ↔ part <:+ text :=
  List.isSuffixOf_iff_suffix

@[simp] theorem includes_iff {text part : Text} : includes text part = true ↔ part <:+: text := by
  simp [includes, List.infix_iff_prefix_suffix, and_comm]

theorem length_replaceLeadingSpace_le (text : Text) :
    (replaceLeadingSpace text).length ≤ text.length := by
  cases text with
  | nil => exact Nat.le_refl _
  | cons unit rest =>
      have hrest := (List.dropWhile_suffix isSpace (l := rest)).length_le
      simp only [replaceLeadingSpace]
      split
      · simpa using hrest
      · exact Nat.le_refl _

theorem replaceLeadingSpace_ne_nil {text : Text} (h : text ≠ []) : replaceLeadingSpace text ≠ [] := by
  cases text with
  | nil => exact absurd rfl h
  | cons unit rest =>
      simp only [replaceLeadingSpace]
      split <;> simp

/-! ## Overlaps -/

def NoOverlap (first second : Text) : Prop :=
  ∀ part, part ≠ [] → part <+: second → ¬part <:+ first

/-- A text longer than the tail can end a joined text only over an overlap. -/
theorem NoOverlap.not_suffix {first second tail : Text} (h : NoOverlap first second)
    (hlt : tail.length < second.length) : ¬second <:+ first ++ tail := by
  intro hsuffix
  rcases List.suffix_or_suffix_of_suffix hsuffix (List.suffix_append first tail) with hin | hin
  · have hle := hin.length_le
    omega
  · obtain ⟨part, rfl⟩ := hin
    have hpart : part ≠ [] := by
      rintro rfl
      simp at hlt
    have hend : part <:+ first := by
      obtain ⟨front, hfront⟩ := hsuffix
      rw [← List.append_assoc] at hfront
      exact ⟨front, List.append_cancel_right hfront⟩
    exact h part hpart (List.prefix_append part tail) hend

theorem NoOverlap.not_infix {first second tail : Text} (h : NoOverlap first second)
    (hfirst : ¬second <:+: first) (hlt : tail.length < second.length) :
    ¬second <:+: first ++ tail := by
  intro hinfix
  obtain ⟨front, hsuffix, hprefix⟩ := List.infix_iff_suffix_prefix.mp hinfix
  rcases List.prefix_or_prefix_of_prefix hprefix (List.prefix_append first tail) with hin | hin
  · exact hfirst (hsuffix.isInfix.trans hin.isInfix)
  · obtain ⟨rest, rfl⟩ := hin
    have hrest : rest <+: tail := (List.prefix_append_right_inj first).mp hprefix
    exact h.not_suffix (Nat.lt_of_le_of_lt hrest.length_le hlt) hsuffix

end Hybro.JsText
