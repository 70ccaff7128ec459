import Mathlib.Data.List.Basic

/-! # Python text

The character classes and slices of Python's `str` that the modelled code relies on.
-/

namespace Hybro.PythonText

/-- `str.isspace` of one character, the class `\s` of a regular expression. -/
def isSpace (c : Char) : Bool :=
  (0x09 ≤ c.val && c.val ≤ 0x0d) || (0x1c ≤ c.val && c.val ≤ 0x20) || c.val == 0x85 ||
    c.val == 0xa0 || c.val == 0x1680 || (0x2000 ≤ c.val && c.val ≤ 0x200a) ||
    c.val == 0x2028 || c.val == 0x2029 || c.val == 0x202f || c.val == 0x205f || c.val == 0x3000

/-- `not text.strip()` -/
def isBlank (text : String) : Bool :=
  text.toList.all isSpace

/-- `text[:count]` -/
def firstChars (count : Nat) (text : String) : String :=
  String.ofList (text.toList.take count)

/-- `text.startswith(start)` -/
def startsWith (text start : String) : Bool :=
  start.toList.isPrefixOf text.toList

/-- `text[-count:]` -/
def lastChars (count : Nat) (text : String) : String :=
  String.ofList (text.toList.drop (text.toList.length - count))

/-- `text.lstrip()` -/
def lstrip (text : String) : String :=
  String.ofList (text.toList.dropWhile isSpace)

/-- `text.rstrip()` -/
def rstrip (text : String) : String :=
  String.ofList (text.toList.reverse.dropWhile isSpace).reverse

/-- `text.strip()` -/
def strip (text : String) : String :=
  rstrip (lstrip text)

/-- The operand of `or` that counts as true: neither `None` nor empty. -/
def nonEmptyText (text : Option String) : Option String :=
  text.filter (· != "")

theorem startsWith_append (start rest : String) : startsWith (start ++ rest) start = true := by
  rw [startsWith, String.toList_append, List.isPrefixOf_iff_prefix]
  exact List.prefix_append _ _

/-! ## Stripped texts -/

/-- `text.strip() or None` -/
def strippedText (text : String) : Option String :=
  nonEmptyText (some (strip text))

def Trimmed (characters : List Char) : Prop :=
  (∀ c ∈ characters.head?, isSpace c = false) ∧ ∀ c ∈ characters.getLast?, isSpace c = false

def Clean (text : String) : Prop :=
  Trimmed text.toList ∧ text ≠ ""

theorem head_dropWhile_isSpace {characters : List Char} {c : Char}
    (h : c ∈ (characters.dropWhile isSpace).head?) : isSpace c = false := by
  induction characters with
  | nil => cases h
  | cons first rest ih =>
      cases hspace : isSpace first with
      | true =>
          simp only [List.dropWhile_cons, hspace, if_true] at h
          exact ih h
      | false =>
          simp only [List.dropWhile_cons, hspace, Bool.false_eq_true, if_false, List.head?_cons,
            Option.mem_some_iff] at h
          exact h ▸ hspace

theorem dropWhile_isSpace_of_head {characters : List Char}
    (h : ∀ c ∈ characters.head?, isSpace c = false) :
    characters.dropWhile isSpace = characters := by
  cases characters with
  | nil => rfl
  | cons first rest => simp [h first rfl]

theorem toList_strip (text : String) : (strip text).toList =
    ((text.toList.dropWhile isSpace).reverse.dropWhile isSpace).reverse := by
  simp [strip, lstrip, rstrip]

theorem trimmed_strip (text : String) : Trimmed (strip text).toList := by
  rw [toList_strip]
  constructor
  · intro c hc
    have hprefix : ((text.toList.dropWhile isSpace).reverse.dropWhile isSpace).reverse <+:
        text.toList.dropWhile isSpace := by
      rw [← List.reverse_suffix, List.reverse_reverse]
      exact List.dropWhile_suffix isSpace
    have hhead : c ∈ (text.toList.dropWhile isSpace).head? := by
      obtain ⟨rest, hrest⟩ := hprefix
      rw [← hrest, List.head?_append]
      simp [Option.mem_def.mp hc]
    exact head_dropWhile_isSpace hhead
  · intro c hc
    rw [List.getLast?_reverse] at hc
    exact head_dropWhile_isSpace hc

theorem strip_of_trimmed {text : String} (h : Trimmed text.toList) : strip text = text := by
  apply String.toList_inj.mp
  have hreverse : ∀ c ∈ text.toList.reverse.head?, isSpace c = false := by
    rw [List.head?_reverse]
    exact h.2
  rw [toList_strip, dropWhile_isSpace_of_head h.1, dropWhile_isSpace_of_head hreverse,
    List.reverse_reverse]

theorem clean_of_strippedText {text clean : String} (h : strippedText text = some clean) :
    Clean clean := by
  simp only [strippedText, nonEmptyText, Option.filter_some] at h
  split at h
  · next hne =>
      obtain rfl := Option.some.inj h
      exact ⟨trimmed_strip text, by simpa using hne⟩
  · exact absurd h (by simp)

theorem clean_of_ends {text : String} {first last : Char} (hfirst : text.toList.head? = some first)
    (hlast : text.toList.getLast? = some last) (h : isSpace first = false)
    (h' : isSpace last = false) : Clean text := by
  refine ⟨⟨?_, ?_⟩, ?_⟩
  · intro c hc
    obtain rfl := Option.some.inj (hfirst.symm.trans hc)
    exact h
  · intro c hc
    obtain rfl := Option.some.inj (hlast.symm.trans hc)
    exact h'
  · rintro rfl
    cases hfirst

theorem Clean.strippedText {text : String} (h : Clean text) : strippedText text = some text := by
  simp [PythonText.strippedText, nonEmptyText, strip_of_trimmed h.1, h.2]

theorem Clean.append {first last : String} (h : Clean first) (hlast : Clean last)
    (between : String) : Clean (first ++ between ++ last) := by
  have hfirst : first.toList ≠ [] := fun heq => h.2 (String.toList_eq_nil_iff.mp heq)
  have hend : last.toList ≠ [] := fun heq => hlast.2 (String.toList_eq_nil_iff.mp heq)
  constructor
  · simp only [String.toList_append, List.append_assoc]
    constructor
    · intro c hc
      rw [List.head?_append_of_ne_nil _ hfirst] at hc
      exact h.1.1 c hc
    · intro c hc
      rw [List.getLast?_append_of_ne_nil _ (by simp [hend]),
        List.getLast?_append_of_ne_nil _ hend] at hc
      exact hlast.1.2 c hc
  · intro heq
    have hnil := congrArg String.toList heq
    simp [hfirst] at hnil

theorem Clean.intercalate {separator first : String} {rest : List String} (h : Clean first)
    (hrest : ∀ text ∈ rest, Clean text) : Clean (separator.intercalate (first :: rest)) := by
  induction rest generalizing first with
  | nil => simpa using h
  | cons second rest ih =>
      have hsecond := hrest second List.mem_cons_self
      have htail := ih hsecond fun text hmem => hrest text (List.mem_cons_of_mem _ hmem)
      rw [String.intercalate_cons_cons]
      exact h.append htail separator

/-! ## Numbered names -/

theorem not_mem_digits_of_not_isDigit {c : Char} (hc : c.isDigit = false) (n : Nat) :
    c ∉ (toString n).toList := by
  intro hmem
  rw [Nat.toString_eq_repr, Nat.toList_repr] at hmem
  rw [Nat.isDigit_of_mem_toDigits (by decide) (by decide) hmem] at hc
  cases hc

theorem toString_nat_injective {m n : Nat} (h : toString m = toString n) : m = n := by
  have hdigits := congrArg (fun text : String => Nat.ofDigitChars 10 text.toList 0) h
  simpa only [Nat.toString_eq_repr, Nat.toList_repr, Nat.ofDigitChars_ten_toDigits] using hdigits

theorem append_cons_inj {α : Type} {separator : α} {front front' back back' : List α}
    (hback : separator ∉ back) (hback' : separator ∉ back')
    (h : front ++ separator :: back = front' ++ separator :: back') :
    front = front' ∧ back = back' := by
  induction front generalizing front' with
  | nil =>
      cases front' with
      | nil => exact ⟨rfl, (List.cons.inj h).2⟩
      | cons x rest =>
          have htail : back = rest ++ separator :: back' := (List.cons.inj h).2
          exact absurd (by simp [htail]) hback
  | cons x rest ih =>
      cases front' with
      | nil =>
          have htail : rest ++ separator :: back = back' := (List.cons.inj h).2
          exact absurd (by simp [← htail]) hback'
      | cons y rest' =>
          obtain ⟨rfl, htail⟩ := List.cons.inj h
          obtain ⟨rfl, rfl⟩ := ih htail
          exact ⟨rfl, rfl⟩

theorem numbered_inj {name name' : String} {separator : Char} {m n : Nat}
    (hseparator : separator.isDigit = false)
    (h : name ++ String.singleton separator ++ toString m =
      name' ++ String.singleton separator ++ toString n) : name = name' ∧ m = n := by
  have hlists := congrArg String.toList h
  simp only [String.toList_append, String.toList_singleton, List.append_assoc,
    List.singleton_append] at hlists
  obtain ⟨hname, hdigits⟩ := append_cons_inj (not_mem_digits_of_not_isDigit hseparator m)
    (not_mem_digits_of_not_isDigit hseparator n) hlists
  exact ⟨String.toList_inj.mp hname, toString_nat_injective (String.toList_inj.mp hdigits)⟩

end Hybro.PythonText
