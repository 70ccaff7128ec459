import Hybro.Library.JsonText
import Mathlib.Tactic.IntervalCases

/-! # Reading JSON text

What `json.loads` makes of a text. Texts are Unicode scalar values, so that the escape of a
lone surrogate is refused. The main rule is that a flat object that was written is read back.
-/

namespace Hybro.JsonText

/-! ## Values -/

/-- A number with a fraction or an exponent is `mantissa * 10 ^ exponent`; `NaN` and the
infinities are not finite. An object keeps its members as they were written. -/
inductive Json
  | null
  | bool (value : Bool)
  | int (value : Int)
  | decimal (mantissa exponent : Int)
  | nonFinite
  | text (value : String)
  | array (items : List Json)
  | object (members : List (String × Json))

/-! ## Texts -/

def hexValue (c : Char) : Option Nat :=
  if '0' ≤ c ∧ c ≤ '9' then some (c.toNat - 48)
  else if 'a' ≤ c ∧ c ≤ 'f' then some (c.toNat - 87)
  else if 'A' ≤ c ∧ c ≤ 'F' then some (c.toNat - 55)
  else none

/-- The unit of `\uXXXX`. -/
def hexUnit (a b c d : Char) : Option Nat :=
  match hexValue a, hexValue b, hexValue c, hexValue d with
  | some a, some b, some c, some d => some (a * 4096 + b * 256 + c * 16 + d)
  | _, _, _, _ => none

def escaped : Char → Option Char
  | '"' => some '"'
  | '\\' => some '\\'
  | '/' => some '/'
  | 'b' => some (Char.ofNat 8)
  | 'f' => some (Char.ofNat 12)
  | 'n' => some '\n'
  | 'r' => some '\r'
  | 't' => some '\t'
  | _ => none

def putChar (c : Char) (read : Option (List Char × List Char)) : Option (List Char × List Char) :=
  read.map fun (text, rest) => (c :: text, rest)

def readText : List Char → Option (List Char × List Char)
  | [] => none
  | '"' :: rest => some ([], rest)
  | '\\' :: 'u' :: a :: b :: c :: d :: rest =>
      match hexUnit a b c d with
      | none => none
      | some unit =>
          if 55296 ≤ unit ∧ unit < 56320 then
            -- a character above the basic plane takes two escapes
            match rest with
            | '\\' :: 'u' :: e :: f :: g :: h :: rest =>
                match hexUnit e f g h with
                | none => none
                | some low =>
                    if 56320 ≤ low ∧ low < 57344 then
                      putChar (Char.ofNat (65536 + (unit - 55296) * 1024 + (low - 56320)))
                        (readText rest)
                    else none
            | _ => none
          else if 56320 ≤ unit ∧ unit < 57344 then none
          else putChar (Char.ofNat unit) (readText rest)
  | '\\' :: c :: rest =>
      match escaped c with
      | none => none
      | some c => putChar c (readText rest)
  | c :: rest => if c.toNat < 32 then none else putChar c (readText rest)

/-! ## Numbers -/

def readDigits (chars : List Char) : List Char × List Char :=
  (chars.takeWhile Char.isDigit, chars.dropWhile Char.isDigit)

/-- `0`, or digits that do not start with `0`. -/
def readNatural : List Char → Option (List Char × List Char)
  | '0' :: rest => some (['0'], rest)
  | c :: rest => if c.isDigit then some (readDigits (c :: rest)) else none
  | [] => none

/-- `\.[0-9]+`, if it is there. -/
def readFraction : List Char → List Char × List Char
  | '.' :: c :: rest => if c.isDigit then readDigits (c :: rest) else ([], '.' :: c :: rest)
  | chars => ([], chars)

/-- `[eE][-+]?[0-9]+`, if it is there. -/
def readExponent (chars : List Char) : Option Int × List Char :=
  match chars with
  | c :: rest =>
      if c = 'e' ∨ c = 'E' then
        let (negative, digits) := match rest with
          | '-' :: rest => (true, rest)
          | '+' :: rest => (false, rest)
          | rest => (false, rest)
        match digits with
        | d :: _ =>
            if d.isDigit then
              let (digits, rest) := readDigits digits
              let value : Int := Nat.ofDigitChars 10 digits 0
              (some (if negative then -value else value), rest)
            else (none, chars)
        | [] => (none, chars)
      else (none, chars)
  | [] => (none, chars)

def readUnsigned (negative : Bool) (chars : List Char) : Option (Json × List Char) :=
  match readNatural chars with
  | none => none
  | some (digits, rest) =>
      let (fraction, rest) := readFraction rest
      let (exponent, rest) := readExponent rest
      let size : Int := Nat.ofDigitChars 10 (digits ++ fraction) 0
      let signed : Int := if negative then -size else size
      match fraction, exponent with
      | [], none => some (.int signed, rest)
      | _, _ => some (.decimal signed (exponent.getD 0 - fraction.length), rest)

def readNumber : List Char → Option (Json × List Char)
  | '-' :: rest => readUnsigned true rest
  | chars => readUnsigned false chars

/-! ## Values of any kind -/

def isJsonBlank (c : Char) : Bool :=
  c == ' ' || c == '\t' || c == '\n' || c == '\r'

def skipBlanks (chars : List Char) : List Char :=
  chars.dropWhile isJsonBlank

mutual

def readValue : Nat → List Char → Option (Json × List Char)
  | 0, _ => none
  | fuel + 1, chars =>
      match chars with
      | '"' :: rest => (readText rest).map fun (text, rest) => (.text (String.ofList text), rest)
      | '\x7b' :: rest =>
          match skipBlanks rest with
          | '\x7d' :: rest => some (.object [], rest)
          | rest => (readMembers fuel rest).map fun (members, rest) => (.object members, rest)
      | '[' :: rest =>
          match skipBlanks rest with
          | ']' :: rest => some (.array [], rest)
          | rest => (readItems fuel rest).map fun (items, rest) => (.array items, rest)
      | 'n' :: 'u' :: 'l' :: 'l' :: rest => some (.null, rest)
      | 't' :: 'r' :: 'u' :: 'e' :: rest => some (.bool true, rest)
      | 'f' :: 'a' :: 'l' :: 's' :: 'e' :: rest => some (.bool false, rest)
      | 'N' :: 'a' :: 'N' :: rest => some (.nonFinite, rest)
      | 'I' :: 'n' :: 'f' :: 'i' :: 'n' :: 'i' :: 't' :: 'y' :: rest => some (.nonFinite, rest)
      | '-' :: 'I' :: 'n' :: 'f' :: 'i' :: 'n' :: 'i' :: 't' :: 'y' :: rest => some (.nonFinite, rest)
      | chars => readNumber chars

def readMembers : Nat → List Char → Option (List (String × Json) × List Char)
  | 0, _ => none
  | fuel + 1, chars =>
      match chars with
      | '"' :: rest =>
          match readText rest with
          | none => none
          | some (key, rest) =>
              match skipBlanks rest with
              | ':' :: rest =>
                  match readValue fuel (skipBlanks rest) with
                  | none => none
                  | some (value, rest) =>
                      match skipBlanks rest with
                      | '\x7d' :: rest => some ([(String.ofList key, value)], rest)
                      | ',' :: rest =>
                          (readMembers fuel (skipBlanks rest)).map fun (members, rest) =>
                            ((String.ofList key, value) :: members, rest)
                      | _ => none
              | _ => none
      | _ => none

def readItems : Nat → List Char → Option (List Json × List Char)
  | 0, _ => none
  | fuel + 1, chars =>
      match readValue fuel chars with
      | none => none
      | some (value, rest) =>
          match skipBlanks rest with
          | ']' :: rest => some ([value], rest)
          | ',' :: rest =>
              (readItems fuel (skipBlanks rest)).map fun (items, rest) => (value :: items, rest)
          | _ => none

end

/-- `json.loads`. The text is long enough to bound the depth and the length of what it holds. -/
def loads (text : String) : Option Json :=
  match readValue (text.toList.length + 1) (skipBlanks text.toList) with
  | some (value, rest) => if skipBlanks rest = [] then some value else none
  | none => none

/-! ## Texts that were written -/

theorem hexValue_digitChar {n : Nat} (h : n < 16) : hexValue (Nat.digitChar n) = some n := by
  revert n
  decide

theorem hexUnit_digits {unit : Nat} (h : unit < 65536) :
    hexUnit (Nat.digitChar (unit / 4096)) (Nat.digitChar (unit / 256 % 16))
      (Nat.digitChar (unit / 16 % 16)) (Nat.digitChar (unit % 16)) = some unit := by
  unfold hexUnit
  rw [hexValue_digitChar (by omega), hexValue_digitChar (by omega), hexValue_digitChar (by omega),
    hexValue_digitChar (by omega)]
  simp only [Option.some.injEq]
  omega

theorem toList_unicodeEscape (unit : Nat) :
    (unicodeEscape unit).toList = ['\\', 'u', Nat.digitChar (unit / 4096),
      Nat.digitChar (unit / 256 % 16), Nat.digitChar (unit / 16 % 16), Nat.digitChar (unit % 16)] := by
  unfold unicodeEscape
  simp only [String.toList_append, String.toList_ofList]
  rfl

theorem readText_plain {c : Char} {rest : List Char} (hquote : c ≠ '"') (hslash : c ≠ '\\')
    (h : 32 ≤ c.toNat) : readText (c :: rest) = putChar c (readText rest) := by
  conv => lhs; unfold readText
  split
  · simp_all
  · simp_all
  · simp_all
  · simp_all
  · rename_i heq
    cases heq
    rw [if_neg (by omega)]

theorem readText_unit {unit : Nat} {rest : List Char} (hunit : unit < 65536)
    (hscalar : unit < 55296 ∨ 57344 ≤ unit) :
    readText ((unicodeEscape unit).toList ++ rest) = putChar (Char.ofNat unit) (readText rest) := by
  rw [toList_unicodeEscape]
  simp only [List.cons_append, List.nil_append]
  rw [readText.eq_def]
  simp only [hexUnit_digits hunit]
  rw [if_neg (by omega), if_neg (by omega)]

theorem readText_pair {code : Nat} {rest : List Char} (hlow : 65536 ≤ code) (hhigh : code < 1114112) :
    readText ((unicodeEscape (55296 + (code - 65536) / 1024)).toList ++
      ((unicodeEscape (56320 + (code - 65536) % 1024)).toList ++ rest)) =
      putChar (Char.ofNat code) (readText rest) := by
  rw [toList_unicodeEscape, toList_unicodeEscape]
  simp only [List.cons_append, List.nil_append]
  rw [readText.eq_def]
  simp only [hexUnit_digits (show 55296 + (code - 65536) / 1024 < 65536 by omega)]
  rw [if_pos (by omega)]
  simp only [hexUnit_digits (show 56320 + (code - 65536) % 1024 < 65536 by omega)]
  have hcode : 65536 + (55296 + (code - 65536) / 1024 - 55296) * 1024 +
      (56320 + (code - 65536) % 1024 - 56320) = code := by omega
  rw [if_pos (by omega), hcode]

theorem readText_escapeChar (c : Char) (rest : List Char) :
    readText ((escapeChar c).toList ++ rest) = putChar c (readText rest) := by
  have hchar : c = Char.ofNat c.toNat := (Char.ofNat_toNat c).symm
  unfold escapeChar
  split
  case _ h => rw [hchar, h]; rfl
  case _ h => rw [hchar, h]; rfl
  case _ h => rw [hchar, h]; rfl
  case _ h => rw [hchar, h]; rfl
  case _ h => rw [hchar, h]; rfl
  case _ h => rw [hchar, h]; rfl
  case _ h => rw [hchar, h]; rfl
  case _ hquote hslash _ _ _ _ _ =>
    split
    case _ hprint =>
      rw [String.toList_singleton]
      apply readText_plain
      · rintro rfl
        exact hquote rfl
      · rintro rfl
        exact hslash rfl
      · exact hprint.1
    case _ hprint =>
      have hscalar : c.toNat < 55296 ∨ 57344 ≤ c.toNat ∧ c.toNat < 1114112 := by
        rcases c.valid with h | ⟨h, h'⟩
        · exact Or.inl h
        · exact Or.inr ⟨h, h'⟩
      split
      case _ hbasic =>
        rw [readText_unit hbasic (by omega), ← hchar]
      case _ hbasic =>
        rw [String.toList_append, List.append_assoc, readText_pair (by omega) (by omega), ← hchar]

theorem readText_quote (text : List Char) (rest : List Char) :
    readText (text.flatMap (fun c => (escapeChar c).toList) ++ '"' :: rest) = some (text, rest) := by
  induction text with
  | nil => rfl
  | cons c text ih =>
      rw [List.flatMap_cons, List.append_assoc, readText_escapeChar, ih]
      rfl

/-! ## Numbers -/

theorem isDigit_of_mem_repr {n : Nat} {c : Char} (h : c ∈ (Nat.repr n).toList) :
    c.isDigit = true := by
  rw [Nat.toList_repr] at h
  exact Nat.isDigit_of_mem_toDigits (by decide) (by decide) h

/-- What follows a number does not continue it. -/
def EndsNumber (rest : List Char) : Prop :=
  ∀ c ∈ rest.head?, c.isDigit = false ∧ c ≠ '.' ∧ c ≠ 'e' ∧ c ≠ 'E'

theorem readDigits_append {digits rest : List Char} (hdigits : ∀ c ∈ digits, c.isDigit = true)
    (hrest : EndsNumber rest) : readDigits (digits ++ rest) = (digits, rest) := by
  have htake : rest.takeWhile Char.isDigit = [] ∧ rest.dropWhile Char.isDigit = rest := by
    cases rest with
    | nil => exact ⟨rfl, rfl⟩
    | cons c rest =>
        have hc := (hrest c rfl).1
        simp [hc]
  unfold readDigits
  rw [List.takeWhile_append_of_pos hdigits, List.dropWhile_append_of_pos hdigits, htake.1, htake.2,
    List.append_nil]

theorem readFraction_none {rest : List Char} (hrest : EndsNumber rest) :
    readFraction rest = ([], rest) := by
  unfold readFraction
  split
  · exact absurd rfl (hrest '.' rfl).2.1
  · rfl

theorem readExponent_none {rest : List Char} (hrest : EndsNumber rest) :
    readExponent rest = (none, rest) := by
  unfold readExponent
  split
  · rename_i c rest
    have hc := (hrest c rfl).2.2
    rw [if_neg (by simp [hc])]
  · rfl

/-- Only `0` is written with a leading `0`. -/
theorem toDigits_head {n : Nat} (h : n ≠ 0) :
    ∃ c rest, Nat.toDigits 10 n = c :: rest ∧ c.isDigit = true ∧ c ≠ '0' := by
  induction n using Nat.strongRecOn with
  | ind n ih =>
      by_cases hsmall : n < 10
      · refine ⟨Nat.digitChar n, [], Nat.toDigits_of_lt_base hsmall, ?_⟩
        interval_cases n <;> first | exact absurd rfl h | decide
      · obtain ⟨c, rest, hdigits, hc⟩ := ih (n / 10) (by omega) (by omega)
        exact ⟨c, rest ++ [Nat.digitChar (n % 10)],
          by rw [Nat.toDigits_of_base_le (by decide) (by omega), hdigits]; rfl, hc⟩

theorem readNatural_repr {n : Nat} {rest : List Char} (hrest : EndsNumber rest) :
    readNatural ((Nat.repr n).toList ++ rest) = some ((Nat.repr n).toList, rest) := by
  by_cases hzero : n = 0
  · rw [hzero]
    rfl
  · obtain ⟨c, digits, hdigits, hdigit, hne⟩ := toDigits_head hzero
    have hall : ∀ c ∈ (Nat.repr n).toList, c.isDigit = true := fun c => isDigit_of_mem_repr
    have hread := readDigits_append hall hrest
    rw [Nat.toList_repr, hdigits, List.cons_append] at hread ⊢
    unfold readNatural
    split
    · rename_i heq
      exact absurd (List.cons.inj heq).1 hne
    · rename_i heq
      cases heq
      rw [if_pos hdigit, hread]
    · rename_i heq
      cases heq

theorem readUnsigned_repr {n : Nat} {rest : List Char} (negative : Bool) (hrest : EndsNumber rest) :
    readUnsigned negative ((Nat.repr n).toList ++ rest) =
      some (.int (if negative then -(n : Int) else n), rest) := by
  unfold readUnsigned
  rw [readNatural_repr hrest]
  simp only [readFraction_none hrest, readExponent_none hrest, List.append_nil]
  rw [Nat.toList_repr, Nat.ofDigitChars_ten_toDigits]

theorem readNumber_int (value : Int) {rest : List Char} (hrest : EndsNumber rest) :
    readNumber ((toString value).toList ++ rest) = some (.int value, rest) := by
  cases value with
  | ofNat n =>
      have hread := readUnsigned_repr (n := n) false hrest
      change readNumber ((Nat.repr n).toList ++ rest) = _
      unfold readNumber
      split
      · rename_i heq
        -- digits do not start with a sign
        have hmem : '-' ∈ (Nat.repr n).toList := by
          have hne : (Nat.repr n).toList ≠ [] := by simp
          obtain ⟨c, digits, hdigits⟩ := List.exists_cons_of_ne_nil hne
          rw [hdigits, List.cons_append] at heq
          rw [hdigits, (List.cons.inj heq).1]
          exact List.mem_cons_self
        exact absurd (isDigit_of_mem_repr hmem) (by decide)
      · exact hread
  | negSucc n =>
      have hread := readUnsigned_repr (n := n + 1) true hrest
      have hwritten : (toString (Int.negSucc n)).toList = '-' :: (Nat.repr (n + 1)).toList := by
        change ("-" ++ Nat.repr (n + 1)).toList = _
        rw [String.toList_append]
        rfl
      rw [hwritten, List.cons_append]
      exact hread

/-! ## Flat objects -/

inductive Scalar
  | text (value : String)
  | int (value : Int)

def Scalar.json : Scalar → Json
  | .text value => .text value
  | .int value => .int value

/-- What `json.dumps` writes for it. -/
def Scalar.written : Scalar → String
  | .text value => quote value
  | .int value => toString value

theorem toList_quote (text : String) : (quote text).toList =
    '"' :: (text.toList.flatMap (fun c => (escapeChar c).toList) ++ ['"']) := by
  unfold quote
  have hquote : "\"".toList = ['"'] := rfl
  rw [String.toList_append, String.toList_append, String.toList_join, List.flatMap_map, hquote]
  rfl

theorem skipBlanks_cons {c : Char} {rest : List Char} (h : isJsonBlank c = false) :
    skipBlanks (c :: rest) = c :: rest := by
  simp [skipBlanks, h]

theorem int_head (value : Int) : ∃ c digits, (toString value).toList = c :: digits ∧
    (c.isDigit = true ∨ c = '-' ∧ ∃ d rest, digits = d :: rest ∧ d.isDigit = true) := by
  cases value with
  | ofNat n =>
      have hne : (Nat.repr n).toList ≠ [] := by simp
      obtain ⟨c, digits, hdigits⟩ := List.exists_cons_of_ne_nil hne
      have hmem : c ∈ (Nat.repr n).toList := hdigits ▸ List.mem_cons_self
      exact ⟨c, digits, hdigits, Or.inl (isDigit_of_mem_repr hmem)⟩
  | negSucc n =>
      refine ⟨'-', (Nat.repr (n + 1)).toList, ?_, Or.inr ⟨rfl, ?_⟩⟩
      · change ("-" ++ Nat.repr (n + 1)).toList = _
        rw [String.toList_append]
        rfl
      · have hne : (Nat.repr (n + 1)).toList ≠ [] := by simp
        obtain ⟨d, digits, hdigits⟩ := List.exists_cons_of_ne_nil hne
        have hmem : d ∈ (Nat.repr (n + 1)).toList := hdigits ▸ List.mem_cons_self
        exact ⟨d, digits, hdigits, isDigit_of_mem_repr hmem⟩

theorem readValue_int (fuel : Nat) (value : Int) {rest : List Char} (hrest : EndsNumber rest) :
    readValue (fuel + 1) ((toString value).toList ++ rest) = some (.int value, rest) := by
  have hread := readNumber_int value hrest
  obtain ⟨c, digits, hdigits, hhead⟩ := int_head value
  rw [hdigits, List.cons_append] at hread ⊢
  have hnot : ∀ d : Char, d.isDigit = false → d ≠ '-' → c ≠ d := by
    rintro d hd hsign rfl
    rcases hhead with hdigit | ⟨hminus, -⟩
    · rw [hd] at hdigit
      cases hdigit
    · exact hsign hminus
  unfold readValue
  split
  case _ heq => exact absurd (List.cons.inj heq).1 (hnot '"' (by decide) (by decide))
  case _ heq => exact absurd (List.cons.inj heq).1 (hnot '\x7b' (by decide) (by decide))
  case _ heq => exact absurd (List.cons.inj heq).1 (hnot '[' (by decide) (by decide))
  case _ heq => exact absurd (List.cons.inj heq).1 (hnot 'n' (by decide) (by decide))
  case _ heq => exact absurd (List.cons.inj heq).1 (hnot 't' (by decide) (by decide))
  case _ heq => exact absurd (List.cons.inj heq).1 (hnot 'f' (by decide) (by decide))
  case _ heq => exact absurd (List.cons.inj heq).1 (hnot 'N' (by decide) (by decide))
  case _ heq => exact absurd (List.cons.inj heq).1 (hnot 'I' (by decide) (by decide))
  case _ heq =>
    obtain ⟨rfl, hrest'⟩ := List.cons.inj heq
    rcases hhead with hdigit | ⟨-, d, later, rfl, hd⟩
    · exact absurd hdigit (by decide)
    · rw [(List.cons.inj hrest').1] at hd
      exact absurd hd (by decide)
  case _ => exact hread

/-- What follows a member: a comma or the closing brace. -/
def EndsMember (rest : List Char) : Prop :=
  ∃ later, rest = ',' :: later ∨ rest = '\x7d' :: later

theorem EndsMember.endsNumber {rest : List Char} (h : EndsMember rest) : EndsNumber rest := by
  obtain ⟨later, rfl | rfl⟩ := h
  · intro c hc
    obtain rfl := Option.some.inj hc
    decide
  · intro c hc
    obtain rfl := Option.some.inj hc
    decide

theorem readValue_scalar (fuel : Nat) (value : Scalar) {rest : List Char} (hrest : EndsMember rest) :
    readValue (fuel + 1) (value.written.toList ++ rest) = some (value.json, rest) := by
  cases value with
  | text text =>
      have hread := readText_quote text.toList rest
      change readValue (fuel + 1) ((quote text).toList ++ rest) = _
      rw [toList_quote, List.cons_append, List.append_assoc]
      unfold readValue
      change (readText (text.toList.flatMap (fun c => (escapeChar c).toList) ++ '"' :: rest)).map _ = _
      rw [hread]
      simp [Scalar.json]
  | int value => exact readValue_int fuel value hrest.endsNumber

theorem scalar_head (value : Scalar) :
    ∃ c chars, value.written.toList = c :: chars ∧ isJsonBlank c = false := by
  cases value with
  | text text => exact ⟨'"', _, toList_quote text, rfl⟩
  | int value =>
      obtain ⟨c, digits, hdigits, hhead⟩ := int_head value
      refine ⟨c, digits, hdigits, ?_⟩
      rcases hhead with hdigit | ⟨rfl, -⟩
      · by_contra hblank
        simp only [isJsonBlank, Bool.not_eq_false, Bool.or_eq_true, beq_iff_eq] at hblank
        rcases hblank with ((rfl | rfl) | rfl) | rfl <;> exact absurd hdigit (by decide)
      · rfl

def memberChars : List (String × Scalar) → List Char
  | [] => ['\x7d']
  | [(key, value)] => (quote key).toList ++ ':' :: (value.written.toList ++ ['\x7d'])
  | (key, value) :: members =>
      (quote key).toList ++ ':' :: (value.written.toList ++ ',' :: memberChars members)

theorem toList_object (members : List (String × Scalar)) :
    (object (members.map fun (key, value) => (key, value.written))).toList =
      '\x7b' :: memberChars members := by
  have hjoined : (String.intercalate "," (members.map fun (key, value) =>
      quote key ++ ":" ++ value.written)).toList ++ ['\x7d'] = memberChars members := by
    induction members with
    | nil => rfl
    | cons member members ih =>
        obtain ⟨key, value⟩ := member
        cases members with
        | nil => simp [memberChars]
        | cons next members =>
            rw [List.map_cons, String.intercalate_cons_of_ne_nil (by simp), String.toList_append,
              List.append_assoc, ih]
            simp [memberChars]
  unfold object
  rw [← hjoined, List.map_map, String.toList_append, String.toList_append]
  rfl

theorem readMembers_member (fuel : Nat) (key : String) (value : Scalar) (rest : List Char) :
    EndsMember rest →
    readMembers (fuel + 2) ((quote key).toList ++ ':' :: (value.written.toList ++ rest)) =
      match rest with
      | '\x7d' :: rest => some ([(key, value.json)], rest)
      | ',' :: rest =>
          (readMembers (fuel + 1) (skipBlanks rest)).map fun (members, rest) =>
            ((key, value.json) :: members, rest)
      | _ => none := by
  intro hrest
  obtain ⟨c, chars, hchars, hblank⟩ := scalar_head value
  have hvalue := readValue_scalar fuel value hrest
  have hskip : skipBlanks (value.written.toList ++ rest) = value.written.toList ++ rest := by
    rw [hchars, List.cons_append]
    exact skipBlanks_cons hblank
  have hkey := readText_quote key.toList (':' :: (value.written.toList ++ rest))
  rw [toList_quote, List.cons_append, List.append_assoc, List.singleton_append]
  conv => lhs; unfold readMembers
  simp only [hkey, skipBlanks_cons (show isJsonBlank ':' = false from rfl), hskip, hvalue,
    String.ofList_toList]
  obtain ⟨later, rfl | rfl⟩ := hrest
  · rw [skipBlanks_cons rfl]
  · rw [skipBlanks_cons rfl]

theorem memberChars_head (member : String × Scalar) (members : List (String × Scalar)) :
    ∃ chars, memberChars (member :: members) = '"' :: chars := by
  cases members <;> simp [memberChars, toList_quote]

theorem readMembers_chars {members : List (String × Scalar)} (hne : members ≠ []) {fuel : Nat}
    (hfuel : members.length < fuel) (rest : List Char) :
    readMembers fuel (memberChars members ++ rest) =
      some (members.map fun (key, value) => (key, value.json), rest) := by
  induction members generalizing fuel with
  | nil => exact absurd rfl hne
  | cons member members ih =>
      obtain ⟨key, value⟩ := member
      obtain ⟨spare, rfl⟩ : ∃ spare, fuel = spare + 2 := ⟨fuel - 2, by simp at hfuel; omega⟩
      cases members with
      | nil =>
          have hread := readMembers_member spare key value ('\x7d' :: rest) ⟨rest, Or.inr rfl⟩
          simpa [memberChars] using hread
      | cons next members =>
          have hnext : readMembers (spare + 1) (memberChars (next :: members) ++ rest) = _ :=
            ih (by simp) (by simpa using hfuel)
          have hread := readMembers_member spare key value
            (',' :: (memberChars (next :: members) ++ rest)) ⟨_, Or.inl rfl⟩
          obtain ⟨chars, hchars⟩ := memberChars_head next members
          have hskip : skipBlanks (memberChars (next :: members) ++ rest) =
              memberChars (next :: members) ++ rest := by
            rw [hchars]
            exact skipBlanks_cons rfl
          simp only [hskip, hnext] at hread
          simpa [memberChars] using hread

theorem length_memberChars (members : List (String × Scalar)) :
    members.length + 1 ≤ (memberChars members).length := by
  induction members with
  | nil => simp [memberChars]
  | cons member members ih =>
      cases members with
      | nil =>
          simp [memberChars]
          omega
      | cons next members =>
          simp [memberChars] at ih ⊢
          omega

theorem loads_object (members : List (String × Scalar)) :
    loads (object (members.map fun (key, value) => (key, value.written))) =
      some (.object (members.map fun (key, value) => (key, value.json))) := by
  unfold loads
  rw [toList_object, skipBlanks_cons rfl]
  cases members with
  | nil => rfl
  | cons member members =>
      obtain ⟨chars, hchars⟩ := memberChars_head member members
      have hfuel := length_memberChars (member :: members)
      have hread : readMembers ((memberChars (member :: members)).length + 1)
          (memberChars (member :: members) ++ []) = _ :=
        readMembers_chars (List.cons_ne_nil member members) (by omega) []
      rw [List.append_nil] at hread
      have hskip : skipBlanks (memberChars (member :: members)) = memberChars (member :: members) := by
        rw [hchars]
        exact skipBlanks_cons rfl
      have hvalue : readValue ((memberChars (member :: members)).length + 1 + 1)
          ('\x7b' :: memberChars (member :: members)) =
          some (.object ((member :: members).map fun (key, value) => (key, value.json)), []) := by
        unfold readValue
        simp only [hskip]
        split
        · rename_i heq
          rw [hchars] at heq
          exact absurd (List.cons.inj heq).1 (by decide)
        · rw [hread]
          rfl
      rw [List.length_cons, hvalue]
      rfl

/-! ## Lengths -/

theorem length_le_flatMap_escapeChar (chars : List Char) :
    chars.length ≤ (chars.flatMap fun c => (escapeChar c).toList).length := by
  induction chars with
  | nil => simp
  | cons c chars ih =>
      have hread := readText_escapeChar c ['"']
      have hpos : (escapeChar c).toList ≠ [] := by
        intro hempty
        rw [hempty] at hread
        cases hread
      have := List.length_pos_iff.mpr hpos
      simp only [List.flatMap_cons, List.length_append, List.length_cons]
      omega

theorem length_le_memberChars {members : List (String × Scalar)} {key text : String}
    (h : (key, .text text) ∈ members) :
    text.length ≤ (memberChars members).length := by
  induction members with
  | nil => cases h
  | cons member members ih =>
      have hescaped := length_le_flatMap_escapeChar text.toList
      rw [String.length_toList] at hescaped
      rcases List.mem_cons.mp h with rfl | hmem
      · cases members <;>
          simp only [memberChars, Scalar.written, toList_quote,
            List.length_append, List.length_cons] <;> omega
      · cases members with
        | nil => cases hmem
        | cons next members =>
            have hle := ih hmem
            simp only [memberChars, List.length_append, List.length_cons]
            omega

end Hybro.JsonText
