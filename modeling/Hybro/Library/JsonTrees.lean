import Hybro.Library.JsonReader

/-! # Whole JSON documents

What `json.dumps` writes of a document whose numbers are integers, with blanks after its commas
and colons. A document that was written is read back, and its text is one printable line.
-/

namespace Hybro.JsonText

/-! ## Documents -/

inductive Tree
  | null
  | bool (value : Bool)
  | int (value : Int)
  | text (value : String)
  | array (items : List Tree)
  | object (members : List (String × Tree))

mutual

/-- What `json.loads` makes of it. -/
def Tree.json : Tree → Json
  | .null => .null
  | .bool value => .bool value
  | .int value => .int value
  | .text value => .text value
  | .array items => .array (jsonItems items)
  | .object members => .object (jsonMembers members)

def jsonItems : List Tree → List Json
  | [] => []
  | item :: items => item.json :: jsonItems items

def jsonMembers : List (String × Tree) → List (String × Json)
  | [] => []
  | (key, value) :: members => (key, value.json) :: jsonMembers members

end

section Written

-- what stands after a comma or a colon: one blank by default, nothing in compact text
variable (gap : List Char)

mutual

def Tree.written : Tree → List Char
  | .null => ['n', 'u', 'l', 'l']
  | .bool true => ['t', 'r', 'u', 'e']
  | .bool false => ['f', 'a', 'l', 's', 'e']
  | .int value => (toString value).toList
  | .text value => (quote value).toList
  | .array items => '[' :: writtenItems items
  | .object members => '\x7b' :: writtenMembers members

def writtenItems : List Tree → List Char
  | [] => [']']
  | [item] => item.written ++ [']']
  | item :: items => item.written ++ ',' :: (gap ++ writtenItems items)

def writtenMembers : List (String × Tree) → List Char
  | [] => ['\x7d']
  | [(key, value)] => (quote key).toList ++ ':' :: (gap ++ (value.written ++ ['\x7d']))
  | (key, value) :: members =>
      (quote key).toList ++ ':' :: (gap ++ (value.written ++ ',' :: (gap ++ writtenMembers members)))

end

end Written

def dumps (document : Tree) : String := String.ofList (document.written [' '])

/-! ## What follows a value -/

variable {gap : List Char}

/-- After an item or a member comes a comma or the closing sign. -/
def Closes (close : Char) (rest : List Char) : Prop :=
  ∃ later, rest = ',' :: later ∨ rest = close :: later

theorem Closes.endsNumber {close : Char} {rest : List Char} (h : Closes close rest)
    (hclose : close = ']' ∨ close = '\x7d') : EndsNumber rest := by
  obtain ⟨later, rfl | rfl⟩ := h
  · intro c hc
    obtain rfl := Option.some.inj hc
    decide
  · intro c hc
    obtain rfl := Option.some.inj hc
    rcases hclose with rfl | rfl <;> decide

theorem skipBlanks_gap (hgap : ∀ c ∈ gap, isJsonBlank c = true) {c : Char}
    (hc : isJsonBlank c = false) (rest : List Char) :
    skipBlanks (gap ++ c :: rest) = c :: rest := by
  unfold skipBlanks
  rw [List.dropWhile_append_of_pos hgap, List.dropWhile_cons_of_neg (by simp [hc])]

theorem written_head (gap : List Char) (document : Tree) :
    ∃ c chars, document.written gap = c :: chars ∧ isJsonBlank c = false ∧ c ≠ ']' ∧ c ≠ '\x7d' := by
  cases document with
  | null => exact ⟨'n', _, by rw [Tree.written], by decide⟩
  | bool value => cases value with
    | true => exact ⟨'t', _, by rw [Tree.written], by decide⟩
    | false => exact ⟨'f', _, by rw [Tree.written], by decide⟩
  | int value =>
      obtain ⟨c, digits, hdigits, hhead⟩ := int_head value
      refine ⟨c, digits, by rw [Tree.written, hdigits], ?_⟩
      rcases hhead with hdigit | ⟨rfl, -⟩
      · refine ⟨?_, ?_, ?_⟩
        · by_contra hblank
          simp only [isJsonBlank, Bool.not_eq_false, Bool.or_eq_true, beq_iff_eq] at hblank
          rcases hblank with ((rfl | rfl) | rfl) | rfl <;> exact absurd hdigit (by decide)
        · rintro rfl
          exact absurd hdigit (by decide)
        · rintro rfl
          exact absurd hdigit (by decide)
      · decide
  | text value => exact ⟨'"', _, by rw [Tree.written, toList_quote], by decide⟩
  | array items => exact ⟨'[', _, by rw [Tree.written], by decide⟩
  | object members => exact ⟨'\x7b', _, by rw [Tree.written], by decide⟩

theorem writtenMembers_head (gap : List Char) (member : String × Tree)
    (members : List (String × Tree)) : ∃ chars, writtenMembers gap (member :: members) = '"' :: chars := by
  cases members <;> simp [writtenMembers, toList_quote]

theorem writtenItems_head (gap : List Char) (item : Tree) (items : List Tree) :
    ∃ c chars, writtenItems gap (item :: items) = c :: chars ∧ isJsonBlank c = false ∧
      c ≠ ']' := by
  obtain ⟨c, chars, hchars, hblank, hbracket, -⟩ := written_head gap item
  cases items with
  | nil => exact ⟨c, _, by rw [writtenItems, hchars, List.cons_append], hblank, hbracket⟩
  | cons next items =>
      refine ⟨c, chars ++ ',' :: (gap ++ writtenItems gap (next :: items)), ?_, hblank, hbracket⟩
      rw [writtenItems, hchars, List.cons_append]
      simp

/-! ## Reading -/

theorem readValue_literal (fuel : Nat) (rest : List Char) :
    readValue (fuel + 1) ('n' :: 'u' :: 'l' :: 'l' :: rest) = some (.null, rest) ∧
    readValue (fuel + 1) ('t' :: 'r' :: 'u' :: 'e' :: rest) = some (.bool true, rest) ∧
    readValue (fuel + 1) ('f' :: 'a' :: 'l' :: 's' :: 'e' :: rest) = some (.bool false, rest) := by
  refine ⟨?_, ?_, ?_⟩ <;> unfold readValue <;> rfl

theorem readValue_text (fuel : Nat) (text : String) (rest : List Char) :
    readValue (fuel + 1) ((quote text).toList ++ rest) = some (.text text, rest) := by
  have hread := readText_quote text.toList rest
  rw [toList_quote, List.cons_append, List.append_assoc]
  unfold readValue
  change (readText (text.toList.flatMap (fun c => (escapeChar c).toList) ++ '"' :: rest)).map _ = _
  rw [hread]
  simp

theorem readValue_array {fuel : Nat} {c : Char} {chars rest : List Char} {items : List Json}
    (hblank : isJsonBlank c = false) (hc : c ≠ ']')
    (h : readItems fuel (c :: chars) = some (items, rest)) :
    readValue (fuel + 1) ('[' :: c :: chars) = some (.array items, rest) := by
  unfold readValue
  simp only [skipBlanks_cons hblank]
  split
  · rename_i heq
    exact absurd (List.cons.inj heq).1 hc
  · rw [h]
    rfl

theorem readValue_object {fuel : Nat} {c : Char} {chars rest : List Char}
    {members : List (String × Json)} (hblank : isJsonBlank c = false) (hc : c ≠ '\x7d')
    (h : readMembers fuel (c :: chars) = some (members, rest)) :
    readValue (fuel + 1) ('\x7b' :: c :: chars) = some (.object members, rest) := by
  unfold readValue
  simp only [skipBlanks_cons hblank]
  split
  · rename_i heq
    exact absurd (List.cons.inj heq).1 hc
  · rw [h]
    rfl

theorem readItems_item {fuel : Nat} {value : Json} {chars rest : List Char}
    (hvalue : readValue fuel chars = some (value, rest)) (hrest : Closes ']' rest) :
    readItems (fuel + 1) chars =
      if rest.head? = some ']' then some ([value], rest.tail)
      else (readItems fuel (skipBlanks rest.tail)).map fun read => (value :: read.1, read.2) := by
  conv => lhs; unfold readItems
  obtain ⟨later, rfl | rfl⟩ := hrest
  · simp only [hvalue, skipBlanks_cons (show isJsonBlank ',' = false from rfl)]
    rfl
  · simp only [hvalue, skipBlanks_cons (show isJsonBlank ']' = false from rfl)]
    rfl

theorem readMembers_tree (hgap : ∀ c ∈ gap, isJsonBlank c = true) {fuel : Nat} (key : String)
    {value : Json} {chars rest : List Char}
    (hhead : ∃ c later, chars = c :: later ∧ isJsonBlank c = false)
    (hvalue : readValue fuel chars = some (value, rest)) (hrest : Closes '\x7d' rest) :
    readMembers (fuel + 1) ((quote key).toList ++ ':' :: (gap ++ chars)) =
      if rest.head? = some '\x7d' then some ([(key, value)], rest.tail)
      else (readMembers fuel (skipBlanks rest.tail)).map fun read =>
        ((key, value) :: read.1, read.2) := by
  obtain ⟨c, later, rfl, hblank⟩ := hhead
  have hkey := readText_quote key.toList (':' :: (gap ++ c :: later))
  rw [toList_quote, List.cons_append, List.append_assoc, List.singleton_append]
  conv => lhs; unfold readMembers
  simp only [hkey, skipBlanks_cons (show isJsonBlank ':' = false from rfl),
    skipBlanks_gap hgap hblank, hvalue, String.ofList_toList]
  obtain ⟨later, rfl | rfl⟩ := hrest
  · rw [skipBlanks_cons rfl]
    rfl
  · rw [skipBlanks_cons rfl]
    rfl

/-! ## Round trip -/

mutual

theorem readValue_written (hgap : ∀ c ∈ gap, isJsonBlank c = true) (document : Tree) (fuel : Nat)
    (hfuel : (document.written gap).length ≤ fuel) {rest : List Char} (hrest : EndsNumber rest) :
    readValue fuel (document.written gap ++ rest) = some (document.json, rest) := by
  obtain ⟨c, chars, hchars, -⟩ := written_head gap document
  obtain ⟨spare, rfl⟩ : ∃ spare, fuel = spare + 1 :=
    ⟨fuel - 1, by rw [hchars, List.length_cons] at hfuel; omega⟩
  cases document with
  | null => exact (readValue_literal spare rest).1
  | bool value => cases value with
    | true => exact (readValue_literal spare rest).2.1
    | false => exact (readValue_literal spare rest).2.2
  | int value => exact readValue_int spare value hrest
  | text value => exact readValue_text spare value rest
  | array items =>
      cases items with
      | nil =>
          unfold readValue
          rfl
      | cons item items =>
          obtain ⟨c, chars, hchars, hblank, hbracket⟩ := writtenItems_head gap item items
          have hread := readItems_written hgap (item :: items) (List.cons_ne_nil item items)
            spare (by simpa [Tree.written] using hfuel) rest
          rw [hchars, List.cons_append] at hread
          rw [Tree.written, hchars, List.cons_append, List.cons_append,
            readValue_array hblank hbracket hread, Tree.json]
  | object members =>
      cases members with
      | nil =>
          unfold readValue
          rfl
      | cons member members =>
          obtain ⟨chars, hchars⟩ := writtenMembers_head gap member members
          have hread := readMembers_written hgap (member :: members)
            (List.cons_ne_nil member members) spare
            (by simpa [Tree.written] using hfuel) rest
          rw [hchars, List.cons_append] at hread
          rw [Tree.written, hchars, List.cons_append, List.cons_append,
            readValue_object (by rfl) (by decide) hread, Tree.json]

theorem readItems_written (hgap : ∀ c ∈ gap, isJsonBlank c = true) (items : List Tree)
    (hne : items ≠ []) (fuel : Nat) (hfuel : (writtenItems gap items).length ≤ fuel)
    (rest : List Char) :
    readItems fuel (writtenItems gap items ++ rest) = some (jsonItems items, rest) := by
  cases items with
  | nil => exact absurd rfl hne
  | cons item items =>
      obtain ⟨c, chars, hchars, -⟩ := writtenItems_head gap item items
      obtain ⟨spare, rfl⟩ : ∃ spare, fuel = spare + 1 :=
        ⟨fuel - 1, by rw [hchars, List.length_cons] at hfuel; omega⟩
      cases items with
      | nil =>
          have hclose : Closes ']' (']' :: rest) := ⟨rest, .inr rfl⟩
          have hvalue := readValue_written hgap item spare
            (by simp [writtenItems] at hfuel; omega) (hclose.endsNumber (.inl rfl))
          rw [writtenItems, List.append_assoc, List.singleton_append,
            readItems_item hvalue hclose]
          rfl
      | cons next items =>
          have hclose : Closes ']' (',' :: (gap ++ writtenItems gap (next :: items) ++ rest)) :=
            ⟨_, .inl rfl⟩
          have hsize : (item.written gap).length +
              (1 + (gap.length + (writtenItems gap (next :: items)).length)) ≤ spare + 1 := by
            rw [writtenItems] at hfuel
            · simp only [List.length_append, List.length_cons] at hfuel
              omega
            · simp
          obtain ⟨d, valueChars, hvalueChars, -⟩ := written_head gap item
          have hpos : 0 < (item.written gap).length := by simp [hvalueChars]
          have hvalue := readValue_written hgap item spare (by omega)
            (hclose.endsNumber (.inl rfl))
          have hnext := readItems_written hgap (next :: items) (List.cons_ne_nil next items)
            spare (by omega) rest
          obtain ⟨e, nextChars, hnextChars, hblank, -⟩ := writtenItems_head gap next items
          have hskip : skipBlanks (gap ++ writtenItems gap (next :: items) ++ rest) =
              writtenItems gap (next :: items) ++ rest := by
            rw [hnextChars, List.append_assoc, List.cons_append, skipBlanks_gap hgap hblank]
          have hread := readItems_item hvalue hclose
          rw [List.tail_cons, hskip, hnext] at hread
          rw [writtenItems]
          · simpa [jsonItems] using hread
          · simp

theorem readMembers_written (hgap : ∀ c ∈ gap, isJsonBlank c = true)
    (members : List (String × Tree)) (hne : members ≠ []) (fuel : Nat)
    (hfuel : (writtenMembers gap members).length ≤ fuel) (rest : List Char) :
    readMembers fuel (writtenMembers gap members ++ rest) = some (jsonMembers members, rest) := by
  cases members with
  | nil => exact absurd rfl hne
  | cons member members =>
      obtain ⟨key, value⟩ := member
      obtain ⟨chars, hchars⟩ := writtenMembers_head gap (key, value) members
      obtain ⟨spare, rfl⟩ : ∃ spare, fuel = spare + 1 :=
        ⟨fuel - 1, by rw [hchars, List.length_cons] at hfuel; omega⟩
      obtain ⟨c, valueChars, hvalueChars, hblank, -⟩ := written_head gap value
      cases members with
      | nil =>
          have hclose : Closes '\x7d' ('\x7d' :: rest) := ⟨rest, .inr rfl⟩
          have hvalue := readValue_written hgap value spare
            (by simp [writtenMembers] at hfuel; omega) (hclose.endsNumber (.inr rfl))
          have hread := readMembers_tree hgap key
            ⟨c, _, by rw [hvalueChars, List.cons_append], hblank⟩ hvalue hclose
          simpa [writtenMembers, jsonMembers] using hread
      | cons next members =>
          have hclose : Closes '\x7d'
              (',' :: (gap ++ writtenMembers gap (next :: members) ++ rest)) := ⟨_, .inl rfl⟩
          have hsize : (value.written gap).length +
              (1 + (gap.length + (writtenMembers gap (next :: members)).length)) ≤ spare := by
            rw [writtenMembers] at hfuel
            · simp only [List.length_append, List.length_cons, toList_quote] at hfuel
              omega
            · simp
          have hvalue := readValue_written hgap value spare (by omega)
            (hclose.endsNumber (.inr rfl))
          have hnext := readMembers_written hgap (next :: members) (List.cons_ne_nil next members)
            spare (by omega) rest
          obtain ⟨nextChars, hnextChars⟩ := writtenMembers_head gap next members
          have hskip : skipBlanks (gap ++ writtenMembers gap (next :: members) ++ rest) =
              writtenMembers gap (next :: members) ++ rest := by
            rw [hnextChars, List.append_assoc, List.cons_append, skipBlanks_gap hgap rfl]
          have hread := readMembers_tree hgap key
            ⟨c, _, by rw [hvalueChars, List.cons_append], hblank⟩ hvalue hclose
          rw [List.tail_cons, hskip, hnext] at hread
          rw [writtenMembers]
          · simpa [jsonMembers] using hread
          · simp

end

theorem loads_dumps (document : Tree) : loads (dumps document) = some document.json := by
  obtain ⟨c, chars, hchars, hblank, -⟩ := written_head [' '] document
  have hgap : ∀ c ∈ [' '], isJsonBlank c = true := by simp [isJsonBlank]
  have hend : EndsNumber [] := by simp [EndsNumber]
  have hread := readValue_written hgap document _ (Nat.le_succ _) hend
  rw [List.append_nil] at hread
  have hskip : skipBlanks (document.written [' ']) = document.written [' '] := by
    rw [hchars]
    exact skipBlanks_cons hblank
  simp only [loads, dumps, String.toList_ofList, hskip, hread]
  rfl

/-! ## One line -/

def Printable (c : Char) : Prop := 32 ≤ c.toNat ∧ c.toNat ≤ 126

theorem printable_digitChar {n : Nat} (h : n < 16) : Printable (Nat.digitChar n) := by
  revert n
  unfold Printable
  decide

theorem printable_unicodeEscape {unit : Nat} (h : unit < 65536) :
    ∀ c ∈ (unicodeEscape unit).toList, Printable c := by
  rw [toList_unicodeEscape]
  intro c hc
  simp only [List.mem_cons, List.not_mem_nil, or_false] at hc
  rcases hc with rfl | rfl | rfl | rfl | rfl | rfl
  · exact ⟨by decide, by decide⟩
  · exact ⟨by decide, by decide⟩
  · exact printable_digitChar (by omega)
  · exact printable_digitChar (by omega)
  · exact printable_digitChar (by omega)
  · exact printable_digitChar (by omega)

theorem printable_escapeChar (c : Char) : ∀ d ∈ (escapeChar c).toList, Printable d := by
  have hcode : c.toNat < 1114112 := by
    have hvalid := c.valid
    rcases hvalid with hlow | ⟨-, hhigh⟩
    · exact Nat.lt_trans hlow (by decide)
    · exact hhigh
  unfold escapeChar
  split
  iterate 7
    intro d hd
    simp at hd
    rcases hd with rfl | rfl <;> exact ⟨by decide, by decide⟩
  split
  · rename_i hplain
    intro d hd
    rw [String.toList_singleton, List.mem_singleton] at hd
    rw [hd]
    exact hplain
  · split
    · rename_i hunit
      exact printable_unicodeEscape hunit
    · intro d hd
      rw [String.toList_append, List.mem_append] at hd
      rcases hd with hd | hd
      · exact printable_unicodeEscape (by omega) d hd
      · exact printable_unicodeEscape (by omega) d hd

theorem printable_quote (text : String) : ∀ c ∈ (quote text).toList, Printable c := by
  intro c hc
  rw [toList_quote] at hc
  simp only [List.mem_cons, List.mem_append, List.mem_flatMap, List.not_mem_nil, or_false] at hc
  rcases hc with rfl | ⟨d, -, hd⟩ | rfl
  · exact ⟨by decide, by decide⟩
  · exact printable_escapeChar d c hd
  · exact ⟨by decide, by decide⟩

theorem printable_of_isDigit {c : Char} (h : c.isDigit = true) : Printable c := by
  simp only [Char.isDigit, Bool.and_eq_true, decide_eq_true_eq] at h
  have hlow : 48 ≤ c.toNat := UInt32.le_iff_toNat_le.mp h.1
  have hhigh : c.toNat ≤ 57 := UInt32.le_iff_toNat_le.mp h.2
  exact ⟨by omega, by omega⟩

theorem printable_int (value : Int) : ∀ c ∈ (toString value).toList, Printable c := by
  cases value with
  | ofNat n =>
      intro c hc
      exact printable_of_isDigit (isDigit_of_mem_repr hc)
  | negSucc n =>
      intro c hc
      have htext : (toString (Int.negSucc n)).toList = '-' :: (Nat.repr (n + 1)).toList := by
        change ("-" ++ Nat.repr (n + 1)).toList = _
        rw [String.toList_append]
        rfl
      rw [htext] at hc
      rcases List.mem_cons.mp hc with rfl | hc
      · exact ⟨by decide, by decide⟩
      · exact printable_of_isDigit (isDigit_of_mem_repr hc)

mutual

theorem printable_written (hgap : ∀ c ∈ gap, Printable c) (document : Tree) :
    ∀ c ∈ document.written gap, Printable c := by
  intro c hc
  cases document with
  | null =>
      simp only [Tree.written, List.mem_cons, List.not_mem_nil, or_false] at hc
      rcases hc with rfl | rfl | rfl | rfl <;> exact ⟨by decide, by decide⟩
  | bool value => cases value with
    | true =>
        simp only [Tree.written, List.mem_cons, List.not_mem_nil, or_false] at hc
        rcases hc with rfl | rfl | rfl | rfl <;> exact ⟨by decide, by decide⟩
    | false =>
        simp only [Tree.written, List.mem_cons, List.not_mem_nil, or_false] at hc
        rcases hc with rfl | rfl | rfl | rfl | rfl <;> exact ⟨by decide, by decide⟩
  | int value => exact printable_int value c (by rwa [Tree.written] at hc)
  | text value => exact printable_quote value c (by rwa [Tree.written] at hc)
  | array items =>
      rw [Tree.written] at hc
      rcases List.mem_cons.mp hc with rfl | hc
      · exact ⟨by decide, by decide⟩
      · exact printable_writtenItems hgap items c hc
  | object members =>
      rw [Tree.written] at hc
      rcases List.mem_cons.mp hc with rfl | hc
      · exact ⟨by decide, by decide⟩
      · exact printable_writtenMembers hgap members c hc

theorem printable_writtenItems (hgap : ∀ c ∈ gap, Printable c) (items : List Tree) :
    ∀ c ∈ writtenItems gap items, Printable c := by
  intro c hc
  cases items with
  | nil =>
      rw [writtenItems, List.mem_singleton] at hc
      rw [hc]
      exact ⟨by decide, by decide⟩
  | cons item items =>
      cases items with
      | nil =>
          simp only [writtenItems, List.mem_append, List.mem_singleton] at hc
          rcases hc with hc | rfl
          · exact printable_written hgap item c hc
          · exact ⟨by decide, by decide⟩
      | cons next items =>
          rw [writtenItems] at hc
          · simp only [List.mem_append, List.mem_cons] at hc
            rcases hc with hc | rfl | hc | hc
            · exact printable_written hgap item c hc
            · exact ⟨by decide, by decide⟩
            · exact hgap c hc
            · exact printable_writtenItems hgap (next :: items) c hc
          · simp

theorem printable_writtenMembers (hgap : ∀ c ∈ gap, Printable c)
    (members : List (String × Tree)) : ∀ c ∈ writtenMembers gap members, Printable c := by
  intro c hc
  cases members with
  | nil =>
      rw [writtenMembers, List.mem_singleton] at hc
      rw [hc]
      exact ⟨by decide, by decide⟩
  | cons member members =>
      obtain ⟨key, value⟩ := member
      cases members with
      | nil =>
          simp only [writtenMembers, List.mem_append, List.mem_cons, List.not_mem_nil,
            or_false] at hc
          rcases hc with hc | rfl | hc | hc | rfl
          · exact printable_quote key c hc
          · exact ⟨by decide, by decide⟩
          · exact hgap c hc
          · exact printable_written hgap value c hc
          · exact ⟨by decide, by decide⟩
      | cons next members =>
          rw [writtenMembers] at hc
          · simp only [List.mem_append, List.mem_cons] at hc
            rcases hc with hc | rfl | hc | hc | rfl | hc | hc
            · exact printable_quote key c hc
            · exact ⟨by decide, by decide⟩
            · exact hgap c hc
            · exact printable_written hgap value c hc
            · exact ⟨by decide, by decide⟩
            · exact hgap c hc
            · exact printable_writtenMembers hgap (next :: members) c hc
          · simp

end

theorem printable_dumps (document : Tree) : ∀ c ∈ (dumps document).toList, Printable c := by
  have hgap : ∀ c ∈ [' '], Printable c := by simp [Printable]
  rw [dumps, String.toList_ofList]
  exact printable_written hgap document

end Hybro.JsonText
