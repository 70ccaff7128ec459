import Mathlib.Data.List.Basic

/-! # Compact JSON text

What `json.dumps` writes with its default escapes and the separators `,` and `:`. The
sizes say what one array costs less than its two parts written on their own.
-/

namespace Hybro.JsonText

/-! ## Texts -/

/-- `\uXXXX` of one UTF-16 unit. -/
def unicodeEscape (unit : Nat) : String :=
  "\\u" ++ String.ofList [Nat.digitChar (unit / 4096), Nat.digitChar (unit / 256 % 16),
    Nat.digitChar (unit / 16 % 16), Nat.digitChar (unit % 16)]

/-- A printable ASCII character stands for itself, one above the basic plane is a pair. -/
def escapeChar (c : Char) : String :=
  match c.toNat with
  | 34 => "\\\""
  | 92 => "\\\\"
  | 10 => "\\n"
  | 13 => "\\r"
  | 9 => "\\t"
  | 12 => "\\f"
  | 8 => "\\b"
  | code =>
      if 32 ≤ code ∧ code ≤ 126 then String.singleton c
      else if code < 65536 then unicodeEscape code
      else unicodeEscape (55296 + (code - 65536) / 1024) ++
        unicodeEscape (56320 + (code - 65536) % 1024)

def quote (text : String) : String :=
  "\"" ++ String.join (text.toList.map escapeChar) ++ "\""

/-! ## Arrays and objects -/

def array (items : List String) : String :=
  "[" ++ String.intercalate "," items ++ "]"

def object (fields : List (String × String)) : String :=
  "\x7b" ++ String.intercalate "," (fields.map fun (key, value) => quote key ++ ":" ++ value) ++
    "\x7d"

/-! ## Sizes -/

theorem intercalate_size_append {first second : List String} (separator : String)
    (hfirst : first ≠ []) (hsecond : second ≠ []) :
    (String.intercalate separator (first ++ second)).utf8ByteSize =
      (String.intercalate separator first).utf8ByteSize + separator.utf8ByteSize +
        (String.intercalate separator second).utf8ByteSize := by
  rw [String.intercalate_append_of_ne_nil hfirst hsecond]
  simp only [String.utf8ByteSize_append]

theorem array_size (items : List String) :
    (array items).utf8ByteSize = (String.intercalate "," items).utf8ByteSize + 2 := by
  have hopen : "[".utf8ByteSize = 1 := rfl
  have hclose : "]".utf8ByteSize = 1 := rfl
  simp only [array, String.utf8ByteSize_append]
  omega

/-- The brackets and the comma of two arrays become one pair of brackets and one comma. -/
theorem array_size_append (first second : List String) :
    (array (first ++ second)).utf8ByteSize + 1 ≤
      (array first).utf8ByteSize + (array second).utf8ByteSize := by
  have hcomma : ",".utf8ByteSize = 1 := rfl
  simp only [array_size]
  by_cases hfirst : first = []
  · simp only [hfirst, List.nil_append]
    omega
  · by_cases hsecond : second = []
    · simp only [hsecond, List.append_nil]
      omega
    · have hboth := intercalate_size_append "," hfirst hsecond
      omega

end Hybro.JsonText
