import Hybro.Library.JsonReader
import Hybro.RuntimeFiles.Credentials

/-! # The text of a document

The layouts of `json.dumps` for documents without floats, and their reader. A writer that checks
that its text is read back is a format.
-/

namespace Hybro.RuntimeFiles

open JsonDocument

/-! ## Reading -/

mutual

def valueOf : JsonText.Json → Option (Json Empty)
  | .null => some .null
  | .bool value => some (.bool value)
  | .int value => some (.int value)
  | .text value => some (.text value)
  | .array items => (itemsOf items).map .array
  | .object members => (membersOf members).map .object
  | .decimal _ _ | .nonFinite => none

def itemsOf : List JsonText.Json → Option (List (Json Empty))
  | [] => some []
  | item :: items =>
      match valueOf item, itemsOf items with
      | some item, some items => some (item :: items)
      | _, _ => none

def membersOf : List (String × JsonText.Json) → Option (Members Empty)
  | [] => some []
  | (key, value) :: members =>
      match valueOf value, membersOf members with
      | some value, some members => some ((key, value) :: members)
      | _, _ => none

end

def readAscii (data : Bytes) : Option (Json Empty) :=
  if data.all (· < 128) then
    (JsonText.loads (String.ofList (data.map fun byte => Char.ofNat byte.toNat))).bind valueOf
  else none

/-! ## Writing -/

mutual

def writeValue : Json Empty → String
  | .null => "null"
  | .bool value => if value then "true" else "false"
  | .int value => toString value
  | .text value => JsonText.quote value
  | .array items => "[" ++ ", ".intercalate (writeItems items) ++ "]"
  | .object members => "\x7b" ++ ", ".intercalate (writeMembers members) ++ "\x7d"

def writeItems : List (Json Empty) → List String
  | [] => []
  | item :: items => writeValue item :: writeItems items

def writeMembers : Members Empty → List String
  | [] => []
  | (key, value) :: members => (JsonText.quote key ++ ": " ++ writeValue value) :: writeMembers members

end

/-- `indent` spaces for every level. -/
def lineStart (depth : Nat) : String :=
  "\n" ++ String.ofList (List.replicate (2 * depth) ' ')

def block (opening closing : String) (depth : Nat) (items : List String) : String :=
  if items.isEmpty then opening ++ closing
  else opening ++ lineStart (depth + 1) ++ ("," ++ lineStart (depth + 1)).intercalate items ++
    lineStart depth ++ closing

mutual

/-- With `indent=2`. -/
def writeIndented (depth : Nat) : Json Empty → String
  | .null => "null"
  | .bool value => if value then "true" else "false"
  | .int value => toString value
  | .text value => JsonText.quote value
  | .array items => block "[" "]" depth (indentedItems (depth + 1) items)
  | .object members => block "\x7b" "\x7d" depth (indentedMembers (depth + 1) members)

def indentedItems (depth : Nat) : List (Json Empty) → List String
  | [] => []
  | item :: items => writeIndented depth item :: indentedItems depth items

def indentedMembers (depth : Nat) : Members Empty → List String
  | [] => []
  | (key, value) :: members =>
      (JsonText.quote key ++ ": " ++ writeIndented depth value) :: indentedMembers depth members

end

def encodeText (text : String) : Bytes :=
  text.toUTF8.data.toList

def checkedText (value : Json Empty) (text : String) : Option Bytes :=
  if (readAscii (encodeText text)).any value.same then some (encodeText text) else none

theorem checkedText_ok {value : Json Empty} {text : String} {data : Bytes}
    (h : checkedText value text = some data) : readAscii data = some value := by
  unfold checkedText at h
  split at h
  next hread =>
    cases h
    obtain ⟨read, hread, hsame⟩ := (Option.any_eq_true _ _).mp hread
    rw [hread, Json.eq_of_same value read hsame]
  next => cases h

def textFormat : JsonFormat Empty where
  loads := readAscii
  dumps value := checkedText value (writeValue value)
  dumpsIndented value := checkedText value (writeIndented 0 value ++ "\n")
  dumpsSorted value := checkedText value.sortKeys (writeValue value.sortKeys ++ "\n")
  loads_dumps := checkedText_ok
  loads_dumpsIndented := checkedText_ok
  loads_dumpsSorted := checkedText_ok

end Hybro.RuntimeFiles
