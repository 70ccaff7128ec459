import Hybro.Library.PythonText

/-! # Python values

What a function that tells its arguments apart by `isinstance` and `hasattr` can see of them:
the built-in kinds, and objects by their attributes. Floats are any type.
-/

namespace Hybro.PythonValue

open PythonText

/-- The key of an entry; of a key that is no text only `str(key)` is seen. -/
inductive Key
  | text (name : String)
  | other (shown : String)
  deriving DecidableEq

inductive Value (F : Type)
  | none
  | bool (value : Bool)
  | int (value : Int)
  | float (value : F)
  | str (text : String)
  | list (items : List (Value F))
  | dict (entries : List (Key × Value F))
  | object (attributes : List (String × Value F))

namespace Value

variable {F : Type}

def isNone : Value F → Bool
  | .none => true
  | _ => false

/-- `mapping[name]`, if the key is there. -/
def lookup (entries : List (Key × Value F)) (name : String) : Option (Value F) :=
  (entries.find? (·.1 = .text name)).map (·.2)

/-- `getattr(value, name)`, if the attribute is there. -/
def attribute? : Value F → String → Option (Value F)
  | .object attributes, name => (attributes.find? (·.1 = name)).map (·.2)
  | _, _ => Option.none

def items? : Value F → Option (List (Value F))
  | .list items => some items
  | _ => Option.none

/-- The first name that is found, `None` without one. -/
def firstOf (find : String → Option (Value F)) : List String → Value F
  | [] => .none
  | name :: names => (find name).getD (firstOf find names)

/-- `value.strip() or None` of a text, `None` of everything else. -/
def strippedText : Value F → Option String
  | .str text => PythonText.strippedText text
  | _ => Option.none

@[simp] theorem isNone_none : (Value.none : Value F).isNone = true := rfl

@[simp] theorem strippedText_none : (Value.none : Value F).strippedText = Option.none := rfl

@[simp] theorem strippedText_str (text : String) :
    (Value.str text : Value F).strippedText = PythonText.strippedText text := rfl

@[simp] theorem items_list (items : List (Value F)) : (Value.list items).items? = some items := rfl

theorem clean_of_strippedText {value : Value F} {text : String}
    (h : value.strippedText = some text) : Clean text := by
  cases value with
  | str inner => exact PythonText.clean_of_strippedText h
  | _ => cases h

def ofText : Option String → Value F
  | Option.none => .none
  | some text => .str text

theorem strippedText_ofText {text : Option String} (h : ∀ t ∈ text, Clean t) :
    (ofText text : Value F).strippedText = text := by
  cases text with
  | none => rfl
  | some t => exact (h t rfl).strippedText

def mapping (fields : List (String × Value F)) : Value F :=
  .dict (fields.map fun field => (.text field.1, field.2))

theorem entry_mapping (fields : List (String × Value F)) (name : String) :
    lookup (fields.map fun field => (Key.text field.1, field.2)) name =
      (Value.object fields).attribute? name := by
  induction fields with
  | nil => rfl
  | cons field rest ih =>
      by_cases h : field.1 = name
      · simp [lookup, attribute?, h]
      · simpa [lookup, attribute?, h] using ih

def texts (texts : List String) : Value F := .list (texts.map .str)

end Value

end Hybro.PythonValue
