import Mathlib.Data.List.Basic

/-! # Documents with dates

Nested values as a store of documents keeps them: everything but dates comes back as it was
written, and dates come back in whole milliseconds. Floats are any type, compared by `==`.
-/

namespace Hybro.BsonDocument

/-- Dates count microseconds. -/
inductive Document (F : Type)
  | null
  | bool (value : Bool)
  | int (value : Int)
  | float (value : F)
  | text (value : String)
  | date (microseconds : Int)
  | list (items : List (Document F))
  | dict (fields : List (String × Document F))

namespace Document

variable {F : Type}

/-! ## Equality -/

section Equality

variable [BEq F]

mutual

/-- `==`; mappings are compared in their order, which is kept. -/
def same : Document F → Document F → Bool
  | .null, .null => true
  | .bool a, .bool b => a == b
  | .int a, .int b => a == b
  | .float a, .float b => a == b
  | .text a, .text b => a == b
  | .date a, .date b => a == b
  | .list a, .list b => sameItems a b
  | .dict a, .dict b => sameFields a b
  | _, _ => false

def sameItems : List (Document F) → List (Document F) → Bool
  | [], [] => true
  | a :: as, b :: bs => same a b && sameItems as bs
  | _, _ => false

def sameFields : List (String × Document F) → List (String × Document F) → Bool
  | [], [] => true
  | (k, a) :: as, (l, b) :: bs => k == l && same a b && sameFields as bs
  | _, _ => false

end

end Equality

/-! ## Storing -/

mutual

/-- What is read back of a value that was written. -/
def stored : Document F → Document F
  | .date microseconds => .date (microseconds / 1000 * 1000)
  | .list items => .list (storedItems items)
  | .dict fields => .dict (storedFields fields)
  | value => value

def storedItems : List (Document F) → List (Document F)
  | [] => []
  | item :: items => stored item :: storedItems items

def storedFields : List (String × Document F) → List (String × Document F)
  | [] => []
  | (name, value) :: fields => (name, stored value) :: storedFields fields

end

section Kept

variable [BEq F]

mutual

def Kept : Document F → Prop
  | .date microseconds => microseconds % 1000 = 0
  | .float value => (value == value) = true
  | .list items => KeptItems items
  | .dict fields => KeptFields fields
  | _ => True

def KeptItems : List (Document F) → Prop
  | [] => True
  | item :: items => Kept item ∧ KeptItems items

def KeptFields : List (String × Document F) → Prop
  | [] => True
  | (_, value) :: fields => Kept value ∧ KeptFields fields

end

mutual

theorem same_stored : ∀ value : Document F, same (stored value) value = true ↔ Kept value
  | .null => by simp [stored, same, Kept]
  | .bool value => by simp [stored, same, Kept]
  | .int value => by simp [stored, same, Kept]
  | .float value => by simp [stored, same, Kept]
  | .text value => by simp [stored, same, Kept]
  | .date microseconds => by
      simp only [stored, same, Kept, beq_iff_eq]
      omega
  | .list items => by
      simp only [stored, same, Kept]
      exact same_storedItems items
  | .dict fields => by
      simp only [stored, same, Kept]
      exact same_storedFields fields

theorem same_storedItems : ∀ items : List (Document F),
    sameItems (storedItems items) items = true ↔ KeptItems items
  | [] => by simp [storedItems, sameItems, KeptItems]
  | item :: items => by
      simp only [storedItems, sameItems, KeptItems, Bool.and_eq_true, same_stored item,
        same_storedItems items]

theorem same_storedFields : ∀ fields : List (String × Document F),
    sameFields (storedFields fields) fields = true ↔ KeptFields fields
  | [] => by simp [storedFields, sameFields, KeptFields]
  | (name, value) :: fields => by
      simp only [storedFields, sameFields, KeptFields, Bool.and_eq_true, beq_self_eq_true,
        true_and, same_stored value, same_storedFields fields]

end

instance (value : Document F) : Decidable (Kept value) :=
  decidable_of_iff _ (same_stored value)

end Kept

/-! ## Fields -/

/-- The value under a name, `null` without one. -/
def field : Document F → String → Document F
  | .dict fields, name => ((fields.find? (·.1 = name)).map (·.2)).getD .null
  | _, _ => .null

/-- What a query compares: a text or an integer. -/
inductive Scalar
  | none
  | int (value : Int)
  | text (value : String)
  deriving DecidableEq

def scalar : Document F → Scalar
  | .int value => .int value
  | .text value => .text value
  | _ => .none

def scalars : Document F → List Scalar
  | .list items => items.map scalar
  | _ => []

theorem field_stored (document : Document F) (name : String) :
    (stored document).field name = stored (document.field name) := by
  cases document with
  | dict fields =>
      simp only [stored, field]
      induction fields with
      | nil => rfl
      | cons entry fields ih =>
          obtain ⟨key, value⟩ := entry
          by_cases h : key = name
          · simp [storedFields, h]
          · simpa [storedFields, h] using ih
  | _ => rfl

theorem scalar_stored (document : Document F) : (stored document).scalar = document.scalar := by
  cases document with
  | _ => rfl

end Document

end Hybro.BsonDocument
