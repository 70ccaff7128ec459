import Mathlib.Data.List.Sort
import Mathlib.Data.String.Basic
import Hybro.Library.OrderedMap

/-! # JSON documents

Nested values as a program keeps them that reads a JSON text, edits it and writes it again. Floats
are any type of finite numbers. An object keeps its members in their order; a key should come once.
-/

namespace Hybro.JsonDocument

inductive Json (F : Type)
  | null
  | bool (value : Bool)
  | int (value : Int)
  | float (value : F)
  | text (value : String)
  | array (items : List (Json F))
  | object (members : List (String × Json F))

abbrev Members (F : Type) := List (String × Json F)

namespace Json

variable {F : Type}

/-! ## Equality -/

section Equality

variable [DecidableEq F]

mutual

def same : Json F → Json F → Bool
  | .null, .null => true
  | .bool a, .bool b => a == b
  | .int a, .int b => a == b
  | .float a, .float b => a == b
  | .text a, .text b => a == b
  | .array a, .array b => sameItems a b
  | .object a, .object b => sameMembers a b
  | _, _ => false

def sameItems : List (Json F) → List (Json F) → Bool
  | [], [] => true
  | a :: as, b :: bs => same a b && sameItems as bs
  | _, _ => false

def sameMembers : Members F → Members F → Bool
  | [], [] => true
  | (k, a) :: as, (l, b) :: bs => k == l && same a b && sameMembers as bs
  | _, _ => false

end

mutual

theorem eq_of_same : ∀ a b : Json F, same a b = true → a = b
  | .null, b, h => by cases b <;> simp_all [same]
  | .bool _, b, h => by cases b <;> simp_all [same]
  | .int _, b, h => by cases b <;> simp_all [same]
  | .float _, b, h => by cases b <;> simp_all [same]
  | .text _, b, h => by cases b <;> simp_all [same]
  | .array as, b, h => by
      cases b with
      | array bs => rw [eq_of_sameItems as bs (by simpa [same] using h)]
      | _ => simp [same] at h
  | .object as, b, h => by
      cases b with
      | object bs => rw [eq_of_sameMembers as bs (by simpa [same] using h)]
      | _ => simp [same] at h

theorem eq_of_sameItems : ∀ as bs : List (Json F), sameItems as bs = true → as = bs
  | [], bs, h => by cases bs <;> simp_all [sameItems]
  | a :: as, bs, h => by
      cases bs with
      | nil => simp [sameItems] at h
      | cons b bs =>
          simp only [sameItems, Bool.and_eq_true] at h
          rw [eq_of_same a b h.1, eq_of_sameItems as bs h.2]

theorem eq_of_sameMembers : ∀ as bs : Members F, sameMembers as bs = true → as = bs
  | [], bs, h => by cases bs <;> simp_all [sameMembers]
  | (k, a) :: as, bs, h => by
      cases bs with
      | nil => simp [sameMembers] at h
      | cons member bs =>
          obtain ⟨l, b⟩ := member
          simp only [sameMembers, Bool.and_eq_true, beq_iff_eq] at h
          rw [h.1.1, eq_of_same a b h.1.2, eq_of_sameMembers as bs h.2]

end

end Equality

/-! ## Equality of a dynamic language -/

structure Numbers (F : Type) where
  equal : F → F → Bool
  equalInt : F → Int → Bool

variable (numbers : Numbers F)

mutual

/-- `==`: numbers by value, with `False` and `True` as 0 and 1, and objects by their keys. -/
def equal : Json F → Json F → Bool
  | .null, .null => true
  | .text a, .text b => a = b
  | .bool a, .bool b => a = b
  | .bool a, .int b => (if a then 1 else 0) = b
  | .int a, .bool b => a = if b then 1 else 0
  | .bool a, .float b => numbers.equalInt b (if a then 1 else 0)
  | .float a, .bool b => numbers.equalInt a (if b then 1 else 0)
  | .int a, .int b => a = b
  | .int a, .float b => numbers.equalInt b a
  | .float a, .int b => numbers.equalInt a b
  | .float a, .float b => numbers.equal a b
  | .array a, .array b => equalItems a b
  | .object a, .object b => a.length = b.length && equalMembers a b
  | _, _ => false

def equalItems : List (Json F) → List (Json F) → Bool
  | [], [] => true
  | a :: as, b :: bs => equal a b && equalItems as bs
  | _, _ => false

def equalMembers : Members F → Members F → Bool
  | [], _ => true
  | (key, a) :: as, bs =>
      (match OrderedMap.get bs key with
        | some b => equal a b
        | none => false) && equalMembers as bs

end

/-! ## Keys -/

mutual

def uniqueKeys : Json F → Bool
  | .array items => uniqueItems items
  | .object members => (members.map (·.1)).Nodup && uniqueMembers members
  | _ => true

def uniqueItems : List (Json F) → Bool
  | [] => true
  | item :: items => uniqueKeys item && uniqueItems items

def uniqueMembers : Members F → Bool
  | [] => true
  | (_, value) :: members => uniqueKeys value && uniqueMembers members

end

def keyLE (first second : String × Json F) : Bool := first.1 ≤ second.1

mutual

def sortKeys : Json F → Json F
  | .array items => .array (sortItems items)
  | .object members => .object (sortMembers members)
  | value => value

def sortItems : List (Json F) → List (Json F)
  | [] => []
  | item :: items => sortKeys item :: sortItems items

def sortMembers : Members F → Members F
  | [] => []
  | (key, value) :: members =>
      (sortMembers members).orderedInsert (fun first second => keyLE first second = true)
        (key, sortKeys value)

end

theorem get_cons (member : String × Json F) (members : Members F) (key : String) :
    OrderedMap.get (member :: members) key =
      if member.1 = key then some member.2 else OrderedMap.get members key := by
  unfold OrderedMap.get
  by_cases h : member.1 = key <;> simp [h]

theorem get_orderedInsert (member : String × Json F) (members : Members F) (key : String) :
    OrderedMap.get (members.orderedInsert (fun first second => keyLE first second = true) member)
        key = if member.1 = key then some member.2 else OrderedMap.get members key := by
  induction members with
  | nil =>
      rw [List.orderedInsert]
      exact get_cons member [] key
  | cons first rest ih =>
      rw [List.orderedInsert]
      split
      · exact get_cons member (first :: rest) key
      next hnot =>
        have hne : first.1 ≠ member.1 := by
          intro heq
          exact hnot (by simp [keyLE, heq])
        rw [get_cons, get_cons, ih]
        by_cases hkey : first.1 = key
        · have hmember : member.1 ≠ key := fun h => hne (hkey.trans h.symm)
          simp [hkey, hmember]
        · simp [hkey]

theorem get_sortMembers (members : Members F) (key : String) :
    OrderedMap.get (sortMembers members) key = (OrderedMap.get members key).map sortKeys := by
  induction members with
  | nil => simp [sortMembers, OrderedMap.get]
  | cons member members ih =>
      obtain ⟨name, value⟩ := member
      rw [sortMembers, get_orderedInsert, get_cons, ih]
      by_cases h : name = key <;> simp [h]

theorem mem_keys_sortMembers (members : Members F) :
    ((sortMembers members).map (·.1)).Perm (members.map (·.1)) := by
  induction members with
  | nil => simp [sortMembers]
  | cons member members ih =>
      obtain ⟨name, value⟩ := member
      rw [sortMembers]
      exact ((List.perm_orderedInsert _ _ _).map _).trans (ih.cons name)

theorem uniqueMembers_iff {members : Members F} :
    uniqueMembers members = true ↔ ∀ member ∈ members, uniqueKeys member.2 = true := by
  induction members with
  | nil => simp [uniqueMembers]
  | cons member members ih =>
      obtain ⟨name, value⟩ := member
      simp [uniqueMembers, ih]

def isScalar : Json F → Bool
  | .array _ | .object _ => false
  | _ => true

theorem sortKeys_scalar {value : Json F} (h : isScalar value = true) : sortKeys value = value := by
  cases value <;> first | rfl | cases h

theorem uniqueKeys_scalar {value : Json F} (h : isScalar value = true) :
    uniqueKeys value = true := by
  cases value <;> first | rfl | cases h

theorem perm_sortMembers {members : Members F} (h : ∀ member ∈ members, isScalar member.2 = true) :
    (sortMembers members).Perm members := by
  induction members with
  | nil => exact List.Perm.nil
  | cons member members ih =>
      obtain ⟨name, value⟩ := member
      have hvalue : isScalar value = true := h _ List.mem_cons_self
      rw [sortMembers, sortKeys_scalar hvalue]
      exact (List.perm_orderedInsert _ _ _).trans
        ((ih fun member hmember => h member (List.mem_cons_of_mem _ hmember)).cons _)

mutual

theorem uniqueKeys_sortKeys : ∀ value : Json F, uniqueKeys value = true →
    uniqueKeys (sortKeys value) = true
  | .null, h | .bool _, h | .int _, h | .float _, h | .text _, h => h
  | .array items, h => by
      rw [uniqueKeys] at h
      rw [sortKeys, uniqueKeys]
      exact uniqueItems_sortItems items h
  | .object members, h => by
      rw [uniqueKeys, Bool.and_eq_true, decide_eq_true_eq] at h
      rw [sortKeys, uniqueKeys, Bool.and_eq_true, decide_eq_true_eq]
      exact ⟨(mem_keys_sortMembers members).nodup_iff.mpr h.1, uniqueMembers_sortMembers members h.2⟩

theorem uniqueItems_sortItems : ∀ items : List (Json F), uniqueItems items = true →
    uniqueItems (sortItems items) = true
  | [], _ => rfl
  | item :: items, h => by
      rw [uniqueItems, Bool.and_eq_true] at h
      rw [sortItems, uniqueItems, Bool.and_eq_true]
      exact ⟨uniqueKeys_sortKeys item h.1, uniqueItems_sortItems items h.2⟩

theorem uniqueMembers_sortMembers : ∀ members : Members F, uniqueMembers members = true →
    uniqueMembers (sortMembers members) = true
  | [], _ => rfl
  | (name, value) :: members, h => by
      rw [uniqueMembers, Bool.and_eq_true] at h
      rw [sortMembers, uniqueMembers_iff]
      intro member hmember
      rcases (List.mem_orderedInsert _).mp hmember with rfl | hmember
      · exact uniqueKeys_sortKeys value h.1
      · exact uniqueMembers_iff.mp (uniqueMembers_sortMembers members h.2) member hmember

end

end Json

end Hybro.JsonDocument
