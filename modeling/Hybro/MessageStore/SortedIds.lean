import Mathlib.Data.List.Sort
import Mathlib.Order.Compare
import Hybro.MessageStore.Upsert

/-! # The order of the messages

`buildSortedIds` compares two messages by step where they are steps of one workflow less than a
minute apart, and by creation time elsewhere. The sort of the language is a parameter: what it
does with a comparator that is no order is up to the implementation.
-/

namespace Hybro.MessageStore

open OrderedMap

variable {Presentation Artifacts Attachments : Type}

/-! ## The comparator -/

/-- `String.prototype.localeCompare`: ids that collate alike compare as equal. -/
structure Collation where
  localeCompare : String → String → Ordering
  trans : Std.TransCmp localeCompare

variable (collation : Collation)

abbrev Entity (Presentation Artifacts Attachments : Type) :=
  MessageEntity Presentation Artifacts Attachments

/-- `a.relatedMessageId && b.relatedMessageId && a.relatedMessageId === b.relatedMessageId` -/
def sameWorkflow (a b : Entity Presentation Artifacts Attachments) : Bool :=
  truthy a.relatedMessageId && truthy b.relatedMessageId && a.relatedMessageId = b.relatedMessageId

/-- `Math.abs(timeDiff) < 60_000`, which no `NaN` is. -/
def closeInTime (a b : Entity Presentation Artifacts Attachments) : Bool :=
  match a.createdAt, b.createdAt with
  | some s, some t => (s - t).natAbs < 60000
  | _, _ => false

/-- The sign of `a - b` with `Infinity` for a missing step. -/
def compareSteps : Option Int → Option Int → Ordering
  | some a, some b => compare a b
  | some _, none => .lt
  | none, some _ => .gt
  | none, none => .eq

/-- The comparator by its sign. A `NaN` counts as zero. -/
def compareEntities (a b : Entity Presentation Artifacts Attachments) : Ordering :=
  if a.stepNumber.isSome && b.stepNumber.isSome && sameWorkflow a b && closeInTime a b &&
      a.stepNumber ≠ b.stepNumber then
    compareSteps a.stepNumber b.stepNumber
  else
    match a.createdAt, b.createdAt with
    | some s, some t =>
        if s ≠ t then compare s t
        else if sameWorkflow a b && a.stepNumber ≠ b.stepNumber then
          compareSteps a.stepNumber b.stepNumber
        else collation.localeCompare a.id b.id
    | _, _ => .eq

/-! ## Sorting -/

structure Consistent {α : Type} (cmp : α → α → Ordering) (items : List α) : Prop where
  oriented : ∀ a ∈ items, ∀ b ∈ items, cmp a b = (cmp b a).swap
  trans : ∀ a ∈ items, ∀ b ∈ items, ∀ c ∈ items,
    (cmp a b).isLE = true → (cmp b c).isLE = true → (cmp a c).isLE = true

/-- `Array.prototype.sort` -/
structure ArraySort (α : Type) where
  sort : (α → α → Ordering) → List α → List α
  perm : ∀ cmp items, (sort cmp items).Perm items
  ordered : ∀ cmp items, Consistent cmp items →
    (sort cmp items).Pairwise fun a b => cmp a b ≠ .gt

variable (array : ArraySort (Entity Presentation Artifacts Attachments))

def sortedEntities (entities : Entities Presentation Artifacts Attachments) :
    List (Entity Presentation Artifacts Attachments) :=
  array.sort (compareEntities collation) (values entities)

def buildSortedIds (entities : Entities Presentation Artifacts Attachments) : List String :=
  (sortedEntities collation array entities).map (·.id)

end Hybro.MessageStore
