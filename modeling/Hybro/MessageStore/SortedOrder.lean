import Mathlib.Data.List.Nodup
import Hybro.MessageStore.SortedIds

/-! # When the comparator is an order

Two messages are compared by the step rule where it applies, else by creation time and id. Both
rules are orders by themselves. The comparator is one when no message stands between two that
the step rule puts against their creation.
-/

namespace Hybro.MessageStore

open OrderedMap

/-! ## Lists that agree with a comparator -/

section Comparators

variable {α : Type} {cmp : α → α → Ordering} {items : List α}

theorem lt_of_isLE {o : Ordering} (hle : o.isLE = true) (hne : o ≠ .eq) : o = .lt := by
  cases o with
  | lt => rfl
  | eq => exact absurd rfl hne
  | gt => cases hle

structure StrictTotal (cmp : α → α → Ordering) (items : List α) : Prop where
  total : ∀ a ∈ items, ∀ b ∈ items, a ≠ b → cmp a b ≠ .eq
  trans : ∀ a ∈ items, ∀ b ∈ items, ∀ c ∈ items, cmp a b = .lt → cmp b c = .lt → cmp a c = .lt

theorem StrictTotal.consistent (h : StrictTotal cmp items)
    (hswap : ∀ a b, cmp a b = (cmp b a).swap) : Consistent cmp items where
  oriented := fun a _ b _ => hswap a b
  trans := by
    intro a ha b hb c hc hab hbc
    by_cases hsame : a = b
    · rwa [hsame]
    by_cases hsame' : b = c
    · rwa [← hsame']
    have hlt := lt_of_isLE hab (h.total a ha b hb hsame)
    have hlt' := lt_of_isLE hbc (h.total b hb c hc hsame')
    rw [h.trans a ha b hb c hc hlt hlt']
    rfl

theorem strictTotal_of_pairwise (hswap : ∀ a b, cmp a b = (cmp b a).swap)
    (hsorted : items.Pairwise fun a b => cmp a b = .lt) : StrictTotal cmp items := by
  have hposition : ∀ i j, (hi : i < items.length) → (hj : j < items.length) →
      cmp items[i] items[j] = .lt → i < j ∨ items[i] = items[j] := by
    intro i j hi hj hlt
    rcases Nat.lt_trichotomy i j with hij | rfl | hji
    · exact .inl hij
    · exact .inr rfl
    · have hgt := List.pairwise_iff_getElem.mp hsorted j i hj hi hji
      rw [hswap, hgt] at hlt
      cases hlt
  have hirrefl : ∀ a, cmp a a ≠ .lt := by
    intro a hlt
    have hgt := hswap a a
    rw [hlt] at hgt
    cases hgt
  constructor
  · intro a ha b hb hne
    obtain ⟨i, hi, rfl⟩ := List.getElem_of_mem ha
    obtain ⟨j, hj, rfl⟩ := List.getElem_of_mem hb
    rcases Nat.lt_trichotomy i j with hij | rfl | hji
    · rw [List.pairwise_iff_getElem.mp hsorted i j hi hj hij]
      nofun
    · exact absurd rfl hne
    · rw [hswap, List.pairwise_iff_getElem.mp hsorted j i hj hi hji]
      nofun
  · intro a ha b hb c hc hab hbc
    obtain ⟨i, hi, rfl⟩ := List.getElem_of_mem ha
    obtain ⟨j, hj, rfl⟩ := List.getElem_of_mem hb
    obtain ⟨k, hk, rfl⟩ := List.getElem_of_mem hc
    have hij := (hposition i j hi hj hab).resolve_right fun hsame => hirrefl _ (hsame ▸ hab)
    have hjk := (hposition j k hj hk hbc).resolve_right fun hsame => hirrefl _ (hsame ▸ hbc)
    exact List.pairwise_iff_getElem.mp hsorted i k hi hk (Nat.lt_trans hij hjk)

theorem StrictTotal.perm {other : List α} (h : StrictTotal cmp items) (hperm : other.Perm items) :
    StrictTotal cmp other where
  total := fun a ha b hb => h.total a (hperm.mem_iff.mp ha) b (hperm.mem_iff.mp hb)
  trans := fun a ha b hb c hc =>
    h.trans a (hperm.mem_iff.mp ha) b (hperm.mem_iff.mp hb) c (hperm.mem_iff.mp hc)

theorem StrictTotal.sort_pairwise (array : ArraySort α) (h : StrictTotal cmp items)
    (hswap : ∀ a b, cmp a b = (cmp b a).swap) (hnodup : items.Nodup) :
    (array.sort cmp items).Pairwise fun a b => cmp a b = .lt := by
  have hperm := array.perm cmp items
  have hsorted := array.ordered cmp items (h.consistent hswap)
  have hdistinct : (array.sort cmp items).Nodup := hperm.nodup_iff.mpr hnodup
  refine (hsorted.and hdistinct).imp_of_mem ?_
  rintro a b ha hb ⟨hle, hne⟩
  have htotal := h.total a (hperm.mem_iff.mp ha) b (hperm.mem_iff.mp hb) hne
  exact lt_of_isLE (Ordering.ne_gt_iff_isLE.mp hle) htotal

end Comparators

/-! ## The two rules -/

theorem compareSteps_swap (a b : Option Int) : compareSteps a b = (compareSteps b a).swap := by
  cases a <;> cases b <;> simp [compareSteps, Ordering.swap]
  exact Std.OrientedCmp.eq_swap

theorem compareSteps_eq_iff {a b : Option Int} : compareSteps a b = .eq ↔ a = b := by
  cases a <;> cases b <;> simp [compareSteps]

theorem compareSteps_trans {a b c : Option Int} (hab : compareSteps a b = .lt)
    (hbc : compareSteps b c = .lt) : compareSteps a c = .lt := by
  cases a <;> cases b <;> cases c <;> simp only [compareSteps, reduceCtorEq] at hab hbc ⊢
  exact Std.TransCmp.lt_trans hab hbc

variable {Presentation Artifacts Attachments : Type} (collation : Collation)

/-- Steps of one workflow are compared by number where both have one within a minute, or at the
same time. -/
def stepRule (a b : Entity Presentation Artifacts Attachments) : Bool :=
  sameWorkflow a b && (a.stepNumber.isSome && b.stepNumber.isSome && closeInTime a b ||
    a.createdAt.isSome && a.createdAt = b.createdAt) && a.stepNumber ≠ b.stepNumber

def compareCreated (a b : Entity Presentation Artifacts Attachments) : Ordering :=
  match a.createdAt, b.createdAt with
  | some s, some t => (compare s t).then (collation.localeCompare a.id b.id)
  | _, _ => .eq

theorem compareEntities_eq (a b : Entity Presentation Artifacts Attachments) :
    compareEntities collation a b =
      if stepRule a b then compareSteps a.stepNumber b.stepNumber
      else compareCreated collation a b := by
  unfold compareEntities stepRule compareCreated
  cases hs : a.createdAt with
  | none => simp [closeInTime, hs]
  | some s =>
      cases ht : b.createdAt with
      | none => simp [closeInTime, hs, ht]
      | some t =>
          by_cases hsame : s = t
          · subst hsame
            have hclose : closeInTime a b = true := by simp [closeInTime, hs, ht]
            cases sameWorkflow a b <;> by_cases hsteps : a.stepNumber = b.stepNumber <;>
              simp [hclose, hsteps]
          · have hcompare : compare s t ≠ .eq := by simpa using hsame
            have hcreated : (compare s t).then (collation.localeCompare a.id b.id) =
                compare s t := by
              cases hsign : compare s t with
              | lt => rfl
              | eq => exact absurd hsign hcompare
              | gt => rfl
            cases sameWorkflow a b <;> simp [hsame, hcreated]

theorem stepRule_comm (a b : Entity Presentation Artifacts Attachments) :
    stepRule a b = stepRule b a := by
  have hwork : sameWorkflow a b = sameWorkflow b a := by
    unfold sameWorkflow
    grind
  have hclose : closeInTime a b = closeInTime b a := by
    unfold closeInTime
    cases a.createdAt <;> cases b.createdAt <;> try rfl
    grind
  unfold stepRule
  rw [hwork, hclose]
  grind

theorem compareCreated_swap (a b : Entity Presentation Artifacts Attachments) :
    compareCreated collation a b = (compareCreated collation b a).swap := by
  have htrans := collation.trans
  unfold compareCreated
  cases a.createdAt with
  | none => cases b.createdAt <;> rfl
  | some s =>
      cases b.createdAt with
      | none => rfl
      | some t =>
          simp only [Ordering.swap_then]
          rw [← Std.OrientedCmp.eq_swap, ← Std.OrientedCmp.eq_swap]

theorem compareEntities_swap (a b : Entity Presentation Artifacts Attachments) :
    compareEntities collation a b = (compareEntities collation b a).swap := by
  rw [compareEntities_eq, compareEntities_eq, stepRule_comm b a, compareSteps_swap a.stepNumber,
    compareCreated_swap collation a b]
  split <;> rfl

theorem compareCreated_isLE_trans {a b c : Entity Presentation Artifacts Attachments}
    (ha : a.createdAt.isSome = true) (hb : b.createdAt.isSome = true)
    (hc : c.createdAt.isSome = true) (hab : (compareCreated collation a b).isLE = true)
    (hbc : (compareCreated collation b c).isLE = true) :
    (compareCreated collation a c).isLE = true := by
  have htrans := collation.trans
  have hids : Std.TransCmp fun p q : Int × String => collation.localeCompare p.2 q.2 :=
    { eq_swap := htrans.eq_swap, isLE_trans := htrans.isLE_trans }
  have hlex : Std.TransCmp (compareLex (compareOn Prod.fst)
      fun p q : Int × String => collation.localeCompare p.2 q.2) := inferInstance
  obtain ⟨s, hs⟩ := Option.isSome_iff_exists.mp ha
  obtain ⟨t, ht⟩ := Option.isSome_iff_exists.mp hb
  obtain ⟨u, hu⟩ := Option.isSome_iff_exists.mp hc
  simp only [compareCreated, hs, ht, hu] at hab hbc ⊢
  exact @hlex.isLE_trans (s, a.id) (t, b.id) (u, c.id) hab hbc

/-! ## When the rules agree -/

def stepBefore (a b : Entity Presentation Artifacts Attachments) : Prop :=
  stepRule a b = true ∧ compareSteps a.stepNumber b.stepNumber = .lt

/-- The first was created before the second, or at the same time with a smaller id. -/
def createdBefore (a b : Entity Presentation Artifacts Attachments) : Prop :=
  compareCreated collation a b = .lt

def precedes (a b : Entity Presentation Artifacts Attachments) : Prop :=
  stepBefore a b ∨ stepRule a b = false ∧ createdBefore collation a b

theorem compareEntities_lt_iff {a b : Entity Presentation Artifacts Attachments} :
    compareEntities collation a b = .lt ↔ precedes collation a b := by
  rw [compareEntities_eq]
  unfold precedes stepBefore createdBefore
  cases stepRule a b <;> simp

/-- Every message has a creation time, messages of one time have ids that collate apart, and no
message stands between two that the step rule puts against their creation. -/
structure Ordered (items : List (Entity Presentation Artifacts Attachments)) : Prop where
  times : ∀ a ∈ items, ∀ b ∈ items, a ≠ b → a.createdAt.isSome = true
  ties : ∀ a ∈ items, ∀ b ∈ items, a ≠ b → a.createdAt = b.createdAt → stepRule a b = false →
    collation.localeCompare a.id b.id ≠ .eq
  between : ∀ a ∈ items, ∀ b ∈ items, ∀ c ∈ items, stepBefore a b → createdBefore collation b a →
    ¬(precedes collation b c ∧ precedes collation c a)

variable {collation}
variable {items : List (Entity Presentation Artifacts Attachments)}

theorem not_lt_of_lt {a b : Entity Presentation Artifacts Attachments}
    (hab : compareEntities collation a b = .lt) : compareEntities collation b a ≠ .lt := by
  intro hba
  rw [compareEntities_swap, hba] at hab
  cases hab

theorem ordered_of_strictTotal (h : StrictTotal (compareEntities collation) items) :
    Ordered collation items where
  times := by
    intro a ha b hb hne
    by_contra hmissing
    have hnone : a.createdAt = none := by simpa using hmissing
    apply h.total a ha b hb hne
    rw [compareEntities_eq]
    simp [stepRule, compareCreated, closeInTime, hnone]
  ties := by
    intro a ha b hb hne htime hrule heq
    apply h.total a ha b hb hne
    rw [compareEntities_eq, hrule, compareCreated, htime]
    cases b.createdAt <;> simp [heq]
  between := by
    rintro a ha b hb c hc hstep - ⟨hbc, hca⟩
    have hba := h.trans b hb c hc a ha ((compareEntities_lt_iff collation).mpr hbc)
      ((compareEntities_lt_iff collation).mpr hca)
    exact not_lt_of_lt ((compareEntities_lt_iff collation).mpr (.inl hstep)) hba

namespace Ordered

theorem total (h : Ordered collation items) {a b : Entity Presentation Artifacts Attachments}
    (ha : a ∈ items) (hb : b ∈ items) (hne : a ≠ b) : compareEntities collation a b ≠ .eq := by
  obtain ⟨s, hs⟩ := Option.isSome_iff_exists.mp (h.times a ha b hb hne)
  obtain ⟨t, ht⟩ := Option.isSome_iff_exists.mp (h.times b hb a ha (Ne.symm hne))
  rw [compareEntities_eq]
  cases hrule : stepRule a b with
  | true =>
      have hsteps : a.stepNumber ≠ b.stepNumber := by
        simp only [stepRule, Bool.and_eq_true, decide_eq_true_eq] at hrule
        exact hrule.2
      simpa [compareSteps_eq_iff] using hsteps
  | false =>
      intro heq
      simp only [Bool.false_eq_true, if_false, compareCreated, hs, ht, Ordering.then_eq_eq] at heq
      have htime : s = t := by simpa using heq.1
      exact h.ties a ha b hb hne (by rw [hs, ht, htime]) hrule heq.2

/-- Where the pair is not against its creation, the order is that of creation. -/
theorem created_isLE {a b : Entity Presentation Artifacts Attachments}
    (hab : precedes collation a b) (hagree : stepBefore a b → ¬createdBefore collation b a) :
    (compareCreated collation a b).isLE = true := by
  rcases hab with hstep | ⟨-, hcreated⟩
  · have hnot := hagree hstep
    unfold createdBefore at hnot
    rw [compareCreated_swap]
    cases hsign : compareCreated collation b a with
    | lt => exact absurd hsign hnot
    | eq => rfl
    | gt => rfl
  · unfold createdBefore at hcreated
    rw [hcreated]
    rfl

/-- A pair of a cycle is not against its creation: the third message would stand between. -/
theorem agree (h : Ordered collation items) {a b c : Entity Presentation Artifacts Attachments}
    (ha : a ∈ items) (hb : b ∈ items) (hc : c ∈ items) (hbc : precedes collation b c)
    (hca : precedes collation c a) : stepBefore a b → ¬createdBefore collation b a :=
  fun hstep hcreated => h.between a ha b hb c hc hstep hcreated ⟨hbc, hca⟩

theorem step_of_cycle {a b c : Entity Presentation Artifacts Attachments}
    (hab : precedes collation a b)
    (ha : a.createdAt.isSome = true) (hb : b.createdAt.isSome = true)
    (hc : c.createdAt.isSome = true) (hbc : (compareCreated collation b c).isLE = true)
    (hca : (compareCreated collation c a).isLE = true) : stepBefore a b := by
  rcases hab with hstep | ⟨-, hcreated⟩
  · exact hstep
  · have hba := compareCreated_isLE_trans collation hb hc ha hbc hca
    unfold createdBefore at hcreated
    rw [compareCreated_swap, hcreated] at hba
    cases hba

/-- In a cycle all three would be put by their steps, which go around in no cycle. -/
theorem no_cycle (h : Ordered collation items) {a b c : Entity Presentation Artifacts Attachments}
    (ha : a ∈ items) (hb : b ∈ items) (hc : c ∈ items) (hne : a ≠ b)
    (hab : precedes collation a b) (hbc : precedes collation b c)
    (hca : precedes collation c a) : False := by
  have hat := h.times a ha b hb hne
  have hbt := h.times b hb a ha (Ne.symm hne)
  have hct : c.createdAt.isSome = true := by
    by_cases hsame : c = a
    · rwa [hsame]
    · exact h.times c hc a ha hsame
  have hleab := created_isLE hab (h.agree ha hb hc hbc hca)
  have hlebc := created_isLE hbc (h.agree hb hc ha hca hab)
  have hleca := created_isLE hca (h.agree hc ha hb hab hbc)
  have hsab := step_of_cycle hab hat hbt hct hlebc hleca
  have hsbc := step_of_cycle hbc hbt hct hat hleca hleab
  have hsca := step_of_cycle hca hct hat hbt hleab hlebc
  have hloop := compareSteps_trans (compareSteps_trans hsab.2 hsbc.2) hsca.2
  rw [compareSteps_eq_iff.mpr rfl] at hloop
  cases hloop

theorem strictTotal (h : Ordered collation items) :
    StrictTotal (compareEntities collation) items where
  total := fun a ha b hb hne => h.total ha hb hne
  trans := by
    intro a ha b hb c hc hab hbc
    have hne : a ≠ b := by
      rintro rfl
      exact not_lt_of_lt hab hab
    have hac : a ≠ c := by
      rintro rfl
      exact not_lt_of_lt hab hbc
    cases hsign : compareEntities collation a c with
    | lt => rfl
    | eq => exact absurd hsign (h.total ha hc hac)
    | gt =>
        rw [compareEntities_swap, Ordering.swap_eq_gt] at hsign
        exact (h.no_cycle ha hb hc hne ((compareEntities_lt_iff collation).mp hab)
          ((compareEntities_lt_iff collation).mp hbc)
          ((compareEntities_lt_iff collation).mp hsign)).elim

end Ordered

theorem strictTotal_iff_ordered :
    StrictTotal (compareEntities collation) items ↔ Ordered collation items :=
  ⟨ordered_of_strictTotal, Ordered.strictTotal⟩

/-! ## The sorted ids -/

variable (array : ArraySort (Entity Presentation Artifacts Attachments))

theorem sorted_pairwise (entities : Entities Presentation Artifacts Attachments)
    (hnodup : (values entities).Nodup) (h : Ordered collation (values entities)) :
    (sortedEntities collation array entities).Pairwise
      fun a b => compareEntities collation a b = .lt :=
  h.strictTotal.sort_pairwise array (compareEntities_swap collation) hnodup

theorem sortedEntities_perm {entities other : Entities Presentation Artifacts Attachments}
    (hperm : other.Perm entities) (hnodup : (values entities).Nodup)
    (h : Ordered collation (values entities)) :
    sortedEntities collation array other = sortedEntities collation array entities := by
  have hvalues : (values other).Perm (values entities) := hperm.map _
  have hother : Ordered collation (values other) :=
    strictTotal_iff_ordered.mp (h.strictTotal.perm hvalues)
  have hsame : (sortedEntities collation array other).Perm
      (sortedEntities collation array entities) :=
    (array.perm _ _).trans (hvalues.trans (array.perm _ _).symm)
  apply hsame.eq_of_pairwise _ (sorted_pairwise array other (hvalues.nodup_iff.mpr hnodup) hother)
    (sorted_pairwise array entities hnodup h)
  intro a b _ _ hab hba
  exact absurd hba (not_lt_of_lt hab)

/-- The ids of a map of messages come in one order, which is that of the comparator between any
two of them, exactly when the messages are ordered. -/
theorem buildSortedIds_ordered_iff (entities : Entities Presentation Artifacts Attachments)
    (hdistinct : ((values entities).map (·.id)).Nodup) :
    ((∀ other : Entities Presentation Artifacts Attachments, other.Perm entities →
          buildSortedIds collation array other = buildSortedIds collation array entities) ∧
        ((sortedEntities collation array entities).Pairwise
          fun a b => compareEntities collation a b = .lt) ∧
        StrictTotal (compareEntities collation) (values entities)) ↔
      Ordered collation (values entities) := by
  have hnodup : (values entities).Nodup := List.Nodup.of_map _ hdistinct
  constructor
  · rintro ⟨-, -, htotal⟩
    exact ordered_of_strictTotal htotal
  · intro h
    refine ⟨?_, sorted_pairwise array entities hnodup h, h.strictTotal⟩
    intro other hperm
    unfold buildSortedIds
    rw [sortedEntities_perm array hperm hnodup h]

/-! ## Three steps of one workflow -/

def insertionArray (α : Type) : ArraySort α where
  sort cmp items :=
    (items.attach.insertionSort fun a b => (cmp a.val b.val).isLE = true).map (·.val)
  perm cmp items := by
    have hsorted := List.perm_insertionSort
      (fun a b : { a // a ∈ items } => (cmp a.val b.val).isLE = true) items.attach
    simpa using hsorted.map (·.val)
  ordered cmp items h := by
    have htotal : Std.Total fun a b : { a // a ∈ items } => (cmp a.val b.val).isLE = true := by
      constructor
      intro a b
      rw [h.oriented a a.property b b.property]
      cases cmp b.val a.val <;> simp
    have htrans : IsTrans { a // a ∈ items } fun a b => (cmp a.val b.val).isLE = true := by
      constructor
      intro a b c
      exact h.trans a a.property b b.property c c.property
    rw [List.pairwise_map]
    refine (List.pairwise_insertionSort _ items.attach).imp ?_
    intro a b hle
    exact Ordering.ne_gt_iff_isLE.mpr hle

def byCharacter : Collation where
  localeCompare := compare
  trans := inferInstance

def workflowStep (id : String) (createdAt stepNumber : Int) : String × Entity Unit Unit Unit :=
  (id,
    { id := id, conversationId := "room-1", messageType := .agent, content := "done",
      senderName := "Agent", timestamp := "", stepNumber := some stepNumber,
      relatedMessageId := some "user-1", taskStatus := none, source := .sse, sourceVersion := 1,
      displayType := .agentBubble, isEphemeral := false, createdAt := some createdAt,
      updatedAt := createdAt })

/-- The first and the last are more than a minute apart and go by time, the others by step. -/
theorem steps_apart_cycle :
    let first := workflowStep "first" 0 3
    let second := workflowStep "second" 50000 2
    let third := workflowStep "third" 100000 1
    buildSortedIds byCharacter (insertionArray _) [first, second, third] ≠
        buildSortedIds byCharacter (insertionArray _) [third, first, second] ∧
      compareEntities byCharacter first.2 third.2 = .lt ∧
      compareEntities byCharacter third.2 second.2 = .lt ∧
      compareEntities byCharacter second.2 first.2 = .lt := by
  decide +kernel

/-- Two steps against their creation, then a step of another workflow, and a step of the first
one that is more than a minute away. -/
def workflowEntities : Entities Unit Unit Unit :=
  [workflowStep "second" 30000 1, workflowStep "first" 20000 2,
    ("other", { (workflowStep "other" 60000 5).2 with relatedMessageId := some "user-2" }),
    workflowStep "later" 100000 0]

theorem buildSortedIds_ordered_iff_workflows :
    (∀ other : Entities Unit Unit Unit, other.Perm workflowEntities →
        buildSortedIds byCharacter (insertionArray _) other =
          buildSortedIds byCharacter (insertionArray _) workflowEntities) ∧
      ((sortedEntities byCharacter (insertionArray _) workflowEntities).Pairwise
        fun a b => compareEntities byCharacter a b = .lt) ∧
      StrictTotal (compareEntities byCharacter) (values workflowEntities) := by
  apply (buildSortedIds_ordered_iff (insertionArray _) workflowEntities (by decide)).mpr
  apply strictTotal_iff_ordered.mp
  apply strictTotal_of_pairwise (compareEntities_swap byCharacter)
  decide +kernel

end Hybro.MessageStore
