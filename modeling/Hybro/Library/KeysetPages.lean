import Mathlib.Data.List.Sort

/-! # Pages by key

Items are read in pages, from the largest key down. A page holds the first items below a bound,
which is the key of the last item of the page before it, and the items may change from one read
to the next. A page of two sources is merged from the first items of each.
-/

namespace Hybro.KeysetPages

variable {α κ : Type} [LinearOrder κ] (key : α → κ)

def Descending (items : List α) : Prop :=
  items.Pairwise fun first second => key second < key first

/-- The item comes after the bound, if there is one. -/
def Below (bound : Option κ) (item : α) : Prop :=
  ∀ limit ∈ bound, key item < limit

structure IsTop (count : Nat) (bound : Option κ) (source top : List α) : Prop where
  descending : Descending key top
  mem : ∀ item ∈ top, item ∈ source ∧ Below key bound item
  rest : ∀ item ∈ source, Below key bound item →
    item ∈ top ∨ top.length = count ∧ ∀ other ∈ top, key item < key other

structure IsPage (limit : Nat) (bound : Option κ) (source selected : List α) (hasMore : Bool) :
    Prop where
  descending : Descending key selected
  mem : ∀ item ∈ selected, item ∈ source ∧ Below key bound item
  full : hasMore = true → selected.length = limit
  rest : ∀ item ∈ source, Below key bound item →
    item ∈ selected ∨ hasMore = true ∧ ∀ other ∈ selected, key item < key other

variable {key} {count limit : Nat} {bound : Option κ} {source first second : List α}

/-! ## One page -/

theorem Descending.lt_of_mem_drop {items : List α} (h : Descending key items) {kept cut : α}
    (hkept : kept ∈ items.take count) (hcut : cut ∈ items.drop count) : key cut < key kept := by
  have hsplit : Descending key (items.take count ++ items.drop count) := by
    rw [List.take_append_drop]
    exact h
  exact (List.pairwise_append.mp hsplit).2.2 kept hkept cut hcut

theorem Descending.take {items : List α} (h : Descending key items) :
    Descending key (items.take count) :=
  h.sublist (List.take_sublist count items)

theorem Descending.nodup {items : List α} (h : Descending key items) : items.Nodup := by
  refine List.Pairwise.imp ?_ h
  rintro first second hlt rfl
  exact lt_irrefl _ hlt

theorem Descending.length_le {items others : List α} (h : Descending key items)
    (hsub : ∀ item ∈ items, item ∈ others) : items.length ≤ others.length :=
  (List.subperm_of_subset h.nodup fun item hitem => hsub item hitem).length_le

variable (key) in
abbrev KeyGe (first second : α) : Prop :=
  key second ≤ key first

instance : Std.Total (KeyGe key) :=
  ⟨fun first second => le_total (key second) (key first)⟩

instance : IsTrans α (KeyGe key) :=
  ⟨fun _ _ _ hfirst hsecond => hsecond.trans hfirst⟩

theorem descending_insertionSort {items : List α} (hkeys : (items.map key).Nodup) :
    Descending key (items.insertionSort (KeyGe key)) := by
  have hsorted : (items.insertionSort (KeyGe key)).Pairwise (KeyGe key) :=
    List.pairwise_insertionSort _ items
  have hne : ((items.insertionSort (KeyGe key)).map key).Nodup :=
    ((List.perm_insertionSort _ items).map key).nodup_iff.mpr hkeys
  refine hsorted.imp₂ (fun first second hle hkey => lt_of_le_of_ne hle (Ne.symm hkey)) ?_
  exact List.pairwise_map.mp hne

theorem length_take_of_mem_drop {items : List α} {cut : α} (h : cut ∈ items.drop count) :
    (items.take count).length = count := by
  have hlength := List.length_pos_of_mem h
  simp only [List.length_drop, List.length_take] at hlength ⊢
  omega

theorem isTop_take {sorted : List α} (h : Descending key sorted)
    (hmem : ∀ item, item ∈ sorted ↔ item ∈ source ∧ Below key bound item) :
    IsTop key count bound source (sorted.take count) where
  descending := h.take
  mem := fun item hitem => (hmem item).mp (List.mem_of_mem_take hitem)
  rest := by
    intro item hsource hbelow
    have hsorted := (hmem item).mpr ⟨hsource, hbelow⟩
    rw [← List.take_append_drop count sorted] at hsorted
    rcases List.mem_append.mp hsorted with hkept | hcut
    · exact Or.inl hkept
    · exact Or.inr ⟨length_take_of_mem_drop hcut, fun other hother => h.lt_of_mem_drop hother hcut⟩

theorem isPage_of_merged {firstTop secondTop merged : List α}
    (hfirst : IsTop key (limit + 1) bound first firstTop)
    (hsecond : IsTop key (limit + 1) bound second secondTop)
    (hmerged : Descending key merged) (hperm : merged.Perm (firstTop ++ secondTop)) :
    IsPage key limit bound (first ++ second) (merged.take limit) (limit < merged.length) where
  descending := hmerged.take
  mem := by
    intro item hitem
    rcases List.mem_append.mp (hperm.mem_iff.mp (List.mem_of_mem_take hitem)) with htop | htop
    · have hmem := hfirst.mem item htop
      exact ⟨List.mem_append_left _ hmem.1, hmem.2⟩
    · have hmem := hsecond.mem item htop
      exact ⟨List.mem_append_right _ hmem.1, hmem.2⟩
  full := by
    intro hmore
    have hlength : limit < merged.length := of_decide_eq_true hmore
    rw [List.length_take]
    omega
  rest := by
    -- an item that a full top leaves out comes after `limit + 1` merged ones
    have hleftOut : ∀ top : List α, (∀ other ∈ top, other ∈ merged) → top.length = limit + 1 →
        Descending key top → ∀ item, (∀ other ∈ top, key item < key other) →
        limit < merged.length ∧ ∀ other ∈ merged.take limit, key item < key other := by
      intro top hsub hlength hdescending item hafter
      have hlong : limit < merged.length := by
        have hle := hdescending.length_le hsub
        omega
      refine ⟨hlong, fun other hother => ?_⟩
      -- one of the top items is cut off, and it comes after everything kept
      obtain ⟨cut, hcutTop, hcut⟩ : ∃ cut ∈ top, cut ∉ merged.take limit := by
        by_contra hnone
        have hkept : ∀ cut ∈ top, cut ∈ merged.take limit := by
          intro cut hcut
          by_contra hnot
          exact hnone ⟨cut, hcut, hnot⟩
        have hle := hdescending.length_le hkept
        rw [List.length_take] at hle
        omega
      have hcutDrop : cut ∈ merged.drop limit := by
        have hmem := hsub cut hcutTop
        rw [← List.take_append_drop limit merged] at hmem
        exact (List.mem_append.mp hmem).resolve_left hcut
      exact (hafter cut hcutTop).trans (hmerged.lt_of_mem_drop hother hcutDrop)
    have htop : ∀ item, item ∈ firstTop ++ secondTop → item ∈ merged.take limit ∨
        limit < merged.length ∧ ∀ other ∈ merged.take limit, key item < key other := by
      intro item hitem
      have hmem := hperm.mem_iff.mpr hitem
      rw [← List.take_append_drop limit merged] at hmem
      rcases List.mem_append.mp hmem with hkept | hcut
      · exact Or.inl hkept
      · have hlength := List.length_pos_of_mem hcut
        rw [List.length_drop] at hlength
        exact Or.inr ⟨by omega, fun other hother => hmerged.lt_of_mem_drop hother hcut⟩
    intro item hitem hbelow
    simp only [decide_eq_true_eq]
    rcases List.mem_append.mp hitem with hsource | hsource
    · rcases hfirst.rest item hsource hbelow with hmem | ⟨hlength, hafter⟩
      · exact htop item (List.mem_append_left _ hmem)
      · refine Or.inr (hleftOut firstTop ?_ hlength hfirst.descending item hafter)
        exact fun other hother => hperm.mem_iff.mpr (List.mem_append_left _ hother)
    · rcases hsecond.rest item hsource hbelow with hmem | ⟨hlength, hafter⟩
      · exact htop item (List.mem_append_right _ hmem)
      · refine Or.inr (hleftOut secondTop ?_ hlength hsecond.descending item hafter)
        exact fun other hother => hperm.mem_iff.mpr (List.mem_append_right _ hother)

/-! ## A walk over pages -/

variable (key) in
/-- The pages of a walk over these reads of the items: it stops at the first page after which
there are no more items, or when no read is left. -/
inductive Pages (limit : Nat) : Option κ → List (List α) → List (List α × Bool) → Prop
  | cut {bound : Option κ} : Pages limit bound [] []
  | last {bound : Option κ} {source selected : List α} {sources : List (List α)} :
      IsPage key limit bound source selected false →
      Pages limit bound (source :: sources) [(selected, false)]
  | more {bound : Option κ} {source selected : List α} {sources : List (List α)}
      {pages : List (List α × Bool)} {item : α} :
      IsPage key limit bound source selected true → selected.getLast? = some item →
      Pages limit (some (key item)) sources pages →
      Pages limit bound (source :: sources) ((selected, true) :: pages)

def returned (pages : List (List α × Bool)) : List α :=
  pages.flatMap (·.1)

def Ended (pages : List (List α × Bool)) : Prop :=
  ∃ selected, pages.getLast? = some (selected, false)

variable {sources : List (List α)} {pages : List (List α × Bool)}

theorem Descending.last_le {items : List α} (h : Descending key items) {last item : α}
    (hlast : items.getLast? = some last) (hitem : item ∈ items) : key last ≤ key item := by
  obtain ⟨before, rfl⟩ := List.getLast?_eq_some_iff.mp hlast
  rcases List.mem_append.mp hitem with hmem | hmem
  · exact ((List.pairwise_append.mp h).2.2 item hmem last (List.mem_singleton_self last)).le
  · rw [List.mem_singleton.mp hmem]

theorem Pages.descending (h : Pages key limit bound sources pages) :
    Descending key (returned pages) ∧ ∀ item ∈ returned pages, Below key bound item := by
  induction h with
  | cut => exact ⟨List.Pairwise.nil, by simp [returned]⟩
  | @last bound source selected sources hpage =>
      simp only [returned, List.flatMap_cons, List.flatMap_nil, List.append_nil]
      exact ⟨hpage.descending, fun item hitem => (hpage.mem item hitem).2⟩
  | @more bound source selected sources pages last hpage hlast hpages ih =>
      obtain ⟨hrest, hbelow⟩ := ih
      have hafter : ∀ item ∈ selected, ∀ later ∈ returned pages, key later < key item := by
        intro item hitem later hlater
        exact (hbelow later hlater (key last) rfl).trans_le (hpage.descending.last_le hlast hitem)
      refine ⟨List.pairwise_append.mpr ⟨hpage.descending, hrest, hafter⟩, ?_⟩
      intro item hitem
      rcases List.mem_append.mp hitem with hmem | hmem
      · exact (hpage.mem item hmem).2
      · intro limit hlimit
        have hlastMem : last ∈ selected := List.mem_of_getLast? hlast
        exact (hafter last hlastMem item hmem).trans ((hpage.mem last hlastMem).2 limit hlimit)

theorem Pages.mem_source (h : Pages key limit bound sources pages) :
    ∀ item ∈ returned pages, ∃ source ∈ sources, item ∈ source := by
  induction h with
  | cut => simp [returned]
  | @last bound source selected sources hpage =>
      simp only [returned, List.flatMap_cons, List.flatMap_nil, List.append_nil]
      exact fun item hitem => ⟨source, List.mem_cons_self, (hpage.mem item hitem).1⟩
  | @more bound source selected sources pages last hpage hlast hpages ih =>
      intro item hitem
      rcases List.mem_append.mp hitem with hmem | hmem
      · exact ⟨source, List.mem_cons_self, (hpage.mem item hmem).1⟩
      · obtain ⟨other, hother, hsource⟩ := ih item hmem
        exact ⟨other, List.mem_cons_of_mem _ hother, hsource⟩

/-- A walk that ended returned every item that each of its reads found. -/
theorem Pages.complete (h : Pages key limit bound sources pages) (hended : Ended pages) {item : α}
    (hthroughout : ∀ source ∈ sources.take pages.length, item ∈ source)
    (hbelow : Below key bound item) : item ∈ returned pages := by
  induction h with
  | cut =>
      obtain ⟨selected, hlast⟩ := hended
      cases hlast
  | @last bound source selected sources hpage =>
      rcases hpage.rest item (hthroughout source (by simp)) hbelow with hmem | ⟨hmore, -⟩
      · simpa [returned] using hmem
      · cases hmore
  | @more bound source selected sources pages last hpage hlast hpages ih =>
      rcases hpage.rest item (hthroughout source (by simp)) hbelow with hmem | ⟨-, hafter⟩
      · exact List.mem_append_left _ hmem
      · apply List.mem_append_right
        apply ih
        · obtain ⟨final, hfinal⟩ := hended
          cases pages with
          | nil => cases hfinal
          | cons page pages => exact ⟨final, by simpa using hfinal⟩
        · intro other hother
          exact hthroughout other (by simp [hother])
        · intro limit hlimit
          obtain rfl := Option.some.inj hlimit
          exact hafter last (List.mem_of_getLast? hlast)

theorem Pages.length_of_not_ended (h : Pages key limit bound sources pages)
    (hopen : ¬Ended pages) :
    pages.length = sources.length ∧ (returned pages).length = sources.length * limit := by
  induction h with
  | cut => simp [returned]
  | @last bound source selected sources hpage => exact absurd ⟨selected, rfl⟩ hopen
  | @more bound source selected sources pages last hpage hlast hpages ih =>
      have hrest : ¬Ended pages := by
        rintro ⟨final, hfinal⟩
        cases pages with
        | nil => cases hfinal
        | cons page pages => exact hopen ⟨final, by simpa using hfinal⟩
      obtain ⟨hlength, hreturned⟩ := ih hrest
      have hfull : selected.length = limit := hpage.full rfl
      refine ⟨by simp [hlength], ?_⟩
      simp only [returned, List.flatMap_cons, List.length_append, List.length_cons] at hreturned ⊢
      rw [hreturned, hfull, Nat.add_mul, Nat.one_mul, Nat.add_comm]

theorem Pages.ended (h : Pages key limit bound sources pages) {all : List α}
    (hall : ∀ source ∈ sources, ∀ item ∈ source, item ∈ all)
    (hroom : all.length < sources.length * limit) : Ended pages := by
  by_contra hopen
  have hsub : ∀ item ∈ returned pages, item ∈ all := by
    intro item hitem
    obtain ⟨source, hsource, hmem⟩ := h.mem_source item hitem
    exact hall source hsource item hmem
  have hle := h.descending.1.length_le hsub
  rw [(h.length_of_not_ended hopen).2] at hle
  omega

end Hybro.KeysetPages
