import Mathlib.Data.List.Basic
import Mathlib.Data.List.Forall2

/-! # Ordered maps and updates in place

A map that keeps the order in which its keys were first written, as a JavaScript
record and a Python `dict` do, and the update of the first item of a list that
satisfies a test.
-/

namespace Hybro.OrderedMap

variable {κ ν α β : Type}

/-! ## The first item that satisfies a test -/

def updateFirst (p : α → Bool) (f : α → α) : List α → List α
  | [] => []
  | x :: rest => if p x then f x :: rest else x :: updateFirst p f rest

theorem updateFirst_of_eq {p : α → Bool} {f : α → α} {items : List α} {x : α}
    (h : items.find? p = some x) (hsame : f x = x) : updateFirst p f items = items := by
  induction items with
  | nil => rfl
  | cons y rest ih =>
      cases hy : p y with
      | true =>
          have hyx : y = x := by simpa [hy] using h
          subst hyx
          simp [updateFirst, hy, hsame]
      | false =>
          have hrest : rest.find? p = some x := by simpa [hy] using h
          simp [updateFirst, hy, ih hrest]

theorem mem_updateFirst {p : α → Bool} {f : α → α} {items : List α} {y : α}
    (h : y ∈ updateFirst p f items) : y ∈ items ∨ ∃ x, items.find? p = some x ∧ y = f x := by
  induction items with
  | nil => cases h
  | cons x rest ih =>
      unfold updateFirst at h
      cases hx : p x with
      | true =>
          rw [hx] at h
          rcases List.mem_cons.mp h with rfl | h
          · exact .inr ⟨x, by simp [hx], rfl⟩
          · exact .inl (List.mem_cons_of_mem _ h)
      | false =>
          rw [hx] at h
          rcases List.mem_cons.mp h with rfl | h
          · exact .inl (List.mem_cons_self ..)
          · rcases ih h with hmem | ⟨z, hfind, hy⟩
            · exact .inl (List.mem_cons_of_mem _ hmem)
            · exact .inr ⟨z, by simp [hx, hfind], hy⟩

theorem mem_updateFirst_of_ne {p : α → Bool} {f : α → α} {items : List α} {y : α}
    (hmem : y ∈ items) (hy : p y = false) : y ∈ updateFirst p f items := by
  induction items with
  | nil => cases hmem
  | cons x rest ih =>
      unfold updateFirst
      rcases List.mem_cons.mp hmem with rfl | hmem
      · rw [hy]
        exact List.mem_cons_self ..
      · split
        · exact List.mem_cons_of_mem _ hmem
        · exact List.mem_cons_of_mem _ (ih hmem)

theorem map_updateFirst {p : α → Bool} {f : α → α} {g : α → β} {items : List α}
    (h : ∀ x, items.find? p = some x → g (f x) = g x) :
    (updateFirst p f items).map g = items.map g := by
  induction items with
  | nil => rfl
  | cons x rest ih =>
      unfold updateFirst
      cases hx : p x with
      | true =>
          have hsame : g (f x) = g x := h x (by simp [hx])
          simp [hsame]
      | false =>
          have hrest : ∀ y, rest.find? p = some y → g (f y) = g y := by
            intro y hy
            exact h y (by simp [hx, hy])
          simp [ih hrest]

theorem filterMap_updateFirst {p : α → Bool} {f : α → α} {g : α → Option β} {items : List α}
    (h : ∀ x, items.find? p = some x → g (f x) = g x) :
    (updateFirst p f items).filterMap g = items.filterMap g := by
  have hmap := congrArg (List.filterMap id) (map_updateFirst (g := g) h)
  simpa [List.filterMap_map, Function.comp_def] using hmap

theorem find?_updateFirst {p : α → Bool} {f : α → α} {items : List α}
    (hkeeps : ∀ x, p x = true → p (f x) = true) :
    (updateFirst p f items).find? p = (items.find? p).map f := by
  induction items with
  | nil => rfl
  | cons x rest ih =>
      unfold updateFirst
      cases hx : p x with
      | true => simp [hx, hkeeps x hx]
      | false => simp [hx, ih]

theorem find?_updateFirst_of_ne {p q : α → Bool} {f : α → α} {items : List α}
    (hkeeps : ∀ x, p x = true → q (f x) = false ∧ q x = false) :
    (updateFirst p f items).find? q = items.find? q := by
  induction items with
  | nil => rfl
  | cons x rest ih =>
      unfold updateFirst
      cases hx : p x with
      | true => simp [hkeeps x hx]
      | false => rw [if_neg Bool.false_ne_true, List.find?_cons, List.find?_cons, ih]

/-! ## Lists that look alike -/

section Alike

variable {γ : Type} {p : α → Bool} {q : β → Bool} {u : α → γ} {v : β → γ}

theorem find?_of_map_eq {xs : List α} {ys : List β} (h : xs.map u = ys.map v)
    (htest : ∀ x y, u x = v y → p x = q y) : (xs.find? p).map u = (ys.find? q).map v := by
  induction xs generalizing ys with
  | nil =>
      cases ys with
      | nil => rfl
      | cons y ys => cases h
  | cons x xs ih =>
      cases ys with
      | nil => cases h
      | cons y ys =>
          obtain ⟨hxy, hrest⟩ := List.cons.inj h
          have hsame := htest x y hxy
          cases hx : p x with
          | true =>
              have hy : q y = true := hsame ▸ hx
              simp [hx, hy, hxy]
          | false =>
              have hy : q y = false := hsame ▸ hx
              simpa [List.find?_cons, hx, hy] using ih hrest

theorem any_of_map_eq_of_mem {xs : List α} {ys : List β} (h : xs.map u = ys.map v)
    (htest : ∀ x y, y ∈ ys → u x = v y → p x = q y) : xs.any p = ys.any q := by
  induction xs generalizing ys with
  | nil =>
      cases ys with
      | nil => rfl
      | cons y ys => cases h
  | cons x xs ih =>
      cases ys with
      | nil => cases h
      | cons y ys =>
          obtain ⟨hxy, hrest⟩ := List.cons.inj h
          have htail := ih hrest fun a b hb => htest a b (List.mem_cons_of_mem _ hb)
          simp [htest x y (List.mem_cons_self ..) hxy, htail]

theorem any_of_map_eq {xs : List α} {ys : List β} (h : xs.map u = ys.map v)
    (htest : ∀ x y, u x = v y → p x = q y) : xs.any p = ys.any q :=
  any_of_map_eq_of_mem h fun x y _ => htest x y

theorem updateFirst_of_map_eq {f : α → α} {g : β → β} {xs : List α} {ys : List β}
    (h : xs.map u = ys.map v) (htest : ∀ x y, u x = v y → p x = q y)
    (hupdate : ∀ x y, xs.find? p = some x → ys.find? q = some y → u x = v y → u (f x) = v (g y)) :
    (updateFirst p f xs).map u = (updateFirst q g ys).map v := by
  induction xs generalizing ys with
  | nil =>
      cases ys with
      | nil => rfl
      | cons y ys => cases h
  | cons x xs ih =>
      cases ys with
      | nil => cases h
      | cons y ys =>
          obtain ⟨hxy, hrest⟩ := List.cons.inj h
          have hsame := htest x y hxy
          cases hx : p x with
          | true =>
              have hy : q y = true := hsame ▸ hx
              have hfg := hupdate x y (by simp [hx]) (by simp [hy]) hxy
              simp [updateFirst, hx, hy, hfg, hrest]
          | false =>
              have hy : q y = false := hsame ▸ hx
              have htail := ih hrest (by
                intro a b ha hb hab
                exact hupdate a b (by simp [hx, ha]) (by simp [hy, hb]) hab)
              simp [updateFirst, hx, hy, hxy, htail]

theorem updateFirst_map {f : β → β} {g : α → α} {items : List α} {w : α → β}
    (htest : ∀ x, q (w x) = p x) (hupdate : ∀ x, items.find? p = some x → f (w x) = w (g x)) :
    updateFirst q f (items.map w) = (updateFirst p g items).map w := by
  have hsame : (items.map w).map id = items.map w := List.map_id _
  have hupdated := updateFirst_of_map_eq (p := q) (q := p) (f := f) (g := g) hsame
    (by
      intro y x hyx
      have hyx : y = w x := hyx
      rw [hyx, htest])
    (by
      intro y x _ hx hyx
      have hyx : y = w x := hyx
      rw [hyx]
      exact hupdate x hx)
  simpa using hupdated

end Alike

variable [DecidableEq κ]

theorem find?_of_nodup {key : α → κ} {items : List α} {x : α} (h : (items.map key).Nodup)
    (hmem : x ∈ items) : items.find? (key · = key x) = some x := by
  induction items with
  | nil => cases hmem
  | cons first rest ih =>
      obtain ⟨hfirst, hrest⟩ := List.nodup_cons.mp h
      rcases List.mem_cons.mp hmem with rfl | hmem
      · simp
      · have hne : key first ≠ key x := by
          intro heq
          apply hfirst
          rw [heq]
          exact List.mem_map_of_mem hmem
        simpa [hne] using ih hrest hmem

/-! ## Maps -/

def get (map : List (κ × ν)) (key : κ) : Option ν :=
  (map.find? (·.1 = key)).map (·.2)

/-- A key that is there keeps its place. -/
def put (map : List (κ × ν)) (key : κ) (value : ν) : List (κ × ν) :=
  if map.any (·.1 = key) then updateFirst (·.1 = key) (fun _ => (key, value)) map
  else map ++ [(key, value)]

def values (map : List (κ × ν)) : List ν :=
  map.map (·.2)

theorem mem_values_of_get {map : List (κ × ν)} {key : κ} {value : ν}
    (h : get map key = some value) : value ∈ values map := by
  unfold get at h
  obtain ⟨entry, hfind, hvalue⟩ := Option.map_eq_some_iff.mp h
  subst hvalue
  exact List.mem_map_of_mem (List.mem_of_find?_eq_some hfind)

theorem mem_values_put {map : List (κ × ν)} {key : κ} {value other : ν}
    (h : other ∈ values (put map key value)) : other ∈ values map ∨ other = value := by
  unfold values put at h
  obtain ⟨entry, hmem, hother⟩ := List.mem_map.mp h
  subst hother
  split at hmem
  · rcases mem_updateFirst hmem with hmem | ⟨_, _, hentry⟩
    · exact .inl (List.mem_map_of_mem hmem)
    · exact .inr (congrArg (·.2) hentry)
  · rcases List.mem_append.mp hmem with hmem | hmem
    · exact .inl (List.mem_map_of_mem hmem)
    · exact .inr (congrArg (·.2) (List.mem_singleton.mp hmem))

theorem get_put_self (map : List (κ × ν)) (key : κ) (value : ν) :
    get (put map key value) key = some value := by
  unfold get put
  split
  · rename_i hany
    rw [find?_updateFirst (by simp)]
    obtain ⟨entry, hmem, hkey⟩ := List.any_eq_true.mp hany
    cases hfind : map.find? (·.1 = key) with
    | some _ => rfl
    | none => exact absurd hkey (by simpa using List.find?_eq_none.mp hfind entry hmem)
  · rename_i hnone
    have hmissing : map.find? (·.1 = key) = none := by
      apply List.find?_eq_none.mpr
      intro entry hmem hkey
      exact hnone (List.any_eq_true.mpr ⟨entry, hmem, hkey⟩)
    simp [List.find?_append, hmissing]

theorem get_put_of_ne {map : List (κ × ν)} {key other : κ} (value : ν) (h : other ≠ key) :
    get (put map key value) other = get map other := by
  unfold get put
  split
  · rw [find?_updateFirst_of_ne]
    intro entry hentry
    have hkey : entry.1 = key := by simpa using hentry
    simp [hkey, Ne.symm h]
  · simp [List.find?_append, Ne.symm h]

theorem put_of_get {map : List (κ × ν)} {key : κ} {value : ν} (h : get map key = some value) :
    put map key value = map := by
  obtain ⟨entry, hfind, hvalue⟩ := Option.map_eq_some_iff.mp h
  have hkey : entry.1 = key := by simpa using List.find?_some hfind
  have hany : map.any (·.1 = key) = true :=
    List.any_eq_true.mpr ⟨entry, List.mem_of_find?_eq_some hfind, by simpa using hkey⟩
  unfold put
  rw [if_pos hany]
  apply updateFirst_of_eq hfind
  rw [← hkey, ← hvalue]

theorem nodup_put {map : List (κ × ν)} {key : κ} {value : ν} (h : (map.map (·.1)).Nodup) :
    ((put map key value).map (·.1)).Nodup := by
  unfold put
  split
  · rwa [map_updateFirst]
    intro entry hentry
    have hkey : entry.1 = key := by simpa using List.find?_some hentry
    exact hkey.symm
  · rename_i hnew
    rw [List.map_append, List.map_singleton]
    apply List.nodup_append.mpr
    refine ⟨h, by simp, ?_⟩
    intro other hother added hadded hsame
    obtain ⟨entry, hentry, hkey⟩ := List.mem_map.mp hother
    cases List.mem_singleton.mp hadded
    exact hnew (List.any_eq_true.mpr ⟨entry, hentry, by simp [hkey, hsame]⟩)

theorem put_eq_map {map : List (κ × ν)} {key : κ} {value : ν} {f : ν → ν}
    (hnodup : (map.map (·.1)).Nodup) (hmem : (key, value) ∈ map)
    (hothers : ∀ entry ∈ map, entry.1 ≠ key → f entry.2 = entry.2) :
    put map key (f value) = map.map fun entry => (entry.1, f entry.2) := by
  have hany : map.any (·.1 = key) = true := List.any_eq_true.mpr ⟨_, hmem, by simp⟩
  unfold put
  rw [if_pos hany]
  clear hany
  induction map with
  | nil => cases hmem
  | cons first rest ih =>
      obtain ⟨hfirst, hrest⟩ := List.nodup_cons.mp hnodup
      unfold updateFirst
      by_cases hkey : first.1 = key
      · have hsame : first = (key, value) := by
          rcases List.mem_cons.mp hmem with heq | htail
          · exact heq.symm
          · exact absurd (List.mem_map.mpr ⟨_, htail, hkey.symm⟩) hfirst
        have hkept : rest.map (fun entry => (entry.1, f entry.2)) = rest := by
          apply List.map_congr_left (g := id) _ |>.trans (List.map_id rest)
          intro entry hentry
          have hne : entry.1 ≠ key := by
            intro heq
            exact hfirst (List.mem_map.mpr ⟨entry, hentry, heq.trans hkey.symm⟩)
          rw [hothers entry (List.mem_cons_of_mem _ hentry) hne]
          rfl
        simp [hsame, hkept]
      · have htail : (key, value) ∈ rest := by
          rcases List.mem_cons.mp hmem with heq | htail
          · exact absurd (congrArg (·.1) heq.symm) hkey
          · exact htail
        have hsame := hothers first (List.mem_cons_self ..) hkey
        have hih := ih hrest htail fun entry hentry =>
          hothers entry (List.mem_cons_of_mem _ hentry)
        simp only [hkey, decide_false, if_neg Bool.false_ne_true, hih, List.map_cons, hsame]

def erase (map : List (κ × ν)) (key : κ) : List (κ × ν) :=
  map.filter (·.1 ≠ key)

theorem get_erase_self (map : List (κ × ν)) (key : κ) : get (erase map key) key = none := by
  unfold get erase
  have hnone : (map.filter (·.1 ≠ key)).find? (·.1 = key) = none := by
    apply List.find?_eq_none.mpr
    intro entry hmem
    simpa using (List.mem_filter.mp hmem).2
  rw [hnone]
  rfl

theorem get_erase_of_ne {map : List (κ × ν)} {key other : κ} (h : other ≠ key) :
    get (erase map key) other = get map other := by
  unfold get erase
  induction map with
  | nil => rfl
  | cons first rest ih =>
      by_cases hkey : first.1 = key
      · have hother : first.1 ≠ other := fun heq => h (heq.symm.trans hkey)
        simpa [hkey, hother, Ne.symm h] using ih
      · by_cases hother : first.1 = other
        · simp [hother, h]
        · simpa [hkey, hother] using ih

/-! ## Keys -/

theorem mem_keys_iff {map : List (κ × ν)} {key : κ} :
    key ∈ map.map (·.1) ↔ (get map key).isSome = true := by
  simp [get, List.mem_map]

theorem mem_iff_get {map : List (κ × ν)} (h : (map.map (·.1)).Nodup) {key : κ} {value : ν} :
    (key, value) ∈ map ↔ get map key = some value := by
  unfold get
  constructor
  · intro hmem
    have hfind := find?_of_nodup h hmem
    simp only at hfind
    rw [hfind]
    rfl
  · intro hget
    obtain ⟨entry, hfind, rfl⟩ := Option.map_eq_some_iff.mp hget
    have hkey : entry.1 = key := by simpa using List.find?_some hfind
    subst hkey
    exact List.mem_of_find?_eq_some hfind

theorem nodup_erase {map : List (κ × ν)} (key : κ) (h : (map.map (·.1)).Nodup) :
    ((erase map key).map (·.1)).Nodup :=
  h.sublist (List.filter_sublist.map _)

theorem ne_of_get_eq_none {map : List (κ × ν)} {key : κ} (h : get map key = none) {entry : κ × ν}
    (hentry : entry ∈ map) : entry.1 ≠ key := by
  intro hkey
  have hmem : key ∈ map.map (·.1) := List.mem_map.mpr ⟨entry, hentry, hkey⟩
  rw [mem_keys_iff, h] at hmem
  cases hmem

theorem erase_of_get_eq_none {map : List (κ × ν)} {key : κ} (h : get map key = none) :
    erase map key = map := by
  unfold erase
  rw [List.filter_eq_self]
  intro entry hentry
  simpa using ne_of_get_eq_none h hentry

theorem erase_put_of_new {map : List (κ × ν)} {key : κ} (value : ν) (h : get map key = none) :
    erase (put map key value) key = map := by
  have hany : map.any (·.1 = key) = false := by
    rw [List.any_eq_false]
    intro entry hentry
    simpa using ne_of_get_eq_none h hentry
  have hkept := erase_of_get_eq_none h
  unfold erase at hkept
  unfold erase put
  rw [if_neg (by simp [hany]), List.filter_append, hkept]
  simp

/-! ## Maps that are related key by key -/

def Related {μ : Type} (R : κ → ν → μ → Prop) (left : List (κ × ν)) (right : List (κ × μ)) :
    Prop :=
  List.Forall₂ (fun a b => a.1 = b.1 ∧ R a.1 a.2 b.2) left right

section Related

variable {μ : Type} {R : κ → ν → μ → Prop} {left : List (κ × ν)} {right : List (κ × μ)}

theorem Related.get (h : Related R left right) (key : κ) :
    (get left key = none ∧ get right key = none) ∨
      ∃ a b, OrderedMap.get left key = some a ∧ OrderedMap.get right key = some b ∧ R key a b := by
  induction h with
  | nil => exact .inl ⟨rfl, rfl⟩
  | @cons x y xs ys hxy _ ih =>
      obtain ⟨hkey, hvalue⟩ := hxy
      by_cases hx : x.1 = key
      · have hy : y.1 = key := hkey ▸ hx
        refine .inr ⟨x.2, y.2, ?_, ?_, hx ▸ hvalue⟩
        · simp [OrderedMap.get, hx]
        · simp [OrderedMap.get, hy]
      · have hy : y.1 ≠ key := hkey ▸ hx
        simpa [OrderedMap.get, hx, hy] using ih

omit [DecidableEq κ] in
theorem Related.keys (h : Related R left right) : left.map (·.1) = right.map (·.1) := by
  induction h with
  | nil => rfl
  | cons hxy _ ih => simp [hxy.1, ih]

theorem Related.any_key (h : Related R left right) (key : κ) :
    left.any (·.1 = key) = right.any (·.1 = key) := by
  induction h with
  | nil => rfl
  | cons hxy _ ih => simp [hxy.1, ih]

theorem Related.updateFirst (h : Related R left right) {key : κ} {a : ν} {b : μ}
    (hab : R key a b) :
    Related R (updateFirst (·.1 = key) (fun _ => (key, a)) left)
      (updateFirst (·.1 = key) (fun _ => (key, b)) right) := by
  induction h with
  | nil => exact .nil
  | @cons x y xs ys hxy hrest ih =>
      unfold OrderedMap.updateFirst
      by_cases hx : x.1 = key
      · have hy : y.1 = key := hxy.1 ▸ hx
        simp only [hx, hy, decide_true, if_true]
        exact .cons ⟨rfl, hab⟩ hrest
      · have hy : y.1 ≠ key := hxy.1 ▸ hx
        simp only [hx, hy, decide_false, if_neg Bool.false_ne_true]
        exact .cons hxy ih

theorem Related.put (h : Related R left right) {key : κ} {a : ν} {b : μ} (hab : R key a b) :
    Related R (put left key a) (put right key b) := by
  unfold OrderedMap.put
  rw [h.any_key key]
  split
  · exact h.updateFirst hab
  · have hnew : Related R [(key, a)] [(key, b)] := .cons ⟨rfl, hab⟩ .nil
    exact List.rel_append h hnew

end Related

end Hybro.OrderedMap
