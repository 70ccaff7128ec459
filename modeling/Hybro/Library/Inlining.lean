import Hybro.Library.Raising

/-! # Operations that are programs themselves

A program over coarse operations becomes one over finer operations when some of the
coarse ones are inlined.
-/

namespace Hybro.Interleaving

/-! ## Own steps -/

section Own

variable {Op : Type} {Res : Op → Type} {α σ : Type}
  {C : Contract Op Res σ} {Q : α → σ → Prop} {p : Prog Op Res α} {s : σ}

/-- When own steps are tolerated as steps of others are, they all lead on from the start. -/
theorem Contract.Safe.path (hown : ∀ s s', C.guar s s' → C.rely s s') {start : σ}
    (hpath : C.Interferes start s) (hs : C.inv s) (h : C.Safe Q p s) :
    C.Safe (fun a s' => C.Interferes start s' ∧ Q a s') p s := by
  induction p generalizing s with
  | done a => exact fun s' h' => ⟨hpath.trans h', h s' h'⟩
  | act o k ih =>
      intro s' h' r s'' he
      obtain ⟨hguar, hinv, hsafe⟩ := h s' h' r s'' he
      refine ⟨hguar, hinv, ih r ?_ hinv hsafe⟩
      exact (hpath.trans h').tail ⟨h'.inv hs, hown _ _ hguar, hinv⟩

end Own

/-! ## Inlining -/

section Inlining

variable {Op New : Type} {Res : Op → Type} {NewRes : New → Type} {α β σ ε : Type}

/-- The operations of the finer program: those that stay, and new ones. -/
abbrev Prog.Finer (Op New : Type) (Res : Op → Type) (NewRes : New → Type) (α : Type) : Type :=
  Prog (Op ⊕ New) (Sum.elim Res NewRes) α

/-- The operations that have a body are replaced by it. -/
def Prog.inline (body : (o : Op) → Option (Prog.Finer Op New Res NewRes (Res o))) :
    Prog Op Res α → Prog.Finer Op New Res NewRes α
  | .done a => .done a
  | .act o k =>
      match body o with
      | none => .act (.inl o) fun r => (k r).inline body
      | some p => p >>= fun r => (k r).inline body

variable {C : Contract (Op ⊕ New) (Sum.elim Res NewRes) σ}
  {exec : (o : Op) → σ → Res o → σ → Prop}
  {body : (o : Op) → Option (Prog.Finer Op New Res NewRes (Res o))} {Q : α → σ → Prop}
  {p : Prog Op Res α} {s : σ}

/-- The contract of the coarse program: only its operations differ. -/
def Contract.coarse (C : Contract (Op ⊕ New) (Sum.elim Res NewRes) σ)
    (exec : (o : Op) → σ → Res o → σ → Prop) : Contract Op Res σ where
  exec := exec
  inv := C.inv
  rely := C.rely
  guar := C.guar

/-- The body of an operation does, among the steps of others, one step of the operation. -/
def Contract.Implements (C : Contract (Op ⊕ New) (Sum.elim Res NewRes) σ)
    (exec : (o : Op) → σ → Res o → σ → Prop) (o : Op)
    (p : Prog.Finer Op New Res NewRes (Res o)) : Prop :=
  ∀ s, C.inv s → C.Safe (fun r s' => ∃ mid, C.Interferes s mid ∧ exec o mid r s') p s

theorem Contract.Safe.inline
    (hkept : ∀ o, body o = none → ∀ s r s', C.exec (.inl o) s r s' → exec o s r s')
    (hbody : ∀ o p, body o = some p → C.Implements exec o p) (hs : C.inv s)
    (h : (C.coarse exec).Safe Q p s) : C.Safe Q (p.inline body) s := by
  induction p generalizing s with
  | done a => exact h
  | act o k ih =>
      unfold Prog.inline
      cases hop : body o with
      | none =>
          intro s' h' r s'' he
          obtain ⟨hguar, hinv, hsafe⟩ := h s' h' r s'' (hkept o hop _ _ _ he)
          exact ⟨hguar, hinv, ih r hinv hsafe⟩
      | some p =>
          refine Contract.Safe.bind hs (hbody o p hop s hs) ?_
          rintro r s' hs' ⟨mid, hmid, hstep⟩
          obtain ⟨-, -, hsafe⟩ := h mid hmid r s' hstep
          exact ih r hs' hsafe

theorem Contract.Triple.inline {P : σ → Prop}
    (hkept : ∀ o, body o = none → ∀ s r s', C.exec (.inl o) s r s' → exec o s r s')
    (hbody : ∀ o p, body o = some p → C.Implements exec o p)
    (h : (C.coarse exec).Triple P p Q) : C.Triple P (p.inline body) Q :=
  fun s hs hP => Contract.Safe.inline hkept hbody hs (h s hs hP)

/-! ## Lifting -/

def Prog.lift (p : Prog Op Res α) : Prog.Finer Op New Res NewRes α :=
  p.inline fun _ => none

theorem Contract.Triple.lift {P : σ → Prop}
    (h : (C.coarse fun o => C.exec (.inl o)).Triple P p Q) : C.Triple P p.lift Q :=
  Contract.Triple.inline (fun _ _ _ _ _ he => he) nofun h

end Inlining

end Hybro.Interleaving
