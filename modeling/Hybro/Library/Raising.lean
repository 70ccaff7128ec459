import Hybro.Library.Interleaving

/-! # Programs that raise

Programs over atomic operations that may end with an exception, handlers, programs
that are cut off in the middle, and their rely-guarantee rules. The frame rule lets a
program be proved once against a narrower promise and used with every assertion that
this promise keeps.
-/

namespace Hybro.Interleaving

variable {Op : Type} {Res : Op → Type} {ε α β σ : Type}

abbrev Raising (Op : Type) (Res : Op → Type) (ε : Type) := ExceptT ε (Prog Op Res)

namespace Raising

def effect (o : Op) (reading : Res o → Except ε α) : Raising Op Res ε α :=
  ExceptT.mk (.act o fun r => .done (reading r))

/-- `try p`, with the exception as a value. -/
def attempt (p : Raising Op Res ε α) : Raising Op Res ε (Except ε α) :=
  ExceptT.mk (p.run >>= fun r => .done (.ok r))

/-- At most `n` operations of the program; what it returns or raises is dropped. -/
def cutOff : Nat → Prog Op Res α → Prog Op Res Unit
  | _, .done _ => .done ()
  | 0, .act _ _ => .done ()
  | n + 1, .act o k => .act o fun r => cutOff n (k r)

theorem cutOff_done (n : Nat) (a : α) :
    cutOff n (.done a : Prog Op Res α) = (.done () : Prog Op Res Unit) := by
  cases n <;> rfl

def cancelAfter (n : Nat) (p : Raising Op Res ε α) : Raising Op Res ε Unit :=
  ExceptT.mk (cutOff n p.run >>= fun _ => .done (.ok ()))

end Raising

namespace Contract

variable {C : Contract Op Res σ}

/-- Returning leaves `Q`, raising leaves `E`. -/
def Ends (Q : α → σ → Prop) (E : ε → σ → Prop) : Except ε α → σ → Prop
  | .ok a, s => Q a s
  | .error e, s => E e s

def Raises (C : Contract Op Res σ) (P : σ → Prop) (p : Raising Op Res ε α) (Q : α → σ → Prop)
    (E : ε → σ → Prop) : Prop :=
  C.Triple P p.run (Ends Q E)

variable {P P' : σ → Prop} {Q Q' : α → σ → Prop} {E E' : ε → σ → Prop}

theorem Raises.pure {a : α} (hP : C.Stable P) (h : ∀ s, C.inv s → P s → Q a s) :
    C.Raises P (Pure.pure a : Raising Op Res ε α) Q E :=
  Triple.done hP h

theorem Raises.throw {e : ε} (hP : C.Stable P) (h : ∀ s, C.inv s → P s → E e s) :
    C.Raises P (MonadExcept.throw e : Raising Op Res ε α) Q E :=
  Triple.done hP h

theorem Raises.bind {R : α → σ → Prop} {Q : β → σ → Prop} {p : Raising Op Res ε α}
    {f : α → Raising Op Res ε β} (hp : C.Raises P p R E) (hE : ∀ e, C.Stable (E e))
    (hf : ∀ a, C.Raises (R a) (f a) Q E) : C.Raises P (p >>= f) Q E := by
  refine Triple.bind _ hp ?_
  intro r
  cases r with
  | ok a => exact hf a
  | error e => exact Triple.done (hE e) fun _ _ h => h

theorem Raises.attempt {p : Raising Op Res ε α} (hp : C.Raises P p Q E)
    (hQ : ∀ a, C.Stable (Q a)) (hE : ∀ e, C.Stable (E e)) :
    C.Raises P (Raising.attempt p) (Ends Q E) E' := by
  refine Triple.bind _ hp ?_
  intro r
  refine Triple.done ?_ fun _ _ h => h
  cases r with
  | ok a => exact hQ a
  | error e => exact hE e

theorem Raises.conseq {p : Raising Op Res ε α} (h : C.Raises P p Q E)
    (hP : ∀ s, C.inv s → P' s → P s) (hQ : ∀ a s, C.inv s → Q a s → Q' a s)
    (hE : ∀ e s, C.inv s → E e s → E' e s) : C.Raises P' p Q' E' := by
  refine Triple.conseq h hP ?_
  intro r s hs hends
  cases r with
  | ok a => exact hQ a s hs hends
  | error e => exact hE e s hs hends

theorem Raises.pre {p : Raising Op Res ε α} (h : C.Raises P p Q E)
    (hP : ∀ s, C.inv s → P' s → P s) : C.Raises P' p Q E :=
  h.conseq hP (fun _ _ _ h => h) (fun _ _ _ h => h)

/-- A fact about values that the assertion gives may be used at once. -/
theorem Raises.given {φ : Prop} {p : Raising Op Res ε α} (hφ : ∀ s, C.inv s → P s → φ)
    (h : φ → C.Raises P p Q E) : C.Raises P p Q E :=
  fun s hs hP => h (hφ s hs hP) s hs hP

theorem Raises.effect {o : Op} {reading : Res o → Except ε α} (hP : C.Stable P)
    (hQ : ∀ a, C.Stable (Q a)) (hE : ∀ e, C.Stable (E e))
    (hstep : ∀ s r s', C.inv s → P s → C.exec o s r s' →
      C.guar s s' ∧ C.inv s' ∧ Ends Q E (reading r) s') :
    C.Raises P (Raising.effect o reading) Q E := by
  refine Triple.act (fun r => Ends Q E (reading r)) hP hstep ?_
  intro r
  refine Triple.done ?_ fun _ _ h => h
  cases reading r with
  | ok a => exact hQ a
  | error e => exact hE e

/-! ## Frames -/

/-- An assertion that the others and every promised step keep. -/
structure Kept (C : Contract Op Res σ) (A : σ → Prop) : Prop where
  stable : C.Stable A
  own : ∀ s s', C.inv s → C.guar s s' → A s → A s'

variable {A B : σ → Prop}

theorem Kept.const (P : Prop) : C.Kept (fun _ => P) :=
  ⟨Stable.const P, fun _ _ _ _ h => h⟩

theorem Kept.and (hA : C.Kept A) (hB : C.Kept B) : C.Kept (fun s => A s ∧ B s) :=
  ⟨hA.stable.and hB.stable,
    fun s s' hs hguar h => ⟨hA.own s s' hs hguar h.1, hB.own s s' hs hguar h.2⟩⟩

private theorem safe_keep {Q : α → σ → Prop} (hA : C.Kept A) {p : Prog Op Res α} {s : σ}
    (hs : C.inv s) (hframe : A s) (h : C.Safe Q p s) : C.Safe (fun a s => A s ∧ Q a s) p s := by
  induction p generalizing s with
  | done a => exact fun s' h' => ⟨hA.stable.interferes h' hframe, h s' h'⟩
  | act o k ih =>
      intro s' h' r s'' he
      obtain ⟨hguar, hi, hsafe⟩ := h s' h' r s'' he
      have hkept := hA.own s' s'' (h'.inv hs) hguar (hA.stable.interferes h' hframe)
      exact ⟨hguar, hi, ih r hi hkept hsafe⟩

theorem Raises.keep {p : Raising Op Res ε α} (h : C.Raises P p Q E) (hA : C.Kept A) :
    C.Raises (fun s => A s ∧ P s) p (fun a s => A s ∧ Q a s) (fun e s => A s ∧ E e s) := by
  refine Triple.post (fun s hs hP => safe_keep hA hs hP.1 (h s hs hP.2)) ?_
  intro r s _ hends
  cases r with
  | ok a => exact hends
  | error e => exact hends

private theorem safe_cutOff {Q : α → σ → Prop} (hA : C.Kept A) {n : Nat} {p : Prog Op Res α}
    {s : σ} (hs : C.inv s) (hframe : A s) (h : C.Safe Q p s) :
    C.Safe (fun _ => A) (Raising.cutOff n p) s := by
  induction p generalizing s n with
  | done a =>
      rw [Raising.cutOff_done]
      exact fun s' h' => hA.stable.interferes h' hframe
  | act o k ih =>
      cases n with
      | zero => exact fun s' h' => hA.stable.interferes h' hframe
      | succ n =>
          intro s' h' r s'' he
          obtain ⟨hguar, hi, hsafe⟩ := h s' h' r s'' he
          have hkept := hA.own s' s'' (h'.inv hs) hguar (hA.stable.interferes h' hframe)
          exact ⟨hguar, hi, ih r hi hkept hsafe⟩

theorem Raises.cancelAfter {n : Nat} {p : Raising Op Res ε α} (h : C.Raises P p Q E)
    (hA : C.Kept A) :
    C.Raises (fun s => A s ∧ P s) (Raising.cancelAfter n p) (fun _ => A) E' := by
  refine Triple.bind (fun _ => A) (fun s hs hP => safe_cutOff hA hs hP.1 (h s hs hP.2)) ?_
  intro _
  refine Triple.done hA.stable ?_
  exact fun _ _ h => h

def narrow (C : Contract Op Res σ) (g : σ → σ → Prop) : Contract Op Res σ :=
  { C with guar := fun s s' => C.guar s s' ∧ g s s' }

variable {g : σ → σ → Prop}

private theorem safe_widen {Q : α → σ → Prop} {p : Prog Op Res α} {s : σ}
    (h : (C.narrow g).Safe Q p s) : C.Safe Q p s := by
  induction p generalizing s with
  | done a => exact h
  | act o k ih =>
      intro s' h' r s'' he
      obtain ⟨⟨hguar, -⟩, hi, hsafe⟩ := h s' h' r s'' he
      exact ⟨hguar, hi, ih r hsafe⟩

/-- What is shown against a narrower promise holds with every assertion that the
narrower promise keeps. -/
theorem Raises.widen {p : Raising Op Res ε α} (h : (C.narrow g).Raises P p Q E)
    (hA : (C.narrow g).Kept A) :
    C.Raises (fun s => A s ∧ P s) p (fun a s => A s ∧ Q a s) (fun e s => A s ∧ E e s) :=
  fun s hs hP => safe_widen (h.keep hA s hs hP)

end Contract

/-! ## Programs that may raise anywhere -/

variable {C : Contract Op Res σ} {P : σ → Prop} {Q R : α → σ → Prop}

/-- The program may raise in any state that the contract allows. -/
def Plainly (C : Contract Op Res σ) (P : σ → Prop) (p : Raising Op Res ε α)
    (Q : α → σ → Prop) : Prop :=
  C.Raises P p Q (fun _ _ => True)

namespace Plainly

theorem pure {a : α} (hP : C.Stable P) (h : ∀ s, C.inv s → P s → Q a s) :
    Plainly C P (Pure.pure a : Raising Op Res ε α) Q :=
  Contract.Raises.pure hP h

theorem finish {a : α} (hP : C.Stable P) :
    Plainly C P (Pure.pure a : Raising Op Res ε α) (fun _ _ => True) :=
  Plainly.pure hP fun _ _ _ => trivial

theorem throw {error : ε} : Plainly C P (MonadExcept.throw error : Raising Op Res ε α) Q :=
  Contract.Raises.throw (P := fun _ => True) (Contract.Stable.const True) (fun _ _ h => h)
    |>.pre fun _ _ _ => trivial

theorem bind {Q : β → σ → Prop} {p : Raising Op Res ε α} {f : α → Raising Op Res ε β}
    (hp : Plainly C P p R) (hf : ∀ a, Plainly C (R a) (f a) Q) : Plainly C P (p >>= f) Q :=
  Contract.Raises.bind hp (fun _ => Contract.Stable.const True) hf

theorem weaken {P' : σ → Prop} {Q' : α → σ → Prop} {p : Raising Op Res ε α}
    (h : Plainly C P p Q) (hP : ∀ s, C.inv s → P' s → P s)
    (hQ : ∀ a s, C.inv s → Q a s → Q' a s) : Plainly C P' p Q' :=
  Contract.Raises.conseq h hP hQ (fun _ _ _ h => h)

theorem post {Q' : α → σ → Prop} {p : Raising Op Res ε α} (h : Plainly C P p Q)
    (hQ : ∀ a s, C.inv s → Q a s → Q' a s) : Plainly C P p Q' :=
  h.weaken (fun _ _ h => h) hQ

theorem pre {P' : σ → Prop} {p : Raising Op Res ε α} (h : Plainly C P p Q)
    (hP : ∀ s, C.inv s → P' s → P s) : Plainly C P' p Q :=
  h.weaken hP (fun _ _ _ h => h)

theorem drop {p : Raising Op Res ε α} (h : Plainly C P p Q) : Plainly C P p (fun _ _ => True) :=
  h.post fun _ _ _ _ => trivial

theorem given {φ : Prop} {p : Raising Op Res ε α} (hφ : ∀ s, C.inv s → P s → φ)
    (h : φ → Plainly C P p Q) : Plainly C P p Q :=
  Contract.Raises.given hφ h

theorem keep {A : σ → Prop} {p : Raising Op Res ε α} (h : Plainly C P p Q) (hA : C.Kept A) :
    Plainly C (fun s => A s ∧ P s) p (fun a s => A s ∧ Q a s) :=
  (Contract.Raises.keep h hA).conseq (fun _ _ h => h) (fun _ _ _ h => h) (fun _ _ _ _ => trivial)

theorem beside {A : σ → Prop} {p : Raising Op Res ε α} (h : Plainly C (fun _ => True) p Q)
    (hA : C.Kept A) : Plainly C A p (fun a s => A s ∧ Q a s) :=
  (h.keep hA).pre fun _ _ h => ⟨h, trivial⟩

theorem attempt {p : Raising Op Res ε α} (h : Plainly C P p Q) (hQ : ∀ a, C.Stable (Q a)) :
    Plainly C P (Raising.attempt p) (fun r s => ∀ a, r = .ok a → Q a s) := by
  refine Contract.Raises.conseq (Contract.Raises.attempt h hQ fun _ => Contract.Stable.const True)
    (fun _ _ h => h) ?_ (fun _ _ _ h => h)
  rintro r s - hends a rfl
  exact hends

end Plainly

end Hybro.Interleaving
