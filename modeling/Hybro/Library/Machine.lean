import Hybro.Library.Interleaving

/-! # Programs that run alone

A program on a machine which answers every operation from its state. `Returns` says what holds
of every state on the way, and of the result when the program does not raise; its rules follow
the program.
-/

namespace Hybro.Interleaving

/-- The answer to an operation and the state after it. -/
abbrev Machine (Op : Type) (Res : Op → Type) (σ : Type) := (o : Op) → σ → Res o × σ

variable {Op : Type} {Res : Op → Type} {α β ε δ ρ ι σ : Type}

/-! ## One execution -/

def Prog.eval (M : Machine Op Res σ) : Prog Op Res α → σ → α × σ
  | .done a, s => (a, s)
  | .act o k, s => (k (M o s).1).eval M (M o s).2

variable {M : Machine Op Res σ}

theorem Prog.eval_bind (p : Prog Op Res α) (f : α → Prog Op Res β) (s : σ) :
    (p >>= f).eval M s = (f (p.eval M s).1).eval M (p.eval M s).2 := by
  induction p generalizing s with
  | done a => rfl
  | act o k ih => exact ih _ _

def orRaise (f : α → ExceptT ε (Prog Op Res) β) : Except ε α → Prog Op Res (Except ε β)
  | .ok a => (f a).run
  | .error e => .done (.error e)

theorem run_bind_eq (p : ExceptT ε (Prog Op Res) α) (f : α → ExceptT ε (Prog Op Res) β) :
    (p >>= f).run = p.run >>= orRaise f := by
  show Prog.bind p.run _ = Prog.bind p.run _
  congr 1
  funext result
  cases result <;> rfl

theorem eval_run_bind (p : ExceptT ε (Prog Op Res) α) (f : α → ExceptT ε (Prog Op Res) β) (s : σ) :
    (p >>= f).run.eval M s = (orRaise f (p.run.eval M s).1).eval M (p.run.eval M s).2 := by
  rw [run_bind_eq, Prog.eval_bind]

/-- What follows a program whose exceptions are caught. -/
def orCatch (handler : ε → ExceptT ε (Prog Op Res) α) : Except ε α → Prog Op Res (Except ε α)
  | .ok a => .done (.ok a)
  | .error e => (handler e).run

theorem run_tryCatch_eq (p : ExceptT ε (Prog Op Res) α)
    (handler : ε → ExceptT ε (Prog Op Res) α) :
    (tryCatch p handler).run = p.run >>= orCatch handler := by
  show Prog.bind p.run _ = Prog.bind p.run _
  congr 1
  funext result
  cases result <;> rfl

/-! ## The states on the way -/

/-- Every state from `s` to the end of the program satisfies `I`. -/
def Prog.Through (M : Machine Op Res σ) (I : σ → Prop) : Prog Op Res α → σ → Prop
  | .done _, s => I s
  | .act o k, s => I s ∧ (k (M o s).1).Through M I (M o s).2

variable {I : σ → Prop}

theorem Prog.Through.final {p : Prog Op Res α} {s : σ} (h : p.Through M I s) :
    I (p.eval M s).2 := by
  induction p generalizing s with
  | done a => exact h
  | act o k ih => exact ih _ h.2

theorem Prog.Through.bind {p : Prog Op Res α} {f : α → Prog Op Res β} {s : σ}
    (h : p.Through M I s) (hf : (f (p.eval M s).1).Through M I (p.eval M s).2) :
    (p >>= f).Through M I s := by
  induction p generalizing s with
  | done a => exact hf
  | act o k ih => exact ⟨h.1, ih _ h.2 hf⟩

/-! ## What a program returns -/

/-- Started in a state that satisfies `I`, the program keeps to such states; and if it returns,
its result and the state then satisfy `Q`. -/
def Returns (M : Machine Op Res σ) (I : σ → Prop) (p : ExceptT ε (Prog Op Res) α) (s : σ)
    (Q : α → σ → Prop) : Prop :=
  I s → p.run.Through M I s ∧ ∀ a t, p.run.eval M s = (.ok a, t) → Q a t

theorem Returns.pure {a : α} {s : σ} {Q : α → σ → Prop} (h : Q a s) :
    Returns M I (pure a : ExceptT ε (Prog Op Res) α) s Q := by
  intro hI
  refine ⟨hI, ?_⟩
  intro b t heval
  obtain ⟨hresult, rfl⟩ := Prod.mk.inj heval
  obtain rfl := Except.ok.inj hresult
  exact h

theorem Returns.throw (e : ε) (s : σ) (Q : α → σ → Prop) :
    Returns M I (throw e : ExceptT ε (Prog Op Res) α) s Q := by
  intro hI
  refine ⟨hI, ?_⟩
  intro a t heval
  cases (Prod.mk.inj heval).1

theorem Returns.perform {o : Op} {s : σ} {Q : Res o → σ → Prop} (hI : I s → I (M o s).2)
    (h : Q (M o s).1 (M o s).2) :
    Returns M I (ExceptT.lift (Prog.perform o) : ExceptT ε (Prog Op Res) (Res o)) s Q := by
  intro hs
  refine ⟨⟨hs, hI hs⟩, ?_⟩
  intro a t heval
  obtain ⟨hresult, rfl⟩ := Prod.mk.inj heval
  obtain rfl := Except.ok.inj hresult
  exact h

theorem Returns.conseq {p : ExceptT ε (Prog Op Res) α} {s : σ} {Q Q' : α → σ → Prop}
    (h : Returns M I p s Q) (hpost : ∀ a t, Q a t → Q' a t) : Returns M I p s Q' :=
  fun hI => ⟨(h hI).1, fun a t heval => hpost a t ((h hI).2 a t heval)⟩

theorem Returns.bind {p : ExceptT ε (Prog Op Res) α} {f : α → ExceptT ε (Prog Op Res) β} {s : σ}
    {Q : β → σ → Prop} (h : Returns M I p s fun a t => Returns M I (f a) t Q) :
    Returns M I (p >>= f) s Q := by
  intro hI
  obtain ⟨hthrough, hpost⟩ := h hI
  have hfinal := hthrough.final
  rw [run_bind_eq]
  cases hresult : p.run.eval M s with
  | mk result t =>
      rw [hresult] at hfinal
      cases result with
      | error e =>
          refine ⟨hthrough.bind (by rw [hresult]; exact hfinal), ?_⟩
          intro b u heval
          rw [Prog.eval_bind, hresult] at heval
          cases (Prod.mk.inj heval).1
      | ok a =>
          obtain ⟨hrest, hend⟩ := hpost a t hresult hfinal
          refine ⟨hthrough.bind (by rw [hresult]; exact hrest), ?_⟩
          intro b u heval
          rw [Prog.eval_bind, hresult] at heval
          exact hend b u heval

theorem Returns.tryCatch {p : ExceptT ε (Prog Op Res) α} {handler : ε → ExceptT ε (Prog Op Res) α}
    {s : σ} {Q : α → σ → Prop} (h : Returns M I p s Q)
    (hraised : ∀ e t, p.run.eval M s = (.error e, t) → Returns M I (handler e) t Q) :
    Returns M I (tryCatch p handler) s Q := by
  intro hI
  obtain ⟨hthrough, hpost⟩ := h hI
  have hfinal := hthrough.final
  rw [run_tryCatch_eq]
  cases hresult : p.run.eval M s with
  | mk result t =>
      rw [hresult] at hfinal
      cases result with
      | error e =>
          obtain ⟨hrest, hend⟩ := hraised e t hresult hfinal
          refine ⟨hthrough.bind (by rw [hresult]; exact hrest), ?_⟩
          intro b u heval
          rw [Prog.eval_bind, hresult] at heval
          exact hend b u heval
      | ok a =>
          refine ⟨hthrough.bind (by rw [hresult]; exact hfinal), ?_⟩
          intro b u heval
          rw [Prog.eval_bind, hresult] at heval
          obtain ⟨hsame, rfl⟩ := Prod.mk.inj heval
          obtain rfl := Except.ok.inj hsame
          exact hpost a t hresult

/-! ## Loops -/

/-- Each item in order; an item either hands its accumulator on or leaves the loop. -/
def forEach (body : ι → δ → ExceptT ε (Prog Op Res) (δ ⊕ ρ)) :
    List ι → δ → ExceptT ε (Prog Op Res) (δ ⊕ ρ)
  | [], d => pure (.inl d)
  | i :: rest, d => do
      match ← body i d with
      | .inl d' => forEach body rest d'
      | .inr r => return .inr r

/-- The loop goes on with an accumulator that satisfies `Q`, or is left with a result that
satisfies `E`. -/
def Proceeds (Q : δ → σ → Prop) (E : ρ → σ → Prop) : δ ⊕ ρ → σ → Prop
  | .inl d, t => Q d t
  | .inr r, t => E r t

/-- The invariant speaks of the items that are done and of those that are still to come. -/
theorem Returns.forEach {body : ι → δ → ExceptT ε (Prog Op Res) (δ ⊕ ρ)}
    (Inv : List ι → List ι → δ → σ → Prop) {E : ρ → σ → Prop}
    (hbody : ∀ done i rest d s, Inv done (i :: rest) d s →
      Returns M I (body i d) s (Proceeds (Inv (done ++ [i]) rest) E))
    (done items : List ι) (d : δ) (s : σ) (h : Inv done items d s) :
    Returns M I (forEach body items d) s (Proceeds (Inv (done ++ items) []) E) := by
  induction items generalizing done d s with
  | nil =>
      refine .pure ?_
      show Inv (done ++ []) [] d s
      rw [List.append_nil]
      exact h
  | cons i rest ih =>
      refine .bind ((hbody done i rest d s h).conseq ?_)
      intro next t hnext
      cases next with
      | inl d' =>
          have hrest := ih (done ++ [i]) d' t hnext
          rwa [List.append_assoc] at hrest
      | inr r => exact .pure hnext

end Hybro.Interleaving
