import Mathlib.Logic.Basic

/-! # Steps of which one may fail

Programs over a state that return or raise, and of whose steps at most one fails in a run. The
rules of pre- and postconditions tell the two ways to end apart.
-/

namespace Hybro.FailingSteps

variable {σ S ε α β : Type}

/-- Which step fails: none, the one after so many others, or one that has failed. -/
inductive Fault (S : Type)
  | none
  | ahead (steps : Nat)
  | struck (step : S)

structure World (σ S : Type) where
  state : σ
  fault : Fault S

def Steps (σ S ε α : Type) := World σ S → Except ε α × World σ S

namespace Steps

instance : Monad (Steps σ S ε) where
  pure a := fun w => (.ok a, w)
  bind p f := fun w =>
    match p w with
    | (.ok a, w) => f a w
    | (.error e, w) => (.error e, w)

def raise (e : ε) : Steps σ S ε α := fun w => (.error e, w)

def ofExcept (result : Except ε α) : Steps σ S ε α := fun w => (result, w)

def look : Steps σ S ε σ := fun w => (.ok w.state, w)

/-- A step with its effect on the state. If it is the one that fails, it has none and raises. -/
def step (e : ε) (label : S) (effect : σ → σ) : Steps σ S ε Unit := fun w =>
  match w.fault with
  | .ahead 0 => (.error e, { w with fault := .struck label })
  | .ahead (n + 1) => (.ok (), ⟨effect w.state, .ahead n⟩)
  | fault => (.ok (), ⟨effect w.state, fault⟩)

/-- `try: p except e: handler(e)` -/
def handle (p : Steps σ S ε α) (handler : ε → Steps σ S ε α) : Steps σ S ε α := fun w =>
  match p w with
  | (.ok a, w) => (.ok a, w)
  | (.error e, w) => handler e w

/-- `try: p finally: last` -/
def lastly (p : Steps σ S ε α) (last : Steps σ S ε Unit) : Steps σ S ε α := fun w =>
  match p w with
  | (result, w) =>
      match last w with
      | (.ok _, w) => (result, w)
      | (.error e, w) => (.error e, w)

section Runs

variable {p : Steps σ S ε α} {a : α} {w w' w'' : World σ S}

theorem bind_eq {f : α → Steps σ S ε β} (h : p w = (.ok a, w')) : (p >>= f) w = f a w' := by
  change (match p w with
    | (.ok a, w) => f a w
    | (.error e, w) => (.error e, w)) = _
  rw [h]

theorem handle_eq {handler : ε → Steps σ S ε α} (h : p w = (.ok a, w')) :
    handle p handler w = (.ok a, w') := by
  unfold handle
  rw [h]

theorem lastly_eq {last : Steps σ S ε Unit} (h : p w = (.ok a, w'))
    (hlast : last w' = (.ok (), w'')) : lastly p last w = (.ok a, w'') := by
  unfold lastly
  rw [h]
  simp only [hlast]

end Runs

end Steps

/-! ## Pre- and postconditions -/

/-- From `P`, the program leaves `Q` when it returns and `E` when it raises. -/
def Ends (P : World σ S → Prop) (p : Steps σ S ε α) (Q : α → World σ S → Prop)
    (E : ε → World σ S → Prop) : Prop :=
  ∀ w, P w →
    match p w with
    | (.ok a, w') => Q a w'
    | (.error e, w') => E e w'

variable {P P' : World σ S → Prop} {Q Q' : α → World σ S → Prop} {E E' : ε → World σ S → Prop}

theorem Ends.pure {a : α} (h : ∀ w, P w → Q a w) :
    Ends P (Pure.pure a : Steps σ S ε α) Q E := fun w hw => h w hw

theorem Ends.raise {e : ε} (h : ∀ w, P w → E e w) :
    Ends P (Steps.raise e : Steps σ S ε α) Q E := fun w hw => h w hw

theorem Ends.ofExcept {result : Except ε α} (hok : ∀ a, result = .ok a → ∀ w, P w → Q a w)
    (herror : ∀ e, result = .error e → ∀ w, P w → E e w) :
    Ends P (Steps.ofExcept result : Steps σ S ε α) Q E := by
  intro w hw
  unfold Steps.ofExcept
  cases result with
  | ok a => exact hok a rfl w hw
  | error e => exact herror e rfl w hw

theorem Ends.conseq {p : Steps σ S ε α} (h : Ends P p Q E) (hP : ∀ w, P' w → P w)
    (hQ : ∀ a w, Q a w → Q' a w) (hE : ∀ e w, E e w → E' e w) : Ends P' p Q' E' := by
  intro w hw
  have hends := h w (hP w hw)
  cases hp : p w with
  | mk result w' =>
      rw [hp] at hends
      cases result with
      | ok a => exact hQ a w' hends
      | error e => exact hE e w' hends

theorem Ends.bind {R : α → World σ S → Prop} {Q : β → World σ S → Prop} {p : Steps σ S ε α}
    {f : α → Steps σ S ε β} (hp : Ends P p R E) (hf : ∀ a, Ends (R a) (f a) Q E) :
    Ends P (p >>= f) Q E := by
  intro w hw
  have hends := hp w hw
  cases hrun : p w with
  | mk result w' =>
      rw [hrun] at hends
      have hbind : (p >>= f) w = match (result, w') with
          | (.ok a, w) => f a w
          | (.error e, w) => (.error e, w) := by rw [← hrun]; rfl
      rw [hbind]
      cases result with
      | ok a => exact hf a w' hends
      | error e => exact hends

theorem Ends.handle {R : ε → World σ S → Prop} {p : Steps σ S ε α}
    {handler : ε → Steps σ S ε α} (hp : Ends P p Q R)
    (hhandler : ∀ e, Ends (R e) (handler e) Q E) : Ends P (Steps.handle p handler) Q E := by
  intro w hw
  have hends := hp w hw
  unfold Steps.handle
  cases hrun : p w with
  | mk result w' =>
      rw [hrun] at hends
      cases result with
      | ok a => exact hends
      | error e => exact hhandler e w' hends

theorem Ends.lastly {R : α → World σ S → Prop} {E₀ : ε → World σ S → Prop}
    {p : Steps σ S ε α} {last : Steps σ S ε Unit} (hp : Ends P p R E₀)
    (hok : ∀ a, Ends (R a) last (fun _ => Q a) E)
    (herror : ∀ e, Ends (E₀ e) last (fun _ => E e) E) : Ends P (Steps.lastly p last) Q E := by
  intro w hw
  have hends := hp w hw
  unfold Steps.lastly
  cases hrun : p w with
  | mk result w' =>
      rw [hrun] at hends
      cases result with
      | ok a =>
          have hlast := hok a w' hends
          cases hstop : last w' with
          | mk stopped w'' =>
              rw [hstop] at hlast
              simp only [hstop]
              cases stopped <;> exact hlast
      | error e =>
          have hlast := herror e w' hends
          cases hstop : last w' with
          | mk stopped w'' =>
              rw [hstop] at hlast
              simp only [hstop]
              cases stopped <;> exact hlast

theorem Ends.given {a : Prop} {p : Steps σ S ε α} (h : a → Ends P p Q E) :
    Ends (fun w => a ∧ P w) p Q E := fun w hw => h hw.1 w hw.2

/-! ## Steps -/

def Calm (fault : Fault S) : Prop := ∀ n, fault ≠ .ahead n

/-- The state satisfies `A`; if `b`, no step is going to fail. -/
def Stood (b : Prop) (A : σ → Prop) (w : World σ S) : Prop :=
  A w.state ∧ (b → Calm w.fault)

/-- The exception `e`, raised by a step that left `φ`. -/
def Failed (b : Prop) (e : ε) (φ : S → σ → Prop) (raised : ε) (w : World σ S) : Prop :=
  raised = e ∧ ¬b ∧ ∃ label, w.fault = .struck label ∧ φ label w.state

variable {b : Prop} {A B : σ → Prop} {φ : S → σ → Prop} {e : ε} {label : S} {effect : σ → σ}

theorem calm_of_struck {fault : Fault S} (h : fault = .struck label) : Calm fault := by
  intro n hahead
  rw [h] at hahead
  cases hahead

theorem Ends.step (hok : ∀ s, A s → B (effect s)) (hfail : ∀ s, A s → φ label s) :
    Ends (Stood b A) (Steps.step e label effect) (fun _ => Stood b B) (Failed b e φ) := by
  rintro w ⟨hA, hcalm⟩
  unfold Steps.step
  cases hfault : w.fault with
  | none => exact ⟨hok w.state hA, fun hb => hfault ▸ hcalm hb⟩
  | struck other => exact ⟨hok w.state hA, fun hb => hfault ▸ hcalm hb⟩
  | ahead n =>
      have hnot : ¬b := fun hb => hcalm hb n hfault
      cases n with
      | zero => exact ⟨rfl, hnot, label, rfl, hfail w.state hA⟩
      | succ n => exact ⟨hok w.state hA, fun hb => absurd hb hnot⟩

theorem Ends.step_after {raised other : ε} (hkeeps : ∀ l s, φ l s → φ l (effect s)) :
    Ends (Failed b other φ raised) (Steps.step e label effect)
      (fun _ => Failed b other φ raised) E := by
  rintro w ⟨hraised, hnot, l, hfault, hφ⟩
  unfold Steps.step
  rw [hfault]
  exact ⟨hraised, hnot, l, rfl, hkeeps l w.state hφ⟩

theorem Ends.lastly_step {p : Steps σ S ε α} (hp : Ends P p (fun _ => Stood b A) (Failed b e φ))
    (hok : ∀ s, A s → B (effect s)) (hfail : ∀ s, A s → φ label s)
    (hkeeps : ∀ l s, φ l s → φ l (effect s)) :
    Ends P (Steps.lastly p (Steps.step e label effect)) (fun _ => Stood b B) (Failed b e φ) :=
  Ends.lastly hp (fun _ => Ends.step hok hfail) fun _ => Ends.step_after hkeeps

end Hybro.FailingSteps
