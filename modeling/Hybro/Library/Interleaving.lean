import Mathlib.Logic.Function.Basic
import Mathlib.Logic.Relation

/-! # Interleaved programs over atomic operations

A `Prog` is a sequential program whose only effects are atomic operations on a
shared state. A `System` runs any number of them at once: between two operations
of one program every other program and the environment may take any number of
steps, and a program may stop anywhere. The rely-guarantee rule at the end turns
one proof per program into a fact about every reachable configuration.
-/

namespace Hybro.Interleaving

/-! ## Programs -/

/-- A program over operations `Op`, where `o` answers with a value of `Res o`. -/
inductive Prog (Op : Type) (Res : Op → Type) (α : Type) : Type
  | done (a : α) : Prog Op Res α
  | act (o : Op) (k : Res o → Prog Op Res α) : Prog Op Res α

variable {Op : Type} {Res : Op → Type} {α β σ : Type}

namespace Prog

def bind : Prog Op Res α → (α → Prog Op Res β) → Prog Op Res β
  | .done a, f => f a
  | .act o k, f => .act o (fun r => (k r).bind f)

instance : Monad (Prog Op Res) where
  pure := .done
  bind := Prog.bind

def perform (o : Op) : Prog Op Res (Res o) := .act o .done

@[simp] theorem pure_eq (a : α) : (pure a : Prog Op Res α) = .done a := rfl

@[simp] theorem done_bind (a : α) (f : α → Prog Op Res β) : (Prog.done a >>= f) = f a := rfl

@[simp] theorem act_bind (o : Op) (k : Res o → Prog Op Res α) (f : α → Prog Op Res β) :
    (Prog.act o k >>= f) = .act o (fun r => k r >>= f) := rfl

end Prog

/-! ## Contracts -/

/-- What one program is proved against: the meaning of an operation, the
invariant of the shared state, the steps it tolerates from others and the steps
it promises to take. -/
structure Contract (Op : Type) (Res : Op → Type) (σ : Type) where
  exec : (o : Op) → σ → Res o → σ → Prop
  inv : σ → Prop
  rely : σ → σ → Prop
  guar : σ → σ → Prop

namespace Contract

variable (C : Contract Op Res σ)

/-- Any number of steps of the others, each keeping the invariant. -/
def Interferes : σ → σ → Prop :=
  Relation.ReflTransGen (fun s s' => C.inv s ∧ C.rely s s' ∧ C.inv s')

def Stable (P : σ → Prop) : Prop :=
  ∀ s s', C.inv s → C.rely s s' → C.inv s' → P s → P s'

/-- Every operation of the program, taken after any interference, makes a
promised step, and its result satisfies `Q` however the others go on. -/
def Safe (Q : α → σ → Prop) : Prog Op Res α → σ → Prop
  | .done a, s => ∀ s', C.Interferes s s' → Q a s'
  | .act o k, s => ∀ s', C.Interferes s s' → ∀ r s'', C.exec o s' r s'' →
      C.guar s' s'' ∧ C.inv s'' ∧ Safe Q (k r) s''

def Triple (P : σ → Prop) (p : Prog Op Res α) (Q : α → σ → Prop) : Prop :=
  ∀ s, C.inv s → P s → C.Safe Q p s

variable {C}

theorem Interferes.refl (s : σ) : C.Interferes s s := Relation.ReflTransGen.refl

theorem Interferes.inv {s s' : σ} (h : C.Interferes s s') (hs : C.inv s) : C.inv s' := by
  induction h with
  | refl => exact hs
  | tail _ hstep _ => exact hstep.2.2

theorem Stable.interferes {P : σ → Prop} (hP : C.Stable P) {s s' : σ}
    (h : C.Interferes s s') (hs : P s) : P s' := by
  induction h with
  | refl => exact hs
  | tail _ hstep ih => exact hP _ _ hstep.1 hstep.2.1 hstep.2.2 ih

theorem Stable.const (P : Prop) : C.Stable (fun _ => P) := fun _ _ _ _ _ h => h

theorem Stable.and {P Q : σ → Prop} (hP : C.Stable P) (hQ : C.Stable Q) :
    C.Stable (fun s => P s ∧ Q s) :=
  fun s s' hi hr hi' h => ⟨hP s s' hi hr hi' h.1, hQ s s' hi hr hi' h.2⟩

theorem Stable.imp {P : Prop} {Q : σ → Prop} (hQ : P → C.Stable Q) :
    C.Stable (fun s => P → Q s) :=
  fun s s' hi hr hi' h hp => hQ hp s s' hi hr hi' (h hp)

theorem Stable.all {ι : Sort*} {P : ι → σ → Prop} (hP : ∀ i, C.Stable (P i)) :
    C.Stable (fun s => ∀ i, P i s) :=
  fun s s' hi hr hi' h i => hP i s s' hi hr hi' (h i)

theorem Safe.interferes {Q : α → σ → Prop} {p : Prog Op Res α} {s s' : σ}
    (h : C.Safe Q p s) (hs : C.Interferes s s') : C.Safe Q p s' := by
  cases p with
  | done a => exact fun s'' h'' => h s'' (hs.trans h'')
  | act o k => exact fun s'' h'' => h s'' (hs.trans h'')

theorem Safe.mono {Q Q' : α → σ → Prop} (hQ : ∀ a s, C.inv s → Q a s → Q' a s)
    {p : Prog Op Res α} {s : σ} (hs : C.inv s) (h : C.Safe Q p s) : C.Safe Q' p s := by
  induction p generalizing s with
  | done a => exact fun s' h' => hQ a s' (h'.inv hs) (h s' h')
  | act o k ih =>
      intro s' h' r s'' he
      obtain ⟨hg, hi, hsafe⟩ := h s' h' r s'' he
      exact ⟨hg, hi, ih r hi hsafe⟩

theorem Safe.bind {Q : β → σ → Prop} {R : α → σ → Prop} {p : Prog Op Res α}
    {f : α → Prog Op Res β} {s : σ} (hs : C.inv s) (h : C.Safe R p s)
    (hf : ∀ a s', C.inv s' → R a s' → C.Safe Q (f a) s') : C.Safe Q (p >>= f) s := by
  induction p generalizing s with
  | done a => exact hf a s hs (h s (Interferes.refl s))
  | act o k ih =>
      intro s' h' r s'' he
      obtain ⟨hg, hi, hsafe⟩ := h s' h' r s'' he
      exact ⟨hg, hi, ih r hi hsafe⟩

/-! ## Rules for triples -/

theorem Triple.done {P : σ → Prop} {Q : α → σ → Prop} {a : α} (hP : C.Stable P)
    (h : ∀ s, C.inv s → P s → Q a s) : C.Triple P (.done a) Q :=
  fun _ hs hPs s' hs' => h s' (hs'.inv hs) (hP.interferes hs' hPs)

/-- One operation: the assertion before it survives interference, the operation
establishes the assertion after it, and the rest runs from there. -/
theorem Triple.act {P : σ → Prop} {Q : α → σ → Prop} {o : Op} {k : Res o → Prog Op Res α}
    (R : Res o → σ → Prop) (hP : C.Stable P)
    (hstep : ∀ s r s', C.inv s → P s → C.exec o s r s' → C.guar s s' ∧ C.inv s' ∧ R r s')
    (hk : ∀ r, C.Triple (R r) (k r) Q) : C.Triple P (.act o k) Q := by
  intro s hs hPs s' hs' r s'' he
  obtain ⟨hg, hi, hR⟩ := hstep s' r s'' (hs'.inv hs) (hP.interferes hs' hPs) he
  exact ⟨hg, hi, hk r s'' hi hR⟩

theorem Triple.bind {P : σ → Prop} {Q : β → σ → Prop} (R : α → σ → Prop)
    {p : Prog Op Res α} {f : α → Prog Op Res β} (hp : C.Triple P p R)
    (hf : ∀ a, C.Triple (R a) (f a) Q) : C.Triple P (p >>= f) Q :=
  fun s hs hPs => Safe.bind hs (hp s hs hPs) (fun a s' hs' hR => hf a s' hs' hR)

theorem Triple.conseq {P P' : σ → Prop} {Q Q' : α → σ → Prop} {p : Prog Op Res α}
    (h : C.Triple P p Q) (hP : ∀ s, C.inv s → P' s → P s)
    (hQ : ∀ a s, C.inv s → Q a s → Q' a s) : C.Triple P' p Q' :=
  fun s hs hPs => Safe.mono hQ hs (h s hs (hP s hs hPs))

theorem Triple.pre {P P' : σ → Prop} {Q : α → σ → Prop} {p : Prog Op Res α}
    (h : C.Triple P p Q) (hP : ∀ s, C.inv s → P' s → P s) : C.Triple P' p Q :=
  h.conseq hP (fun _ _ _ hq => hq)

theorem Triple.post {P : σ → Prop} {Q Q' : α → σ → Prop} {p : Prog Op Res α}
    (h : C.Triple P p Q) (hQ : ∀ a s, C.inv s → Q a s → Q' a s) : C.Triple P p Q' :=
  h.conseq (fun _ _ hp => hp) hQ

theorem Triple.given {φ : Prop} {P : σ → Prop} {Q : α → σ → Prop} {p : Prog Op Res α}
    (h : φ → C.Triple P p Q) : C.Triple (fun s => φ ∧ P s) p Q :=
  fun s hs hP => h hP.1 s hs hP.2

end Contract

/-! ## Systems -/

/-- Calls that any number of workers may start, over one shared state. Thread
`i` runs `body i c`, so a body may use its thread number as a unique token. -/
structure System (Op : Type) (Res : Op → Type) where
  State : Type
  Call : Type
  Result : Type
  /-- Thread `i`, inside call `c`, takes one operation. -/
  exec : Nat → Call → (o : Op) → State → Res o → State → Prop
  environment : State → State → Prop
  admits : State → Call → Prop
  body : Nat → Call → Prog Op Res Result
  initial : State → Prop

/-- A thread number is used for one call only. -/
inductive Thread (S : System Op Res)
  | unborn : Thread S
  | running (c : S.Call) (p : Prog Op Res S.Result) : Thread S
  | ended : Thread S

structure Config (S : System Op Res) where
  shared : S.State
  threads : Nat → Thread S
  returned : List (Nat × S.Call × S.Result)

namespace System

variable (S : System Op Res)

/-- One step of an interleaving. A crash is the `crash` step: the thread stops
and whatever it has written stays. -/
inductive Step : Config S → Config S → Prop
  | start (cfg : Config S) (i : Nat) (c : S.Call) (hfree : cfg.threads i = .unborn)
      (hadmits : S.admits cfg.shared c) :
      Step cfg { cfg with threads := Function.update cfg.threads i (.running c (S.body i c)) }
  | act (cfg : Config S) (i : Nat) (c : S.Call) (o : Op) (k : Res o → Prog Op Res S.Result)
      (r : Res o) (s' : S.State) (hrun : cfg.threads i = .running c (.act o k))
      (hexec : S.exec i c o cfg.shared r s') :
      Step cfg { cfg with
        shared := s', threads := Function.update cfg.threads i (.running c (k r)) }
  | finish (cfg : Config S) (i : Nat) (c : S.Call) (a : S.Result)
      (hrun : cfg.threads i = .running c (.done a)) :
      Step cfg { cfg with
        threads := Function.update cfg.threads i .ended
        returned := (i, c, a) :: cfg.returned }
  | crash (cfg : Config S) (i : Nat) :
      Step cfg { cfg with threads := Function.update cfg.threads i .ended }
  | environment (cfg : Config S) (s' : S.State) (henv : S.environment cfg.shared s') :
      Step cfg { cfg with shared := s' }

def Initial (cfg : Config S) : Prop :=
  S.initial cfg.shared ∧ (∀ i, cfg.threads i = .unborn) ∧ cfg.returned = []

inductive Reachable : Config S → Prop
  | init (cfg : Config S) (h : S.Initial cfg) : Reachable cfg
  | step (cfg cfg' : Config S) (h : Reachable cfg) (hs : S.Step cfg cfg') : Reachable cfg'

abbrev Later : Config S → Config S → Prop := Relation.ReflTransGen S.Step

variable {S} in
theorem Reachable.later {cfg cfg' : Config S} (h : S.Reachable cfg) (hlater : S.Later cfg cfg') :
    S.Reachable cfg' := by
  induction hlater with
  | refl => exact h
  | tail _ hs ih => exact .step _ _ ih hs

variable {S} in
/-- What every operation and the environment do to the shared state, a whole run does. -/
theorem Later.shared {R : S.State → S.State → Prop} (hrefl : ∀ s, R s s)
    (htrans : ∀ s s' s'', R s s' → R s' s'' → R s s'')
    (hexec : ∀ i c o s r s', S.exec i c o s r s' → R s s')
    (henv : ∀ s s', S.environment s s' → R s s') {cfg cfg' : Config S}
    (hlater : S.Later cfg cfg') : R cfg.shared cfg'.shared := by
  induction hlater with
  | refl => exact hrefl _
  | tail _ hs ih =>
      refine htrans _ _ _ ih ?_
      cases hs with
      | start => exact hrefl _
      | act i c o k r s' _ he => exact hexec i c o _ r s' he
      | finish => exact hrefl _
      | crash => exact hrefl _
      | environment s' he => exact henv _ s' he

/-- A step of the environment or of a thread other than `i`. -/
def others (guar : Nat → S.Call → S.State → S.State → Prop) (i : Nat) (s s' : S.State) : Prop :=
  S.environment s s' ∨ ∃ j d, j ≠ i ∧ guar j d s s'

/-- The contract of thread `i` inside call `c`, from the guarantee of every call. -/
def contract (inv : S.State → Prop) (guar : Nat → S.Call → S.State → S.State → Prop) (i : Nat)
    (c : S.Call) : Contract Op Res S.State where
  exec := S.exec i c
  inv := inv
  rely := S.others guar i
  guar := guar i c

/-- The proof obligations of the rely-guarantee rule: an invariant, a guarantee
for every call, what holds of a thread number before its call starts, and what
holds after its call has returned. -/
structure Proof (inv : S.State → Prop) (guar : Nat → S.Call → S.State → S.State → Prop)
    (fresh : Nat → S.State → Prop) (post : Nat → S.Call → S.Result → S.State → Prop) : Prop where
  starts : ∀ s, S.initial s → inv s ∧ ∀ i, fresh i s
  environment : ∀ s s', inv s → S.environment s s' → inv s'
  staysFresh : ∀ i s s', inv s → S.others guar i s s' → inv s' → fresh i s → fresh i s'
  body : ∀ i c, (S.contract inv guar i c).Triple (fun s => fresh i s ∧ S.admits s c) (S.body i c)
    (post i c)
  staysReturned : ∀ i c a, (S.contract inv guar i c).Stable (post i c a)

structure Sound (inv : S.State → Prop) (guar : Nat → S.Call → S.State → S.State → Prop)
    (fresh : Nat → S.State → Prop) (post : Nat → S.Call → S.Result → S.State → Prop)
    (cfg : Config S) : Prop where
  shared : inv cfg.shared
  unborn : ∀ i, cfg.threads i = .unborn → fresh i cfg.shared
  threads : ∀ i c p, cfg.threads i = .running c p →
    (S.contract inv guar i c).Safe (post i c) p cfg.shared
  returned : ∀ i c a, (i, c, a) ∈ cfg.returned → post i c a cfg.shared
  ended : ∀ i c a, (i, c, a) ∈ cfg.returned → cfg.threads i = .ended

variable {S}
variable {inv : S.State → Prop} {guar : Nat → S.Call → S.State → S.State → Prop}
  {fresh : Nat → S.State → Prop} {post : Nat → S.Call → S.Result → S.State → Prop}

private theorem safe_of_step {i : Nat} {c : S.Call} {s s' : S.State} {p : Prog Op Res S.Result}
    {Q : S.Result → S.State → Prop} (hi : inv s) (hi' : inv s')
    (hrely : (S.contract inv guar i c).rely s s') (h : (S.contract inv guar i c).Safe Q p s) :
    (S.contract inv guar i c).Safe Q p s' :=
  h.interferes (Relation.ReflTransGen.single ⟨hi, hrely, hi'⟩)

private theorem update_cases {f : Nat → Thread S} {i j : Nat} {t u : Thread S}
    (h : Function.update f i t j = u) : (j = i ∧ t = u) ∨ (j ≠ i ∧ f j = u) := by
  by_cases hji : j = i
  · subst hji
    exact Or.inl ⟨rfl, by simpa using h⟩
  · exact Or.inr ⟨hji, by simpa [Function.update_of_ne hji] using h⟩

private theorem update_ended {f : Nat → Thread S} {i j : Nat} {t : Thread S}
    (h : f j = .ended) (hi : f i ≠ .ended) : Function.update f i t j = .ended := by
  have hji : j ≠ i := fun heq => hi (heq ▸ h)
  rw [Function.update_of_ne hji]
  exact h

private theorem update_to_ended {f : Nat → Thread S} {i j : Nat}
    (h : j = i ∨ f j = .ended) : Function.update f i .ended j = .ended := by
  by_cases hji : j = i
  · simp [hji]
  · rw [Function.update_of_ne hji]
    exact h.resolve_left hji

/-- A step that leaves the shared state alone keeps everything but the stopped or
started thread's own obligation. -/
private theorem sound_thread {cfg : Config S} {i : Nat} {t : Thread S}
    {returned : List (Nat × S.Call × S.Result)} (h : S.Sound inv guar fresh post cfg)
    (hborn : t ≠ .unborn)
    (hsafe : ∀ c p, t = .running c p → (S.contract inv guar i c).Safe (post i c) p cfg.shared)
    (hpost : ∀ j c a, (j, c, a) ∈ returned → post j c a cfg.shared)
    (hended : ∀ j c a, (j, c, a) ∈ returned → Function.update cfg.threads i t j = .ended) :
    S.Sound inv guar fresh post
      { cfg with threads := Function.update cfg.threads i t, returned := returned } where
  shared := h.shared
  unborn := by
    intro j hj
    rcases update_cases hj with ⟨_, heq⟩ | ⟨_, hj⟩
    · exact absurd heq hborn
    · exact h.unborn j hj
  threads := by
    intro j c p hj
    rcases update_cases hj with ⟨rfl, heq⟩ | ⟨_, hj⟩
    · exact hsafe c p heq
    · exact h.threads j c p hj
  returned := hpost
  ended := hended

/-- An operation of thread `i`: its promise is what every other thread relies on. -/
private theorem sound_act {cfg : Config S} {i : Nat} {c : S.Call} {o : Op}
    {k : Res o → Prog Op Res S.Result} {r : Res o} {s' : S.State}
    (hproof : S.Proof inv guar fresh post) (h : S.Sound inv guar fresh post cfg)
    (hrun : cfg.threads i = .running c (.act o k)) (hexec : S.exec i c o cfg.shared r s') :
    S.Sound inv guar fresh post
      { cfg with
        shared := s', threads := Function.update cfg.threads i (.running c (k r)) } := by
  obtain ⟨hg, hi', hk⟩ :=
    h.threads i c _ hrun cfg.shared (Contract.Interferes.refl _) r s' hexec
  refine ⟨hi', ?_, ?_, ?_, ?_⟩
  · intro j hj
    rcases update_cases hj with ⟨_, heq⟩ | ⟨hji, hj⟩
    · cases heq
    · exact hproof.staysFresh j _ _ h.shared (Or.inr ⟨i, c, Ne.symm hji, hg⟩) hi' (h.unborn j hj)
  · intro j d p hj
    rcases update_cases hj with ⟨rfl, heq⟩ | ⟨hji, hj⟩
    · cases heq
      exact hk
    · exact safe_of_step h.shared hi' (Or.inr ⟨i, c, Ne.symm hji, hg⟩) (h.threads j d p hj)
  · intro j d a hj
    have hji : i ≠ j := by
      intro heq
      subst heq
      rw [h.ended i d a hj] at hrun
      cases hrun
    exact hproof.staysReturned j d a _ _ h.shared (Or.inr ⟨i, c, hji, hg⟩) hi' (h.returned j d a hj)
  · intro j d a hj
    exact update_ended (h.ended j d a hj) (by simp [hrun])

private theorem sound_step {cfg cfg' : Config S} (hproof : S.Proof inv guar fresh post)
    (h : S.Sound inv guar fresh post cfg) (hs : S.Step cfg cfg') :
    S.Sound inv guar fresh post cfg' := by
  cases hs with
  | start i c hfree hadmits =>
      refine sound_thread h (by simp) ?_ h.returned ?_
      · intro d p heq
        cases heq
        exact hproof.body i c cfg.shared h.shared ⟨h.unborn i hfree, hadmits⟩
      · intro j d a hj
        exact update_ended (h.ended j d a hj) (by simp [hfree])
  | act i c o k r s' hrun hexec => exact sound_act hproof h hrun hexec
  | finish i c a hrun =>
      have hpa : post i c a cfg.shared :=
        h.threads i c _ hrun cfg.shared (Contract.Interferes.refl _)
      refine sound_thread h (by simp) (by simp) ?_ ?_
      · intro j d b hj
        rcases List.mem_cons.mp hj with heq | hj
        · cases heq
          exact hpa
        · exact h.returned j d b hj
      · intro j d b hj
        rcases List.mem_cons.mp hj with heq | hj
        · cases heq
          exact update_to_ended (Or.inl rfl)
        · exact update_to_ended (Or.inr (h.ended j d b hj))
  | crash i =>
      refine sound_thread h (by simp) (by simp) h.returned ?_
      intro j d b hj
      exact update_to_ended (Or.inr (h.ended j d b hj))
  | environment s' he =>
      have hi' := hproof.environment cfg.shared s' h.shared he
      refine ⟨hi', ?_, ?_, ?_, h.ended⟩
      · intro j hj
        exact hproof.staysFresh j _ _ h.shared (Or.inl he) hi' (h.unborn j hj)
      · intro j d p hj
        exact safe_of_step h.shared hi' (Or.inl he) (h.threads j d p hj)
      · intro j d a hj
        exact hproof.staysReturned j d a _ _ h.shared (Or.inl he) hi' (h.returned j d a hj)

/-- The rely-guarantee rule. If every body meets its contract and the
environment keeps the invariant, then in every reachable configuration the
invariant holds, every live thread is still safe, and every call that returned
satisfies its postcondition now. -/
theorem Reachable.sound {cfg : Config S} (hproof : S.Proof inv guar fresh post)
    (h : S.Reachable cfg) : S.Sound inv guar fresh post cfg := by
  induction h with
  | init cfg h0 =>
      obtain ⟨hshared, hthreads, hreturned⟩ := h0
      obtain ⟨hinv, hfresh⟩ := hproof.starts _ hshared
      refine ⟨hinv, fun i _ => hfresh i, ?_, ?_, ?_⟩
      · intro i c p hrun
        rw [hthreads i] at hrun
        cases hrun
      · intro i c a hmem
        simp [hreturned] at hmem
      · intro i c a hmem
        simp [hreturned] at hmem
  | step cfg cfg' _ hs ih => exact sound_step hproof ih hs

/-! ## Schedules -/

variable (S) in
structure Stepper where
  admits : S.State → S.Call → Bool
  outcomes : Nat → S.Call → (o : Op) → S.State → List (Res o × S.State)
  environment : Nat → S.State → S.State
  admits_sound : ∀ s c, admits s c → S.admits s c
  outcomes_sound : ∀ i c o s r s', (r, s') ∈ outcomes i c o s → S.exec i c o s r s'
  environment_sound : ∀ n s, S.environment s (environment n s)

/-- One choice of a scheduler; `act` also picks the outcome of the operation. -/
inductive Move (Call : Type)
  | start (i : Nat) (c : Call)
  | act (i outcome : Nat)
  | finish (i : Nat)
  | environment (n : Nat)

namespace Stepper

variable (E : Stepper S)

def move (cfg : Config S) : Move S.Call → Option (Config S)
  | .start i c =>
      match cfg.threads i with
      | .unborn =>
          if E.admits cfg.shared c then
            some { cfg with threads := Function.update cfg.threads i (.running c (S.body i c)) }
          else none
      | _ => none
  | .act i outcome =>
      match cfg.threads i with
      | .running c (.act o k) =>
          (E.outcomes i c o cfg.shared)[outcome]?.map fun result => { cfg with
            shared := result.2
            threads := Function.update cfg.threads i (.running c (k result.1)) }
      | _ => none
  | .finish i =>
      match cfg.threads i with
      | .running c (.done a) =>
          some { cfg with
            threads := Function.update cfg.threads i .ended
            returned := (i, c, a) :: cfg.returned }
      | _ => none
  | .environment n => some { cfg with shared := E.environment n cfg.shared }

def play (cfg : Config S) : List (Move S.Call) → Option (Config S)
  | [] => some cfg
  | m :: rest => (E.move cfg m).bind fun cfg' => play cfg' rest

variable {E}

theorem move_step {cfg cfg' : Config S} {m : Move S.Call} (h : E.move cfg m = some cfg') :
    S.Step cfg cfg' := by
  cases m with
  | start i c =>
      simp only [move] at h
      split at h
      · next hfree =>
          split at h
          · next hadmits =>
              cases h
              exact Step.start cfg i c hfree (E.admits_sound _ _ hadmits)
          · cases h
      · cases h
  | act i outcome =>
      simp only [move] at h
      split at h
      · next c o k hrun =>
          obtain ⟨result, hresult, rfl⟩ := Option.map_eq_some_iff.mp h
          have hmem : (result.1, result.2) ∈ E.outcomes i c o cfg.shared :=
            List.mem_of_getElem? hresult
          exact Step.act cfg i c o k result.1 result.2 hrun (E.outcomes_sound _ _ _ _ _ _ hmem)
      · cases h
  | finish i =>
      simp only [move] at h
      split at h
      · next c a hrun =>
          cases h
          exact Step.finish cfg i c a hrun
      · cases h
  | environment n =>
      cases h
      exact Step.environment cfg _ (E.environment_sound n _)

theorem play_reachable {cfg cfg' : Config S} {moves : List (Move S.Call)}
    (hcfg : S.Reachable cfg) (h : E.play cfg moves = some cfg') : S.Reachable cfg' := by
  induction moves generalizing cfg with
  | nil =>
      cases h
      exact hcfg
  | cons m rest ih =>
      obtain ⟨next, hmove, hrest⟩ := Option.bind_eq_some_iff.mp h
      exact ih (Reachable.step cfg next hcfg (move_step hmove)) hrest

theorem play_later {cfg cfg' : Config S} {moves : List (Move S.Call)}
    (h : E.play cfg moves = some cfg') : S.Later cfg cfg' := by
  induction moves generalizing cfg with
  | nil =>
      cases h
      exact .refl
  | cons m rest ih =>
      obtain ⟨next, hmove, hrest⟩ := Option.bind_eq_some_iff.mp h
      exact .head (move_step hmove) (ih hrest)

theorem exists_later_of_play (E : Stepper S) {cfg : Config S} (first second : List (Move S.Call))
    (check : Config S → Config S → Bool) (hcfg : S.Reachable cfg)
    (h : ((E.play cfg first).any fun mid => (E.play mid second).any (check mid)) = true) :
    ∃ mid cfg', S.Reachable mid ∧ S.Later mid cfg' ∧ check mid cfg' = true := by
  obtain ⟨mid, hfirst, hrest⟩ := (Option.any_eq_true _ _).mp h
  obtain ⟨cfg', hsecond, hcheck⟩ := (Option.any_eq_true _ _).mp hrest
  exact ⟨mid, cfg', play_reachable hcfg hfirst, play_later hsecond, hcheck⟩

/-- A schedule that runs through and ends as `check` asks shows such a
configuration to be reachable. -/
theorem exists_of_play (E : Stepper S) {cfg : Config S} (moves : List (Move S.Call))
    (check : Config S → Bool) (hcfg : S.Reachable cfg)
    (h : (E.play cfg moves).any check = true) : ∃ cfg', S.Reachable cfg' ∧ check cfg' = true := by
  obtain ⟨cfg', hplay, hcheck⟩ := (Option.any_eq_true check _).mp h
  exact ⟨cfg', play_reachable hcfg hplay, hcheck⟩

end Stepper

end System

end Hybro.Interleaving
