import Hybro.Library.Interleaving

/-! # What a program sends

A program judged by its operations alone: as long as every reply is one it may be `told`,
each operation it comes to is one that it `offers`, and its result satisfies `Q`. When every
offered operation keeps an invariant and is answered with what may be told, the invariant
holds in every interleaving of such programs.
-/

namespace Hybro.Interleaving

variable {Op : Type} {Res : Op → Type} {α β : Type}

namespace Prog

def Sends (offers : Op → Prop) (told : (o : Op) → Res o → Prop) (Q : α → Prop) :
    Prog Op Res α → Prop
  | .done a => Q a
  | .act o k => offers o ∧ ∀ r, told o r → (k r).Sends offers told Q

variable {offers : Op → Prop} {told : (o : Op) → Res o → Prop}

theorem Sends.bind {P : α → Prop} {Q : β → Prop} {p : Prog Op Res α} {f : α → Prog Op Res β}
    (hp : p.Sends offers told P) (hf : ∀ a, P a → (f a).Sends offers told Q) :
    (p >>= f).Sends offers told Q := by
  induction p with
  | done a => exact hf a hp
  | act o k ih => exact ⟨hp.1, fun r hr => ih r (hp.2 r hr)⟩

end Prog

namespace System

variable {S : System Op Res}

/-- The programs of the running threads are among those that send what they offer. -/
structure Sending (inv : S.State → Prop) (offers : Op → Prop) (told : (o : Op) → Res o → Prop)
    (cfg : Config S) : Prop where
  shared : inv cfg.shared
  threads : ∀ i c p, cfg.threads i = .running c p → p.Sends offers told fun _ => True

variable {inv : S.State → Prop} {offers : Op → Prop} {told : (o : Op) → Res o → Prop}

theorem Sending.update {cfg : Config S} (h : S.Sending inv offers told cfg) {shared : S.State}
    (hshared : inv shared) {i : Nat} {thread : Thread S}
    (hthread : ∀ c p, thread = .running c p → p.Sends offers told fun _ => True)
    (returned : List (Nat × S.Call × S.Result)) :
    S.Sending inv offers told ⟨shared, Function.update cfg.threads i thread, returned⟩ := by
  refine ⟨hshared, ?_⟩
  intro j c p hrun
  by_cases hj : j = i
  · subst hj
    simp only [Function.update_self] at hrun
    exact hthread c p hrun
  · simp only [Function.update_of_ne hj] at hrun
    exact h.threads j c p hrun

/-- The invariant of the shared state, from what the operations on offer do to it. -/
theorem Reachable.sending (hinitial : ∀ s, S.initial s → inv s)
    (henvironment : ∀ s s', inv s → S.environment s s' → inv s')
    (hstep : ∀ i c o s r s', inv s → offers o → S.exec i c o s r s' → inv s' ∧ told o r)
    (hbody : ∀ i c s, S.admits s c → (S.body i c).Sends offers told fun _ => True)
    {cfg : Config S} (h : S.Reachable cfg) : S.Sending inv offers told cfg := by
  induction h with
  | init cfg h =>
      obtain ⟨hshared, hunborn, -⟩ := h
      refine ⟨hinitial _ hshared, ?_⟩
      intro i c p hrun
      rw [hunborn i] at hrun
      cases hrun
  | step cfg cfg' _ hs ih =>
      cases hs with
      | start i c hfree hadmits =>
          refine ih.update ih.shared ?_ _
          intro d p hrun
          cases hrun
          exact hbody i c cfg.shared hadmits
      | act i c o k r s' hrun hexec =>
          obtain ⟨hoffers, hnext⟩ := ih.threads i c _ hrun
          obtain ⟨hshared, htold⟩ := hstep i c o cfg.shared r s' ih.shared hoffers hexec
          refine ih.update hshared ?_ _
          intro d p heq
          cases heq
          exact hnext r htold
      | finish i c a hrun =>
          refine ih.update ih.shared ?_ _
          intro d p heq
          cases heq
      | crash i =>
          refine ih.update ih.shared ?_ _
          intro d p heq
          cases heq
      | environment s' henv =>
          exact ⟨henvironment _ _ ih.shared henv, ih.threads⟩

end System

end Hybro.Interleaving
