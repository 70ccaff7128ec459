import Hybro.RunStore.Store

/-! # Rules for store programs

Any set of calls on the two documents is proved against a discipline: which steps
of the log are legal, and what every sequence of legal steps keeps. One rule for
each piece of the store that reads, and for the version-fenced mutation, whatever
the discipline is.
-/

namespace Hybro.RunStore

open Orchestrator Interleaving

/-! ## Disciplines -/

abbrev entryOf {Call : Type} (i : Nat) (c : Call) (op : StoreOp) (reply : op.Res)
    (s s' : Database Call) : LogEntry Call :=
  ⟨i, c, op, reply, s.clock, s.stored, s'.stored⟩

def StoreOp.isProject : StoreOp → Bool
  | .project .. => true
  | _ => false

structure Discipline (Call : Type) where
  inv : Database Call → Prop
  legal : LogEntry Call → Database Call → Database Call → Prop
  environment : Database Call → Database Call → Prop
  keeps : ∀ {e s s'}, inv s → legal e s s' → inv s'
  quiet : ∀ {i c op reply s s'}, op.isProject = false → Executes i c op s reply s' →
    s'.stored = s.stored → legal (entryOf i c op reply s s') s s'

variable {Call : Type} {D : Discipline Call} {i : Nat} {c : Call}

namespace Discipline

/-- Call `c` of thread `i` only takes legal steps. -/
def guarantee (D : Discipline Call) (i : Nat) (c : Call) (s s' : Database Call) : Prop :=
  ∃ e : LogEntry Call, e.thread = i ∧ e.call = c ∧ D.legal e s s'

def contract (D : Discipline Call) (i : Nat) (c : Call) :
    Contract StoreOp StoreOp.Res (Database Call) where
  exec := Executes i c
  inv := D.inv
  rely := fun s s' => D.environment s s' ∨ ∃ j d, j ≠ i ∧ D.guarantee j d s s'
  guar := D.guarantee i c

end Discipline

/-! ## Assertions that survive the others -/

structure Persistent (D : Discipline Call) (P : Database Call → Prop) : Prop where
  environment : ∀ s s', D.environment s s' → P s → P s'
  step : ∀ s s' e, D.inv s → D.legal e s s' → P s → P s'

/-- Kept by the environment, by the other threads, and by the own steps that write
nothing. -/
structure Frame (D : Discipline Call) (i : Nat) (P : Database Call → Prop) : Prop where
  environment : ∀ s s', D.environment s s' → P s → P s'
  other : ∀ s s' e, D.inv s → D.legal e s s' → e.thread ≠ i → P s → P s'
  quiet : ∀ s s' e, D.inv s → D.legal e s s' → s'.stored = s.stored → P s → P s'

theorem Persistent.frame {P : Database Call → Prop} (h : Persistent D P) : Frame D i P :=
  ⟨h.environment, fun s s' e hs hstep _ => h.step s s' e hs hstep,
    fun s s' e hs hstep _ => h.step s s' e hs hstep⟩

theorem Persistent.and {P Q : Database Call → Prop} (hP : Persistent D P)
    (hQ : Persistent D Q) : Persistent D (fun s => P s ∧ Q s) :=
  ⟨fun s s' he h => ⟨hP.environment s s' he h.1, hQ.environment s s' he h.2⟩,
    fun s s' e hs hstep h => ⟨hP.step s s' e hs hstep h.1, hQ.step s s' e hs hstep h.2⟩⟩

theorem Persistent.const (P : Prop) : Persistent D (fun _ => P) :=
  ⟨fun _ _ _ h => h, fun _ _ _ _ _ h => h⟩

theorem Persistent.imp {P : Prop} {Q : Database Call → Prop} (hQ : Persistent D Q) :
    Persistent D (fun s => P → Q s) :=
  ⟨fun s s' he h hp => hQ.environment s s' he (h hp),
    fun s s' e hs hstep h hp => hQ.step s s' e hs hstep (h hp)⟩

theorem Persistent.all {ι : Sort*} {P : ι → Database Call → Prop}
    (hP : ∀ x, Persistent D (P x)) : Persistent D (fun s => ∀ x, P x s) :=
  ⟨fun s s' he h x => (hP x).environment s s' he (h x),
    fun s s' e hs hstep h x => (hP x).step s s' e hs hstep (h x)⟩

theorem Frame.and {P Q : Database Call → Prop} (hP : Frame D i P) (hQ : Frame D i Q) :
    Frame D i (fun s => P s ∧ Q s) :=
  ⟨fun s s' he h => ⟨hP.environment s s' he h.1, hQ.environment s s' he h.2⟩,
    fun s s' e hs hstep hne h => ⟨hP.other s s' e hs hstep hne h.1, hQ.other s s' e hs hstep hne h.2⟩,
    fun s s' e hs hstep hq h => ⟨hP.quiet s s' e hs hstep hq h.1, hQ.quiet s s' e hs hstep hq h.2⟩⟩

theorem Frame.or {P Q : Database Call → Prop} (hP : Frame D i P) (hQ : Frame D i Q) :
    Frame D i (fun s => P s ∨ Q s) :=
  ⟨fun s s' he h => h.imp (hP.environment s s' he) (hQ.environment s s' he),
    fun s s' e hs hstep hne h =>
      h.imp (hP.other s s' e hs hstep hne) (hQ.other s s' e hs hstep hne),
    fun s s' e hs hstep hq h => h.imp (hP.quiet s s' e hs hstep hq) (hQ.quiet s s' e hs hstep hq)⟩

theorem Frame.stable {P : Database Call → Prop} (h : Frame D i P) : (D.contract i c).Stable P := by
  intro s s' hs hrely _ hP
  rcases hrely with henv | ⟨j, d, hne, e, rfl, -, hstep⟩
  · exact h.environment s s' henv hP
  · exact h.other s s' e hs hstep hne hP

theorem Persistent.stable {P : Database Call → Prop} (h : Persistent D P) :
    (D.contract i c).Stable P := h.frame.stable

/-! ## Single operations -/

variable {α β : Type}

theorem triple_act {P : Database Call → Prop} {Q : α → Database Call → Prop}
    {op : StoreOp} {k : op.Res → StoreProg α} (R : op.Res → Database Call → Prop)
    (hP : Frame D i P)
    (hstep : ∀ s r s', D.inv s → P s → Executes i c op s r s' →
      D.legal (entryOf i c op r s s') s s' ∧ R r s')
    (hk : ∀ r, (D.contract i c).Triple (R r) (k r) Q) :
    (D.contract i c).Triple P (.act op k) Q := by
  refine Contract.Triple.act R hP.stable ?_ hk
  intro s r s' hs hPs hexec
  obtain ⟨hlegal, hR⟩ := hstep s r s' hs hPs hexec
  exact ⟨⟨_, rfl, rfl, hlegal⟩, D.keeps hs hlegal, hR⟩

theorem triple_done {P : Database Call → Prop} {Q : α → Database Call → Prop} {a : α}
    (hP : Frame D i P) (h : ∀ s, D.inv s → P s → Q a s) :
    (D.contract i c).Triple P (.done a) Q :=
  Contract.Triple.done hP.stable h

theorem triple_raise {P : Database Call → Prop} {Q : α → Database Call → Prop}
    {message : String} : (D.contract i c).Triple P (raise message) Q :=
  fun _ _ _ _ _ r => nomatch r

theorem triple_checked {P : Database Call → Prop} {check : Except String α}
    (hP : Frame D i P) :
    (D.contract i c).Triple P (checked check) (fun value s => check = .ok value ∧ P s) := by
  cases check with
  | error message => exact triple_raise
  | ok value => exact triple_done hP fun _ _ h => ⟨rfl, h⟩

theorem triple_validated {P : Database Call → Prop} {run : OrchestratorRunState}
    (hP : Frame D i P) :
    (D.contract i c).Triple P (validated run) (fun result s => result = run ∧ P s) := by
  refine Contract.Triple.bind _ (triple_checked hP) fun _ => ?_
  refine Contract.Triple.bind _ ((triple_checked hP).pre fun _ _ h => h.2) fun _ => ?_
  exact (triple_done hP fun _ _ h => ⟨rfl, h⟩).pre fun _ _ h => h.2

theorem triple_anyResult {P : Database Call → Prop} {a : α} :
    (D.contract i c).Triple P (.done a) (fun _ _ => True) :=
  (triple_done (P := fun _ => True) (Persistent.const True).frame fun _ _ _ => trivial).pre
    fun _ _ _ => trivial

/-! ## Reading -/

theorem triple_findRun {K : Database Call → Prop}
    (R : Option OrchestratorRunState → Database Call → Prop) (hK : Frame D i K)
    (hR : ∀ run, Persistent D (R run))
    (h : ∀ s s' e, D.inv s → K s → D.legal e s s' → s'.stored = s.stored → R s.stored.run s') :
    (D.contract i c).Triple K findRun (fun run s => K s ∧ R run s) := by
  refine triple_act (fun reply s => ∀ run, reply = .answer run → K s ∧ R run s) hK ?_ ?_
  · intro s reply s' hs hKs hexec
    obtain ⟨hsame, hreply⟩ := mem_answers.mp hexec.outcome
    have hlegal := D.quiet rfl hexec hsame
    refine ⟨hlegal, ?_⟩
    intro run hrun
    have heq : run = s.stored.run := by
      rcases hreply with hreply | hreply
      · rw [hreply] at hrun
        exact (Reply.answer.inj hrun).symm
      · rw [hreply] at hrun
        cases hrun
    rw [heq]
    exact ⟨hK.quiet s s' _ hs hlegal hsame hKs, h s s' _ hs hKs hlegal hsame⟩
  · intro reply
    cases reply with
    | answer run =>
        refine (triple_done (hK.and (hR run).frame) fun _ _ h => h).pre ?_
        exact fun _ _ h => h run rfl
    | unavailable => exact triple_raise

theorem triple_findLease {K : Database Call → Prop} {Q : α → Database Call → Prop}
    {k : Reply (Option RecoveryClaim) → StoreProg α}
    (R : Option RecoveryClaim → Database Call → Prop) (hK : Frame D i K)
    (h : ∀ s reply s', D.inv s → K s → D.legal (entryOf i c .findLease reply s s') s s' →
      s'.stored = s.stored → R s.stored.lease s')
    (hanswer : ∀ row, (D.contract i c).Triple (fun s => K s ∧ R row s) (k (.answer row)) Q)
    (hlost : (D.contract i c).Triple K (k .unavailable) Q) :
    (D.contract i c).Triple K (.act .findLease k) Q := by
  refine triple_act (fun reply s => K s ∧ ∀ row, reply = .answer row → R row s) hK ?_ ?_
  · intro s reply s' hs hKs hexec
    obtain ⟨hsame, hreply⟩ := mem_answers.mp hexec.outcome
    have hlegal := D.quiet rfl hexec hsame
    refine ⟨hlegal, hK.quiet s s' _ hs hlegal hsame hKs, ?_⟩
    intro row hrow
    have heq : row = s.stored.lease := by
      rcases hreply with hreply | hreply
      · rw [hreply] at hrow
        exact (Reply.answer.inj hrow).symm
      · rw [hreply] at hrow
        cases hrow
    rw [heq]
    exact h s reply s' hs hKs hlegal hsame
  · intro reply
    cases reply with
    | answer row => exact (hanswer row).pre fun _ _ h => ⟨h.1, h.2 row rfl⟩
    | unavailable => exact hlost.pre fun _ _ h => h.1

theorem triple_loadRecoveryClaim {K : Database Call → Prop}
    (R : Option RecoveryClaim → Database Call → Prop) (hK : Frame D i K)
    (hR : ∀ row, Persistent D (R row))
    (h : ∀ s reply s', D.inv s → K s → D.legal (entryOf i c .findLease reply s s') s s' →
      s'.stored = s.stored → R s.stored.lease s') :
    (D.contract i c).Triple K loadRecoveryClaim (fun row s => K s ∧ R row s) := by
  refine triple_findLease R hK h (fun row => ?_) triple_raise
  exact triple_done (hK.and (hR row).frame) fun _ _ h => h

/-- What a Run document and a lease row, once read, say of the database for ever after. -/
structure StoreFacts (D : Discipline Call) where
  document : OrchestratorRunState → Database Call → Prop
  row : RecoveryClaim → Database Call → Prop
  documentPersistent : ∀ run, Persistent D (document run)
  rowPersistent : ∀ claim, Persistent D (row claim)
  documentRead : ∀ {s s' e run}, D.inv s → D.legal e s s' → s'.stored = s.stored →
    s.stored.run = some run → document run s'
  rowRead : ∀ {s s' e claim}, D.inv s → D.legal e s s' → s'.stored = s.stored →
    s.stored.lease = some claim → row claim s'
  overlay : ∀ {run claim s}, document run s → row claim s →
    document { run with recoveryClaim := claim } s

namespace StoreFacts

variable (F : StoreFacts D)

def returned (run : Option OrchestratorRunState) (s : Database Call) : Prop :=
  ∀ r, run = some r → F.document r s

theorem returnedPersistent (run : Option OrchestratorRunState) : Persistent D (F.returned run) :=
  Persistent.all fun r => (F.documentPersistent r).imp

def rowReturned (row : Option RecoveryClaim) (s : Database Call) : Prop :=
  ∀ claim, row = some claim → F.row claim s

theorem rowReturnedPersistent (row : Option RecoveryClaim) : Persistent D (F.rowReturned row) :=
  Persistent.all fun claim => (F.rowPersistent claim).imp

theorem overlayClaim {run : OrchestratorRunState} {row : Option RecoveryClaim}
    {s : Database Call} (hrun : F.document run s) (hrow : F.rowReturned row s) :
    F.document (overlayClaim run row) s := by
  cases row with
  | none => exact hrun
  | some claim =>
      simp only [RunStore.overlayClaim]
      split
      · exact hrun
      · exact F.overlay hrun (hrow claim rfl)

end StoreFacts

theorem triple_load (F : StoreFacts D) {K : Database Call → Prop} (hK : Frame D i K) :
    (D.contract i c).Triple K load (fun run s => K s ∧ F.returned run s) := by
  refine Contract.Triple.bind (fun run s => K s ∧ F.returned run s)
    (triple_findRun F.returned hK F.returnedPersistent ?_) ?_
  · intro s s' e hs _ hlegal hsame r hr
    exact F.documentRead hs hlegal hsame hr
  · intro run
    have hread : Frame D i (fun s => K s ∧ F.returned run s) :=
      hK.and (F.returnedPersistent run).frame
    cases run with
    | none => exact triple_done hread fun s _ h => h
    | some document =>
        refine Contract.Triple.bind _ (triple_loadRecoveryClaim F.rowReturned hread
          F.rowReturnedPersistent ?_) ?_
        · intro s reply s' hs _ hlegal hsame claim hclaim
          exact F.rowRead hs hlegal hsame hclaim
        · intro row
          refine Contract.Triple.bind _
            (triple_validated (hread.and (F.rowReturnedPersistent row).frame)) ?_
          intro run
          refine triple_done ((Persistent.const _).frame.and
            (hread.and (F.rowReturnedPersistent row).frame)) ?_
          rintro s _ ⟨rfl, ⟨hKs, hdocument⟩, hrow⟩
          refine ⟨hKs, ?_⟩
          rintro r hr
          cases hr
          exact F.overlayClaim (hdocument document rfl) hrow

/-! ## The version-fenced mutation -/

@[simp] theorem withCommand_recoveryClaim (run : OrchestratorRunState) (commandId : CommandId) :
    (withCommand run commandId).recoveryClaim = run.recoveryClaim := by
  unfold withCommand
  split <;> rfl

@[simp] theorem withCommand_stateVersion (run : OrchestratorRunState) (commandId : CommandId) :
    (withCommand run commandId).stateVersion = run.stateVersion := by
  unfold withCommand
  split <;> rfl

/-- What a mutation leaves behind: the frame, `C` when it was accepted, and a Run that
the store knows. -/
def MutationPost (F : StoreFacts D) (K C : Database Call → Prop) (result : MongoRunStoreResult)
    (s : Database Call) : Prop :=
  K s ∧ (result.outcome = .accepted → C s) ∧ F.returned result.run s

theorem replaceRun_cases {expectedStateVersion : Nat} {candidate : OrchestratorRunState}
    {s s' : Database Call} {reply : WriteReply}
    (hexec : Executes i c (.replaceRun expectedStateVersion candidate) s reply s') :
    (s'.stored = s.stored ∧ reply ≠ .counted true) ∨
    (s'.stored = { s.stored with run := some candidate } ∧
      ∃ document, s.stored.run = some document ∧
        document.stateVersion = expectedStateVersion) := by
  rcases List.mem_cons.mp hexec.outcome with heq | hwrite
  · obtain ⟨rfl, hsame⟩ := Prod.mk.inj heq
    exact Or.inl ⟨hsame, by simp⟩
  · rcases mem_conditionalWrite.mp hwrite with ⟨happlies, hafter⟩ | ⟨-, hsame, hreply⟩
    · obtain ⟨document, hdocument, hexpected⟩ := (Option.any_eq_true _ _).mp happlies
      have hmatched : ∃ document, s.stored.run = some document ∧
          document.stateVersion = expectedStateVersion :=
        ⟨document, hdocument, by simpa using hexpected⟩
      rcases hafter with ⟨-, h⟩ | ⟨rfl, h | h⟩
      · exact Or.inr ⟨h, hmatched⟩
      · exact Or.inr ⟨h, hmatched⟩
      · exact Or.inl ⟨h, by simp⟩
    · refine Or.inl ⟨hsame, ?_⟩
      rintro rfl
      rcases hreply with h | h <;> cases h

theorem triple_replaceRun (F : StoreFacts D) {K C : Database Call → Prop}
    {candidate : OrchestratorRunState} {expectedStateVersion : Nat} {commandId : CommandId}
    (hK : Persistent D K)
    (hreplace : ∀ s reply s', D.inv s → K s →
      Executes i c (.replaceRun expectedStateVersion candidate) s reply s' →
      D.legal (entryOf i c (.replaceRun expectedStateVersion candidate) reply s s') s s' ∧
        (reply = .counted true → C s'))
    (hmirror : (D.contract i c).Triple (fun s => K s ∧ C s) (mirrorAfterReplace candidate)
      (MutationPost F K C)) :
    (D.contract i c).Triple K (replaceRun candidate expectedStateVersion commandId)
      (MutationPost F K C) := by
  -- without an acceptance only the loaded Run has to be shown
  have hother : ∀ {outcome : StoreOutcome} {winner : Option OrchestratorRunState},
      outcome ≠ .accepted → (D.contract i c).Triple (fun s => K s ∧ F.returned winner s)
        (.done ⟨outcome, winner⟩) (MutationPost F K C) := by
    intro outcome winner hne
    exact triple_done (hK.and (F.returnedPersistent winner)).frame
      fun s _ h => ⟨h.1, fun hacc => absurd hacc hne, h.2⟩
  refine triple_act (fun reply s => K s ∧ (reply = .counted true → C s)) hK.frame ?_ ?_
  · intro s reply s' hs hKs hexec
    obtain ⟨hlegal, hC⟩ := hreplace s reply s' hs hKs hexec
    exact ⟨hlegal, hK.step s s' _ hs hlegal hKs, hC⟩
  · intro reply
    cases reply with
    | counted matched =>
        cases matched with
        | true => exact hmirror.pre fun _ _ h => ⟨h.1, h.2 rfl⟩
        | false =>
            refine Contract.Triple.bind _ ((triple_load F hK.frame).pre fun _ _ h => h.1) ?_
            intro winner
            refine hother ?_
            split <;> simp
    | duplicateKey =>
        refine Contract.Triple.bind _ ((triple_load F hK.frame).pre fun _ _ h => h.1) ?_
        exact fun winner => hother (by simp)
    | unavailable =>
        refine Contract.Triple.bind _ ((triple_load F hK.frame).pre fun _ _ h => h.1) ?_
        intro winner
        split
        · exact hother (by simp)
        · exact triple_raise

/-- `cas_mutate`, from what its replacement and the mirror after it do. -/
theorem triple_casMutate (F : StoreFacts D) {K C : Database Call → Prop}
    {run : OrchestratorRunState} {expectedStateVersion : Nat} {commandId : CommandId}
    (hK : Persistent D K)
    (hreplace : run.stateVersion = expectedStateVersion + 1 → ∀ s reply s', D.inv s → K s →
      Executes i c (.replaceRun expectedStateVersion (withCommand run commandId)) s reply s' →
      D.legal (entryOf i c (.replaceRun expectedStateVersion (withCommand run commandId)) reply s s')
        s s' ∧ (reply = .counted true → C s'))
    (hmirror : (D.contract i c).Triple (fun s => K s ∧ C s)
      (mirrorAfterReplace (withCommand run commandId)) (MutationPost F K C)) :
    (D.contract i c).Triple K (casMutate run expectedStateVersion commandId)
      (MutationPost F K C) := by
  refine Contract.Triple.bind _ (triple_load F hK.frame) ?_
  intro current
  have hrefused : ∀ {outcome : StoreOutcome}, outcome ≠ .accepted →
      (D.contract i c).Triple (fun s => K s ∧ F.returned current s) (.done ⟨outcome, current⟩)
        (MutationPost F K C) := by
    intro outcome hne
    exact triple_done (hK.and (F.returnedPersistent current)).frame
      fun s _ h => ⟨h.1, fun hacc => absurd hacc hne, h.2⟩
  cases current with
  | none => exact hrefused (by simp)
  | some current =>
      simp only
      split
      · exact hrefused (by simp)
      · split
        · exact hrefused (by simp)
        · next hversions =>
            have hversion : run.stateVersion = expectedStateVersion + 1 := by
              simp only [not_or, not_not] at hversions
              exact hversions.2
            refine Contract.Triple.bind _
              (triple_validated (hK.and (F.returnedPersistent (some current))).frame) ?_
            intro candidate
            split
            · refine (hrefused (by simp)).pre ?_
              exact fun s _ h => h.2
            · intro s hs hP
              obtain ⟨rfl, hKs, -⟩ := hP
              exact triple_replaceRun F hK (hreplace hversion) hmirror s hs hKs

end Hybro.RunStore
