import Hybro.Eventing.Bus

/-! # Accounts of the event bus

What an operation on a handler keeps, and from it the invariant of the bus: every event that a
publication gave to a handler was handed over, waits, was discarded by a stop, or has a dead
letter, and it is so in one way only.
-/

namespace Hybro.Eventing

variable {E : Type} {n : Nat}

/-! ## One handler -/

namespace HandlerState

def accounted (h : HandlerState E) : List Nat :=
  (h.left.map (·.1) ++ h.queue ++ h.refused).map (·.publication)

def inHand (h : HandlerState E) : Nat :=
  match h.task with
  | .handling _ => 1
  | _ => 0

end HandlerState

structure Sound (h : HandlerState E) : Prop where
  order : h.left.map (·.1) ++ h.queue = h.put
  unfinished : h.unfinished = h.queue.length + h.inHand
  once : h.accounted.Nodup

/-- What an operation leaves that gives the handler nothing. -/
structure Keeps (h h' : HandlerState E) : Prop where
  sound : Sound h'
  accounted : h'.accounted = h.accounted
  empty : h.queue = [] → h'.queue = []

section Handler

variable {h : HandlerState E} {item : QueuedEvent E} {task : WorkerTask E}

theorem sound_fresh : Sound ({} : HandlerState E) := by
  constructor <;> simp [HandlerState.accounted, HandlerState.inHand]

theorem accounted_enqueue : (h.enqueue item).accounted.Perm (item.publication :: h.accounted) := by
  simp only [HandlerState.accounted, HandlerState.enqueue, List.map_append, List.map_cons,
    List.append_assoc, List.singleton_append]
  exact (List.perm_middle.append_left _).trans List.perm_middle

theorem accounted_refuse : (h.refuse item).accounted.Perm (item.publication :: h.accounted) := by
  simp only [HandlerState.accounted, HandlerState.refuse, List.map_append, List.map_cons,
    List.map_nil]
  rw [← List.append_assoc]
  exact List.perm_append_singleton ..

theorem Sound.enqueue (hs : Sound h) (hnew : item.publication ∉ h.accounted) :
    Sound (h.enqueue item) where
  order := by simp [HandlerState.enqueue, ← hs.order]
  unfinished := by
    have hunfinished := hs.unfinished
    simp only [HandlerState.enqueue, HandlerState.inHand, List.length_append,
      List.length_singleton] at hunfinished ⊢
    omega
  once := accounted_enqueue.nodup_iff.mpr (List.nodup_cons.mpr ⟨hnew, hs.once⟩)

theorem Sound.refuse (hs : Sound h) (hnew : item.publication ∉ h.accounted) :
    Sound (h.refuse item) :=
  { hs with once := accounted_refuse.nodup_iff.mpr (List.nodup_cons.mpr ⟨hnew, hs.once⟩) }

/-! ### Operations that give nothing -/

theorem Sound.handOver {rest : List (QueuedEvent E)} (hs : Sound h)
    (hqueue : h.queue = item :: rest) (hfree : h.inHand = 0) : Keeps h (h.handOver item rest) := by
  have haccounted : (h.handOver item rest).accounted = h.accounted := by
    simp [HandlerState.accounted, HandlerState.handOver, hqueue]
  refine ⟨⟨?_, ?_, haccounted ▸ hs.once⟩, haccounted, ?_⟩
  · have horder := hs.order
    rw [hqueue] at horder
    simpa [HandlerState.handOver] using horder
  · have hunfinished := hs.unfinished
    rw [hqueue, hfree] at hunfinished
    simpa [HandlerState.handOver, HandlerState.inHand] using hunfinished
  · intro hempty
    rw [hqueue] at hempty
    cases hempty

theorem Sound.finish (hs : Sound h) (hhand : h.inHand = 1) (hfree : (h.finish task).inHand = 0) :
    Keeps h (h.finish task) := by
  refine ⟨⟨hs.order, ?_, hs.once⟩, rfl, id⟩
  have hunfinished := hs.unfinished
  rw [hfree]
  simp only [HandlerState.finish]
  omega

theorem Sound.changeTask (hs : Sound h) {cancelled : Bool}
    (hhand : ({ h with task := task, cancelled := cancelled } : HandlerState E).inHand = h.inHand) :
    Keeps h { h with task := task, cancelled := cancelled } :=
  ⟨⟨hs.order, hhand ▸ hs.unfinished, hs.once⟩, rfl, id⟩

theorem Sound.settle (hs : Sound h) : Keeps h h.settle := by
  have haccounted : h.settle.accounted = h.accounted := by
    simp [HandlerState.accounted, HandlerState.settle, Function.comp_def]
  refine ⟨⟨?_, ?_, haccounted ▸ hs.once⟩, haccounted, fun _ => rfl⟩
  · simp [HandlerState.settle, Function.comp_def, hs.order]
  · have hunfinished := hs.unfinished
    simp only [HandlerState.settle, HandlerState.inHand, List.length_nil] at hunfinished ⊢
    omega

theorem settle_left (hempty : h.queue = []) : h.settle.left = h.left := by
  simp [HandlerState.settle, hempty]

end Handler

/-! ## The bus -/

/-- What a publication and the handlers know of each other. -/
def Told (registered : Registered E n) (handlers : Fin n → HandlerState E) (p : Nat) :
    Publication E n → Prop
  | .fresh => ∀ i, p ∉ (handlers i).accounted
  | .enqueueing event rest =>
      ∃ given, given ++ rest = registered.handlersOf event ∧
        ∀ i, p ∈ (handlers i).accounted ↔ i ∈ given
  | .ended event returned => returned = true →
      ∀ i, p ∈ (handlers i).accounted ↔ i ∈ registered.handlersOf event

/-- No publication can be on its way: the bus is not started, or the lock is held for a start or
for the later part of a stop. -/
def Bus.quiet (s : Bus E n) : Bool :=
  match s.phase with
  | .idle => !s.started
  | .stopBegun => false
  | _ => true

def Bus.settled (s : Bus E n) : Bool :=
  match s.phase with
  | .idle => !s.started
  | .starting | .startCanceling => true
  | .stopBegun => false
  | .stopCanceling => !s.overran

def Bus.agrees (s : Bus E n) : Bool :=
  match s.phase with
  | .idle => s.accepting == s.started
  | .startCanceling => !s.accepting && !s.started
  | _ => !s.accepting

structure Bus.Inv (registered : Registered E n) (s : Bus E n) : Prop where
  sound : ∀ i, Sound (s.handlers i)
  told : ∀ p, Told registered s.handlers p (s.publications p)
  active : ∃ active : List Nat, active.Nodup ∧ active.length = s.activePublications ∧
    ∀ p, p ∈ active ↔ (s.publications p).isOpen
  quiet : s.quiet = true → s.activePublications = 0
  settled : s.settled = true → ∀ i, (s.handlers i).queue = []
  agrees : s.agrees = true
  handed : s.overran = false → ∀ i, ∀ x ∈ (s.handlers i).left, x.2 = .handed

section Steps

variable {registered : Registered E n} {s s' : Bus E n} {i : Fin n} {p q : Nat} {event : E}
  {rest : List (Fin n)} {h' : HandlerState E}

theorem Told.same {handlers handlers' : Fin n → HandlerState E} {publication : Publication E n}
    (h : Told registered handlers q publication)
    (hsame : ∀ j, q ∈ (handlers' j).accounted ↔ q ∈ (handlers j).accounted) :
    Told registered handlers' q publication := by
  cases publication with
  | fresh => exact fun j hmem => h j ((hsame j).mp hmem)
  | enqueueing event rest =>
      obtain ⟨given, hroute, hgiven⟩ := h
      exact ⟨given, hroute, fun j => (hsame j).trans (hgiven j)⟩
  | ended event returned => exact fun hreturned j => (hsame j).trans (h hreturned j)

theorem quiet_of_settled (h : s.settled = true) : s.quiet = true := by
  unfold Bus.settled at h
  unfold Bus.quiet
  cases hphase : s.phase <;> simp_all

theorem Bus.Inv.not_quiet (hinv : s.Inv registered) (hopen : (s.publications p).isOpen = true) :
    s.quiet = false := by
  obtain ⟨active, -, hlength, hmem⟩ := hinv.active
  cases hquiet : s.quiet with
  | false => rfl
  | true =>
      have hzero := hinv.quiet hquiet
      rw [← hlength, List.length_eq_zero_iff] at hzero
      rw [← hmem, hzero] at hopen
      exact absurd hopen List.not_mem_nil

/-! ### Steps of a publication -/

theorem Bus.Inv.publishes (hinv : s.Inv registered) {publication : Publication E n}
    {handlers : Fin n → HandlerState E} {count : Nat} (hquiet : s.quiet = false)
    (hsound : ∀ j, Sound (handlers j)) (hleft : ∀ j, (handlers j).left = (s.handlers j).left)
    (hsame : ∀ q, q ≠ p → ∀ j, q ∈ (handlers j).accounted ↔ q ∈ (s.handlers j).accounted)
    (htold : Told registered handlers p publication)
    (hactive : ∃ active : List Nat, active.Nodup ∧ active.length = count ∧
      (p ∈ active ↔ publication.isOpen) ∧
      ∀ q, q ≠ p → (q ∈ active ↔ (s.publications q).isOpen)) :
    Bus.Inv registered { s.setPublication p publication with
      handlers := handlers, activePublications := count } := by
  have hsettled : s.settled ≠ true := fun h => absurd (quiet_of_settled h) (by simp [hquiet])
  refine ⟨hsound, ?_, ?_, fun h => absurd (hquiet.symm.trans h) (by decide),
    fun h => absurd h hsettled, hinv.agrees, ?_⟩
  · intro q
    show Told registered handlers q (Function.update s.publications p publication q)
    by_cases hq : q = p
    · subst hq
      rwa [Function.update_self]
    · rw [Function.update_of_ne hq]
      exact (hinv.told q).same (hsame q hq)
  · obtain ⟨active, hnodup, hlength, hown, hothers⟩ := hactive
    refine ⟨active, hnodup, hlength, ?_⟩
    intro q
    show q ∈ active ↔ (Function.update s.publications p publication q).isOpen = true
    by_cases hq : q = p
    · rw [hq, Function.update_self, hown]
    · rw [Function.update_of_ne hq]
      exact hothers q hq
  · intro hoverran j
    show ∀ x ∈ (handlers j).left, x.2 = Fate.handed
    rw [hleft j]
    exact hinv.handed hoverran j

theorem Bus.Inv.gives (hinv : s.Inv registered)
    (hpublication : s.publications p = .enqueueing event (i :: rest))
    (hsound : p ∉ (s.handlers i).accounted → Sound h') (hleft : h'.left = (s.handlers i).left)
    (hnew : ∀ q, q ∈ h'.accounted ↔ q = p ∨ q ∈ (s.handlers i).accounted) :
    ((s.setHandler i h').setPublication p (.enqueueing event rest)).Inv registered := by
  have htold := hinv.told p
  rw [hpublication] at htold
  obtain ⟨given, hroute, hgiven⟩ := htold
  have hfresh : i ∉ given := by
    have hdistinct := registered.distinct event
    rw [← hroute] at hdistinct
    exact fun hmem => (List.nodup_append.mp hdistinct).2.2 i hmem i List.mem_cons_self rfl
  have htold : Told registered (Function.update s.handlers i h') p (.enqueueing event rest) := by
    refine ⟨given ++ [i], by simp [hroute], ?_⟩
    refine (Function.forall_update_iff _ fun (j : Fin n) (h : HandlerState E) =>
      p ∈ h.accounted ↔ j ∈ given ++ [i]).mpr ⟨?_, ?_⟩
    · simp [hnew]
    · intro j hj
      simp [hgiven, hj]
  have hopen : (s.publications p).isOpen = true := by
    rw [hpublication]
    rfl
  obtain ⟨active, hnodup, hlength, hmem⟩ := hinv.active
  refine hinv.publishes (hinv.not_quiet hopen) ?_ ?_ ?_ htold
    ⟨active, hnodup, hlength, (hmem p).trans (iff_of_true hopen rfl), fun q _ => hmem q⟩
  · refine (Function.forall_update_iff _ fun (_ : Fin n) (h : HandlerState E) => Sound h).mpr
      ⟨hsound ?_, fun j _ => hinv.sound j⟩
    exact fun hmem => hfresh ((hgiven i).mp hmem)
  · exact (Function.forall_update_iff _ fun (j : Fin n) (h : HandlerState E) =>
      h.left = (s.handlers j).left).mpr ⟨hleft, fun _ _ => rfl⟩
  · intro q hq
    exact (Function.forall_update_iff _ fun (j : Fin n) (h : HandlerState E) => q ∈ h.accounted ↔
      q ∈ (s.handlers j).accounted).mpr ⟨(hnew q).trans (or_iff_right hq), fun _ _ => Iff.rfl⟩

theorem Bus.Inv.ends (hinv : s.Inv registered) {returned : Bool}
    (hopen : (s.publications p).isOpen = true)
    (htold : Told registered s.handlers p (.ended event returned)) :
    (s.finishPublication p event returned).Inv registered := by
  obtain ⟨active, hnodup, hlength, hmem⟩ := hinv.active
  refine hinv.publishes (hinv.not_quiet hopen) hinv.sound (fun _ => rfl)
    (fun _ _ _ => Iff.rfl) htold ⟨active.erase p, hnodup.erase p, ?_, ?_, ?_⟩
  · rw [List.length_erase_of_mem ((hmem p).mpr hopen), hlength]
  · simp [hnodup.not_mem_erase, Publication.isOpen]
  · intro q hq
    rw [List.mem_erase_of_ne hq, hmem]

theorem Bus.Inv.admits (hinv : s.Inv registered) (hfresh : s.publications p = .fresh)
    (hstarted : s.started = true) (haccepting : s.accepting = true) :
    Bus.Inv registered
      { s.setPublication p (.enqueueing event (registered.handlersOf event)) with
        activePublications := s.activePublications + 1 } := by
  have hquiet : s.quiet = false := by
    have hagrees := hinv.agrees
    unfold Bus.agrees at hagrees
    unfold Bus.quiet
    cases hphase : s.phase <;> simp_all
  have hnone := hinv.told p
  rw [hfresh] at hnone
  obtain ⟨active, hnodup, hlength, hmem⟩ := hinv.active
  have hnew : p ∉ active := by simp [hmem, hfresh, Publication.isOpen]
  refine hinv.publishes hquiet hinv.sound (fun _ => rfl) (fun _ _ _ => Iff.rfl)
    ⟨[], rfl, fun i => iff_of_false (hnone i) List.not_mem_nil⟩
    ⟨p :: active, List.nodup_cons.mpr ⟨hnew, hnodup⟩, by simp [hlength], ?_, ?_⟩
  · simp [Publication.isOpen]
  · intro q hq
    simp [hq, hmem]

/-! ### Steps of a worker, and of the holder of the lock -/

theorem Bus.Inv.keeps (hinv : s.Inv registered) (hkeeps : ∀ i, Keeps (s.handlers i) (s'.handlers i))
    (hpublications : s'.publications = s.publications)
    (hactive : s'.activePublications = s.activePublications)
    (hquiet : s'.quiet = true → s.quiet = true ∨ s.activePublications = 0)
    (hsettled : s'.settled = true → s.settled = true ∨ ∀ i, (s'.handlers i).queue = [])
    (hagrees : s.agrees = true → s'.agrees = true)
    (hhanded : s'.overran = false → ∀ i, ∀ x ∈ (s'.handlers i).left,
      x.2 = .handed ∨ (s.overran = false ∧ x ∈ (s.handlers i).left)) : s'.Inv registered := by
  refine ⟨fun i => (hkeeps i).sound, ?_, ?_, ?_, ?_, hagrees hinv.agrees, ?_⟩
  · intro q
    rw [hpublications]
    exact (hinv.told q).same fun j => by rw [(hkeeps j).accounted]
  · rw [hpublications, hactive]
    exact hinv.active
  · intro h
    rw [hactive]
    exact (hquiet h).elim hinv.quiet id
  · intro h i
    rcases hsettled h with hold | hempty
    · exact (hkeeps i).empty (hinv.settled hold i)
    · exact hempty i
  · intro hoverran i x hx
    rcases hhanded hoverran i x hx with hnow | ⟨hbefore, hmem⟩
    · exact hnow
    · exact hinv.handed hbefore i x hmem

theorem Bus.Inv.works (hinv : s.Inv registered) (hkeeps : Keeps (s.handlers i) h')
    (hleft : ∀ x ∈ h'.left, x.2 = .handed ∨ x ∈ (s.handlers i).left) :
    (s.setHandler i h').Inv registered := by
  refine hinv.keeps ?_ rfl rfl Or.inl Or.inl id ?_
  · exact (Function.forall_update_iff _ fun (j : Fin n) (h : HandlerState E) =>
      Keeps (s.handlers j) h).mpr ⟨hkeeps, fun j _ => ⟨hinv.sound j, rfl, id⟩⟩
  · intro hoverran
    refine (Function.forall_update_iff _ fun (j : Fin n) (h : HandlerState E) =>
      ∀ x ∈ h.left, x.2 = .handed ∨ (s.overran = false ∧ x ∈ (s.handlers j).left)).mpr
      ⟨?_, fun j _ x hx => .inr ⟨hoverran, hx⟩⟩
    exact fun x hx => (hleft x hx).imp_right fun hmem => ⟨hoverran, hmem⟩

theorem of_guard {c : Prop} [Decidable c] {next : Bus E n}
    (hstep : (if c then some next else none) = some s') : c ∧ next = s' := by
  split_ifs at hstep with h
  exact ⟨h, Option.some.inj hstep⟩

theorem Bus.Inv.step {action : Action E n} (hinv : s.Inv registered)
    (hstep : s.step registered action = some s') : s'.Inv registered := by
  cases action with
  | publish p event =>
      simp only [Bus.step] at hstep
      split at hstep
      · rename_i hfresh
        obtain ⟨⟨hstarted, haccepting, -⟩, rfl⟩ := of_guard hstep
        exact hinv.admits hfresh hstarted haccepting
      · cases hstep
  | put p =>
      simp only [Bus.step] at hstep
      split at hstep
      · rename_i hpublication
        obtain ⟨-, rfl⟩ := of_guard hstep
        exact hinv.gives hpublication (fun hnew => (hinv.sound _).enqueue hnew) rfl
          fun q => accounted_enqueue.mem_iff.trans List.mem_cons
      · cases hstep
  | timeOut p =>
      simp only [Bus.step] at hstep
      split at hstep
      · rename_i hpublication
        cases hstep
        exact hinv.gives hpublication (fun hnew => (hinv.sound _).refuse hnew) rfl
          fun q => accounted_refuse.mem_iff.trans List.mem_cons
      · cases hstep
  | finish p =>
      simp only [Bus.step] at hstep
      split at hstep
      · rename_i event hpublication
        cases hstep
        have htold := hinv.told p
        rw [hpublication] at htold
        obtain ⟨given, hroute, hgiven⟩ := htold
        rw [List.append_nil] at hroute
        exact hinv.ends (by rw [hpublication]; rfl) fun _ i => hroute ▸ hgiven i
      · cases hstep
  | abort p =>
      simp only [Bus.step] at hstep
      split at hstep
      · rename_i hpublication
        cases hstep
        exact hinv.ends (by rw [hpublication]; rfl) fun h => absurd h (by decide)
      · cases hstep
  | take i =>
      simp only [Bus.step] at hstep
      split at hstep
      · rename_i item rest htask hqueue
        split at hstep
        · cases hstep
        · cases hstep
          have hfree : (s.handlers i).inHand = 0 := by
            unfold HandlerState.inHand
            rw [htask]
          refine hinv.works ((hinv.sound i).handOver hqueue hfree) ?_
          intro x hx
          rcases List.mem_append.mp hx with hx | hx
          · exact .inr hx
          · exact .inl (by rw [List.mem_singleton.mp hx])
      · cases hstep
  | handled i =>
      simp only [Bus.step] at hstep
      split at hstep
      · rename_i item htask
        cases hstep
        refine hinv.works ((hinv.sound i).finish ?_ ?_) fun x hx => .inr hx
        · unfold HandlerState.inHand
          rw [htask]
        · unfold HandlerState.inHand HandlerState.finish Bus.nextTask
          split_ifs <;> rfl
      · cases hstep
  | endWorker i =>
      simp only [Bus.step] at hstep
      split at hstep
      · split at hstep
        · cases hstep
        · rename_i htask
          cases hstep
          refine hinv.works ((hinv.sound i).changeTask ?_) fun x hx => .inr hx
          unfold HandlerState.inHand
          rw [htask]
        · rename_i item htask
          cases hstep
          refine hinv.works ((hinv.sound i).finish ?_ rfl) fun x hx => .inr hx
          unfold HandlerState.inHand
          rw [htask]
      · cases hstep
  | start =>
      obtain ⟨⟨hphase, hclosed, habsent⟩, rfl⟩ := of_guard hstep
      have hstopped : s.started = false := by
        have hagrees := hinv.agrees
        simp only [Bus.agrees, hphase] at hagrees
        cases hstarted : s.started with
        | false => rfl
        | true => simp_all
      refine hinv.keeps (fun i => (hinv.sound i).changeTask ?_) rfl rfl ?_ ?_ (fun _ => rfl)
        fun h i x hx => .inr ⟨h, hx⟩
      · have hnone := habsent i
        unfold WorkerTask.isLive at hnone
        unfold HandlerState.inHand
        cases htask : (s.handlers i).task <;> simp_all
      · exact fun _ => .inl (by simp [Bus.quiet, hphase, hstopped])
      · exact fun _ => .inl (by simp [Bus.settled, hphase, hstopped])
  | startSucceeds =>
      obtain ⟨-, rfl⟩ := of_guard hstep
      exact hinv.keeps (fun i => ⟨hinv.sound i, rfl, id⟩) rfl rfl (by simp [Bus.quiet])
        (by simp [Bus.settled]) (fun _ => rfl) fun h i x hx => .inr ⟨h, hx⟩
  | startFails =>
      obtain ⟨hphase, rfl⟩ := of_guard hstep
      exact hinv.keeps (fun i => (hinv.sound i).changeTask rfl) rfl rfl
        (fun _ => .inl (by simp [Bus.quiet, hphase]))
        (fun _ => .inl (by simp [Bus.settled, hphase])) (fun _ => rfl)
        fun h i x hx => .inr ⟨h, hx⟩
  | startSettles =>
      obtain ⟨hphase, rfl⟩ := of_guard hstep
      have hempty := hinv.settled (by simp [Bus.settled, hphase])
      refine hinv.keeps (fun i => (hinv.sound i).settle) rfl rfl
        (fun _ => .inl (by simp [Bus.quiet, hphase])) (fun _ => .inr fun _ => rfl) ?_
        fun h i x hx => .inr ⟨h, by rwa [← settle_left (hempty i)]⟩
      simp only [Bus.agrees, hphase]
      show (!s.accepting && !s.started) = true → (s.accepting == s.started) = true
      cases s.accepting <;> cases s.started <;> decide
  | stop =>
      obtain ⟨-, rfl⟩ := of_guard hstep
      exact hinv.keeps (fun i => ⟨hinv.sound i, rfl, id⟩) rfl rfl (by simp [Bus.quiet])
        (by simp [Bus.settled]) (fun _ => rfl) fun h i x hx => .inr ⟨h, hx⟩
  | stopDrained =>
      obtain ⟨⟨hphase, hzero, hdone⟩, rfl⟩ := of_guard hstep
      have hempty : ∀ i, (s.handlers i).queue = [] := by
        intro i
        have hunfinished := (hinv.sound i).unfinished
        rw [hdone i] at hunfinished
        exact List.length_eq_zero_iff.mp (by omega)
      exact hinv.keeps (fun i => (hinv.sound i).changeTask rfl) rfl rfl (fun _ => .inr hzero)
        (fun _ => .inr hempty) (by simp [Bus.agrees, Bus.onHandlers, hphase])
        fun h i x hx => .inr ⟨h, hx⟩
  | stopOverran =>
      obtain ⟨⟨hphase, hzero⟩, rfl⟩ := of_guard hstep
      exact hinv.keeps (fun i => (hinv.sound i).changeTask rfl) rfl rfl (fun _ => .inr hzero)
        (by simp [Bus.settled]) (by simp [Bus.agrees, Bus.onHandlers, hphase]) (by simp)
  | stopSettles =>
      obtain ⟨hphase, rfl⟩ := of_guard hstep
      -- a stop that did not overrun cancelled the workers with nothing in the queues
      have hempty : s.overran = false → ∀ i, (s.handlers i).queue = [] := by
        intro h
        refine hinv.settled ?_
        simp only [Bus.settled, hphase]
        exact congrArg not h
      refine hinv.keeps (fun i => (hinv.sound i).settle) rfl rfl
        (fun _ => .inl (by simp [Bus.quiet, hphase])) (fun _ => .inr fun _ => rfl) ?_
        fun h i x hx => .inr ⟨h, by rwa [← settle_left (hempty h i)]⟩
      simp only [Bus.agrees, hphase]
      show (!s.accepting) = true → (s.accepting == false) = true
      cases s.accepting <;> decide

theorem Bus.Reachable.inv (h : Bus.Reachable registered s) : s.Inv registered := by
  induction h with
  | init =>
      refine ⟨fun _ => sound_fresh, fun _ _ => List.not_mem_nil, ⟨[], List.nodup_nil, rfl, ?_⟩,
        fun _ => rfl, fun _ _ => rfl, rfl, fun _ _ _ hx => absurd hx List.not_mem_nil⟩
      simp [Publication.isOpen]
  | step _ hstep ih => exact ih.step hstep

/-- Whatever the interleaving of publications, workers, starts and stops: a publication that
returned has given its event to each handler of its type once, and to no other, as an event that
left its queue in the order of the puts, that waits there, or that has a dead letter. Only a stop
that overran its deadline discards events, and a bus that stands still holds none back. -/
theorem bus_accounts (h : Bus.Reachable registered s) :
    (∀ p event i, s.publications p = .ended event true →
      (s.handlers i).accounted.count p = if i ∈ registered.handlersOf event then 1 else 0) ∧
    (∀ p i, (s.handlers i).accounted.count p ≤ 1) ∧
    (∀ i, (s.handlers i).left.map (·.1) ++ (s.handlers i).queue = (s.handlers i).put) ∧
    (s.overran = false → ∀ i, ∀ x ∈ (s.handlers i).left, x.2 = .handed) ∧
    (s.phase = .idle → s.started = false → ∀ i, (s.handlers i).queue = []) := by
  have hinv := h.inv
  refine ⟨?_, fun p i => List.nodup_iff_count_le_one.mp (hinv.sound i).once p,
    fun i => (hinv.sound i).order, hinv.handed, ?_⟩
  · intro p event i hended
    have htold := hinv.told p
    rw [hended] at htold
    split_ifs with hmem
    · exact List.count_eq_one_of_mem (hinv.sound i).once ((htold rfl i).mpr hmem)
    · exact List.count_eq_zero_of_not_mem fun hgiven => hmem ((htold rfl i).mp hgiven)
  · intro hphase hstopped
    exact hinv.settled (by simp [Bus.settled, hphase, hstopped])

end Steps

/-! ### A full queue -/

def oneHandler : Registered Unit 1 where
  handlersOf _ := [0]
  distinct _ := List.nodup_singleton 0
  queueMaxsize := 1

theorem reachable_foldlM {registered : Registered E n} {s s' : Bus E n}
    {actions : List (Action E n)} (hrun : actions.foldlM (Bus.step registered) s = some s')
    (h : Bus.Reachable registered s) : Bus.Reachable registered s' := by
  induction actions generalizing s with
  | nil =>
      cases hrun
      exact h
  | cons action rest ih =>
      obtain ⟨s', hstep, hrest⟩ := Option.bind_eq_some_iff.mp hrun
      exact ih hrest (.step h hstep)

def refusedRun : Option (Bus Unit 1) :=
  List.foldlM (Bus.step oneHandler) {} [.start, .startSucceeds, .publish 0 (), .put 0,
    .publish 1 (), .timeOut 1, .finish 0, .finish 1]

theorem bus_accounts_refused : ((refusedRun.get rfl).handlers 0).accounted.count 1 = 1 :=
  (bus_accounts (reachable_foldlM (Option.some_get _).symm .init)).1 1 () 0 rfl

end Hybro.Eventing
