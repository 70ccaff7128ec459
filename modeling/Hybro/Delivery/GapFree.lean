import Hybro.Delivery.RoomEventRules

/-! # Appends without transactions leave no gap

Any number of appends, each of which may stop between two operations. Every returned
append has its document, no position changes, the healed prefix is filled, and an append
that inserted its document has filled everything older than the grace.
-/

namespace Hybro.Delivery

open Interleaving

variable {V : Type} {log log' : RoomLog V} {i : Nat} {call : AppendCall V}

/-! ## Assertions that survive -/

/-- A step of thread `i`. -/
def Takes (i : Nat) (log log' : RoomLog V) : Prop :=
  Grows log log' ∧ ∀ entry ∈ log'.inserted, entry ∈ log.inserted ∨ entry.1 = i

/-- A step in which thread `i` does not insert the document of its call. -/
def Quiet (i : Nat) (call : AppendCall V) (log log' : RoomLog V) : Prop :=
  Grows log log' ∧
    ∀ entry ∈ log'.inserted, entry ∈ log.inserted ∨ entry.1 ≠ i ∨ entry.2.id ≠ call.id

theorem Takes.quiet {j : Nat} (h : Takes j log log') (hother : j ≠ i) : Quiet i call log log' := by
  refine ⟨h.1, ?_⟩
  intro entry hmem
  rcases h.2 entry hmem with hold | heq
  · exact .inl hold
  · exact .inr (.inl (heq ▸ hother))

theorem takes_of_outcomes {op : LogOp V} {reply : op.Res} (h : (reply, log') ∈ op.outcomes i log) :
    Takes i log log' := by
  obtain ⟨hgrows, hinserted⟩ := grows_of_outcomes h
  refine ⟨hgrows, ?_⟩
  intro entry hmem
  rcases hinserted entry hmem with hold | ⟨hown, -⟩
  · exact .inl hold
  · exact .inr hown

theorem quiet_of_outcomes {op : LogOp V} {reply : op.Res} (h : (reply, log') ∈ op.outcomes i log)
    (hother : ∀ event, op = .insertOne event → event.id ≠ call.id) : Quiet i call log log' := by
  obtain ⟨hgrows, hinserted⟩ := grows_of_outcomes h
  refine ⟨hgrows, ?_⟩
  intro entry hmem
  rcases hinserted entry hmem with hold | ⟨-, hop⟩
  · exact .inl hold
  · exact .inr (.inr (hother entry.2 hop))

def Lasting (i : Nat) (call : AppendCall V) (K : RoomLog V → Prop) : Prop :=
  ∀ log log', Quiet i call log log' → K log → K log'

theorem Lasting.and {K L : RoomLog V → Prop} (hK : Lasting i call K) (hL : Lasting i call L) :
    Lasting i call (fun log => K log ∧ L log) :=
  fun log log' hstep h => ⟨hK log log' hstep h.1, hL log log' hstep h.2⟩

theorem Lasting.all {ι : Sort*} {K : ι → RoomLog V → Prop} (hK : ∀ x, Lasting i call (K x)) :
    Lasting i call (fun log => ∀ x, K x log) :=
  fun log log' hstep h x => hK x log log' hstep (h x)

theorem Lasting.imp {P : Prop} {K : RoomLog V → Prop} (hK : Lasting i call K) :
    Lasting i call (fun log => P → K log) :=
  fun log log' hstep h hp => hK log log' hstep (h hp)

theorem lasting_filled (roomId : String) (n : Nat) :
    Lasting i call (fun log => log.Filled roomId n) :=
  fun _ _ hstep h => hstep.1.filled h

theorem lasting_mem (event : RoomEvent V) : Lasting i call (fun log => event ∈ log.events) :=
  fun _ _ hstep h => hstep.1.events event h

/-- The thread has inserted nothing under its key, or only documents with `P`. -/
def OwnInserts (i : Nat) (call : AppendCall V) (P : RoomEvent V → Prop) (log : RoomLog V) : Prop :=
  ∀ event, (i, event) ∈ log.inserted → event.id = call.id → P event

theorem lasting_ownInserts (P : RoomEvent V → Prop) : Lasting i call (OwnInserts i call P) := by
  intro log log' hstep h event hmem hid
  rcases hstep.2 _ hmem with hold | hother | hkey
  · exact h event hold hid
  · exact absurd rfl hother
  · exact absurd hid hkey

/-! ## One rule for each operation -/

section Rules

variable (skipGrace : Int) (i : Nat) (call : AppendCall V)

abbrev appendContract : Contract (LogOp V) LogOp.Res (RoomLog V) :=
  (roomLogSystem skipGrace AppendCall.Ordinary).contract LogInv (fun j _ => Takes j) i call

variable {skipGrace i call} {K : RoomLog V → Prop} {α : Type} {Q : α → RoomLog V → Prop}

theorem Lasting.stable (hK : Lasting i call K) : (appendContract skipGrace i call).Stable K := by
  intro log log' _ hrely _ h
  rcases hrely with rfl | ⟨j, d, hother, htakes⟩
  · exact h
  · exact hK log log' (htakes.quiet hother) h

theorem log_done {a : α} (hK : Lasting i call K) (h : ∀ log, K log → Q a log) :
    (appendContract skipGrace i call).Triple K (.done a) Q :=
  Contract.Triple.done hK.stable fun log _ => h log

theorem log_raise {message : String} :
    (appendContract skipGrace i call).Triple K (LogProg.raise message : LogProg V α) Q :=
  fun _ _ _ _ _ reply => nomatch reply

theorem log_quiet {op : LogOp V} (hK : Lasting i call K) (R : op.Res → RoomLog V → Prop)
    (hR : ∀ reply, Lasting i call (R reply))
    (hother : ∀ event, op = .insertOne event → event.id ≠ call.id)
    (hstep : ∀ log reply log', LogInv log → K log → (reply, log') ∈ op.outcomes i log →
      LogInv log' ∧ R reply log') :
    (appendContract skipGrace i call).Triple K (.act op .done)
      (fun reply log => K log ∧ R reply log) := by
  refine Contract.Triple.act (fun reply log => K log ∧ R reply log) hK.stable ?_ ?_
  · intro log reply log' hinv h hexec
    obtain ⟨hinv', hreply⟩ := hstep log reply log' hinv h hexec
    exact ⟨takes_of_outcomes hexec, hinv', hK log log' (quiet_of_outcomes hexec hother) h, hreply⟩
  · intro reply
    exact log_done (hK.and (hR reply)) fun _ h => h

theorem log_findOne {id roomId : String} (hK : Lasting i call K) :
    (appendContract skipGrace i call).Triple K (findOne id roomId)
      (fun found log => K log ∧ ∀ event, found = some event →
        event ∈ log.events ∧ event.id = id ∧ event.roomId = roomId) := by
  refine log_quiet hK _ ?_ (fun _ hop => nomatch hop) ?_
  · intro found log log' hstep h event heq
    obtain ⟨hmem, hfound⟩ := h event heq
    exact ⟨hstep.1.events event hmem, hfound⟩
  · intro log found log' hinv _ hexec
    obtain ⟨rfl, rfl⟩ := Prod.mk.inj (List.mem_singleton.mp hexec)
    refine ⟨hinv, ?_⟩
    intro event heq
    exact ⟨List.mem_of_find?_eq_some heq, by simpa using List.find?_some heq⟩

theorem log_increment {roomId : String} (hK : Lasting i call K) :
    (appendContract skipGrace i call).Triple K (increment roomId) (fun _ => K) := by
  have hrule : (appendContract skipGrace i call).Triple K (increment roomId)
      (fun _ log => K log ∧ True) := by
    refine log_quiet hK (fun _ _ => True) (fun _ _ _ _ _ => trivial) (fun _ hop => nomatch hop) ?_
    intro log reply log' hinv _ hexec
    obtain ⟨-, rfl⟩ := Prod.mk.inj (List.mem_singleton.mp hexec)
    exact ⟨hinv.setCounter (hinv.healed roomId), trivial⟩
  exact hrule.post fun _ _ _ h => h.1

theorem log_findCounter {roomId : String} (hK : Lasting i call K) :
    (appendContract skipGrace i call).Triple K (findCounter roomId)
      (fun counter log => K log ∧
        ∀ n, 0 < n → n ≤ counter.healedThrough → log.Filled roomId n) := by
  refine log_quiet hK _ ?_ (fun _ hop => nomatch hop) ?_
  · intro counter
    exact Lasting.all fun n => (lasting_filled roomId n).imp.imp
  · intro log counter log' hinv _ hexec
    obtain ⟨rfl, rfl⟩ := Prod.mk.inj (List.mem_singleton.mp hexec)
    exact ⟨hinv, hinv.healed roomId⟩

theorem log_findSeqs {roomId : String} {first last limit : Nat} (hK : Lasting i call K) :
    (appendContract skipGrace i call).Triple K (findSeqs roomId first last limit)
      (fun seqs log => K log ∧ ∀ n, n ∈ seqs → log.Filled roomId n) := by
  refine log_quiet hK _ ?_ (fun _ hop => nomatch hop) ?_
  · intro seqs
    exact Lasting.all fun n => (lasting_filled roomId n).imp
  · intro log seqs log' hinv _ hexec
    obtain ⟨rfl, rfl⟩ := Prod.mk.inj (List.mem_singleton.mp hexec)
    refine ⟨hinv, ?_⟩
    intro n hn
    obtain ⟨event, hmem, rfl⟩ := List.mem_map.mp hn
    obtain ⟨hevent, hat⟩ := List.mem_filter.mp (List.mem_of_mem_take hmem)
    have hplace : event.roomId = roomId ∧ first ≤ event.roomSeq ∧ event.roomSeq ≤ last := by
      simpa using hat
    exact ⟨event, hevent, hplace.1, rfl⟩

theorem log_maxHealed {roomId : String} {through : Nat} (hK : Lasting i call K)
    (hfilled : ∀ log, K log → ∀ n, 0 < n → n ≤ through → log.Filled roomId n) :
    (appendContract skipGrace i call).Triple K (maxHealed roomId through) (fun _ => K) := by
  have hrule : (appendContract skipGrace i call).Triple K (maxHealed roomId through)
      (fun _ log => K log ∧ True) := by
    refine log_quiet hK (fun _ _ => True) (fun _ _ _ _ _ => trivial) (fun _ hop => nomatch hop) ?_
    intro log reply log' hinv h hexec
    obtain ⟨-, rfl⟩ := Prod.mk.inj (List.mem_singleton.mp hexec)
    refine ⟨hinv.setCounter ?_, trivial⟩
    intro n hpos hle
    rcases Nat.le_total (log.counters roomId).healedThrough through with hless | hless
    · rw [Nat.max_eq_right hless] at hle
      exact hfilled log h n hpos hle
    · rw [Nat.max_eq_left hless] at hle
      exact hinv.healed roomId n hpos hle
  exact hrule.post fun _ _ _ h => h.1

theorem log_fillSkipped {roomId : String} {n : Nat} (hcall : call.Ordinary)
    (hK : Lasting i call K) :
    (appendContract skipGrace i call).Triple K (fillSkipped roomId n)
      (fun _ log => K log ∧ log.Filled roomId n) := by
  have hrule : (appendContract skipGrace i call).Triple K (insertOne (tombstone roomId n))
      (fun _ log => K log ∧ log.Filled roomId n) := by
    refine log_quiet hK _ (fun _ => lasting_filled roomId n) ?_ ?_
    · intro event hop hid
      cases hop
      exact hcall roomId n hid.symm
    · intro log reply log' hinv _ hexec
      simp only [LogOp.outcomes] at hexec
      split at hexec
      · rename_i hoccupied
        obtain ⟨-, rfl⟩ := Prod.mk.inj (List.mem_singleton.mp hexec)
        obtain ⟨other, hmem, hid | hat⟩ := hoccupied
        · exact ⟨hinv, other, hmem, hinv.placed other hmem roomId n hid⟩
        · exact ⟨hinv, other, hmem, hat⟩
      · rename_i hfree
        obtain ⟨-, rfl⟩ := Prod.mk.inj (List.mem_singleton.mp hexec)
        exact ⟨hinv.insert hfree (placedById_tombstone roomId n), tombstone roomId n,
          List.mem_cons_self, rfl, rfl⟩
  refine Contract.Triple.bind _ hrule fun _ => ?_
  exact log_done (hK.and (lasting_filled roomId n)) fun _ h => h

theorem log_insertOwn {n : Nat} (hcall : call.Ordinary)
    (hK : Lasting i call K) (hidle : ∀ log, K log → OwnInserts i call (fun _ => False) log) :
    (appendContract skipGrace i call).Triple K (insertOne (call.event n))
      (fun inserted log => if inserted then
        call.event n ∈ log.events ∧ OwnInserts i call (· = call.event n) log else K log) := by
  refine Contract.Triple.act (fun inserted log => if inserted then
    call.event n ∈ log.events ∧ OwnInserts i call (· = call.event n) log else K log)
    hK.stable ?_ ?_
  · intro log inserted log' hinv h
      (hexec : (inserted, log') ∈ (LogOp.insertOne (call.event n)).outcomes i log)
    have htakes := takes_of_outcomes hexec
    simp only [LogOp.outcomes] at hexec
    split at hexec
    · obtain ⟨rfl, rfl⟩ := Prod.mk.inj (List.mem_singleton.mp hexec)
      exact ⟨htakes, hinv, h⟩
    · rename_i hfree
      obtain ⟨rfl, rfl⟩ := Prod.mk.inj (List.mem_singleton.mp hexec)
      refine ⟨htakes, hinv.insert hfree (hcall.placedById n), List.mem_cons_self, ?_⟩
      intro event hmem hid
      rcases List.mem_cons.mp hmem with heq | hold
      · exact (Prod.mk.inj heq).2
      · exact (hidle log h event hold hid).elim
  · intro inserted
    cases inserted with
    | false => exact log_done hK fun _ h => h
    | true => exact log_done ((lasting_mem _).and (lasting_ownInserts _)) fun _ h => h

/-! ## Healing and appending -/

theorem log_fillMissing {roomId : String} {existingSeqs : List Nat} (hcall : call.Ordinary)
    (missing : List Nat) (hK : Lasting i call K)
    (hexisting : ∀ log, K log → ∀ n, n ∈ existingSeqs → log.Filled roomId n) :
    (appendContract skipGrace i call).Triple K (fillMissing roomId existingSeqs missing)
      (fun _ log => K log ∧ ∀ n ∈ missing, log.Filled roomId n) := by
  induction missing generalizing K with
  | nil => exact log_done hK fun log h => ⟨h, fun _ hn => nomatch hn⟩
  | cons first rest ih =>
      unfold fillMissing
      by_cases hknown : first ∈ existingSeqs
      · rw [if_pos hknown]
        refine (ih hK hexisting).post ?_
        rintro _ log - ⟨h, hrest⟩
        exact ⟨h, List.forall_mem_cons.mpr ⟨hexisting log h first hknown, hrest⟩⟩
      · rw [if_neg hknown]
        refine Contract.Triple.bind _ (log_fillSkipped hcall hK) fun _ => ?_
        refine (ih (hK.and (lasting_filled roomId first)) ?_).post ?_
        · exact fun log h => hexisting log h.1
        · rintro _ log - ⟨⟨h, hfirst⟩, hrest⟩
          exact ⟨h, List.forall_mem_cons.mpr ⟨hfirst, hrest⟩⟩

/-- Every position that is older than the grace. -/
def FilledBehind (skipGrace : Int) (roomId : String) (roomSeq : Nat) (log : RoomLog V) : Prop :=
  ∀ n : Nat, 0 < n → (n : Int) ≤ roomSeq - skipGrace → log.Filled roomId n

theorem lasting_filledBehind (roomId : String) (roomSeq : Nat) :
    Lasting i call (FilledBehind skipGrace roomId roomSeq) :=
  Lasting.all fun n => (lasting_filled roomId n).imp.imp

theorem log_healSkipped {roomId : String} {allocatedSeq : Nat} (hgrace : 0 < skipGrace)
    (hcall : call.Ordinary) (hK : Lasting i call K) :
    (appendContract skipGrace i call).Triple K (healSkipped skipGrace roomId allocatedSeq)
      (fun _ log => K log ∧ FilledBehind skipGrace roomId allocatedSeq log) := by
  unfold healSkipped
  rw [if_neg (by omega)]
  by_cases hearly : (allocatedSeq : Int) - skipGrace ≤ 0
  · rw [if_pos hearly]
    refine log_done hK fun log h => ⟨h, ?_⟩
    intro n hpos hle
    omega
  · rw [if_neg hearly]
    refine Contract.Triple.bind _ (log_findCounter hK) fun counter => ?_
    generalize hthrough : ((allocatedSeq : Int) - skipGrace).toNat = healThrough
    have hbehind : ∀ n : Nat, (n : Int) ≤ allocatedSeq - skipGrace → n ≤ healThrough := by
      intro n hle
      omega
    have hhealed : Lasting i call (fun log => K log ∧
        ∀ n, 0 < n → n ≤ counter.healedThrough → log.Filled roomId n) :=
      hK.and (Lasting.all fun n => (lasting_filled roomId n).imp.imp)
    by_cases hdone : healThrough ≤ counter.healedThrough
    · rw [if_pos hdone]
      refine log_done hhealed fun log h => ⟨h.1, ?_⟩
      intro n hpos hle
      exact h.2 n hpos (Nat.le_trans (hbehind n hle) hdone)
    · rw [if_neg hdone]
      refine Contract.Triple.bind _ (log_findSeqs hhealed) fun existingSeqs => ?_
      have hfound : Lasting i call (fun log => (K log ∧
          ∀ n, 0 < n → n ≤ counter.healedThrough → log.Filled roomId n) ∧
          ∀ n, n ∈ existingSeqs → log.Filled roomId n) :=
        hhealed.and (Lasting.all fun n => (lasting_filled roomId n).imp)
      refine Contract.Triple.bind _
        (log_fillMissing hcall _ hfound fun log h => h.2) fun _ => ?_
      have hfilled : Lasting i call (fun log => K log ∧
          ∀ n, 0 < n → n ≤ healThrough → log.Filled roomId n) :=
        hK.and (Lasting.all fun n => (lasting_filled roomId n).imp.imp)
      refine ((log_maxHealed hfilled fun log h => h.2).pre ?_).post ?_
      · rintro log - ⟨⟨⟨h, hold⟩, -⟩, hnew⟩
        refine ⟨h, ?_⟩
        intro n hpos hle
        by_cases hless : n ≤ counter.healedThrough
        · exact hold n hpos hless
        · exact hnew n (List.mem_range'_1.mpr (by omega))
      · rintro _ log - ⟨h, hall⟩
        exact ⟨h, fun n hpos hle => hall n hpos (hbehind n hle)⟩

structure Appended (skipGrace : Int) (i : Nat) (call : AppendCall V) (result : RoomEventAppend)
    (log : RoomLog V) : Prop where
  stored : ∃ event ∈ log.events, event.id = call.id ∧ event.roomId = call.conversationId ∧
    event.roomSeq = result.roomSeq
  own : OwnInserts i call (fun event => event.roomSeq = result.roomSeq ∧
    FilledBehind skipGrace call.conversationId event.roomSeq log) log

theorem lasting_appended (result : RoomEventAppend) :
    Lasting i call (Appended skipGrace i call result) := by
  intro log log' hstep h
  refine ⟨?_, ?_⟩
  · obtain ⟨event, hmem, hevent⟩ := h.stored
    exact ⟨event, hstep.1.events event hmem, hevent⟩
  · intro event hmem hid
    obtain ⟨hseq, hbehind⟩ :=
      lasting_ownInserts _ log log' hstep h.own event hmem hid
    exact ⟨hseq, lasting_filledBehind _ _ log log' hstep hbehind⟩

theorem appended_existing {existing : RoomEvent V} (hmem : existing ∈ log.events)
    (hid : existing.id = call.id) (hroom : existing.roomId = call.conversationId)
    (hidle : OwnInserts i call (fun _ => False) log) :
    Appended skipGrace i call ⟨existing.roomSeq, call.id, true⟩ log where
  stored := ⟨existing, hmem, hid, hroom, rfl⟩
  own := fun event hevent heq => (hidle event hevent heq).elim

abbrev Idle (i : Nat) (call : AppendCall V) : RoomLog V → Prop :=
  OwnInserts i call fun _ => False

theorem log_insertAttempts (hgrace : 0 < skipGrace) (hcall : call.Ordinary) (attempts : Nat) :
    (appendContract skipGrace i call).Triple (Idle i call) (insertAttempts skipGrace call attempts)
      (Appended skipGrace i call) := by
  have hidle : Lasting i call (Idle i call) := lasting_ownInserts _
  induction attempts with
  | zero => exact log_raise
  | succ attempts ih =>
      refine Contract.Triple.bind _ (log_increment hidle) fun roomSeq => ?_
      refine Contract.Triple.bind _ (log_insertOwn hcall hidle fun _ h => h) fun inserted => ?_
      cases inserted with
      | true =>
          have hown : Lasting i call (fun log => call.event roomSeq ∈ log.events ∧
              OwnInserts i call (· = call.event roomSeq) log) :=
            (lasting_mem _).and (lasting_ownInserts _)
          refine Contract.Triple.bind _
            ((log_healSkipped hgrace hcall hown).pre fun log _ h => h) fun _ => ?_
          refine log_done (hown.and (lasting_filledBehind _ _)) ?_
          rintro log ⟨⟨hmem, hinserts⟩, hbehind⟩
          refine ⟨⟨call.event roomSeq, hmem, rfl, rfl, rfl⟩, ?_⟩
          intro event hevent hid
          rw [hinserts event hevent hid]
          exact ⟨rfl, hbehind⟩
      | false =>
          refine Contract.Triple.bind _
            ((log_findOne hidle).pre fun log _ h => h) fun found => ?_
          cases found with
          | none => exact ih.pre fun log _ h => h.1
          | some existing =>
              have hfound : Lasting i call (fun log => Idle i call log ∧
                  existing ∈ log.events) := hidle.and (lasting_mem existing)
              apply Contract.Triple.pre (P := fun log => (Idle i call log ∧
                existing ∈ log.events) ∧ existing.id = call.id ∧
                existing.roomId = call.conversationId)
              · intro log hinv h
                refine (Contract.Triple.bind _ (log_fillSkipped hcall hfound) fun _ =>
                  log_done (hfound.and (lasting_filled _ _)) ?_) log hinv h.1
                rintro log' ⟨⟨hidle', hmem⟩, -⟩
                exact appended_existing hmem h.2.1 h.2.2 hidle'
              · rintro log - ⟨h, hexisting⟩
                obtain ⟨hmem, hid, hroom⟩ := hexisting existing rfl
                exact ⟨⟨h, hmem⟩, hid, hroom⟩

theorem log_appendFallback (hgrace : 0 < skipGrace) (hcall : call.Ordinary) :
    (appendContract skipGrace i call).Triple (Idle i call) (appendFallback skipGrace call)
      (Appended skipGrace i call) := by
  have hidle : Lasting i call (Idle i call) := lasting_ownInserts _
  refine Contract.Triple.bind _ (log_findOne hidle) fun found => ?_
  cases found with
  | none => exact (log_insertAttempts hgrace hcall _).pre fun log _ h => h.1
  | some existing =>
      have hfound : Lasting i call (fun log => Idle i call log ∧ ∀ event,
          some existing = some event → event ∈ log.events ∧ event.id = call.id ∧
            event.roomId = call.conversationId) := by
        refine hidle.and (Lasting.all fun event => Lasting.imp ?_)
        exact fun log log' hstep h => ⟨hstep.1.events event h.1, h.2⟩
      refine log_done hfound ?_
      rintro log ⟨h, hexisting⟩
      obtain ⟨hmem, hid, hroom⟩ := hexisting existing rfl
      exact appended_existing hmem hid hroom h

end Rules

/-! ## Every interleaving -/

theorem append_proof (skipGrace : Int) (hgrace : 0 < skipGrace) :
    (roomLogSystem (V := V) skipGrace AppendCall.Ordinary).Proof LogInv (fun j _ => Takes j)
      (fun i log => ∀ event, (i, event) ∉ log.inserted) (Appended skipGrace) where
  starts := by
    rintro log rfl
    exact ⟨logInv_empty, fun _ _ h => nomatch h⟩
  environment := by
    rintro log log' hinv rfl
    exact hinv
  staysFresh := by
    rintro i log log' - hothers - hfresh event hmem
    rcases hothers with rfl | ⟨j, d, hother, htakes⟩
    · exact hfresh event hmem
    · rcases htakes.2 _ hmem with hold | heq
      · exact hfresh event hold
      · exact hother heq.symm
  body := by
    intro i call log hinv h
    have hidle : Idle i call log := fun event hmem _ => h.1 event hmem
    exact log_appendFallback hgrace h.2 log hinv hidle
  staysReturned := fun i call result => (lasting_appended result).stable

/-- The log of a configuration, and what has been returned, is free of gaps: no key twice, every
returned position is that of the stored document, positions are final, the healed prefix is filled,
and so is everything older than the grace behind an insert that has returned. -/
structure GapFree (skipGrace : Int) {admitted : AppendCall V → Prop}
    (cfg : Config (roomLogSystem skipGrace admitted)) : Prop where
  once : (cfg.shared.events.map (·.id)).Nodup
  stored : ∀ i call result, (i, call, result) ∈ cfg.returned → ∃ event ∈ cfg.shared.events,
    event.id = call.id ∧ event.roomId = call.conversationId ∧ event.roomSeq = result.roomSeq
  final : ∀ cfg' : Config (roomLogSystem skipGrace admitted), System.Later _ cfg cfg' →
    ∀ roomId n event, cfg.shared.eventAt roomId n = some event →
      cfg'.shared.eventAt roomId n = some event
  healed : ∀ roomId n, 0 < n → n ≤ (cfg.shared.counters roomId).healedThrough →
    cfg.shared.Filled roomId n
  behind : ∀ i call result event, (i, call, result) ∈ cfg.returned →
    (i, event) ∈ cfg.shared.inserted → event.id = call.id →
    FilledBehind skipGrace call.conversationId event.roomSeq cfg.shared

theorem grows_of_later {skipGrace : Int} {admitted : AppendCall V → Prop}
    {cfg cfg' : Config (roomLogSystem skipGrace admitted)} (h : System.Later _ cfg cfg') :
    Grows cfg.shared cfg'.shared := by
  refine h.shared (R := Grows) Grows.refl (fun _ _ _ => Grows.trans) ?_ ?_
  · intro i call op log reply log' hexec
    exact (grows_of_outcomes hexec).1
  · rintro log _ rfl
    exact .refl log

/-- With a positive grace, and keys that are not ids of tombstones, every interleaving of appends
that may stop anywhere keeps the logs of all rooms free of gaps. -/
theorem append_gap_free {skipGrace : Int} (hgrace : 0 < skipGrace)
    {cfg : Config (roomLogSystem (V := V) skipGrace AppendCall.Ordinary)}
    (hreach : (roomLogSystem skipGrace AppendCall.Ordinary).Reachable cfg) :
    GapFree skipGrace cfg := by
  have hproof := append_proof (V := V) skipGrace hgrace
  have hsound := hreach.sound hproof
  have hinv : LogInv cfg.shared := hsound.shared
  refine ⟨hinv.ids, ?_, ?_, hinv.healed, ?_⟩
  · intro i call result hreturned
    have happended : Appended skipGrace i call result cfg.shared :=
      hsound.returned i call result hreturned
    exact happended.stored
  · intro cfg' hlater roomId n event hat
    have hinv' : LogInv cfg'.shared := ((hreach.later hlater).sound hproof).shared
    exact (grows_of_later hlater).eventAt hinv' hat
  · intro i call result event hreturned hmem hid
    have happended : Appended skipGrace i call result cfg.shared :=
      hsound.returned i call result hreturned
    exact (happended.own event hmem hid).2

/-! ## Schedules -/

/-- Steps of the appends that `known` lets start. -/
def roomLogStepper (skipGrace : Int) {admitted : AppendCall V → Prop} (known : AppendCall V → Bool)
    (hknown : ∀ call, known call = true → admitted call) :
    (roomLogSystem skipGrace admitted).Stepper where
  admits _ call := known call
  outcomes i _ op log := op.outcomes i log
  environment _ log := log
  admits_sound := fun _ call h => hknown call h
  outcomes_sound := fun _ _ _ _ _ _ h => h
  environment_sound := fun _ _ => rfl

def emptyLog (skipGrace : Int) (admitted : AppendCall V → Prop) :
    Config (roomLogSystem skipGrace admitted) where
  shared := RoomLog.empty
  threads := fun _ => .unborn
  returned := []

theorem emptyLog_reachable (skipGrace : Int) (admitted : AppendCall V → Prop) :
    (roomLogSystem skipGrace admitted).Reachable (emptyLog skipGrace admitted) :=
  .init _ ⟨rfl, fun _ => rfl, rfl⟩

def answers {skipGrace : Int} {admitted : AppendCall V → Prop}
    (cfg : Config (roomLogSystem skipGrace admitted)) :
    List (Nat × AppendCall V × RoomEventAppend) :=
  cfg.returned

def appendUnder (key : String) : AppendCall Unit where
  conversationId := "room"
  kind := "message"
  payloadPublic := []
  idempotencyKey := some key

/-- The first append is delayed after its allocation, until the second has healed its position. -/
def delayedAppend : List (System.Move (AppendCall Unit)) :=
  [.start 0 (appendUnder "a"), .start 1 (appendUnder "b")] ++
    [0, 0, 1, 1, 1, 1, 1, 1, 1].map (.act · 0) ++ [.finish 1] ++
    [0, 0, 0, 0, 0, 0, 0].map (.act · 0) ++ [.finish 0]

theorem append_gap_free_delayed :
    ∃ cfg : Config (roomLogSystem (V := Unit) 1 AppendCall.Ordinary),
      answers cfg = [(0, appendUnder "a", ⟨3, "a", true⟩), (1, appendUnder "b", ⟨2, "b", true⟩)] ∧
        cfg.shared.eventAt "room" 1 = some (tombstone "room" 1) ∧ GapFree 1 cfg := by
  obtain ⟨cfg, hreach, hcheck⟩ := System.Stepper.exists_of_play
    (roomLogStepper 1 AppendCall.startsApart fun _ => AppendCall.ordinary_of_startsApart)
    delayedAppend
    (fun cfg => decide (answers cfg =
      [(0, appendUnder "a", ⟨3, "a", true⟩), (1, appendUnder "b", ⟨2, "b", true⟩)] ∧
        RoomLog.eventAt cfg.shared "room" 1 = some (tombstone "room" 1)))
    (emptyLog_reachable _ _) (by decide +kernel)
  obtain ⟨hreturned, hat⟩ := of_decide_eq_true hcheck
  exact ⟨cfg, hreturned, hat, append_gap_free (by decide) hreach⟩

def abandonedAppend (key : String) (steps : Nat) : List (System.Move (AppendCall Unit)) :=
  [.start 0 (appendUnder "a"), .act 0 0, .act 0 0, .start 1 (appendUnder key)] ++
    List.replicate steps (.act 1 0) ++ [.finish 1]

/-- Both conditions are needed: a grace of zero switches healing off, and a key that is the id of
a tombstone keeps the tombstone out although the cursor passes its position. -/
theorem append_leaves_gap :
    (∃ cfg : Config (roomLogSystem (V := Unit) 0 AppendCall.Ordinary),
      (roomLogSystem 0 AppendCall.Ordinary).Reachable cfg ∧ ¬ GapFree 0 cfg) ∧
    (∃ cfg : Config (roomLogSystem (V := Unit) 1 fun _ => True),
      (roomLogSystem 1 fun _ => True).Reachable cfg ∧ ¬ GapFree 1 cfg) := by
  constructor
  · obtain ⟨cfg, hreach, hcheck⟩ := System.Stepper.exists_of_play
      (roomLogStepper 0 AppendCall.startsApart fun _ => AppendCall.ordinary_of_startsApart)
      (abandonedAppend "b" 3)
      (fun cfg => decide ((1, appendUnder "b", ⟨2, "b", true⟩) ∈ answers cfg ∧
        (1, (appendUnder "b").event 2) ∈ RoomLog.inserted cfg.shared ∧
        (RoomLog.eventAt cfg.shared "room" 1).isNone = true))
      (emptyLog_reachable _ _) (by decide +kernel)
    obtain ⟨hreturned, hinserted, hgap⟩ := of_decide_eq_true hcheck
    refine ⟨cfg, hreach, ?_⟩
    intro hfree
    have hfilled := hfree.behind 1 _ _ _ hreturned hinserted rfl 1 (by decide) (by decide)
    exact not_filled_of_eventAt hgap hfilled
  · obtain ⟨cfg, hreach, hcheck⟩ := System.Stepper.exists_of_play
      (roomLogStepper 1 (fun _ => true) fun _ _ => trivial)
      (abandonedAppend "skip:room:1" 7)
      (fun cfg => decide ((RoomLog.counters cfg.shared "room").healedThrough = 1 ∧
        (RoomLog.eventAt cfg.shared "room" 1).isNone = true))
      (emptyLog_reachable _ _) (by decide +kernel)
    obtain ⟨hhealed, hgap⟩ := of_decide_eq_true hcheck
    refine ⟨cfg, hreach, ?_⟩
    intro hfree
    have hfilled := hfree.healed "room" 1 (by decide) (Nat.le_of_eq hhealed.symm)
    exact not_filled_of_eventAt hgap hfilled

end Hybro.Delivery
