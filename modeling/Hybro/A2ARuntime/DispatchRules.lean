import Hybro.A2ARuntime.Dispatching

/-! # The invariant of a dispatched call

Every mark has an attempt of its own and a thread of its own. The call is unsent again
only after the thread of its last mark has taken the mark back, which that thread does
only after its contact has failed before the Agent was reached.
-/

namespace Hybro.A2ARuntime

open Orchestrator Interleaving RunRecord

/-! ## What the record tells -/

section Record

variable (i : Nat) (record : List (Nat × CallNote))

def Marked (before marked : AgentCallLedgerRecord) : Prop :=
  (i, .stored before marked) ∈ record ∧ IsMark before marked

def Returned : Prop :=
  ∃ before returned, (i, .stored before returned) ∈ record ∧ IsReturn before returned

def Sent : Prop :=
  ∃ command state, (i, .contacted (.dispatch command) state) ∈ record

/-- The dispatch of the thread has raised `RecoverableTransportError`. -/
def Unreached : Prop :=
  ∃ command, (i, .raised (.dispatch command)) ∈ record

/-- The thread has marked the call and later held it while it was still dispatching. -/
def Fenced : Prop :=
  ∃ before marked held, Marked i record before marked ∧ (i, .held held) ∈ record ∧
    held.state = .dispatching ∧ marked.stateVersion < held.stateVersion

end Record

/-- The thread of an entry that marks the call. -/
def marker : Nat × CallNote → Option Nat
  | (i, .stored before marked) => if IsMark before marked then some i else none
  | _ => none

/-- The thread of an entry that sends the dispatch. -/
def sender : Nat × CallNote → Option Nat
  | (i, .contacted (.dispatch _) _) => some i
  | _ => none

def Proper (entry : Nat × CallNote) (older : List (Nat × CallNote)) : Prop :=
  match entry.2 with
  | .contacted (.dispatch _) _ =>
      Fenced entry.1 older ∧ ∀ j, Sent j older → j ≠ entry.1 ∧ Unreached j older
  | .raised (.dispatch _) => Sent entry.1 older
  | _ => True

def Contact.NamesCall (terms : CallTerms) : Contact → Prop
  | .dispatch command | .inspect command =>
      command.commandId = terms.snapshot.commandId ∧ command.messageId = terms.snapshot.messageId
  | _ => False

/-! ## The invariant -/

structure LedgerSound (terms : CallTerms) (ledger : CallLedger) : Prop where
  latest : ∀ record ∈ ledger.history, record.stateVersion ≤ ledger.current.stateVersion
  unique : ∀ first ∈ ledger.history, ∀ second ∈ ledger.history,
    first.stateVersion = second.stateVersion → first = second
  snapshot : ∀ record ∈ ledger.history, record.dispatchSnapshot = terms.snapshot
  policy : ∀ record ∈ ledger.history, record.runtimePolicy = ledger.current.runtimePolicy
  stopped : ∀ older ∈ ledger.history, ∀ newer ∈ ledger.history,
    older.stateVersion ≤ newer.stateVersion → older.state.isStopped = true →
      newer.state.isStopped = true
  bounded : ledger.current.transportAttempts ≤ ledger.current.runtimePolicy.maxTransportAttempts
  spare : ledger.current.state.isUnsent = true →
    ledger.current.transportAttempts < ledger.current.runtimePolicy.maxTransportAttempts

structure DispatchInv (terms : CallTerms) (s : SharedCall) : Prop where
  ledger : LedgerSound terms s.ledger
  held : ∀ i record, (i, .held record) ∈ s.record → Known record s
  readings : ∀ i j workerId time, (i, .read workerId time) ∈ s.record →
    (j, .read workerId time) ∈ s.record → i = j
  marks : ∀ i before marked, Marked i s.record before marked →
    marked.transportAttempts ≤ s.ledger.current.transportAttempts ∧
      ∃ workerId, marked.claimOwner = some workerId ∧
        (i, .read workerId marked.updatedAt) ∈ s.record
  apart : ∀ i j before before' marked marked', Marked i s.record before marked →
    Marked j s.record before' marked' →
    marked.transportAttempts = marked'.transportAttempts → i = j
  counted : (s.record.filterMap marker).length ≤ s.ledger.current.transportAttempts
  written : ∀ before marked, Known before s → Known marked s → IsMark before marked →
    marked.stateVersion = before.stateVersion + 1 → ∃ i, Marked i s.record before marked
  /-- A mark that is not the current one has been taken back. -/
  returned : ∀ i before marked, Marked i s.record before marked →
    marked.transportAttempts < s.ledger.current.transportAttempts ∨
      s.ledger.current.state.isUnsent = true → Returned i s.record
  unreached : ∀ i, Returned i s.record → Unreached i s.record
  named : ∀ i contact state, (i, .contacted contact state) ∈ s.record → contact.NamesCall terms
  proper : Throughout Proper s.record

variable {terms : CallTerms} {s : SharedCall} {i : Nat} {note : CallNote}
  {record next : AgentCallLedgerRecord}

theorem mem_history {ledger : CallLedger} : record ∈ ledger.history ↔
    record = ledger.current ∨ record ∈ ledger.earlier := by
  exact List.mem_cons

theorem mem_history_write {ledger : CallLedger} :
    record ∈ (ledger.write next).history ↔ record = next ∨ record ∈ ledger.history := by
  exact List.mem_cons

/-! ## Writing the ledger -/

theorem LedgerSound.write {ledger : CallLedger} (h : LedgerSound terms ledger)
    (hsucceeds : Succeeds ledger.current next)
    (hbounded : next.transportAttempts ≤ next.runtimePolicy.maxTransportAttempts)
    (hspare : next.state.isUnsent = true →
      next.transportAttempts < next.runtimePolicy.maxTransportAttempts) :
    LedgerSound terms (ledger.write next) where
  latest := by
    intro record hmem
    change record.stateVersion ≤ next.stateVersion
    rcases mem_history_write.mp hmem with rfl | hmem
    · exact Nat.le_refl _
    · have hle := h.latest record hmem
      have hversion := hsucceeds.version
      omega
  unique := by
    intro first hfirst second hsecond hsame
    have hversion := hsucceeds.version
    rcases mem_history_write.mp hfirst with rfl | hbefore <;>
      rcases mem_history_write.mp hsecond with rfl | hother
    · rfl
    · have hle := h.latest second hother
      omega
    · have hle := h.latest first hbefore
      omega
    · exact h.unique first hbefore second hother hsame
  snapshot := by
    intro record hmem
    rcases mem_history_write.mp hmem with rfl | hmem
    · exact hsucceeds.snapshot.trans (h.snapshot _ (List.mem_cons_self ..))
    · exact h.snapshot record hmem
  policy := by
    intro record hmem
    change record.runtimePolicy = next.runtimePolicy
    rcases mem_history_write.mp hmem with rfl | hmem
    · rfl
    · exact (h.policy record hmem).trans hsucceeds.policy.symm
  stopped := by
    intro older holder newer hnewer hle hstopped
    have hversion := hsucceeds.version
    rcases mem_history_write.mp hnewer with rfl | hknown
    · rcases mem_history_write.mp holder with rfl | hbefore
      · exact hstopped
      · refine hsucceeds.stopped ?_
        exact h.stopped older hbefore _ (List.mem_cons_self ..) (h.latest older hbefore) hstopped
    · rcases mem_history_write.mp holder with rfl | hbefore
      · have hless := h.latest newer hknown
        omega
      · exact h.stopped older hbefore newer hknown hle hstopped
  bounded := hbounded
  spare := hspare

theorem LedgerSound.write_ordinary {ledger : CallLedger} (h : LedgerSound terms ledger)
    (hordinary : Ordinary ledger.current next) : LedgerSound terms (ledger.write next) := by
  refine h.write hordinary.toSucceeds ?_ ?_
  · rw [hordinary.attempts, hordinary.policy]
    exact h.bounded
  · intro hunsent
    rw [hordinary.attempts, hordinary.policy]
    exact h.spare (hordinary.unsent hunsent)

theorem LedgerSound.consecutive {ledger : CallLedger} (h : LedgerSound terms ledger)
    (hversion : next.stateVersion = ledger.current.stateVersion + 1)
    {before after : AgentCallLedgerRecord} (hbefore : before ∈ (ledger.write next).history)
    (hafter : after ∈ (ledger.write next).history)
    (hstep : after.stateVersion = before.stateVersion + 1) :
    (before = ledger.current ∧ after = next) ∨
      (before ∈ ledger.history ∧ after ∈ ledger.history) := by
  rcases mem_history_write.mp hafter with rfl | hknown
  · rcases mem_history_write.mp hbefore with rfl | hold
    · omega
    · refine .inl ⟨h.unique before hold _ (List.mem_cons_self ..) ?_, rfl⟩
      omega
  · rcases mem_history_write.mp hbefore with rfl | hold
    · have hle := h.latest after hknown
      omega
    · exact .inr ⟨hold, hknown⟩

/-! ## Adding to the record -/

section Entries

variable {entry : Nat × CallNote} {older : List (Nat × CallNote)} {j : Nat}
  {before marked : AgentCallLedgerRecord}

theorem Marked.cons (h : Marked j older before marked) : Marked j (entry :: older) before marked :=
  ⟨List.mem_cons_of_mem _ h.1, h.2⟩

theorem Returned.cons (h : Returned j older) : Returned j (entry :: older) := by
  obtain ⟨before, returned, hmem, hreturn⟩ := h
  exact ⟨before, returned, List.mem_cons_of_mem _ hmem, hreturn⟩

theorem Unreached.cons (h : Unreached j older) : Unreached j (entry :: older) := by
  obtain ⟨command, hmem⟩ := h
  exact ⟨command, List.mem_cons_of_mem _ hmem⟩

theorem marked_cons : Marked j ((i, note) :: older) before marked ↔
    (j = i ∧ note = .stored before marked ∧ IsMark before marked) ∨
      Marked j older before marked := by
  constructor
  · rintro ⟨hmem, hmark⟩
    rcases List.mem_cons.mp hmem with heq | hmem
    · obtain ⟨rfl, rfl⟩ := Prod.mk.inj heq
      exact .inl ⟨rfl, rfl, hmark⟩
    · exact .inr ⟨hmem, hmark⟩
  · rintro (⟨rfl, rfl, hmark⟩ | hold)
    · exact ⟨List.mem_cons_self .., hmark⟩
    · exact hold.cons

theorem returned_cons : Returned j ((i, note) :: older) ↔
    (j = i ∧ ∃ before returned, note = .stored before returned ∧ IsReturn before returned) ∨
      Returned j older := by
  constructor
  · rintro ⟨before, returned, hmem, hreturn⟩
    rcases List.mem_cons.mp hmem with heq | hmem
    · obtain ⟨rfl, rfl⟩ := Prod.mk.inj heq
      exact .inl ⟨rfl, before, returned, rfl, hreturn⟩
    · exact .inr ⟨before, returned, hmem, hreturn⟩
  · rintro (⟨rfl, before, returned, rfl, hreturn⟩ | hold)
    · exact ⟨before, returned, List.mem_cons_self .., hreturn⟩
    · exact hold.cons

end Entries

/-- A note that neither marks the call nor takes a mark back. -/
def NoteOk (terms : CallTerms) (i : Nat) (s : SharedCall) : CallNote → Prop
  | .read workerId time => ∀ j, j ≠ i → (j, .read workerId time) ∉ s.record
  | .held record => Known record s
  | .stored before after => ¬ IsMark before after ∧ ¬ IsReturn before after
  | .contacted contact _ => contact.NamesCall terms ∧ ∀ command, contact = .dispatch command →
      Fenced i s.record ∧ ∀ j, Sent j s.record → j ≠ i ∧ Unreached j s.record
  | .raised contact => ∀ command, contact = .dispatch command → Sent i s.record

theorem NoteOk.proper (h : NoteOk terms i s note) : Proper (i, note) s.record := by
  cases note with
  | contacted contact state =>
      cases contact with
      | dispatch command => exact h.2 command rfl
      | _ => trivial
  | raised contact =>
      cases contact with
      | dispatch command => exact h command rfl
      | _ => trivial
  | _ => trivial

theorem NoteOk.marker (h : NoteOk terms i s note) : marker (i, note) = none := by
  cases note with
  | stored before after => exact if_neg h.1
  | _ => rfl

theorem NoteOk.marked (h : NoteOk terms i s note) {j : Nat} {before marked : AgentCallLedgerRecord}
    (hmarked : Marked j ((i, note) :: s.record) before marked) :
    Marked j s.record before marked := by
  rcases marked_cons.mp hmarked with ⟨-, rfl, hmark⟩ | hold
  · exact absurd hmark h.1
  · exact hold

theorem NoteOk.returned (h : NoteOk terms i s note) {j : Nat}
    (hreturned : Returned j ((i, note) :: s.record)) : Returned j s.record := by
  rcases returned_cons.mp hreturned with ⟨-, before, after, rfl, hreturn⟩ | hold
  · exact absurd hreturn h.2
  · exact hold

theorem DispatchInv.addNote (h : DispatchInv terms s) (hok : NoteOk terms i s note) :
    DispatchInv terms (s.noted i [note]) where
  ledger := h.ledger
  held := by
    intro j record hmem
    rcases List.mem_cons.mp hmem with heq | hmem
    · obtain ⟨rfl, rfl⟩ := Prod.mk.inj heq
      exact hok
    · exact h.held j record hmem
  readings := by
    intro j k workerId time hfirst hsecond
    rcases List.mem_cons.mp hfirst with heq | hbefore <;>
      rcases List.mem_cons.mp hsecond with heq' | hother
    · exact (Prod.mk.inj heq).1.trans (Prod.mk.inj heq').1.symm
    · obtain ⟨rfl, rfl⟩ := Prod.mk.inj heq
      by_contra hne
      exact hok k (Ne.symm hne) hother
    · obtain ⟨rfl, rfl⟩ := Prod.mk.inj heq'
      by_contra hne
      exact hok j hne hbefore
    · exact h.readings j k workerId time hbefore hother
  marks := by
    intro j before marked hmarked
    obtain ⟨hle, workerId, howner, hread⟩ := h.marks j before marked (hok.marked hmarked)
    exact ⟨hle, workerId, howner, List.mem_cons_of_mem _ hread⟩
  apart := fun j k before before' marked marked' hfirst hsecond =>
    h.apart j k before before' marked marked' (hok.marked hfirst) (hok.marked hsecond)
  counted := by
    change (((i, note) :: s.record).filterMap marker).length ≤ _
    rw [List.filterMap_cons, hok.marker]
    exact h.counted
  written := by
    intro before marked hbefore hmarked hmark hversion
    obtain ⟨j, hj⟩ := h.written before marked hbefore hmarked hmark hversion
    exact ⟨j, hj.cons⟩
  returned := fun j before marked hmarked hdue =>
    (h.returned j before marked (hok.marked hmarked) hdue).cons
  unreached := fun j hreturned => (h.unreached j (hok.returned hreturned)).cons
  named := by
    intro j contact state hmem
    rcases List.mem_cons.mp hmem with heq | hmem
    · obtain ⟨rfl, rfl⟩ := Prod.mk.inj heq
      exact hok.1
    · exact h.named j contact state hmem
  proper := throughout_cons.mpr ⟨hok.proper, h.proper⟩

/-! ## Writes -/

theorem DispatchInv.elsewhere (h : DispatchInv terms s) (hnext : Ordinary s.ledger.current next) :
    DispatchInv terms { s with ledger := s.ledger.write next } where
  ledger := h.ledger.write_ordinary hnext
  held := fun j record hmem => List.mem_cons_of_mem _ (h.held j record hmem)
  readings := h.readings
  marks := by
    intro j before marked hmarked
    obtain ⟨hle, hread⟩ := h.marks j before marked hmarked
    exact ⟨hle.trans hnext.attempts.ge, hread⟩
  apart := h.apart
  counted := h.counted.trans hnext.attempts.ge
  written := by
    intro before marked hbefore hmarked hmark hversion
    rcases h.ledger.consecutive hnext.version hbefore hmarked hversion with ⟨rfl, rfl⟩ | hold
    · exact absurd hmark hnext.not_isMark
    · exact h.written before marked hold.1 hold.2 hmark hversion
  returned := by
    intro j before marked hmarked hdue
    refine h.returned j before marked hmarked ?_
    rcases hdue with hless | hunsent
    · exact .inl (hless.trans_eq hnext.attempts)
    · exact .inr (hnext.unsent hunsent)
  unreached := h.unreached
  named := h.named
  proper := h.proper

theorem DispatchInv.store (h : DispatchInv terms s) (hnext : Ordinary s.ledger.current next) :
    DispatchInv terms (s.stored i next []) := by
  have hok : NoteOk terms i { s with ledger := s.ledger.write next }
      (.stored s.ledger.current next) := ⟨hnext.not_isMark, hnext.not_isReturn⟩
  exact (h.elsewhere hnext).addNote hok

/-- The write that marks the call for one attempt of thread `i`. -/
structure Marks (i : Nat) (s : SharedCall) (next : AgentCallLedgerRecord) : Prop
    extends Succeeds s.ledger.current next where
  mark : IsMark s.ledger.current next
  attempts : next.transportAttempts = s.ledger.current.transportAttempts + 1
  read : ∃ workerId, next.claimOwner = some workerId ∧
    (i, .read workerId next.updatedAt) ∈ s.record

/-- The write that takes the mark of thread `i` back. -/
structure TakesBack (i : Nat) (s : SharedCall) (next : AgentCallLedgerRecord) : Prop
    extends Succeeds s.ledger.current next where
  back : IsReturn s.ledger.current next
  attempts : next.transportAttempts = s.ledger.current.transportAttempts
  spare : next.transportAttempts < next.runtimePolicy.maxTransportAttempts
  own : ∃ before marked, Marked i s.record before marked
  notYet : ¬ Returned i s.record
  unreached : Unreached i s.record

theorem IsMark.not_isReturn (h : IsMark record next) : ¬ IsReturn record next := by
  rintro ⟨hdispatching, -⟩
  have hready := h.1
  rw [hdispatching] at hready
  cases hready

theorem IsReturn.not_isMark (h : IsReturn record next) : ¬ IsMark record next :=
  fun hmark => hmark.not_isReturn h

theorem mem_stored {entry : Nat × CallNote} : entry ∈ (s.stored i next []).record ↔
    entry = (i, .stored s.ledger.current next) ∨ entry ∈ s.record := by
  exact List.mem_cons

theorem DispatchInv.mark (h : DispatchInv terms s) (hnext : Marks i s next) :
    DispatchInv terms (s.stored i next []) where
  ledger := by
    have hspare := h.ledger.spare (by rw [hnext.mark.1]; rfl)
    refine h.ledger.write hnext.toSucceeds ?_ ?_
    · rw [hnext.attempts, hnext.policy]
      exact hspare
    · intro hunsent
      rw [hnext.mark.2] at hunsent
      cases hunsent
  held := by
    intro j record hmem
    rcases mem_stored.mp hmem with heq | hmem
    · cases heq
    · exact List.mem_cons_of_mem _ (h.held j record hmem)
  readings := by
    intro j k workerId time hfirst hsecond
    rcases mem_stored.mp hfirst with heq | hbefore
    · cases heq
    · rcases mem_stored.mp hsecond with heq | hother
      · cases heq
      · exact h.readings j k workerId time hbefore hother
  marks := by
    intro j before marked hmarked
    change marked.transportAttempts ≤ next.transportAttempts ∧ _
    rcases marked_cons.mp hmarked with ⟨rfl, heq, -⟩ | hold
    · cases heq
      obtain ⟨workerId, howner, hread⟩ := hnext.read
      exact ⟨Nat.le_refl _, workerId, howner, List.mem_cons_of_mem _ hread⟩
    · obtain ⟨hle, workerId, howner, hread⟩ := h.marks j before marked hold
      rw [hnext.attempts]
      exact ⟨Nat.le_succ_of_le hle, workerId, howner, List.mem_cons_of_mem _ hread⟩
  apart := by
    intro j k before before' marked marked' hfirst hsecond hsame
    have hattempts := hnext.attempts
    rcases marked_cons.mp hfirst with ⟨rfl, heq, -⟩ | hbefore <;>
      rcases marked_cons.mp hsecond with ⟨rfl, heq', -⟩ | hother
    · rfl
    · cases heq
      have hle := (h.marks k before' marked' hother).1
      omega
    · cases heq'
      have hle := (h.marks j before marked hbefore).1
      omega
    · exact h.apart j k before before' marked marked' hbefore hother hsame
  counted := by
    have hmarker : marker (i, .stored s.ledger.current next) = some i := if_pos hnext.mark
    change (((i, CallNote.stored s.ledger.current next) :: s.record).filterMap marker).length ≤
      next.transportAttempts
    rw [List.filterMap_cons, hmarker, hnext.attempts]
    exact Nat.succ_le_succ h.counted
  written := by
    intro before marked hbefore hmarked hmark hversion
    rcases h.ledger.consecutive hnext.version hbefore hmarked hversion with ⟨rfl, rfl⟩ | hold
    · exact ⟨i, mem_stored.mpr (.inl rfl), hmark⟩
    · obtain ⟨j, hj⟩ := h.written before marked hold.1 hold.2 hmark hversion
      exact ⟨j, hj.cons⟩
  returned := by
    intro j before marked hmarked hdue
    rcases marked_cons.mp hmarked with ⟨rfl, heq, -⟩ | hold
    · cases heq
      rcases hdue with hless | hunsent
      · exact absurd hless (Nat.lt_irrefl _)
      · change next.state.isUnsent = true at hunsent
        rw [hnext.mark.2] at hunsent
        cases hunsent
    · exact (h.returned j before marked hold (.inr (by rw [hnext.mark.1]; rfl))).cons
  unreached := by
    intro j hreturned
    rcases returned_cons.mp hreturned with ⟨rfl, before, after, heq, hreturn⟩ | hold
    · cases heq
      exact absurd hreturn hnext.mark.not_isReturn
    · exact (h.unreached j hold).cons
  named := by
    intro j contact state hmem
    rcases mem_stored.mp hmem with heq | hmem
    · cases heq
    · exact h.named j contact state hmem
  proper := throughout_cons.mpr ⟨trivial, h.proper⟩

theorem DispatchInv.takeBack (h : DispatchInv terms s) (hnext : TakesBack i s next) :
    DispatchInv terms (s.stored i next []) where
  ledger := by
    refine h.ledger.write hnext.toSucceeds ?_ fun _ => hnext.spare
    exact Nat.le_of_lt hnext.spare
  held := by
    intro j record hmem
    rcases mem_stored.mp hmem with heq | hmem
    · cases heq
    · exact List.mem_cons_of_mem _ (h.held j record hmem)
  readings := by
    intro j k workerId time hfirst hsecond
    rcases mem_stored.mp hfirst with heq | hbefore
    · cases heq
    · rcases mem_stored.mp hsecond with heq | hother
      · cases heq
      · exact h.readings j k workerId time hbefore hother
  marks := by
    intro j before marked hmarked
    change marked.transportAttempts ≤ next.transportAttempts ∧ _
    rcases marked_cons.mp hmarked with ⟨rfl, heq, hmark⟩ | hold
    · cases heq
      exact absurd hmark hnext.back.not_isMark
    · obtain ⟨hle, workerId, howner, hread⟩ := h.marks j before marked hold
      rw [hnext.attempts]
      exact ⟨hle, workerId, howner, List.mem_cons_of_mem _ hread⟩
  apart := by
    intro j k before before' marked marked' hfirst hsecond hsame
    rcases marked_cons.mp hfirst with ⟨rfl, heq, hmark⟩ | hbefore
    · cases heq
      exact absurd hmark hnext.back.not_isMark
    · rcases marked_cons.mp hsecond with ⟨rfl, heq, hmark⟩ | hother
      · cases heq
        exact absurd hmark hnext.back.not_isMark
      · exact h.apart j k before before' marked marked' hbefore hother hsame
  counted := by
    have hmarker : marker (i, .stored s.ledger.current next) = none :=
      if_neg hnext.back.not_isMark
    change (((i, CallNote.stored s.ledger.current next) :: s.record).filterMap marker).length ≤
      next.transportAttempts
    rw [List.filterMap_cons, hmarker, hnext.attempts]
    exact h.counted
  written := by
    intro before marked hbefore hmarked hmark hversion
    rcases h.ledger.consecutive hnext.version hbefore hmarked hversion with ⟨rfl, rfl⟩ | hold
    · exact absurd hmark hnext.back.not_isMark
    · obtain ⟨j, hj⟩ := h.written before marked hold.1 hold.2 hmark hversion
      exact ⟨j, hj.cons⟩
  returned := by
    intro j before marked hmarked _
    rcases marked_cons.mp hmarked with ⟨rfl, heq, hmark⟩ | hold
    · cases heq
      exact absurd hmark hnext.back.not_isMark
    · -- the thread's own mark is the current one; every older mark was taken back before
      obtain ⟨mine, marked', hmine⟩ := hnext.own
      have hcurrent : ¬ marked'.transportAttempts < s.ledger.current.transportAttempts :=
        fun hless => hnext.notYet (h.returned i mine marked' hmine (.inl hless))
      by_cases hless : marked.transportAttempts < s.ledger.current.transportAttempts
      · exact (h.returned j before marked hold (.inl hless)).cons
      · have hle := (h.marks j before marked hold).1
        have hle' := (h.marks i mine marked' hmine).1
        have hsame : j = i := h.apart j i before mine marked marked' hold hmine (by omega)
        subst hsame
        exact ⟨_, _, mem_stored.mpr (.inl rfl), hnext.back⟩
  unreached := by
    intro j hreturned
    rcases returned_cons.mp hreturned with ⟨rfl, -, -, -, -⟩ | hold
    · exact hnext.unreached.cons
    · exact (h.unreached j hold).cons
  named := by
    intro j contact state hmem
    rcases mem_stored.mp hmem with heq | hmem
    · cases heq
    · exact h.named j contact state hmem
  proper := throughout_cons.mpr ⟨trivial, h.proper⟩

end Hybro.A2ARuntime
