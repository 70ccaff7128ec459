import Hybro.A2ARuntime.DispatchRules
import Hybro.A2ARuntime.ExecutionRules

/-! # One thread at a dispatched call

A thread is followed through its own key notes: the mark, the contact, its failure and
the return of the mark. Plain operations leave them alone, so that most of the programs
are shown once, against the contract that promises just that.
-/

namespace Hybro.A2ARuntime

open Orchestrator Interleaving RunRecord

/-! ## Key notes -/

def isKey : CallNote → Bool
  | .stored before after => IsMark before after ∨ IsReturn before after
  | .contacted (.dispatch _) _ => true
  | .raised (.dispatch _) => true
  | _ => false

def keys (i : Nat) (s : SharedCall) : List CallNote :=
  (own i s.record).filter isKey

/-- A step of thread `i`. -/
def Extends (i : Nat) (s s' : SharedCall) : Prop :=
  (∃ notes : List CallNote, s'.record = notes.map (i, ·) ++ s.record) ∧
    ∀ record, Known record s → Known record s'

variable {terms : CallTerms} {i j : Nat} {s s' : SharedCall} {note : CallNote}
  {record base next : AgentCallLedgerRecord} {repeats : Bool}

theorem mem_keys : note ∈ keys i s ↔ (i, note) ∈ s.record ∧ isKey note = true := by
  unfold keys
  rw [List.mem_filter, mem_own]

theorem keys_noted (notes : List CallNote) :
    keys i (s.noted i notes) = notes.filter isKey ++ keys i s := by
  unfold keys SharedCall.noted
  rw [own_map_append, List.filter_append]

theorem keys_stored :
    keys i (s.stored i next []) = [CallNote.stored s.ledger.current next].filter isKey ++ keys i s := by
  unfold keys SharedCall.stored
  rw [own_map_append, List.filter_append, List.nil_append]

theorem Extends.keys_eq (h : Extends j s s') (hother : j ≠ i) : keys i s' = keys i s := by
  obtain ⟨⟨notes, hrecord⟩, -⟩ := h
  unfold keys
  rw [hrecord, own_map_append_of_ne hother]

theorem Extends.refl (i : Nat) (s : SharedCall) : Extends i s s :=
  ⟨⟨[], rfl⟩, fun _ h => h⟩

theorem extends_noted (notes : List CallNote) : Extends i s (s.noted i notes) :=
  ⟨⟨notes, rfl⟩, fun _ h => h⟩

theorem extends_stored (more : List CallNote) : Extends i s (s.stored i record more) :=
  ⟨⟨_, rfl⟩, fun _ h => List.mem_cons_of_mem _ h⟩

theorem Extends.grows (h : Extends i s s') : Grows s s' := by
  obtain ⟨⟨notes, hrecord⟩, hhistory⟩ := h
  refine ⟨hhistory, ?_⟩
  intro entry hmem
  rw [hrecord]
  exact List.mem_append_right _ hmem

theorem WrittenElsewhere.grows (h : WrittenElsewhere s s') : Grows s s' := by
  obtain ⟨next, -, rfl⟩ := h
  exact ⟨fun _ hmem => List.mem_cons_of_mem _ hmem, fun _ hmem => hmem⟩

theorem WrittenElsewhere.keys_eq (h : WrittenElsewhere s s') : keys i s' = keys i s := by
  obtain ⟨next, -, rfl⟩ := h
  rfl

/-! ## The contract of a thread -/

section Contracts

variable (terms) (i) (c : DispatchCall)

abbrev dispatchContract : Contract CallOp CallOp.Res SharedCall :=
  (dispatchSystem terms false).contract (DispatchInv terms) (fun j _ => Extends j) i c

abbrev quietContract : Contract CallOp CallOp.Res SharedCall :=
  (dispatchContract terms i c).narrow fun s s' => keys i s' = keys i s

def Inspects (contact : Contact) : Prop :=
  contact.NamesCall terms ∧ ∃ command, contact = .inspect command

end Contracts

variable {c : DispatchCall}

theorem dispatch_rely (h : (dispatchContract terms i c).rely s s') :
    Grows s s' ∧ keys i s' = keys i s := by
  rcases h with helsewhere | ⟨j, d, hother, hextends⟩
  · exact ⟨helsewhere.grows, helsewhere.keys_eq⟩
  · exact ⟨hextends.grows, hextends.keys_eq hother⟩

theorem quiet_note (h : DispatchInv terms s) (hok : NoteOk terms i s note)
    (hkey : isKey note = false) :
    (quietContract terms i c).guar s (s.noted i [note]) ∧
      (quietContract terms i c).inv (s.noted i [note]) := by
  have hkeys : keys i (s.noted i [note]) = keys i s := by
    rw [keys_noted, List.filter_cons_of_neg (by rw [hkey]; exact Bool.false_ne_true)]
    rfl
  exact ⟨⟨extends_noted _, hkeys⟩, h.addNote hok⟩

theorem Ordinary.not_isKey (h : Ordinary record next) : isKey (.stored record next) = false :=
  decide_eq_false fun hkey => hkey.elim h.not_isMark h.not_isReturn

theorem quiet_store (h : DispatchInv terms s) (hnext : Ordinary s.ledger.current next)
    {more : List CallNote} (hmore : more = [] ∨ more = [.held next]) :
    (quietContract terms i c).guar s (s.stored i next more) ∧
      (quietContract terms i c).inv (s.stored i next more) := by
  have hkeys : keys i (s.stored i next []) = keys i s := by
    rw [keys_stored, List.filter_cons_of_neg (by rw [hnext.not_isKey]; exact Bool.false_ne_true)]
    rfl
  rcases hmore with rfl | rfl
  · exact ⟨⟨extends_stored _, hkeys⟩, h.store hnext⟩
  · have hheld : NoteOk terms i (s.stored i next []) (.held next) := List.mem_cons_self ..
    obtain ⟨⟨-, hsame⟩, hinv⟩ := quiet_note (c := c) (h.store hnext) hheld rfl
    exact ⟨⟨extends_stored _, hsame.trans hkeys⟩, hinv⟩

theorem dispatch_plain :
    PlainRules (quietContract terms i c) false i Ordinary (Inspects terms) where
  exec := fun _ _ _ _ hexec => hexec
  unique := fun s h first second hfirst hsecond => h.ledger.unique first hfirst second hsecond
  rely := fun s s' _ hrely => (dispatch_rely (c := c) hrely).1
  guar := fun s s' _ hguar => hguar.1.grows
  lease := fun _ _ => LeaseStep.ordinary
  plain := by
    intro s o r s' (h : DispatchInv terms s) hplain hout
    have hsame : (quietContract terms i c).guar s s ∧ (quietContract terms i c).inv s :=
      ⟨⟨Extends.refl i s, rfl⟩, h⟩
    cases hout with
    | loaded | absent | unread | refused | unwritten | ask => exact hsame
    | replayed record expected hcurrent =>
        exact quiet_note h (hcurrent ▸ List.mem_cons_self ..) rfl
    | written record expected outcome hcurrent hrecord hsettled =>
        cases hplain with
        | cas base record hbase hplain =>
            have hbase' : s.ledger.current = base :=
              h.ledger.unique _ (List.mem_cons_self ..) base hbase hcurrent
            subst hbase'
            exact quiet_store h (hplain hrecord) (.inr rfl)
    | writtenUnseen record expected error hcurrent hrecord =>
        cases hplain with
        | cas base record hbase hplain =>
            have hbase' : s.ledger.current = base :=
              h.ledger.unique _ (List.mem_cons_self ..) base hbase hcurrent
            subst hbase'
            exact quiet_store h (hplain hrecord) (.inl rfl)
    | now workerId time hfresh =>
        exact quiet_note h (hfresh.resolve_left Bool.false_ne_true) rfl
    | reach contact flight =>
        cases hplain with
        | reach contact hsilent =>
            obtain ⟨hnames, command, rfl⟩ := hsilent
            exact quiet_note h ⟨hnames, fun _ heq => nomatch heq⟩ rfl
    | replied contact reply hreply => exact hsame
    | raised contact =>
        cases hplain with
        | awaitReply contact hsilent =>
            obtain ⟨hnames, command, rfl⟩ := hsilent
            exact quiet_note h (fun _ heq => nomatch heq) rfl

/-! ## Keeping the key notes -/

theorem kept_keys (F : List CallNote → Prop) :
    (quietContract terms i c).Kept (fun s => F (keys i s)) where
  stable := by
    intro s s' _ hrely _ hF
    rw [(dispatch_rely (c := c) hrely).2]
    exact hF
  own := by
    intro s s' _ hguar hF
    rw [hguar.2]
    exact hF

theorem dispatch_kept_known (record : AgentCallLedgerRecord) :
    (dispatchContract terms i c).Kept (Known record) :=
  ⟨fun _ _ _ hrely _ hknown => (dispatch_rely (c := c) hrely).1.history record hknown,
    fun _ _ _ hguar hknown => hguar.2 record hknown⟩

theorem dispatch_kept_entry (entry : Nat × CallNote) :
    (dispatchContract terms i c).Kept (fun s => entry ∈ s.record) :=
  ⟨fun _ _ _ hrely _ hmem => (dispatch_rely (c := c) hrely).1.record _ hmem,
    fun _ _ _ hguar hmem => hguar.grows.record _ hmem⟩

theorem dispatch_stable_keys (F : List CallNote → Prop) :
    (dispatchContract terms i c).Stable (fun s => F (keys i s)) := by
  intro s s' _ hrely _ hF
  rw [(dispatch_rely (c := c) hrely).2]
  exact hF

section Beside

variable {α : Type} {P : SharedCall → Prop} {Q : α → SharedCall → Prop} {p : CallProg α}

theorem quietly (hp : Plainly (quietContract terms i c) P p Q) (F : List CallNote → Prop) :
    Plainly (dispatchContract terms i c) (fun s => F (keys i s) ∧ P s) p
      (fun a s => F (keys i s) ∧ Q a s) :=
  (Contract.Raises.widen hp (kept_keys F)).conseq (fun _ _ h => h) (fun _ _ _ h => h)
    (fun _ _ _ _ => trivial)

theorem loosely (hp : Plainly (quietContract terms i c) P p Q) :
    Plainly (dispatchContract terms i c) P p Q :=
  (quietly hp fun _ => True).weaken (fun _ _ h => ⟨trivial, h⟩) (fun _ _ _ h => h.2)

end Beside

/-! ## The mark -/

theorem not_marked_of_keys (h : keys i s = []) {before marked : AgentCallLedgerRecord} :
    ¬ Marked i s.record before marked := by
  rintro ⟨hmem, hmark⟩
  have hkey : CallNote.stored before marked ∈ keys i s :=
    mem_keys.mpr ⟨hmem, decide_eq_true (.inl hmark)⟩
  rw [h] at hkey
  cases hkey

/-- A replay of the mark is answered only to the thread that wrote it. -/
theorem not_replayed (h : DispatchInv terms s) (hkeys : keys i s = []) (hbase : Known base s)
    (hcurrent : s.ledger.current = record) (hmark : IsMark base record)
    (hversion : record.stateVersion = base.stateVersion + 1) {workerId : String}
    (howner : record.claimOwner = some workerId)
    (hread : (i, .read workerId record.updatedAt) ∈ s.record) : False := by
  obtain ⟨j, hj⟩ := h.written base record hbase (hcurrent ▸ List.mem_cons_self ..) hmark hversion
  obtain ⟨-, other, hother, hread'⟩ := h.marks j base record hj
  rw [howner, Option.some.injEq] at hother
  subst hother
  have hsame : j = i := h.readings j i workerId record.updatedAt hread' hread
  subst hsame
  exact not_marked_of_keys hkeys hj

theorem keys_mark (hmark : IsMark s.ledger.current record) (hkeys : keys i s = []) :
    keys i (s.stored i record []) = [.stored s.ledger.current record] := by
  rw [keys_stored, hkeys, List.append_nil]
  exact List.filter_cons_of_pos (decide_eq_true (.inl hmark))

theorem mark_cas {workerId : String} (hmark : IsMark base record) (hsucceeds : Succeeds base record)
    (hattempts : record.transportAttempts = base.transportAttempts + 1)
    (howner : record.claimOwner = some workerId) :
    Plainly (dispatchContract terms i c)
      (fun s => keys i s = [] ∧ Known base s ∧ (i, .read workerId record.updatedAt) ∈ s.record)
      (casCall record base.stateVersion)
      (fun outcome s => settled outcome = true →
        keys i s = [.stored base record] ∧ Known record s) := by
  have hkeep (F : List CallNote → Prop) :
      (dispatchContract terms i c).Stable (fun s => F (keys i s)) := dispatch_stable_keys F
  have hknown (record : AgentCallLedgerRecord) :
      (dispatchContract terms i c).Stable (Known record) := (dispatch_kept_known record).stable
  have hread : (dispatchContract terms i c).Stable
      (fun s => (i, .read workerId record.updatedAt) ∈ s.record) := (dispatch_kept_entry _).stable
  refine Contract.Raises.effect ?_ ?_ (fun _ => Contract.Stable.const True) ?_
  · exact (hkeep (· = [])).and ((hknown base).and hread)
  · exact fun _ => .imp fun _ => (hkeep (· = [.stored base record])).and (hknown record)
  · rintro s r s' (h : DispatchInv terms s) ⟨hkeys, hbase, hread⟩ hout
    have hmarks (hcurrent : s.ledger.current = base) : Marks i s record := by
      subst hcurrent
      exact ⟨hsucceeds, hmark, hattempts, workerId, howner, hread⟩
    cases hout with
    | refused _ _ outcome hrefused =>
        refine ⟨Extends.refl i s, h, ?_⟩
        intro hsettled
        rw [hrefused] at hsettled
        cases hsettled
    | unwritten => exact ⟨Extends.refl i s, h, trivial⟩
    | replayed _ _ hcurrent =>
        exact (not_replayed h hkeys hbase hcurrent hmark hsucceeds.version howner hread).elim
    | written _ _ outcome hcurrent hrecord hsettled =>
        have hsame : s.ledger.current = base :=
          h.ledger.unique _ (List.mem_cons_self ..) base hbase hcurrent
        have hstored := h.mark (hmarks hsame)
        have hheld : NoteOk terms i (s.stored i record []) (.held record) :=
          List.mem_cons_self ..
        refine ⟨extends_stored _, hstored.addNote hheld, ?_⟩
        intro _
        refine ⟨?_, List.mem_cons_self ..⟩
        subst hsame
        have hkeys' := keys_mark hmark hkeys
        exact (keys_noted (s := s.stored i record []) [.held record]).trans hkeys'
    | writtenUnseen _ _ error hcurrent hrecord =>
        have hsame : s.ledger.current = base :=
          h.ledger.unique _ (List.mem_cons_self ..) base hbase hcurrent
        exact ⟨extends_stored _, h.mark (hmarks hsame), trivial⟩

/-! ## The contact -/

variable {command : A2ADispatchCommand} {before marked held : AgentCallLedgerRecord}

/-- A marked thread that has not taken its mark back may contact the Agent: everyone who
has sent the dispatch before has not reached it. -/
theorem unreached_of_marked (h : DispatchInv terms s) (hkeys : keys i s = [.stored before marked])
    (hmark : IsMark before marked) (hsent : Sent j s.record) : j ≠ i ∧ Unreached j s.record := by
  have hmine : Marked i s.record before marked :=
    ⟨(mem_keys.mp (hkeys ▸ List.mem_cons_self ..)).1, hmark⟩
  have hnotReturned : ¬ Returned i s.record := by
    rintro ⟨first, second, hmem, hreturn⟩
    have hkey : CallNote.stored first second ∈ keys i s :=
      mem_keys.mpr ⟨hmem, decide_eq_true (.inr hreturn)⟩
    rw [hkeys, List.mem_singleton] at hkey
    cases hkey
    exact hmark.not_isReturn hreturn
  obtain ⟨other, state, hmem⟩ := hsent
  have hother : j ≠ i := by
    rintro rfl
    have hkey : CallNote.contacted (.dispatch other) state ∈ keys j s :=
      mem_keys.mpr ⟨hmem, rfl⟩
    rw [hkeys, List.mem_singleton] at hkey
    cases hkey
  refine ⟨hother, ?_⟩
  obtain ⟨newer, older, hrecord⟩ := List.append_of_mem hmem
  obtain ⟨⟨first, second, -, hfirst, -⟩, -⟩ := h.proper newer _ older hrecord
  have hyours : Marked j s.record first second :=
    ⟨hrecord ▸ List.mem_append_right _ (List.mem_cons_of_mem _ hfirst.1), hfirst.2⟩
  have hless := (h.marks i before marked hmine).1
  have hless' := (h.marks j first second hyours).1
  have hcurrent : ¬ marked.transportAttempts < s.ledger.current.transportAttempts :=
    fun hold => hnotReturned (h.returned i before marked hmine (.inl hold))
  by_cases hold : second.transportAttempts < s.ledger.current.transportAttempts
  · exact h.unreached j (h.returned j first second hyours (.inl hold))
  · exact absurd (h.apart j i first before second marked hyours hmine (by omega)) hother

def Awaiting (command : A2ADispatchCommand) (before marked : AgentCallLedgerRecord)
    (l : List CallNote) : Prop :=
  ∃ state, l = [.contacted (.dispatch command) state, .stored before marked]

theorem reach_dispatch (hmark : IsMark before marked) (hdispatching : held.state = .dispatching)
    (hless : marked.stateVersion < held.stateVersion)
    (hnames : (Contact.dispatch command).NamesCall terms) :
    (dispatchContract terms i c).Raises
      (fun s => keys i s = [.stored before marked] ∧ Held i held s)
      (reach (.dispatch command))
      (fun _ s => Awaiting command before marked (keys i s)) (fun _ _ => False) := by
  have hheld : (dispatchContract terms i c).Stable (Held i held) := (dispatch_kept_entry _).stable
  have hkeep (F : List CallNote → Prop) :
      (dispatchContract terms i c).Stable (fun s => F (keys i s)) := dispatch_stable_keys F
  refine Contract.Raises.effect ?_ ?_ (fun _ => Contract.Stable.const False) ?_
  · exact (hkeep (· = [.stored before marked])).and hheld
  · exact fun _ => hkeep (Awaiting command before marked)
  · rintro s r s' (h : DispatchInv terms s) ⟨hkeys, hheld⟩ hout
    cases hout with
    | reach contact flight =>
        have hfenced : Fenced i s.record :=
          ⟨before, marked, held, ⟨(mem_keys.mp (hkeys ▸ List.mem_cons_self ..)).1, hmark⟩, hheld,
            hdispatching, hless⟩
        have hok : NoteOk terms i s (.contacted (.dispatch command) s.ledger.current.state) := by
          refine ⟨hnames, ?_⟩
          rintro - -
          exact ⟨hfenced, fun j hsent => unreached_of_marked h hkeys hmark hsent⟩
        refine ⟨extends_noted _, h.addNote hok, s.ledger.current.state, ?_⟩
        rw [keys_noted, hkeys]
        rfl

def FailedNotes (l : List CallNote) : Prop :=
  ∃ command state before marked, l = [.raised (.dispatch command),
    .contacted (.dispatch command) state, .stored before marked] ∧ IsMark before marked

abbrev Failed (i : Nat) (s : SharedCall) : Prop := FailedNotes (keys i s)

theorem stable_failed : (dispatchContract terms i c).Stable (Failed i) :=
  dispatch_stable_keys FailedNotes

theorem awaitReply_dispatch (hmark : IsMark before marked) :
    (dispatchContract terms i c).Raises
      (fun s => Awaiting command before marked (keys i s))
      (awaitReply (.dispatch command)) (fun _ _ => True)
      (fun error s => error = .transport → Failed i s) := by
  have hkeep (F : List CallNote → Prop) :
      (dispatchContract terms i c).Stable (fun s => F (keys i s)) := dispatch_stable_keys F
  refine Contract.Raises.effect ?_ (fun _ => Contract.Stable.const True) ?_ ?_
  · exact hkeep (Awaiting command before marked)
  · exact fun error => .imp fun _ => stable_failed
  · rintro s r s' (h : DispatchInv terms s) ⟨state, hkeys⟩ hout
    cases hout with
    | replied contact reply hreply =>
        refine ⟨Extends.refl i s, h, ?_⟩
        cases r with
        | ok receipt => trivial
        | error error =>
            intro htransport
            exact absurd (congrArg Except.error htransport) hreply
    | raised contact =>
        have hsent : Sent i s.record :=
          ⟨command, state, (mem_keys.mp (hkeys ▸ List.mem_cons_self ..)).1⟩
        refine ⟨extends_noted _, h.addNote (fun _ _ => hsent), ?_⟩
        rintro -
        refine ⟨command, state, before, marked, ?_, hmark⟩
        rw [keys_noted, hkeys]
        rfl

/-! ## Taking the mark back -/

theorem Failed.takesBack (h : Failed i s) (hback : IsReturn s.ledger.current record)
    (hsucceeds : Succeeds s.ledger.current record)
    (hattempts : record.transportAttempts = s.ledger.current.transportAttempts)
    (hspare : record.transportAttempts < record.runtimePolicy.maxTransportAttempts) :
    TakesBack i s record := by
  obtain ⟨command, state, before, marked, hkeys, hmark⟩ := h
  have hmem {note : CallNote} (hnote : note ∈ [CallNote.raised (.dispatch command),
      .contacted (.dispatch command) state, .stored before marked]) : (i, note) ∈ s.record :=
    (mem_keys.mp (hkeys ▸ hnote)).1
  refine ⟨hsucceeds, hback, hattempts, hspare, ?_, ?_, ?_⟩
  · exact ⟨before, marked, hmem (by simp), hmark⟩
  · rintro ⟨first, second, hstored, hreturn⟩
    have hkey : CallNote.stored first second ∈ keys i s :=
      mem_keys.mpr ⟨hstored, decide_eq_true (.inr hreturn)⟩
    rw [hkeys] at hkey
    have heq : first = before ∧ second = marked := by simpa using hkey
    rw [heq.1, heq.2] at hreturn
    exact hmark.not_isReturn hreturn
  · exact ⟨command, hmem (by simp)⟩

theorem takeBack_cas (hback : IsReturn base record) (hsucceeds : Succeeds base record)
    (hattempts : record.transportAttempts = base.transportAttempts)
    (hspare : record.transportAttempts < record.runtimePolicy.maxTransportAttempts) :
    Plainly (dispatchContract terms i c) (fun s => Failed i s ∧ Known base s)
      (casCall record base.stateVersion) (fun _ _ => True) := by
  have hknown : (dispatchContract terms i c).Stable (Known base) := (dispatch_kept_known base).stable
  refine Contract.Raises.effect ?_ (fun _ => Contract.Stable.const True)
    (fun _ => Contract.Stable.const True) ?_
  · exact stable_failed.and hknown
  · rintro s r s' (h : DispatchInv terms s) ⟨hfailed, hbase⟩ hout
    have htakes (hcurrent : s.ledger.current = base) : TakesBack i s record := by
      subst hcurrent
      exact hfailed.takesBack hback hsucceeds hattempts hspare
    cases hout with
    | refused => exact ⟨Extends.refl i s, h, trivial⟩
    | unwritten => exact ⟨Extends.refl i s, h, trivial⟩
    | replayed _ _ hcurrent =>
        have hheld : NoteOk terms i s (.held record) := hcurrent ▸ List.mem_cons_self ..
        exact ⟨extends_noted _, h.addNote hheld, trivial⟩
    | written _ _ outcome hcurrent hrecord hsettled =>
        have hsame : s.ledger.current = base :=
          h.ledger.unique _ (List.mem_cons_self ..) base hbase hcurrent
        have hheld : NoteOk terms i (s.stored i record []) (.held record) :=
          List.mem_cons_self ..
        exact ⟨extends_stored _, (h.takeBack (htakes hsame)).addNote hheld, trivial⟩
    | writtenUnseen _ _ error hcurrent hrecord =>
        have hsame : s.ledger.current = base :=
          h.ledger.unique _ (List.mem_cons_self ..) base hbase hcurrent
        exact ⟨extends_stored _, h.takeBack (htakes hsame), trivial⟩

end Hybro.A2ARuntime
