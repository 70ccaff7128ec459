import Hybro.A2ARuntime.CallRecovery

/-! # Rules for the programs of a call

What the store programs and the helpers around them do under any contract that allows
plain operations: reading, asking, silent contacts, and writes that a predicate on the
replaced and the new record admits. A contract only has to show what one plain
operation does.
-/

namespace Hybro.A2ARuntime

open Orchestrator Interleaving

/-! ## What lasts -/

def Known (record : AgentCallLedgerRecord) (s : SharedCall) : Prop :=
  record ∈ s.ledger.history

/-- A write of thread `i` was answered while the record was the current one. -/
def Held (i : Nat) (record : AgentCallLedgerRecord) (s : SharedCall) : Prop :=
  (i, .held record) ∈ s.record

structure Grows (s s' : SharedCall) : Prop where
  history : ∀ record ∈ s.ledger.history, record ∈ s'.ledger.history
  record : ∀ entry ∈ s.record, entry ∈ s'.record

variable {repeats : Bool} {i : Nat} {s s' : SharedCall} {op : CallOp} {reply : op.Res}
  {record base next : AgentCallLedgerRecord}

theorem Grows.refl (s : SharedCall) : Grows s s := ⟨fun _ h => h, fun _ h => h⟩

theorem grows_noted (notes : List CallNote) : Grows s (s.noted i notes) :=
  ⟨fun _ h => h, fun _ h => List.mem_append_right _ h⟩

theorem grows_stored (more : List CallNote) : Grows s (s.stored i record more) :=
  ⟨fun _ h => List.mem_cons_of_mem _ h, fun _ h => List.mem_append_right _ h⟩

theorem CallOp.Outcome.grows (h : op.Outcome repeats i s reply s') : Grows s s' := by
  cases h <;> first
    | exact Grows.refl _
    | exact grows_noted _
    | exact grows_stored _

def LeaseStep (record next : AgentCallLedgerRecord) : Prop :=
  ∃ owner expiresAt nextAttemptAt updatedAt, next = { record with
    claimOwner := owner
    claimExpiresAt := expiresAt
    nextAttemptAt := nextAttemptAt
    stateVersion := record.stateVersion + 1
    updatedAt := updatedAt }

/-! ## Plain operations -/

/-- A write that is admitted, or one that cannot take place. -/
inductive PlainOp (Plain : AgentCallLedgerRecord → AgentCallLedgerRecord → Prop)
    (Silent : Contact → Prop) (s : SharedCall) : CallOp → Prop
  | load : PlainOp Plain Silent s .load
  | cas (base record : AgentCallLedgerRecord) (hbase : Known base s)
      (hplain : record.stateVersion = base.stateVersion + 1 → Plain base record) :
      PlainOp Plain Silent s (.cas record base.stateVersion)
  | now (workerId : String) : PlainOp Plain Silent s (.now workerId)
  | ask (port : Port) : PlainOp Plain Silent s (.ask port)
  | reach (contact : Contact) (hsilent : Silent contact) : PlainOp Plain Silent s (.reach contact)
  | awaitReply (contact : Contact) (hsilent : Silent contact) :
      PlainOp Plain Silent s (.awaitReply contact)

/-- A contract under which thread `i` may take plain operations. -/
structure PlainRules (C : Contract CallOp CallOp.Res SharedCall) (repeats : Bool) (i : Nat)
    (Plain : AgentCallLedgerRecord → AgentCallLedgerRecord → Prop) (Silent : Contact → Prop) :
    Prop where
  exec : ∀ o s r s', C.exec o s r s' → CallOp.Outcome repeats i s o r s'
  unique : ∀ s, C.inv s → ∀ first second, Known first s → Known second s →
    first.stateVersion = second.stateVersion → first = second
  rely : ∀ s s', C.inv s → C.rely s s' → Grows s s'
  guar : ∀ s s', C.inv s → C.guar s s' → Grows s s'
  plain : ∀ s o r s', C.inv s → PlainOp Plain Silent s o → CallOp.Outcome repeats i s o r s' →
    C.guar s s' ∧ C.inv s'
  lease : ∀ record next, LeaseStep record next → Plain record next

variable {C : Contract CallOp CallOp.Res SharedCall} {α β : Type} {P : SharedCall → Prop}
  {Q R : α → SharedCall → Prop}

namespace PlainRules

variable {Plain : AgentCallLedgerRecord → AgentCallLedgerRecord → Prop} {Silent : Contact → Prop}
  (h : PlainRules C repeats i Plain Silent)

include h

theorem kept_known (record : AgentCallLedgerRecord) : C.Kept (Known record) :=
  ⟨fun s s' hs hrely _ hknown => (h.rely s s' hs hrely).history _ hknown,
    fun s s' hs hguar hknown => (h.guar s s' hs hguar).history _ hknown⟩

theorem kept_entry (entry : Nat × CallNote) : C.Kept (fun s => entry ∈ s.record) :=
  ⟨fun s s' hs hrely _ hmem => (h.rely s s' hs hrely).record _ hmem,
    fun s s' hs hguar hmem => (h.guar s s' hs hguar).record _ hmem⟩

theorem kept_held (record : AgentCallLedgerRecord) : C.Kept (Held i record) :=
  h.kept_entry _

/-! ## Single operations -/

theorem load : Plainly C (fun _ => True) loadCall
    (fun found s => ∀ record, found = some record → Known record s) := by
  refine Contract.Raises.effect (Contract.Stable.const True) ?_
    (fun _ => Contract.Stable.const True) ?_
  · exact fun _ => .all fun record => .imp fun _ => (h.kept_known record).stable
  · intro s r s' hs _ hexec
    have hout := h.exec _ _ _ _ hexec
    obtain ⟨hguar, hinv⟩ := h.plain s _ r s' hs .load hout
    refine ⟨hguar, hinv, ?_⟩
    cases hout with
    | loaded =>
        rintro record ⟨⟩
        exact List.mem_cons_self ..
    | absent => rintro record ⟨⟩
    | unread error => trivial

theorem clock (workerId : String) : Plainly C (fun _ => True) (readClock workerId)
    (fun time s => (i, .read workerId time) ∈ s.record) := by
  refine Contract.Raises.effect (Contract.Stable.const True) (fun _ => (h.kept_entry _).stable)
    (fun _ => Contract.Stable.const True) ?_
  intro s r s' hs _ hexec
  have hout := h.exec _ _ _ _ hexec
  obtain ⟨hguar, hinv⟩ := h.plain s _ r s' hs (.now workerId) hout
  refine ⟨hguar, hinv, ?_⟩
  cases hout
  exact List.mem_cons_self ..

theorem asks (port : Port) : Plainly C (fun _ => True) (ask port) (fun _ _ => True) := by
  refine Contract.Raises.effect (Contract.Stable.const True) (fun _ => Contract.Stable.const True)
    (fun _ => Contract.Stable.const True) ?_
  intro s r s' hs _ hexec
  have hout := h.exec _ _ _ _ hexec
  obtain ⟨hguar, hinv⟩ := h.plain s _ r s' hs (.ask port) hout
  refine ⟨hguar, hinv, ?_⟩
  cases r <;> trivial

theorem cas {base record : AgentCallLedgerRecord}
    (hplain : record.stateVersion = base.stateVersion + 1 → Plain base record) :
    Plainly C (Known base) (casCall record base.stateVersion)
      (fun outcome s => settled outcome = true → Known record s ∧ Held i record s) := by
  refine Contract.Raises.effect (h.kept_known base).stable ?_
    (fun _ => Contract.Stable.const True) ?_
  · exact fun _ => .imp fun _ => (h.kept_known record).stable.and (h.kept_held record).stable
  · intro s r s' hs hbase hexec
    have hout := h.exec _ _ _ _ hexec
    obtain ⟨hguar, hinv⟩ := h.plain s _ r s' hs (.cas base record hbase hplain) hout
    refine ⟨hguar, hinv, ?_⟩
    cases hout with
    | refused _ _ outcome hrefused =>
        intro hsettled
        rw [hrefused] at hsettled
        cases hsettled
    | unwritten => trivial
    | replayed _ _ hcurrent =>
        intro _
        exact ⟨hcurrent ▸ List.mem_cons_self .., List.mem_cons_self ..⟩
    | written => exact fun _ => ⟨List.mem_cons_self .., List.mem_cons_self ..⟩
    | writtenUnseen => trivial

theorem reach {contact : Contact} (hsilent : Silent contact) :
    Plainly C (fun _ => True) (A2ARuntime.reach contact) (fun _ _ => True) := by
  refine Contract.Raises.effect (Contract.Stable.const True) (fun _ => Contract.Stable.const True)
    (fun _ => Contract.Stable.const True) ?_
  intro s r s' hs _ hexec
  have hout := h.exec _ _ _ _ hexec
  obtain ⟨hguar, hinv⟩ := h.plain s _ r s' hs (.reach contact hsilent) hout
  exact ⟨hguar, hinv, trivial⟩

theorem awaitReply {contact : Contact} (hsilent : Silent contact) :
    Plainly C (fun _ => True) (A2ARuntime.awaitReply contact) (fun _ _ => True) := by
  refine Contract.Raises.effect (Contract.Stable.const True) (fun _ => Contract.Stable.const True)
    (fun _ => Contract.Stable.const True) ?_
  intro s r s' hs _ hexec
  have hout := h.exec _ _ _ _ hexec
  obtain ⟨hguar, hinv⟩ := h.plain s _ r s' hs (.awaitReply contact hsilent) hout
  refine ⟨hguar, hinv, ?_⟩
  cases r <;> trivial

/-! ## The store programs -/

/-- What a lease program answers: the record it has put in the place of the one it was
given, under this owner. -/
structure Leased (i : Nat) (owner : Option String) (record next : AgentCallLedgerRecord)
    (s : SharedCall) : Prop where
  known : Known next s
  held : Held i next s
  step : LeaseStep record next
  owner : next.claimOwner = owner

theorem kept_leased (owner : Option String) (record next : AgentCallLedgerRecord) :
    C.Kept (Leased i owner record next) where
  stable := by
    intro s s' hs hrely hs' hleased
    exact ⟨(h.kept_known next).stable s s' hs hrely hs' hleased.known,
      (h.kept_held next).stable s s' hs hrely hs' hleased.held, hleased.step, hleased.owner⟩
  own := by
    intro s s' hs hguar hleased
    exact ⟨(h.kept_known next).own s s' hs hguar hleased.known,
      (h.kept_held next).own s s' hs hguar hleased.held, hleased.step, hleased.owner⟩

theorem stable_leased (owner : Option String) (record : AgentCallLedgerRecord)
    (found : Option AgentCallLedgerRecord) :
    C.Stable (fun s => ∀ next, found = some next → Leased i owner record next s) :=
  .all fun next => .imp fun _ => (h.kept_leased owner record next).stable

theorem leased {owner : Option String} {record loaded next : AgentCallLedgerRecord}
    (hversion : loaded.stateVersion = record.stateVersion) (hstep : LeaseStep loaded next)
    (howner : next.claimOwner = owner) :
    Plainly C (fun s => Known record s ∧ Known loaded s)
      (do return if settled (← casCall next loaded.stateVersion) then some next else none)
      (fun found s => ∀ renewed, found = some renewed → Leased i owner record renewed s) := by
  refine Plainly.given (fun s hs hknown => h.unique s hs _ _ hknown.2 hknown.1 hversion) ?_
  rintro rfl
  refine Plainly.bind ((h.cas fun _ => h.lease _ _ hstep).pre fun s _ hknown => hknown.2) ?_
  intro outcome
  refine Plainly.pure ?_ ?_
  · exact .imp fun _ => (h.kept_known next).stable.and (h.kept_held next).stable
  · intro s _ hstored renewed hfound
    cases hsettled : settled outcome with
    | true =>
        simp only [hsettled, if_true, Option.some.injEq] at hfound
        subst hfound
        exact ⟨(hstored hsettled).1, (hstored hsettled).2, hstep, howner⟩
    | false => simp [hsettled] at hfound

omit h in
theorem refuses {owner : Option String} {record : AgentCallLedgerRecord} (hP : C.Stable P) :
    Plainly C P (Pure.pure none : CallProg (Option AgentCallLedgerRecord))
      (fun found s => ∀ next, found = some next → Leased i owner record next s) :=
  Plainly.pure hP fun _ _ _ _ hfound => nomatch hfound

theorem loads_beside (record : AgentCallLedgerRecord) :
    Plainly C (Known record) loadCall
      (fun found s => Known record s ∧ ∀ loaded, found = some loaded → Known loaded s) :=
  h.load.beside (h.kept_known record)

theorem stable_found (record : AgentCallLedgerRecord) (found : Option AgentCallLedgerRecord) :
    C.Stable (fun s => Known record s ∧ ∀ loaded, found = some loaded → Known loaded s) :=
  (h.kept_known record).stable.and (.all fun loaded => .imp fun _ => (h.kept_known loaded).stable)

theorem claim (record : AgentCallLedgerRecord) (owner : String) (expiresAt claimedAt : Timestamp) :
    Plainly C (Known record) (claimCall record.stateVersion owner expiresAt claimedAt)
      (fun found s => ∀ next, found = some next → Leased i (some owner) record next s) := by
  unfold claimCall
  refine Plainly.bind (h.loads_beside record) ?_
  intro found
  cases found with
  | none => exact refuses (h.stable_found record none)
  | some loaded =>
      simp only
      split
      · exact refuses (h.stable_found record (some loaded))
      · next hguards =>
          have hversion : loaded.stateVersion = record.stateVersion := by
            by_contra hne
            exact hguards (.inl hne)
          refine (h.leased hversion ⟨_, _, _, _, rfl⟩ rfl).pre ?_
          exact fun s _ hknown => ⟨hknown.1, hknown.2 loaded rfl⟩

theorem renew (record : AgentCallLedgerRecord) (owner : String) (expiresAt renewedAt : Timestamp) :
    Plainly C (Known record) (renewCall record.stateVersion owner expiresAt renewedAt)
      (fun found s => ∀ next, found = some next → Leased i (some owner) record next s) := by
  unfold renewCall
  refine Plainly.bind (h.loads_beside record) ?_
  intro found
  cases found with
  | none => exact refuses (h.stable_found record none)
  | some loaded =>
      simp only
      split
      · exact refuses (h.stable_found record (some loaded))
      · next hguards =>
          have hversion : loaded.stateVersion = record.stateVersion := by
            by_contra hne
            exact hguards (.inl hne)
          have howner : loaded.claimOwner = some owner := by
            by_contra hne
            exact hguards (.inr (.inl hne))
          refine (h.leased hversion ⟨loaded.claimOwner, _, loaded.nextAttemptAt, _, rfl⟩
            howner).pre ?_
          exact fun s _ hknown => ⟨hknown.1, hknown.2 loaded rfl⟩

theorem release (record : AgentCallLedgerRecord) (owner : String)
    (nextAttemptAt : Option Timestamp) (releasedAt : Timestamp) :
    Plainly C (Known record) (releaseCall record.stateVersion owner nextAttemptAt releasedAt)
      (fun found s => ∀ next, found = some next → Leased i none record next s) := by
  unfold releaseCall
  refine Plainly.bind (h.loads_beside record) ?_
  intro found
  cases found with
  | none => exact refuses (h.stable_found record none)
  | some loaded =>
      simp only
      split
      · exact refuses (h.stable_found record (some loaded))
      · next hguards =>
          have hversion : loaded.stateVersion = record.stateVersion := by
            by_contra hne
            exact hguards (.inl hne)
          refine (h.leased hversion ⟨_, _, _, _, rfl⟩ rfl).pre ?_
          exact fun s _ hknown => ⟨hknown.1, hknown.2 loaded rfl⟩

/-! ## The helpers of a worker -/

theorem runBlocks (worker : CallWorker) :
    Plainly C (fun _ => True) (A2ARuntime.runBlocks worker) (fun _ _ => True) := by
  unfold A2ARuntime.runBlocks
  split
  · refine Plainly.bind (h.asks .loadRunStatus) ?_
    intro status
    cases status with
    | none => exact Plainly.pure (Contract.Stable.const True) fun _ _ h => h
    | some status => exact Plainly.pure (Contract.Stable.const True) fun _ _ h => h
  · exact Plainly.pure (Contract.Stable.const True) fun _ _ h => h

theorem renewAndVerify (worker : CallWorker) (record : AgentCallLedgerRecord) :
    Plainly C (Known record) (renewAndVerifyClaim worker record)
      (fun found s => ∀ next, found = some next → Leased i (some worker.workerId) record next s) := by
  unfold renewAndVerifyClaim
  refine Plainly.bind ((h.clock worker.workerId).drop.beside (h.kept_known record)) ?_
  intro renewedAt
  refine Plainly.bind ((h.renew record _ _ _).pre fun _ _ hknown => hknown.1) ?_
  intro found
  cases found with
  | none => exact refuses (h.stable_leased _ _ _)
  | some renewed =>
      have hkept := h.kept_leased (some worker.workerId) record renewed
      refine Plainly.bind (((h.asks .verifyActive).beside hkept).pre
        fun s _ hleased => hleased renewed rfl) ?_
      intro active
      refine Plainly.pure (hkept.stable.and (Contract.Stable.const True)) ?_
      intro s _ hleased next hfound
      cases active with
      | false => cases hfound
      | true =>
          cases hfound
          exact hleased.1

theorem reloads (worker : CallWorker) (record : AgentCallLedgerRecord) :
    Plainly C (Known record) (reloaded worker record) (fun latest s => Known latest s) := by
  unfold reloaded
  refine Plainly.bind (h.loads_beside record) ?_
  intro found
  refine Plainly.pure (h.stable_found record found) ?_
  intro s _ hknown
  cases hfound : found.filter (·.claimOwner = some worker.workerId) with
  | none => exact hknown.1
  | some latest => exact hknown.2 latest (Option.filter_eq_some_iff.mp hfound).1

end PlainRules

end Hybro.A2ARuntime
