import Hybro.A2ARuntime.OutcomeRules

/-! # What a model reply reports

The programs of the interaction branch and of `dispatch_model_reply` keep the record of the
call, and what they return is the result of a record that has been stored.
-/

namespace Hybro.A2ARuntime

open Orchestrator Interleaving

variable {terms : CallTerms} {interactions : InteractionTerms} {names : CallNames}
  {guarded : Bool} {i : Nat} {c : RuntimeCall} {s s' : SharedCall} {P A : SharedCall → Prop}
  {invocation : ToolInvocation} {record : AgentCallLedgerRecord} {α : Type}

/-! ## The contract -/

/-- What thread `i` is proved against. -/
abbrev runtimeContract (terms : CallTerms) (interactions : InteractionTerms) (names : CallNames)
    (guarded : Bool) (i : Nat) (c : RuntimeCall) :
    Contract (CallOp ⊕ ReplyPort) (Sum.elim CallOp.Res ReplyPort.Res) SharedCall :=
  (runtimeSystem terms interactions names guarded).contract (fun s => CallInv names s.ledger)
    (fun _ _ => Grows) i c

theorem MovedElsewhere.grows (h : MovedElsewhere s s') : Grows s s' := by
  rcases h with ⟨next, -, rfl⟩ | ⟨observationId, rfl⟩
  · exact ⟨fun record hmem => List.mem_cons_of_mem _ hmem, fun _ hmem => hmem⟩
  · exact ⟨fun _ hmem => hmem, fun _ hmem => hmem⟩

theorem grows_of_others
    (h : (runtimeSystem terms interactions names guarded).others (fun _ _ => Grows) i s s') :
    Grows s s' := by
  rcases h with hmoved | ⟨j, d, -, hgrows⟩
  · exact MovedElsewhere.grows hmoved
  · exact hgrows

theorem runtime_plain {exec : (o : CallOp) → SharedCall → o.Res → SharedCall → Prop}
    (hexec : ∀ o s r s', exec o s r s' → CallOp.Outcome true i s o r s') :
    PlainRules ((runtimeContract terms interactions names guarded i c).coarse exec) true i Moving
      (fun _ => True) where
  exec := hexec
  unique := fun _ hinv first second hfirst hsecond hversion =>
    CallInv.unique hinv first hfirst second hsecond hversion
  rely := fun _ _ _ hrely => grows_of_others hrely
  guar := fun _ _ _ hguar => hguar
  plain := by
    intro s o r s' hinv hop hout
    refine ⟨hout.grows, ?_⟩
    cases hout with
    | written record expected outcome hcurrent hrecord hsettled =>
        cases hop with
        | cas base _ hbase hplain => exact CallInv.stored hinv hbase hcurrent (hplain hrecord)
    | writtenUnseen record expected error hcurrent hrecord =>
        cases hop with
        | cas base _ hbase hplain => exact CallInv.stored hinv hbase hcurrent (hplain hrecord)
    | _ => exact hinv
  lease := fun _ _ => LeaseStep.moving

theorem call_plain : PlainRules ((runtimeContract terms interactions names guarded i c).coarse
    fun o => (runtimeContract terms interactions names guarded i c).exec (.inl o)) true i Moving
      (fun _ => True) := by
  refine runtime_plain ?_
  rintro o s r s' ⟨hout⟩
  exact hout

theorem lifts {p : CallProg α} {Q : α → SharedCall → Prop}
    (hp : Plainly ((runtimeContract terms interactions names guarded i c).coarse
      fun o => (runtimeContract terms interactions names guarded i c).exec (.inl o)) P p Q)
    (hQ : ∀ a, (runtimeContract terms interactions names guarded i c).Stable (Q a)) :
    Plainly (runtimeContract terms interactions names guarded i c) P (lifted p) Q := by
  refine Contract.Triple.bind _ (Contract.Triple.lift hp) fun result => ?_
  refine Contract.Triple.done ?_ ?_
  · cases result with
    | ok a => exact hQ a
    | error error => exact Contract.Stable.const True
  · intro s _ hends
    cases result with
    | ok a => exact hends
    | error error => trivial

theorem runtime_kept_known (record : AgentCallLedgerRecord) :
    (runtimeContract terms interactions names guarded i c).Kept (Known record) where
  stable := fun _ _ _ hrely _ hknown => (grows_of_others hrely).history _ hknown
  own := fun _ _ _ hguar hknown => Grows.history hguar _ hknown

theorem runtime_stable_returns (invocation : ToolInvocation) (outcome : ToolExecutionOutcome) :
    (runtimeContract terms interactions names guarded i c).Stable (Returns invocation outcome) := by
  have hplain : PlainRules ((runtimeContract terms interactions names guarded i c).coarse
      fun o => (runtimeContract terms interactions names guarded i c).exec (.inl o)) true i Moving
        (fun _ => True) := call_plain
  exact hplain.stable_returns invocation outcome

def EndedWith (result : ToolResult) (s : SharedCall) : Prop :=
  ∃ ended, Known ended s ∧ ended.terminalResult = some result

theorem runtime_stable_endedWith (result : ToolResult) :
    (runtimeContract terms interactions names guarded i c).Stable (EndedWith result) := by
  rintro s s' - hrely - ⟨ended, hknown, hresult⟩
  exact ⟨ended, (grows_of_others hrely).history _ hknown, hresult⟩

theorem replySuspends {suspended : ToolSuspension}
    (hP : (runtimeContract terms interactions names guarded i c).Stable P) :
    Plainly (runtimeContract terms interactions names guarded i c) P
      (pure (.suspension suspended) : ReplyProg ToolExecutionOutcome) (Returns invocation) :=
  Plainly.pure hP fun _ _ _ _ heq => nomatch heq

/-! ## Ports -/

def ReplyPort.isWrite : ReplyPort → Bool
  | .casUnread .. => true
  | _ => false

theorem ReplyPort.Outcome.same_ledger {port : ReplyPort} {answer : port.Res}
    (h : port.Outcome guarded i c s answer s') (hreads : port.isWrite = false) :
    s'.ledger = s.ledger ∧ s'.record = s.record := by
  cases h with
  | written => cases hreads
  | _ => exact ⟨rfl, rfl⟩

theorem grows_of_same (hledger : s'.ledger = s.ledger) (hrecord : s'.record = s.record) :
    Grows s s' :=
  ⟨fun _ hmem => hledger ▸ hmem, fun _ hmem => hrecord ▸ hmem⟩

theorem consults {port : ReplyPort} (hreads : port.isWrite = false)
    (hA : (runtimeContract terms interactions names guarded i c).Kept A) :
    Plainly (runtimeContract terms interactions names guarded i c) A (consult port)
      (fun _ => A) := by
  refine Contract.Raises.effect hA.stable (fun _ => hA.stable)
    (fun _ => Contract.Stable.const True) ?_
  rintro s r s' hs hkept ⟨⟩
  next hport =>
    obtain ⟨hledger, hrecord⟩ := hport.same_ledger hreads
    have hgrows : Grows s s' := grows_of_same hledger hrecord
    have hinv : CallInv names s'.ledger := hledger ▸ hs
    refine ⟨hgrows, hinv, ?_⟩
    cases r with
    | ok answer => exact hA.own s s' hs hgrows hkept
    | error error => trivial

theorem consultsInvocation (invocationId : String) :
    Plainly (runtimeContract terms interactions names guarded i c) (fun _ => True)
      (consult (.loadInvocation invocationId))
      (fun found s => ∀ record, found = some record →
        Known record s ∧ invocationId = names.invocationId) := by
  refine Contract.Raises.effect (Contract.Stable.const True)
    (fun _ => .all fun record => .imp fun _ =>
      (runtime_kept_known record).stable.and (Contract.Stable.const _))
    (fun _ => Contract.Stable.const True) ?_
  rintro s r s' hs - ⟨⟩
  next hport =>
    cases hport with
    | loaded _ hsame =>
        refine ⟨Grows.refl _, hs, ?_⟩
        rintro record ⟨⟩
        have hcurrent : Known s.ledger.current s := List.mem_cons_self ..
        exact ⟨hcurrent, hsame.symm.trans (CallInv.named hs _ hcurrent).1⟩
    | absent =>
        refine ⟨Grows.refl _, hs, ?_⟩
        intro record heq
        cases heq
    | raised =>
        refine ⟨Grows.refl _, hs, ?_⟩
        trivial

theorem consultsUnread {next : AgentCallLedgerRecord} (hguarded : guarded = true)
    (hmove : next.stateVersion = record.stateVersion + 1 → Moving record next)
    (hended : record.state.isTerminal = true → next = record) :
    Plainly (runtimeContract terms interactions names guarded i c) (Known record)
      (consult (.casUnread next record.stateVersion))
      (fun _ s => ∀ result, next.terminalResult = some result → EndedWith result s) := by
  refine Contract.Raises.effect (runtime_kept_known record).stable ?_
    (fun _ => Contract.Stable.const True) ?_
  · exact fun _ => .all fun result => .imp fun _ => runtime_stable_endedWith result
  · rintro s r s' hs hknown ⟨⟩
    next hport =>
      cases hport with
      | written _ _ _ hcurrent hrecord =>
          refine ⟨grows_stored [], CallInv.stored hs hknown hcurrent (hmove hrecord), ?_⟩
          cases r with
          | error error => trivial
          | ok done => exact fun result hresult => ⟨next, List.mem_cons_self .., hresult⟩
      | lost _ _ hversions hread =>
          refine ⟨Grows.refl _, hs, ?_⟩
          intro result hresult
          obtain ⟨read, hmem, hversion, hterminal⟩ := hread hguarded (by rw [hresult]; rfl)
          obtain rfl := CallInv.unique hs read hmem record hknown hversion
          exact ⟨read, hknown, hended hterminal ▸ hresult⟩
      | raised =>
          refine ⟨Grows.refl _, hs, ?_⟩
          trivial

/-- A reply of a guarded run is told that the inbox does not know the observation. -/
theorem consultsMark (hguarded : guarded = true) (hreply : c.isModelReply = true)
    (observationId digest : String) :
    Plainly (runtimeContract terms interactions names guarded i c) (fun _ => True)
      (consult (.markExecutorOutcome observationId digest)) (fun _ _ => False) := by
  refine Contract.Raises.effect (Contract.Stable.const True) (fun _ => Contract.Stable.const _)
    (fun _ => Contract.Stable.const True) ?_
  rintro s r s' hs - ⟨⟩
  next hport =>
    cases hport with
    | marked _ _ _ hexecutes =>
        exact absurd (hreply.symm.trans (hexecutes hguarded)) (by decide)
    | raised =>
        refine ⟨Grows.refl _, hs, ?_⟩
        trivial

/-! ## Lifted programs -/

theorem liftsClock (workerId : String) :
    Plainly (runtimeContract terms interactions names guarded i c) (Known record)
      (lifted (readClock workerId)) (fun _ => Known record) :=
  lifts (call_plain.clockBeside (call_plain.kept_known record) workerId)
    fun _ => (runtime_kept_known record).stable

theorem liftsStep {result : Except LedgerError AgentCallLedgerRecord} :
    Plainly (runtimeContract terms interactions names guarded i c) (Known record)
      (lifted (ledgerStep result)) (fun next s => result = .ok next ∧ Known record s) :=
  lifts (Plainly.ledgerStep (call_plain.kept_known record).stable)
    fun _ => (Contract.Stable.const _).and (runtime_kept_known record).stable

theorem liftsLoad :
    Plainly (runtimeContract terms interactions names guarded i c) (fun _ => True)
      (lifted loadCall) (fun found s => ∀ record, found = some record → Known record s) :=
  lifts call_plain.load
    fun _ => .all fun record => .imp fun _ => (runtime_kept_known record).stable

theorem liftsWrite {next : AgentCallLedgerRecord}
    (hmove : next.stateVersion = record.stateVersion + 1 → Moving record next) :
    Plainly (runtimeContract terms interactions names guarded i c) (Known record)
      (lifted (casCall next record.stateVersion))
      (fun outcome s => settled outcome = true → Known next s) :=
  lifts (call_plain.writes hmove) fun _ => .imp fun _ => (runtime_kept_known next).stable

theorem stable_found (found : Option AgentCallLedgerRecord) :
    (runtimeContract terms interactions names guarded i c).Stable
      (fun s => ∀ record, found = some record → Known record s) :=
  .all fun record => .imp fun _ => (runtime_kept_known record).stable

/-! ## Parking -/

variable {worker : CallWorker} {observation : NormalizedA2AObservation}

theorem casInteractionWinner_known {candidate : AgentCallLedgerRecord}
    (hmove : candidate.stateVersion = record.stateVersion + 1 → Moving record candidate) :
    Plainly (runtimeContract terms interactions names guarded i c) (Known record)
      (casInteractionWinner candidate record.stateVersion) (fun winner => Known winner) := by
  unfold casInteractionWinner
  refine Plainly.bind (liftsWrite hmove) fun outcome => ?_
  split
  · next hsettled =>
      exact Plainly.pure (.imp fun _ => (runtime_kept_known candidate).stable)
        fun s _ hwritten => hwritten hsettled
  · refine Plainly.bind (liftsLoad.pre fun _ _ _ => trivial) fun found => ?_
    cases found with
    | none => exact Plainly.throw
    | some winner => exact Plainly.pure (stable_found _) fun s _ hknown => hknown winner rfl

theorem activateInteraction_known (interactionId fingerprint : String) :
    Plainly (runtimeContract terms interactions names guarded i c) (Known record)
      (activateInteraction interactionId record fingerprint) (fun winner => Known winner) := by
  have hkept : (runtimeContract terms interactions names guarded i c).Kept (Known record) :=
    runtime_kept_known record
  unfold activateInteraction
  refine Plainly.bind (consults rfl hkept) fun outcome => ?_
  split
  · exact Plainly.pure hkept.stable fun _ _ hknown => hknown
  · exact Plainly.throw

theorem Moving.unclaimed {next : AgentCallLedgerRecord} (h : Moving record next) :
    Moving record { next with claimOwner := none, claimExpiresAt := none } := by
  intro howns
  obtain ⟨hversion, hinvocation, htool, hnext, hkept⟩ := h howns
  exact ⟨hversion, hinvocation, htool, hnext, hkept⟩

theorem typedWaiting_known (interaction : A2AInteractionSpec) (fingerprint : String) :
    Plainly (runtimeContract terms interactions names guarded i c) (Known record)
      (typedWaiting terms worker record observation interaction fingerprint)
      (fun winner => Known winner) := by
  unfold typedWaiting
  split
  · exact activateInteraction_known _ _
  · refine Plainly.bind liftsStep fun applied => ?_
    refine Plainly.given (fun _ _ hstep => hstep.1) fun hstep => ?_
    have hmove : applied.stateVersion = record.stateVersion + 1 →
        Moving record { applied with claimOwner := none, claimExpiresAt := none } :=
      fun hchanged => ((applyObservation_applied hstep).moving hchanged).unclaimed
    refine Plainly.bind ((casInteractionWinner_known hmove).pre fun _ _ hboth => hboth.2)
      fun persisted => ?_
    have hkept : (runtimeContract terms interactions names guarded i c).Kept (Known persisted) :=
      runtime_kept_known persisted
    split
    · exact Plainly.pure hkept.stable fun _ _ hknown => hknown
    · refine Plainly.bind (consults rfl hkept) fun interactionId => ?_
      refine Plainly.bind (liftsClock _) fun updatedAt => ?_
      refine Plainly.bind liftsStep fun waiting => ?_
      refine Plainly.given (fun _ _ hwaits => hwaits.1) fun hwaits => ?_
      refine Plainly.bind ((casInteractionWinner_known fun _ =>
        transitionCall_moving hwaits nofun).pre fun _ _ hboth => hboth.2) fun stored => ?_
      split
      · exact Plainly.pure (runtime_kept_known stored).stable fun _ _ hknown => hknown
      · exact activateInteraction_known _ _

theorem endInteraction_known {result : ToolResult} {toState : AgentCallState}
    {updates : CallUpdates} (hterminal : toState.isTerminal = true)
    (hcall : result.callId = record.invocationId) (htool : result.toolName = record.toolName) :
    Plainly (runtimeContract terms interactions names guarded i c) (Known record)
      (endInteraction terms worker record result toState updates) (fun winner => Known winner) := by
  unfold endInteraction
  refine Plainly.bind (liftsClock _) fun updatedAt => ?_
  refine Plainly.bind liftsStep fun terminal => ?_
  refine Plainly.given (fun _ _ hmove => hmove.1) fun hmove => ?_
  refine (casInteractionWinner_known fun _ => transitionCall_moving hmove ?_).pre
    fun _ _ hboth => hboth.2
  rintro result ⟨⟩
  exact ⟨hterminal, hcall, htool, _, rfl⟩

theorem parkCallForInteraction_known :
    Plainly (runtimeContract terms interactions names guarded i c) (Known record)
      (parkCallForInteraction terms interactions worker record observation)
      (fun parked => Known parked.1) := by
  have hends {kind : InteractionParkKind} {p : ReplyProg AgentCallLedgerRecord}
      (hp : Plainly (runtimeContract terms interactions names guarded i c) (Known record) p
        fun winner => Known winner) :
      Plainly (runtimeContract terms interactions names guarded i c) (Known record)
        (do return (← p, kind)) (fun parked => Known parked.1) := by
    refine Plainly.bind hp fun winner => ?_
    exact Plainly.pure (runtime_kept_known winner).stable fun _ _ hknown => hknown
  unfold parkCallForInteraction
  split
  · split
    · exact Plainly.throw
    · split
      · exact hends (endInteraction_known rfl rfl rfl)
      · exact hends (typedWaiting_known _ _)
  · split
    · exact Plainly.throw
    · exact hends (endInteraction_known rfl rfl rfl)

/-! ## The interaction branch -/

theorem finalizedOrSuspension_returns (hinvocation : invocation.invocationId = names.invocationId)
    (htool : invocation.tool.definition.name = names.toolName) :
    Plainly (runtimeContract terms interactions names guarded i c) (Known record)
      (finalizedOrSuspension record invocation) (Returns invocation) := by
  have hkept : (runtimeContract terms interactions names guarded i c).Kept (Known record) :=
    runtime_kept_known record
  unfold finalizedOrSuspension
  split
  · exact replySuspends hkept.stable
  · next result hresult =>
      refine Plainly.bind (consults rfl hkept) fun finalized => ?_
      refine Plainly.pure hkept.stable ?_
      rintro s hs hknown result' ⟨⟩
      exact .inr ⟨record, hknown, CallInv.reported hs hknown hresult hinvocation htool⟩

theorem persistedOrSuspension_returns (htool : invocation.invocationId = names.invocationId →
      invocation.tool.definition.name = names.toolName) :
    Plainly (runtimeContract terms interactions names guarded i c) (fun _ => True)
      (persistedOrSuspension invocation) (Returns invocation) := by
  unfold persistedOrSuspension
  refine Plainly.bind (consultsInvocation _) fun found => ?_
  have hstable : (runtimeContract terms interactions names guarded i c).Stable fun s =>
      ∀ record, found = some record →
        Known record s ∧ invocation.invocationId = names.invocationId :=
    .all fun record => .imp fun _ =>
      (runtime_kept_known record).stable.and (Contract.Stable.const _)
  cases found with
  | none => exact replySuspends hstable
  | some current =>
      refine Plainly.given (fun _ _ hfound => (hfound current rfl).2) fun hinvocation => ?_
      exact (finalizedOrSuspension_returns hinvocation (htool hinvocation)).pre
        fun _ _ hfound => (hfound current rfl).1

section Executor

variable (hinvocation : invocation.invocationId = names.invocationId)
  (htool : invocation.tool.definition.name = names.toolName)

include hinvocation htool

theorem finalizeInteractionTerminal_returns :
    Plainly (runtimeContract terms interactions names guarded i c) (Known record)
      (finalizeInteractionTerminal record invocation observation) (Returns invocation) := by
  have hkept : (runtimeContract terms interactions names guarded i c).Kept (Known record) :=
    runtime_kept_known record
  unfold finalizeInteractionTerminal
  split
  · exact (persistedOrSuspension_returns fun _ => htool).pre fun _ _ _ => trivial
  · next result hresult =>
      have hends : Plainly (runtimeContract terms interactions names guarded i c) (Known record)
          (do
            consult (.finalize record)
            return .result result)
          (Returns invocation) := by
        refine Plainly.bind (consults rfl hkept) fun finalized => ?_
        refine Plainly.pure hkept.stable ?_
        rintro s hs hknown result' ⟨⟩
        exact .inr ⟨record, hknown, CallInv.reported hs hknown hresult hinvocation htool⟩
      split
      · exact Plainly.bind (consults rfl hkept) fun marked => hends
      · exact hends

theorem interactionResult_returns :
    Plainly (runtimeContract terms interactions names guarded i c) (fun _ => True)
      (interactionResult terms interactions worker invocation record observation)
      (Returns invocation) := by
  have htrue := Contract.Kept.const (C := runtimeContract terms interactions names guarded i c) True
  unfold interactionResult
  refine Plainly.bind (consults rfl htrue) fun inbox => ?_
  refine Plainly.bind (lifts (call_plain.renewsAnything worker) stable_found) fun found => ?_
  cases found with
  | none => exact replySuspends (stable_found none)
  | some renewed =>
      refine Plainly.pre (P := Known renewed) ?_ fun _ _ hknown => hknown renewed rfl
      have hparked : ∀ parked : AgentCallLedgerRecord × InteractionParkKind,
          (runtimeContract terms interactions names guarded i c).Stable (Known parked.1) :=
        fun parked => (runtime_kept_known parked.1).stable
      refine Plainly.bind (parkCallForInteraction_known.attempt hparked) fun result => ?_
      split
      · exact (persistedOrSuspension_returns fun _ => htool).pre fun _ _ _ => trivial
      · exact Plainly.throw
      · next persisted =>
          refine Plainly.pre (P := Known persisted) ?_ fun _ _ hends => hends _ rfl
          split
          · exact (persistedOrSuspension_returns fun _ => htool).pre fun _ _ _ => trivial
          · refine Plainly.bind (consults rfl (runtime_kept_known persisted)) fun applied => ?_
            exact replySuspends (runtime_kept_known persisted).stable
      · next persisted _ _ =>
          exact (finalizeInteractionTerminal_returns hinvocation htool).pre
            fun _ _ hends => hends _ rfl

end Executor

/-! ## The executor with its interaction branch -/

/-- The answer of the interaction branch is what may be returned for the invocation. -/
def Answered (invocation : ToolInvocation) : (op : CallOp) → op.Res → SharedCall → Prop
  | .ask (.interactionResult ..), .ok outcome, s => Returns invocation outcome s
  | _, _, _ => True

def ExecutorStep (invocation : ToolInvocation) (i : Nat) (op : CallOp) (s : SharedCall)
    (reply : op.Res) (s' : SharedCall) : Prop :=
  op.Outcome true i s reply s' ∧ Answered invocation op reply s'

theorem executor_rules (hinvocation : invocation.invocationId = names.invocationId)
    (htool : invocation.tool.definition.name = names.toolName) :
    ExecutorRules ((runtimeContract terms interactions names guarded i c).coarse
      (ExecutorStep invocation i)) i names invocation where
  plain := runtime_plain fun _ _ _ _ hstep => hstep.1
  inv := fun _ hs => hs
  invocationId := hinvocation
  toolName := htool
  interaction := fun _ _ _ _ _ hstep => hstep.2

theorem interactionCall_returns (hinvocation : invocation.invocationId = names.invocationId)
    (htool : invocation.tool.definition.name = names.toolName) :
    (runtimeContract terms interactions names guarded i c).Triple (fun _ => True)
      ((interactionResult terms interactions worker invocation record observation).run >>=
        fun result => .done (result.mapError ReplyRaised.toRaised))
      (fun reply s => ∀ outcome, reply = .ok outcome → Returns invocation outcome s) := by
  refine Contract.Triple.bind _ (interactionResult_returns hinvocation htool) fun result => ?_
  cases result with
  | ok outcome =>
      refine Contract.Triple.done (runtime_stable_returns invocation outcome) ?_
      rintro s - hreturns ended ⟨⟩
      exact hreturns
  | error error =>
      exact Contract.Triple.done (Contract.Stable.const True) fun _ _ _ _ heq => nomatch heq

theorem interactionBody_implements (hinvocation : invocation.invocationId = names.invocationId)
    (htool : invocation.tool.definition.name = names.toolName) {op : CallOp}
    {p : Prog.Finer CallOp ReplyPort CallOp.Res ReplyPort.Res op.Res}
    (hbody : interactionBody terms interactions worker invocation op = some p) :
    (runtimeContract terms interactions names guarded i c).Implements
      (ExecutorStep invocation i) op p := by
  unfold interactionBody at hbody
  split at hbody
  · next record observation =>
      cases hbody
      intro s hs
      have hown : ∀ s s', (runtimeContract terms interactions names guarded i c).guar s s' →
          (runtimeContract terms interactions names guarded i c).rely s s' :=
        fun _ _ hguar => .inr ⟨i + 1, c, Nat.succ_ne_self i, hguar⟩
      refine Contract.Safe.mono ?_ hs (Contract.Safe.path hown (.refl s) hs
        (interactionCall_returns hinvocation htool s hs trivial))
      rintro reply s' - ⟨hpath, hreturns⟩
      refine ⟨s', hpath, .ask _ reply, ?_⟩
      cases reply with
      | ok outcome => exact hreturns outcome rfl
      | error error => trivial
  · cases hbody

theorem answered_of_none {op : CallOp}
    (hnone : interactionBody terms interactions worker invocation op = none) (reply : op.Res)
    (s : SharedCall) : Answered invocation op reply s := by
  cases op with
  | ask port =>
      cases port with
      | interactionResult => cases hnone
      | _ => trivial
  | _ => trivial

theorem executeCall_returns (acceptance : ToolAcceptance)
    (hinvocation : invocation.invocationId = names.invocationId)
    (htool : invocation.tool.definition.name = names.toolName) :
    Plainly (runtimeContract terms interactions names guarded i c) (fun _ => True)
      (executeCall terms interactions worker invocation acceptance) (Returns invocation) := by
  have hrules : ExecutorRules ((runtimeContract terms interactions names guarded i c).coarse
      (ExecutorStep invocation i)) i names invocation := executor_rules hinvocation htool
  have hkept : ∀ op, interactionBody terms interactions worker invocation op = none →
      ∀ s reply s', (runtimeContract terms interactions names guarded i c).exec (.inl op) s reply s' →
        ExecutorStep invocation i op s reply s' := by
    rintro op hnone s reply s' ⟨hout⟩
    exact ⟨hout, answered_of_none hnone reply s'⟩
  refine Contract.Triple.bind _ (Contract.Triple.inline hkept
    (fun op p hbody => interactionBody_implements hinvocation htool hbody)
    (hrules.execute terms worker acceptance)) fun result => ?_
  cases result with
  | ok outcome =>
      exact Contract.Triple.done (runtime_stable_returns invocation outcome) fun _ _ h => h
  | error error => exact Contract.Triple.done (Contract.Stable.const True) fun _ _ _ => trivial

end Hybro.A2ARuntime
