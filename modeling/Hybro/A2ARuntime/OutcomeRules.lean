import Hybro.A2ARuntime.Outcomes

/-! # What the executor reports

Under a contract whose interaction branch reports properly, every program of the executor
does: a result it returns is the result of a record that has been stored.
-/

namespace Hybro.A2ARuntime

open Orchestrator Interleaving

/-- A result that is returned has been refused locally or is reported of a stored record. -/
def Returns (invocation : ToolInvocation) (outcome : ToolExecutionOutcome) (s : SharedCall) :
    Prop :=
  ∀ result, outcome = .result result → LocalRefusal invocation result ∨
    ∃ record, Known record s ∧ Reported invocation record result

variable {C : Contract CallOp CallOp.Res SharedCall} {α : Type} {i : Nat} {P : SharedCall → Prop}
  {invocation : ToolInvocation} {names : CallNames} {record : AgentCallLedgerRecord}

theorem suspends {suspended : ToolSuspension} (hP : C.Stable P) :
    Plainly C P (pure (.suspension suspended) : CallProg ToolExecutionOutcome)
      (Returns invocation) :=
  Plainly.pure hP fun _ _ _ _ heq => nomatch heq

/-! ## Records that are known -/

section AnyCall

variable (h : PlainRules C true i Moving fun _ => True)

include h

theorem PlainRules.stable_returns (invocation : ToolInvocation) (outcome : ToolExecutionOutcome) :
    C.Stable (Returns invocation outcome) := by
  refine .all fun result => .imp fun _ => ?_
  intro s s' hs hrely hs' hreturns
  rcases hreturns with hrefused | ⟨record, hknown, hreported⟩
  · exact .inl hrefused
  · exact .inr ⟨record, (h.kept_known record).stable s s' hs hrely hs' hknown, hreported⟩

theorem PlainRules.moves {result : Except LedgerError AgentCallLedgerRecord}
    (hresult : ∀ next, result = .ok next → Moving record next) :
    Plainly C (Known record) (ledgerStep result)
      (fun next s => Moving record next ∧ Known record s) :=
  (Plainly.ledgerStep (h.kept_known record).stable).post
    fun next _ _ hstep => ⟨hresult next hstep.1, hstep.2⟩

theorem PlainRules.writes {next : AgentCallLedgerRecord}
    (hmove : next.stateVersion = record.stateVersion + 1 → Moving record next) :
    Plainly C (Known record) (casCall next record.stateVersion)
      (fun outcome s => settled outcome = true → Known next s) :=
  (h.cas hmove).post fun _ _ _ hstored hsettled => (hstored hsettled).1

theorem PlainRules.moveWritten {next : AgentCallLedgerRecord} :
    Plainly C (fun s => Moving record next ∧ Known record s)
      (casCall next record.stateVersion)
      (fun outcome s => settled outcome = true → Known next s) :=
  Plainly.given (fun _ _ hboth => hboth.1) fun hmove =>
    (h.writes fun _ => hmove).pre fun _ _ hboth => hboth.2

theorem PlainRules.stable_written (outcome : StoreOutcome) (next : AgentCallLedgerRecord) :
    C.Stable (fun s => settled outcome = true → Known next s) :=
  .imp fun _ => (h.kept_known next).stable

theorem PlainRules.renewsAnything (worker : CallWorker) :
    Plainly C (fun _ => True) (renewAndVerifyClaim worker record)
      (fun found s => ∀ next, found = some next → Known next s) := by
  have hstable : ∀ found : Option AgentCallLedgerRecord,
      C.Stable (fun s => ∀ next, found = some next → Known next s) :=
    fun _ => .all fun next => .imp fun _ => (h.kept_known next).stable
  have hrefused : ∀ {P : SharedCall → Prop}, C.Stable P →
      Plainly C P (pure none : CallProg (Option AgentCallLedgerRecord))
        (fun found s => ∀ next, found = some next → Known next s) :=
    fun hP => Plainly.pure hP fun _ _ _ _ heq => nomatch heq
  have hrenew : ∀ renewedAt, Plainly C (fun _ => True)
      (renewCall record.stateVersion worker.workerId (renewedAt + worker.policy.claimLease)
        renewedAt)
      (fun found s => ∀ next, found = some next → Known next s) := by
    intro renewedAt
    unfold renewCall
    refine Plainly.bind h.load fun found => ?_
    cases found with
    | none => exact hrefused (hstable none)
    | some loaded =>
        refine Plainly.pre (P := fun s => Known loaded s ∧ Known loaded s) ?_
          fun _ _ hknown => ⟨hknown loaded rfl, hknown loaded rfl⟩
        simp only
        split
        · exact hrefused ((h.kept_known loaded).stable.and (h.kept_known loaded).stable)
        · refine Plainly.post (h.leased rfl
            ⟨loaded.claimOwner, _, loaded.nextAttemptAt, _, rfl⟩ rfl) ?_
          exact fun _ _ _ hleased next hnext => (hleased next hnext).known
  unfold renewAndVerifyClaim
  refine Plainly.bind (h.clock worker.workerId).drop fun renewedAt => ?_
  refine Plainly.bind (hrenew renewedAt) fun found => ?_
  cases found with
  | none => exact hrefused (hstable none)
  | some renewed =>
      have hkept := h.kept_known renewed
      refine Plainly.bind ((h.asksBeside hkept .verifyActive).pre
        fun _ _ hknown => hknown renewed rfl) fun active => ?_
      refine Plainly.pure hkept.stable ?_
      intro s _ hknown next hfound
      cases active with
      | false => cases hfound
      | true =>
          cases hfound
          exact hknown

end AnyCall

/-! ## The executor's contract -/

/-- A contract of the executor for one invocation: the record is the one of the
invocation, and the interaction branch answers what is to be reported. -/
structure ExecutorRules (C : Contract CallOp CallOp.Res SharedCall) (i : Nat) (names : CallNames)
    (invocation : ToolInvocation) : Prop where
  plain : PlainRules C true i Moving fun _ => True
  inv : ∀ s, C.inv s → CallInv names s.ledger
  invocationId : invocation.invocationId = names.invocationId
  toolName : invocation.tool.definition.name = names.toolName
  interaction : ∀ record observation s outcome s',
    C.exec (.ask (.interactionResult record observation)) s (.ok outcome) s' →
      Returns invocation outcome s'

theorem CallInv.reported {s : SharedCall} {result : ToolResult} (h : CallInv names s.ledger)
    (hknown : Known record s) (hresult : record.terminalResult = some result)
    (hinvocation : invocation.invocationId = names.invocationId)
    (htool : invocation.tool.definition.name = names.toolName) :
    Reported invocation record result := by
  obtain ⟨hterminal, hcall, hname, -⟩ := h.owns record hknown result hresult
  obtain ⟨hrecordCall, hrecordTool⟩ := h.named record hknown
  exact ⟨hcall.trans (hrecordCall.trans hinvocation.symm),
    hname.trans (hrecordTool.trans htool.symm), hterminal, result, hresult, rfl, rfl, rfl, rfl, rfl⟩

namespace ExecutorRules

variable (h : ExecutorRules C i names invocation)

include h

theorem asksInteraction (observation : NormalizedA2AObservation) (hP : C.Stable P) :
    Plainly C P (ask (.interactionResult record observation)) (Returns invocation) := by
  refine Contract.Raises.effect hP (h.plain.stable_returns invocation)
    (fun _ => Contract.Stable.const True) ?_
  intro s r s' hs _ hexec
  have hout := h.plain.exec _ _ _ _ hexec
  obtain ⟨hguar, hinv⟩ := h.plain.plain s _ r s' hs (.ask _) hout
  refine ⟨hguar, hinv, ?_⟩
  cases r with
  | error error => trivial
  | ok outcome => exact h.interaction _ _ _ _ _ hexec

/-! ## Endings -/

variable (terms : CallTerms) (worker : CallWorker)

theorem finalizedTerminalOrSuspension :
    Plainly C (Known record) (A2ARuntime.finalizedTerminalOrSuspension record invocation)
      (Returns invocation) := by
  have hkept := h.plain.kept_known record
  unfold A2ARuntime.finalizedTerminalOrSuspension
  split
  · exact suspends hkept.stable
  · next result hresult =>
      refine Plainly.bind (h.plain.asksBeside hkept _) fun finalized => ?_
      refine Plainly.pure hkept.stable ?_
      rintro s hs hknown result' ⟨⟩
      exact .inr ⟨record, hknown,
        (h.inv s hs).reported hknown hresult h.invocationId h.toolName⟩

theorem persistedOutcomeOrSuspension :
    Plainly C (fun _ => True) (A2ARuntime.persistedOutcomeOrSuspension invocation)
      (Returns invocation) := by
  unfold A2ARuntime.persistedOutcomeOrSuspension
  refine Plainly.bind h.plain.load fun found => ?_
  cases found with
  | none => exact suspends (.all fun _ => .imp nofun)
  | some current => exact h.finalizedTerminalOrSuspension.pre fun _ _ hknown => hknown current rfl

theorem storeTerminal (observation : NormalizedA2AObservation) :
    Plainly C (Known record)
      (A2ARuntime.storeTerminal terms worker record observation invocation)
      (Returns invocation) := by
  have hkept := h.plain.kept_known record
  unfold A2ARuntime.storeTerminal
  refine Plainly.bind (Plainly.ledgerStep hkept.stable) fun terminal => ?_
  refine Plainly.given (fun _ _ hstep => hstep.1) fun hstep => ?_
  refine Plainly.bind ((h.plain.writes fun hchanged =>
    (applyObservation_applied hstep).moving hchanged).pre fun _ _ hboth => hboth.2)
    fun outcome => ?_
  cases hsettled : settled outcome with
  | false =>
      simp only [Bool.not_false, Bool.true_or, if_true]
      exact h.persistedOutcomeOrSuspension.pre fun _ _ _ => trivial
  | true =>
      refine Plainly.pre (P := Known terminal) ?_ fun _ _ hstored => hstored rfl
      simp only [Bool.not_true, Bool.false_or]
      split
      · exact h.persistedOutcomeOrSuspension.pre fun _ _ _ => trivial
      · refine Plainly.bind (h.plain.asksBeside (h.plain.kept_known terminal) _) fun marked => ?_
        exact h.finalizedTerminalOrSuspension

theorem terminalCall (status : ToolResultStatus) (errorCode : String) :
    Plainly C (Known record)
      (A2ARuntime.terminalCall terms worker record invocation status errorCode)
      (Returns invocation) := by
  have hkept := h.plain.kept_known record
  unfold A2ARuntime.terminalCall
  refine Plainly.bind (h.plain.clockBeside hkept _) fun observedAt => ?_
  refine Plainly.bind (h.plain.asksBeside hkept _) fun row => ?_
  exact h.storeTerminal terms worker _

theorem leaveUncertain (errorCode : Option String) :
    Plainly C (Known record) (A2ARuntime.leaveUncertain worker record errorCode)
      (fun _ _ => True) := by
  have hkept := h.plain.kept_known record
  unfold A2ARuntime.leaveUncertain
  refine Plainly.bind (h.plain.clockBeside hkept _) fun updatedAt => ?_
  refine Plainly.bind (h.plain.clockBeside hkept _) fun nextAttemptAt => ?_
  refine Plainly.bind (h.plain.moves fun next hstep => transitionCall_moving hstep nofun)
    fun uncertain => ?_
  refine Plainly.bind h.plain.moveWritten.drop fun outcome => ?_
  exact Plainly.finish (Contract.Stable.const True)

theorem leftSuspended (errorCode : Option String) :
    Plainly C (Known record)
      (do
        A2ARuntime.leaveUncertain worker record errorCode
        return suspension invocation)
      (Returns invocation) :=
  Plainly.bind (h.leaveUncertain worker errorCode) fun _ =>
    suspends (Contract.Stable.const True)

/-! ## After the contact -/

theorem retryDispatch :
    Plainly C (Known record) (A2ARuntime.retryDispatch terms worker record invocation)
      (Returns invocation) := by
  unfold A2ARuntime.retryDispatch
  refine Plainly.bind (h.plain.reloads worker record) fun latest => ?_
  refine Plainly.bind (h.plain.renewAndVerify worker latest) fun found => ?_
  cases found with
  | none => exact suspends (h.plain.stable_leased _ _ _)
  | some renewed =>
      have hkept := h.plain.kept_known renewed
      refine Plainly.pre (P := Known renewed) ?_ fun _ _ hleased => (hleased renewed rfl).known
      simp only
      split
      · exact h.terminalCall terms worker _ _
      · refine Plainly.bind (h.plain.clockBeside hkept _) fun updatedAt => ?_
        refine Plainly.bind (h.plain.clockBeside hkept _) fun now => ?_
        refine Plainly.bind (h.plain.moves fun next hstep => transitionCall_moving hstep nofun)
          fun retry => ?_
        refine Plainly.bind h.plain.moveWritten.drop fun outcome => ?_
        exact suspends (Contract.Stable.const True)

theorem storeWorking (receipt : A2ADispatchReceipt) :
    Plainly C (Known record) (A2ARuntime.storeWorking worker record receipt invocation)
      (Returns invocation) := by
  have hkept := h.plain.kept_known record
  unfold A2ARuntime.storeWorking
  split
  · exact h.leftSuspended worker _
  · split
    · refine Plainly.bind (h.plain.clockBeside hkept _) fun updatedAt => ?_
      refine Plainly.bind (h.plain.clockBeside hkept _) fun now => ?_
      refine Plainly.bind (h.plain.moves fun next hstep => transitionCall_moving hstep nofun)
        fun working => ?_
      refine Plainly.bind h.plain.moveWritten.drop fun outcome => ?_
      split
      · exact suspends (Contract.Stable.const True)
      · exact h.persistedOutcomeOrSuspension
    · exact h.leftSuspended worker _

theorem storeReceipt (receipt : A2ADispatchReceipt) :
    Plainly C (Known record)
      (A2ARuntime.storeReceipt terms worker record receipt invocation) (Returns invocation) := by
  unfold A2ARuntime.storeReceipt
  refine Plainly.bind (h.plain.recordEvidence record receipt) fun receipt => ?_
  refine Plainly.bind (h.plain.renewAndVerify worker record) fun found => ?_
  cases found with
  | none => exact suspends (h.plain.stable_leased _ _ _)
  | some renewed =>
      refine Plainly.pre (P := Known renewed) ?_ fun _ _ hleased => (hleased renewed rfl).known
      simp only
      split
      · exact h.leftSuspended worker none
      · exact h.asksInteraction _ (h.plain.kept_known renewed).stable
      · exact h.storeWorking worker receipt
      · exact h.terminalCall terms worker _ _
      · exact h.storeTerminal terms worker _

/-! ## The dispatch -/

theorem dispatchEnds (current : AgentCallLedgerRecord) (command : A2ADispatchCommand)
    (flight : Flight) (kept : Bool) :
    Plainly C (Known current)
      (match dispatchInterrupt flight with
        | some error => throw error
        | none =>
            if (kept || flight.answered) = true then do
              return (← awaitReply (.dispatch command), current)
            else throw (.adapter "claim lease or room epoch was lost during dispatch"))
      (fun ended s => Known ended.2 s) := by
  have hkept := h.plain.kept_known current
  split
  · exact Plainly.throw
  · split
    · refine Plainly.bind (((h.plain.awaitReply trivial).beside hkept).post
        fun _ _ _ hboth => hboth.1) fun receipt => ?_
      exact Plainly.pure hkept.stable fun _ _ hknown => hknown
    · exact Plainly.throw

theorem runFencedDispatch (command : A2ADispatchCommand) :
    Plainly C (Known record) (A2ARuntime.runFencedDispatch worker record command)
      (fun ended s => Known ended.2 s) := by
  have hkept := h.plain.kept_known record
  have hrenew : ∀ record, Plainly C (Known record) (A2ARuntime.renewDispatchClaim worker 3)
      (fun found s => ∀ renewed, found = some renewed → Known renewed s) :=
    fun _ => (h.plain.renewDispatchClaim worker 3).pre fun _ _ _ => trivial
  unfold A2ARuntime.runFencedDispatch runFenced
  refine Plainly.bind (((h.plain.reach trivial).beside hkept).post fun _ _ _ hboth => hboth.1)
    fun flight => ?_
  have hheartbeat : Plainly C (Known record)
      (A2ARuntime.heartbeat (fun _ => A2ARuntime.renewDispatchClaim worker 3) record flight.rounds)
      (fun ended => Known ended.1) :=
    (h.plain.heartbeat record hrenew flight.rounds).conseq (fun _ _ hknown => hknown)
      (fun _ _ _ hknown => hknown) (fun _ _ _ hraised => hraised.elim)
  refine Plainly.bind hheartbeat fun ended => ?_
  obtain ⟨current, kept⟩ := ended
  have hcurrent := h.plain.kept_known current
  have hends := h.dispatchEnds current command flight kept
  simp only
  split
  · have hcut : Plainly C (fun s => Known current s ∧ Known current s)
        (Raising.cancelAfter flight.cut (A2ARuntime.renewDispatchClaim worker 3))
        (fun _ => Known current) := Contract.Raises.cancelAfter (hrenew current) hcurrent
    exact Plainly.bind (hcut.pre fun _ _ hknown => ⟨hknown, hknown⟩) fun _ => hends
  · exact hends

theorem renewedAfter {error : Raised} {next : AgentCallLedgerRecord → CallProg ToolExecutionOutcome}
    (hnext : ∀ renewed, Plainly C (Known renewed) (next renewed) (Returns invocation)) :
    Plainly C (fun s => Known record s ∧ ∀ ended : A2ADispatchReceipt × AgentCallLedgerRecord,
        (Except.error error : Except Raised _) = .ok ended → Known ended.2 s)
      (do
        match ← renewAndVerifyClaim worker (← reloaded worker record) with
        | none => return suspension invocation
        | some renewed => next renewed)
      (Returns invocation) := by
  refine Plainly.bind ((h.plain.reloads worker record).pre fun _ _ hboth => hboth.1)
    fun latest => ?_
  refine Plainly.bind (h.plain.renewAndVerify worker latest) fun found => ?_
  cases found with
  | none => exact suspends (h.plain.stable_leased _ _ _)
  | some renewed => exact (hnext renewed).pre fun _ _ hleased => (hleased renewed rfl).known

theorem dispatchMarked (materialized : List MaterializedResourcePart)
    (push : Option A2APushRegistration) :
    Plainly C (Known record)
      (A2ARuntime.dispatchMarked terms worker record materialized push invocation)
      (Returns invocation) := by
  have hkept := h.plain.kept_known record
  unfold A2ARuntime.dispatchMarked
  simp only
  refine Plainly.bind (((h.plain.runBlocks worker).beside hkept).post fun _ _ _ hboth => hboth.1)
    fun blocked => ?_
  split
  · exact Plainly.throw
  · have hcaught : Plainly C (Known record)
        (Raising.attempt (A2ARuntime.runFencedDispatch worker record
          (dispatchCommand terms record materialized (push.map (·.config)))))
        (fun result s => Known record s ∧ ∀ ended, result = .ok ended → Known ended.2 s) :=
      ((Plainly.attempt (h.runFencedDispatch worker _)
        fun ended => (h.plain.kept_known ended.2).stable).keep hkept).pre
          fun _ _ hknown => ⟨hknown, hknown⟩
    refine Plainly.bind hcaught fun result => ?_
    split
    · next receipt current =>
        exact (h.storeReceipt terms worker receipt).pre fun _ _ hboth => hboth.2 _ rfl
    · exact h.renewedAfter worker fun renewed => h.terminalCall terms worker _ _
    · exact (h.retryDispatch terms worker).pre fun _ _ hboth => hboth.1
    · split
      · exact h.renewedAfter worker fun renewed => h.leftSuspended worker none
      · exact Plainly.throw

/-! ## Preparation -/

theorem makeReady :
    Plainly C (Known record) (A2ARuntime.makeReady worker record)
      (fun found s => ∀ ready, found = some ready → Known ready s) := by
  have hkept := h.plain.kept_known record
  unfold A2ARuntime.makeReady
  split
  · refine Plainly.bind (h.plain.clockBeside hkept _) fun updatedAt => ?_
    refine Plainly.bind (h.plain.moves fun next hstep => transitionCall_moving hstep nofun)
      fun ready => ?_
    refine Plainly.bind h.plain.moveWritten fun outcome => ?_
    refine Plainly.pure (h.plain.stable_written outcome ready) ?_
    intro s _ hstored found hfound
    cases hsettled : settled outcome with
    | true =>
        simp only [hsettled, if_true, Option.some.injEq] at hfound
        exact hfound ▸ hstored hsettled
    | false => simp [hsettled] at hfound
  · refine Plainly.pure hkept.stable ?_
    rintro s - hknown ready ⟨⟩
    exact hknown

theorem releasedSuspended :
    Plainly C (Known record)
      (do
        A2ARuntime.releaseClaim worker record
        return suspension invocation)
      (Returns invocation) :=
  Plainly.bind (h.plain.releaseClaim worker record) fun _ =>
    suspends (Contract.Stable.const True)

theorem sendPrepared (materialized : List MaterializedResourcePart) :
    Plainly C (Known record)
      (A2ARuntime.sendPrepared terms worker record materialized invocation)
      (Returns invocation) := by
  unfold A2ARuntime.sendPrepared
  refine Plainly.bind (h.makeReady worker) fun found => ?_
  cases found with
  | none => exact suspends (.all fun _ => .imp nofun)
  | some ready =>
      have hkept := h.plain.kept_known ready
      refine Plainly.pre (P := Known ready) ?_ fun _ _ hknown => hknown ready rfl
      simp only
      split
      · exact h.releasedSuspended worker
      · refine Plainly.bind (h.plain.issuePush worker ready hkept) fun push => ?_
        refine Plainly.bind (h.plain.clockBeside hkept _) fun updatedAt => ?_
        refine Plainly.bind (h.plain.moves fun next hstep => transitionCall_moving hstep nofun)
          fun dispatching => ?_
        refine Plainly.bind h.plain.moveWritten fun outcome => ?_
        split
        · next hsettled =>
          refine Plainly.bind ((h.plain.renewAndVerify worker dispatching).pre
            fun _ _ hstored => hstored hsettled) fun found => ?_
          cases found with
          | none => exact suspends (h.plain.stable_leased _ _ _)
          | some renewed =>
              exact (h.dispatchMarked terms worker materialized push).pre
                fun _ _ hleased => (hleased renewed rfl).known
        · exact suspends (h.plain.stable_written _ _)

/-- What a part of the preparation answers: an outcome at once, or the record it goes on with. -/
def Prepared {β : Type} (invocation : ToolInvocation)
    (found : Except ToolExecutionOutcome (β × AgentCallLedgerRecord)) (s : SharedCall) : Prop :=
  (∀ outcome, found = .error outcome → Returns invocation outcome s) ∧
    ∀ value record, found = .ok (value, record) → Known record s

theorem stable_prepared {β : Type}
    (found : Except ToolExecutionOutcome (β × AgentCallLedgerRecord)) :
    C.Stable (Prepared invocation found) := by
  refine .and (.all fun outcome => .imp fun _ => h.plain.stable_returns invocation outcome) ?_
  exact .all fun _ => .all fun record => .imp fun _ => (h.plain.kept_known record).stable

theorem endsEarly {β : Type} {p : CallProg ToolExecutionOutcome}
    (hp : Plainly C P p (Returns invocation)) :
    Plainly C P
      (do return .error (← p) : CallProg (Except ToolExecutionOutcome (β × AgentCallLedgerRecord)))
      (Prepared invocation) := by
  refine Plainly.bind hp fun outcome => ?_
  refine Plainly.pure (h.plain.stable_returns invocation outcome) ?_
  refine fun s _ hreturns => ⟨?_, fun _ _ heq => nomatch heq⟩
  intro ended heq
  rw [← Except.error.inj heq]
  exact hreturns

omit h in
theorem suspendsEarly {β : Type} {suspended : ToolSuspension} (hP : C.Stable P) :
    Plainly C P
      (pure (.error (.suspension suspended)) :
        CallProg (Except ToolExecutionOutcome (β × AgentCallLedgerRecord)))
      (Prepared invocation) := by
  refine Plainly.pure hP fun s _ _ => ⟨?_, fun _ _ heq => nomatch heq⟩
  intro outcome heq result hresult
  rw [← Except.error.inj heq] at hresult
  cases hresult

theorem goesOn {β : Type} {value : β} :
    Plainly C (Known record)
      (pure (.ok (value, record)) :
        CallProg (Except ToolExecutionOutcome (β × AgentCallLedgerRecord)))
      (Prepared invocation) := by
  refine Plainly.pure (h.plain.kept_known record).stable fun s _ hknown => ⟨nofun, ?_⟩
  rintro value record ⟨⟩
  exact hknown

theorem renewsAndGoesOn {β : Type} {value : β} :
    Plainly C (Known record)
      (do
        match ← renewAndVerifyClaim worker record with
        | none => return .error (suspension invocation)
        | some renewed => return .ok (value, renewed) :
        CallProg (Except ToolExecutionOutcome (β × AgentCallLedgerRecord)))
      (Prepared invocation) := by
  refine Plainly.bind (h.plain.renewAndVerify worker record) fun found => ?_
  cases found with
  | none => exact suspendsEarly (h.plain.stable_leased _ _ _)
  | some renewed => exact h.goesOn.pre fun _ _ hleased => (hleased renewed rfl).known

theorem authorizeDispatch :
    Plainly C (Known record) (A2ARuntime.authorizeDispatch terms worker record invocation)
      (Prepared invocation) := by
  have hkept := h.plain.kept_known record
  unfold A2ARuntime.authorizeDispatch
  refine Plainly.bind (h.plain.asksBeside hkept _) fun active => ?_
  split
  · refine Plainly.bind (h.plain.asksBeside hkept _) fun prepared => ?_
    split
    · exact h.endsEarly (h.terminalCall terms worker _ _)
    · refine Plainly.bind (h.plain.asksBeside hkept _) fun decision => ?_
      exact h.renewsAndGoesOn worker
  · exact h.endsEarly (h.terminalCall terms worker _ _)

theorem materializeDispatch (decision : AuthorizationDecision) :
    Plainly C (Known record)
      (A2ARuntime.materializeDispatch terms worker decision record invocation)
      (Prepared invocation) := by
  have hkept := h.plain.kept_known record
  unfold A2ARuntime.materializeDispatch
  split
  · exact h.endsEarly (h.terminalCall terms worker _ _)
  · refine Plainly.bind (h.plain.releaseClaim worker record) fun _ => ?_
    exact suspendsEarly (Contract.Stable.const True)
  · refine Plainly.bind (h.plain.asksBeside hkept _) fun materialized => ?_
    exact h.renewsAndGoesOn worker

/-! ## The executor -/

theorem executeClaimed :
    Plainly C (Known record) (A2ARuntime.executeClaimed terms worker record invocation)
      (Returns invocation) := by
  unfold A2ARuntime.executeClaimed
  split
  · exact h.leftSuspended worker _
  · split
    · exact h.releasedSuspended worker
    · refine Plainly.bind (h.plain.releasing worker record (h.authorizeDispatch terms worker)
        h.stable_prepared) fun found => ?_
      split
      · next outcome =>
          exact Plainly.pure (h.stable_prepared _) fun s _ hprepared => hprepared.1 outcome rfl
      · next decision renewed =>
          refine Plainly.bind ((h.plain.releasing worker renewed
            (h.materializeDispatch terms worker decision) h.stable_prepared).pre
              fun _ _ hprepared => hprepared.2 decision renewed rfl) fun found => ?_
          split
          · next outcome =>
              exact Plainly.pure (h.stable_prepared _) fun s _ hprepared => hprepared.1 outcome rfl
          · next materialized prepared =>
              exact (h.sendPrepared terms worker materialized).pre
                fun _ _ hprepared => hprepared.2 materialized prepared rfl

theorem executeAccepted (acceptance : ToolAcceptance) :
    Plainly C (fun _ => True) (A2ARuntime.executeAccepted terms worker invocation acceptance)
      (Returns invocation) := by
  unfold A2ARuntime.executeAccepted
  refine Plainly.bind h.plain.load fun found => ?_
  cases found with
  | none =>
      refine Plainly.pure (.all fun _ => .imp nofun) ?_
      rintro s - - result ⟨⟩
      refine .inl ?_
      simp [LocalRefusal]
  | some record =>
      have hkept := h.plain.kept_known record
      refine Plainly.pre (P := Known record) ?_ fun _ _ hknown => hknown record rfl
      simp only
      split
      · exact suspends hkept.stable
      · split
        · exact h.finalizedTerminalOrSuspension
        · refine Plainly.bind (h.plain.asksBeside hkept _) fun checkpointed => ?_
          have hclaim : Plainly C (Known record)
              (do
                let now ← readClock worker.workerId
                match ← claimCall record.stateVersion worker.workerId
                    (now + worker.policy.claimLease) now with
                | none => A2ARuntime.persistedOutcomeOrSuspension invocation
                | some claimed => A2ARuntime.executeClaimed terms worker claimed invocation)
              (Returns invocation) := by
            refine Plainly.bind (h.plain.clockBeside hkept _) fun now => ?_
            refine Plainly.bind (h.plain.claim record _ _ _) fun found => ?_
            cases found with
            | none => exact h.persistedOutcomeOrSuspension.pre fun _ _ _ => trivial
            | some claimed =>
                exact (h.executeClaimed terms worker).pre
                  fun _ _ hleased => (hleased claimed rfl).known
          refine Plainly.bind (h.plain.asksBeside hkept _) fun cancelled => ?_
          split
          · exact suspends hkept.stable
          · exact hclaim

theorem execute (acceptance : ToolAcceptance) :
    Plainly C (fun _ => True) (A2ARuntime.execute terms worker invocation acceptance)
      (Returns invocation) := by
  unfold A2ARuntime.execute
  refine Plainly.bind (Plainly.attempt (h.executeAccepted terms worker acceptance)
    (h.plain.stable_returns invocation)) fun result => ?_
  cases result with
  | ok outcome =>
      exact Plainly.pure (.all fun a => .imp fun _ => h.plain.stable_returns invocation a)
        fun s _ hends => hends outcome rfl
  | error error =>
      simp only
      split
      · exact suspends (.all fun _ => .imp nofun)
      · exact Plainly.throw

end ExecutorRules

end Hybro.A2ARuntime
