import Hybro.A2ARuntime.Dispatching

/-! # The plain programs of the executor and of recovery

Everything the executor and the recovery service do around the dispatch itself: each of
these programs starts from a record that is known and makes only ordinary writes.
-/

namespace Hybro.A2ARuntime

open Orchestrator Interleaving

variable {C : Contract CallOp CallOp.Res SharedCall} {α β : Type} {repeats : Bool} {i : Nat}
  {A P : SharedCall → Prop} {Q : α → SharedCall → Prop}

/-! ## Steps and stores -/

theorem Plainly.ledgerStep {result : Except LedgerError α} (hP : C.Stable P) :
    Plainly C P (A2ARuntime.ledgerStep result) (fun a s => result = .ok a ∧ P s) := by
  cases result with
  | ok a => exact Plainly.pure hP fun _ _ h => ⟨rfl, h⟩
  | error error => exact Plainly.throw

/-- The record moves on to `next`, if it changes at all. -/
def MayFollow (record next : AgentCallLedgerRecord) : Prop :=
  next.stateVersion = record.stateVersion + 1 → Ordinary record next

theorem mayFollow_transition {record next : AgentCallLedgerRecord} {toState : AgentCallState}
    {updatedAt : Timestamp} {updates : CallUpdates} (hattempts : updates.transportAttempts = none)
    (hmark : toState ≠ .dispatching)
    (hreturn : toState = .readyToDispatch → record.state.isUnsent = true)
    (h : transitionCall record toState updatedAt updates = .ok next) : MayFollow record next :=
  fun _ => transitionCall_ordinary h hattempts hmark hreturn

theorem mayFollow_observation {resultDigest : ToolResult → String}
    {record next : AgentCallLedgerRecord} {observation : NormalizedA2AObservation}
    {recentLimit : Nat} (h : applyObservation resultDigest record observation recentLimit = .ok next) :
    MayFollow record next :=
  (applyObservation_applied h).ordinary

namespace PlainRules

variable {Silent : Contact → Prop}

/-! ## Programs of any writer -/

section AnyWriter

variable {Plain : AgentCallLedgerRecord → AgentCallLedgerRecord → Prop}
  (h : PlainRules C repeats i Plain Silent)

include h

theorem clockBeside (hA : C.Kept A) (workerId : String) :
    Plainly C A (readClock workerId) (fun _ => A) :=
  ((h.clock workerId).beside hA).post fun _ _ _ hkept => hkept.1

theorem asksBeside (hA : C.Kept A) (port : Port) : Plainly C A (ask port) (fun _ => A) :=
  ((h.asks port).beside hA).post fun _ _ _ hkept => hkept.1

theorem asksAnything (port : Port) (hP : C.Kept P) :
    Plainly C P (ask port) (fun _ _ => True) :=
  (h.asksBeside hP port).drop

variable (worker : CallWorker) (record : AgentCallLedgerRecord)

theorem releaseClaim :
    Plainly C (Known record) (A2ARuntime.releaseClaim worker record) (fun _ _ => True) := by
  have hkept := h.kept_known record
  unfold A2ARuntime.releaseClaim
  refine Plainly.bind (h.clockBeside hkept _) fun now => ?_
  refine Plainly.bind (h.clockBeside hkept _) fun releasedAt => ?_
  refine Plainly.bind (h.release record _ _ _) fun released => ?_
  exact Plainly.finish (h.stable_leased _ _ _)

theorem recordEvidence (receipt : A2ADispatchReceipt) :
    Plainly C (Known record) (A2ARuntime.recordEvidence record receipt)
      (fun _ => Known record) := by
  have hkept := h.kept_known record
  unfold A2ARuntime.recordEvidence
  split
  · refine Plainly.bind (h.asksBeside hkept _) fun row => ?_
    exact Plainly.pure hkept.stable fun _ _ hknown => hknown
  · refine Plainly.bind (h.asksBeside hkept _) fun row => ?_
    exact Plainly.pure hkept.stable fun _ _ hknown => hknown
  · exact Plainly.pure hkept.stable fun _ _ hknown => hknown

theorem issuePush (hA : C.Kept A) :
    Plainly C A (A2ARuntime.issuePush worker record) (fun _ => A) := by
  unfold A2ARuntime.issuePush
  split
  · refine Plainly.bind (h.asksBeside hA _) fun push => ?_
    exact Plainly.pure hA.stable fun _ _ hkept => hkept
  · exact Plainly.pure hA.stable fun _ _ hkept => hkept

theorem releasing {p : CallProg α} (hp : Plainly C (Known record) p Q) (hQ : ∀ a, C.Stable (Q a)) :
    Plainly C (Known record) (A2ARuntime.releasing worker record p) Q := by
  have hkept := h.kept_known record
  unfold A2ARuntime.releasing
  have hboth := (hp.attempt hQ).keep hkept
  refine Plainly.bind (hboth.pre fun _ _ hknown => ⟨hknown, hknown⟩) fun result => ?_
  cases result with
  | ok value =>
      have hstable : C.Stable (fun s => Known record s ∧
          ∀ a, (Except.ok value : Except Raised α) = .ok a → Q a s) :=
        hkept.stable.and (.all fun a => .imp fun _ => hQ a)
      exact Plainly.pure hstable fun s _ hends => hends.2 value rfl
  | error error =>
      simp only
      split
      · refine Plainly.bind ((h.releaseClaim worker record).pre fun _ _ hknown => hknown.1) ?_
        exact fun _ => Plainly.throw
      · exact Plainly.throw

theorem renewDispatchClaim (attempts : Nat) :
    Plainly C (fun _ => True) (A2ARuntime.renewDispatchClaim worker attempts)
      (fun found s => ∀ renewed, found = some renewed → Known renewed s) := by
  have htrue := Contract.Kept.const (C := C) True
  induction attempts with
  | zero => exact Plainly.pure htrue.stable fun _ _ _ _ heq => nomatch heq
  | succ attempts ih =>
      unfold A2ARuntime.renewDispatchClaim
      refine Plainly.bind h.load fun found => ?_
      cases found with
      | none => exact Plainly.pure (.all fun _ => .imp nofun) fun _ _ _ _ heq => nomatch heq
      | some latest =>
          refine Plainly.pre (P := Known latest) ?_ fun _ _ hknown => hknown latest rfl
          simp only
          split
          · exact Plainly.pure (h.kept_known latest).stable fun _ _ _ _ heq => nomatch heq
          · refine Plainly.bind (h.renewAndVerify worker latest) fun found => ?_
            cases found with
            | none => exact ih.pre fun _ _ _ => trivial
            | some renewed =>
                refine Plainly.pure (h.stable_leased _ _ _) ?_
                rintro s - hleased renewed' ⟨⟩
                exact (hleased renewed rfl).known

theorem heartbeat {renew : AgentCallLedgerRecord → CallProg (Option AgentCallLedgerRecord)}
    (hrenew : ∀ record, Plainly C (Known record) (renew record)
      (fun found s => ∀ renewed, found = some renewed → Known renewed s)) (rounds : Nat) :
    C.Raises (Known record) (A2ARuntime.heartbeat renew record rounds)
      (fun ended => Known ended.1) (fun _ _ => False) := by
  induction rounds generalizing record with
  | zero => exact Contract.Raises.pure (h.kept_known record).stable fun _ _ hknown => hknown
  | succ rounds ih =>
      have hkept := h.kept_known record
      have hround : C.Raises (Known record) (Raising.attempt (renew record))
          (fun result s => Known record s ∧
            ∀ renewed, result = .ok (some renewed) → Known renewed s) (fun _ _ => False) := by
        have hattempt : C.Raises (Known record) (Raising.attempt (renew record))
            (Contract.Ends (fun found s => ∀ renewed, found = some renewed → Known renewed s)
              (fun _ _ => True)) (fun _ _ => False) :=
          Contract.Raises.attempt (hrenew record)
            (fun found => .all fun renewed => .imp fun _ => (h.kept_known renewed).stable)
            (fun _ => Contract.Stable.const True)
        refine (hattempt.keep hkept).conseq (fun _ _ hknown => ⟨hknown, hknown⟩) ?_ ?_
        · rintro result s - ⟨hknown, hends⟩
          refine ⟨hknown, ?_⟩
          rintro renewed rfl
          exact hends renewed rfl
        · exact fun _ _ _ hraised => hraised.2
      unfold A2ARuntime.heartbeat
      refine Contract.Raises.bind hround (fun _ => Contract.Stable.const False) fun result => ?_
      split
      · next renewed => exact (ih renewed).pre fun _ _ hends => hends.2 renewed rfl
      · refine Contract.Raises.pre (P := Known record) ?_ fun _ _ hends => hends.1
        exact Contract.Raises.pure hkept.stable fun _ _ hknown => hknown

end AnyWriter

/-! ## Ordinary writes -/

variable (h : PlainRules C repeats i Ordinary Silent)

include h

theorem steps {record : AgentCallLedgerRecord} {result : Except LedgerError AgentCallLedgerRecord}
    (hresult : ∀ next, result = .ok next → MayFollow record next) :
    Plainly C (Known record) (ledgerStep result)
      (fun next s => MayFollow record next ∧ Known record s) :=
  (Plainly.ledgerStep (h.kept_known record).stable).post
    fun next _ _ hstep => ⟨hresult next hstep.1, hstep.2⟩

theorem stores {record next : AgentCallLedgerRecord} :
    Plainly C (fun s => MayFollow record next ∧ Known record s)
      (casCall next record.stateVersion)
      (fun outcome s => settled outcome = true → Known next s ∧ Held i next s) :=
  Plainly.given (fun _ _ hboth => hboth.1) fun hfollows =>
    (h.cas hfollows).pre fun _ _ hboth => hboth.2

theorem stable_stored (outcome : StoreOutcome) (next : AgentCallLedgerRecord) :
    C.Stable (fun s => settled outcome = true → Known next s ∧ Held i next s) :=
  .imp fun _ => (h.kept_known next).stable.and (h.kept_held next).stable

/-! ## The executor -/

section Executor

variable (terms : CallTerms) (worker : CallWorker) (record : AgentCallLedgerRecord)
  (invocation : ToolInvocation)

theorem leaveUncertain (errorCode : Option String) :
    Plainly C (Known record) (A2ARuntime.leaveUncertain worker record errorCode)
      (fun _ _ => True) := by
  have hkept := h.kept_known record
  unfold A2ARuntime.leaveUncertain
  refine Plainly.bind (h.clockBeside hkept _) fun updatedAt => ?_
  refine Plainly.bind (h.clockBeside hkept _) fun nextAttemptAt => ?_
  refine Plainly.bind (h.steps fun next => mayFollow_transition rfl nofun nofun) fun uncertain => ?_
  refine Plainly.bind h.stores fun outcome => ?_
  exact Plainly.finish (h.stable_stored outcome uncertain)

theorem finalizedTerminalOrSuspension (hP : C.Kept P) :
    Plainly C P (A2ARuntime.finalizedTerminalOrSuspension record invocation)
      (fun _ _ => True) := by
  unfold A2ARuntime.finalizedTerminalOrSuspension
  split
  · exact Plainly.finish hP.stable
  · refine Plainly.bind (h.asksBeside hP _) fun finalized => ?_
    exact Plainly.finish hP.stable

theorem persistedOutcomeOrSuspension :
    Plainly C (fun _ => True) (A2ARuntime.persistedOutcomeOrSuspension invocation)
      (fun _ _ => True) := by
  have htrue := Contract.Kept.const (C := C) True
  unfold A2ARuntime.persistedOutcomeOrSuspension
  refine Plainly.bind h.load.drop fun found => ?_
  cases found with
  | none => exact Plainly.finish htrue.stable
  | some current => exact h.finalizedTerminalOrSuspension current invocation htrue

theorem storeTerminal (observation : NormalizedA2AObservation) :
    Plainly C (Known record)
      (A2ARuntime.storeTerminal terms worker record observation invocation) (fun _ _ => True) := by
  have htrue := Contract.Kept.const (C := C) True
  unfold A2ARuntime.storeTerminal
  refine Plainly.bind (h.steps fun next => mayFollow_observation) fun terminal => ?_
  refine Plainly.bind h.stores.drop fun outcome => ?_
  split
  · exact h.persistedOutcomeOrSuspension invocation
  · refine Plainly.bind (h.asksAnything _ htrue) fun marked => ?_
    exact h.finalizedTerminalOrSuspension terminal invocation htrue

theorem terminalCall (status : ToolResultStatus) (errorCode : String) :
    Plainly C (Known record)
      (A2ARuntime.terminalCall terms worker record invocation status errorCode)
      (fun _ _ => True) := by
  have hkept := h.kept_known record
  unfold A2ARuntime.terminalCall
  refine Plainly.bind (h.clockBeside hkept _) fun observedAt => ?_
  refine Plainly.bind (h.asksBeside hkept _) fun row => ?_
  exact h.storeTerminal terms worker record invocation _

theorem storeWorking (receipt : A2ADispatchReceipt) :
    Plainly C (Known record) (A2ARuntime.storeWorking worker record receipt invocation)
      (fun _ _ => True) := by
  have hkept := h.kept_known record
  have htrue := Contract.Kept.const (C := C) True
  unfold A2ARuntime.storeWorking
  split
  · refine Plainly.bind (h.leaveUncertain worker record _) fun left => ?_
    exact Plainly.finish htrue.stable
  · split
    · refine Plainly.bind (h.clockBeside hkept _) fun updatedAt => ?_
      refine Plainly.bind (h.clockBeside hkept _) fun now => ?_
      refine Plainly.bind (h.steps fun next => mayFollow_transition rfl nofun nofun)
        fun working => ?_
      refine Plainly.bind h.stores.drop fun outcome => ?_
      split
      · exact Plainly.finish htrue.stable
      · exact h.persistedOutcomeOrSuspension invocation
    · refine Plainly.bind (h.leaveUncertain worker record _) fun left => ?_
      exact Plainly.finish htrue.stable

theorem storeReceipt (receipt : A2ADispatchReceipt) :
    Plainly C (Known record)
      (A2ARuntime.storeReceipt terms worker record receipt invocation) (fun _ _ => True) := by
  have htrue := Contract.Kept.const (C := C) True
  unfold A2ARuntime.storeReceipt
  refine Plainly.bind (h.recordEvidence record receipt) fun receipt => ?_
  refine Plainly.bind (h.renewAndVerify worker record) fun found => ?_
  cases found with
  | none => exact Plainly.finish (h.stable_leased _ _ _)
  | some renewed =>
      refine Plainly.pre (P := Known renewed) ?_ fun _ _ hleased => (hleased renewed rfl).known
      simp only
      split
      · refine Plainly.bind (h.leaveUncertain worker renewed none) fun left => ?_
        exact Plainly.finish htrue.stable
      · exact h.asksAnything _ (h.kept_known renewed)
      · exact h.storeWorking worker renewed invocation receipt
      · exact h.terminalCall terms worker renewed invocation _ _
      · exact h.storeTerminal terms worker renewed invocation _

theorem makeReady (owner : Option String) (howner : record.claimOwner = owner) :
    Plainly C (Known record) (A2ARuntime.makeReady worker record)
      (fun found s => ∀ ready, found = some ready → Known ready s ∧ ready.claimOwner = owner) := by
  have hkept := h.kept_known record
  unfold A2ARuntime.makeReady
  split
  · next haccepted =>
      refine Plainly.bind (h.clockBeside hkept _) fun updatedAt => ?_
      refine Plainly.bind (Plainly.ledgerStep hkept.stable) fun ready => ?_
      refine Plainly.given (fun s _ hstep => hstep.1) fun hstep => ?_
      have hfollows : MayFollow record ready :=
        fun _ => transitionCall_ordinary hstep rfl nofun fun _ => by rw [haccepted]; rfl
      have hready : ready.claimOwner = owner := by
        obtain ⟨-, rfl⟩ := transitionCall_eq_ok.mp hstep
        exact howner
      refine Plainly.bind (h.stores.pre fun _ _ hknown => ⟨hfollows, hknown.2⟩) fun outcome => ?_
      refine Plainly.pure (h.stable_stored outcome ready) ?_
      intro s _ hstored found hfound
      cases hsettled : settled outcome with
      | true =>
          simp only [hsettled, if_true, Option.some.injEq] at hfound
          exact hfound ▸ ⟨(hstored hsettled).1, hready⟩
      | false => simp [hsettled] at hfound
  · refine Plainly.pure hkept.stable ?_
    rintro s - hknown ready ⟨⟩
    exact ⟨hknown, howner⟩

theorem authorizeDispatch :
    Plainly C (Known record) (A2ARuntime.authorizeDispatch terms worker record invocation)
      (fun found s => ∀ decision renewed, found = .ok (decision, renewed) →
        Leased i (some worker.workerId) record renewed s) := by
  have hkept := h.kept_known record
  have htrue := Contract.Kept.const (C := C) True
  unfold A2ARuntime.authorizeDispatch
  refine Plainly.bind (h.asksBeside hkept _) fun active => ?_
  split
  · refine Plainly.bind (h.asksBeside hkept _) fun prepared => ?_
    split
    · refine Plainly.bind (h.terminalCall terms worker record invocation _ _) fun outcome => ?_
      exact Plainly.pure htrue.stable fun _ _ _ _ _ heq => nomatch heq
    · refine Plainly.bind (h.asksBeside hkept _) fun decision => ?_
      refine Plainly.bind (h.renewAndVerify worker record) fun found => ?_
      cases found with
      | none => exact Plainly.pure (h.stable_leased _ _ _) fun _ _ _ _ _ heq => nomatch heq
      | some renewed =>
          refine Plainly.pure (h.stable_leased _ _ _) ?_
          rintro s - hleased decision' renewed' ⟨⟩
          exact hleased renewed rfl
  · refine Plainly.bind (h.terminalCall terms worker record invocation _ _) fun outcome => ?_
    exact Plainly.pure htrue.stable fun _ _ _ _ _ heq => nomatch heq

theorem materializeDispatch (decision : AuthorizationDecision) :
    Plainly C (Known record)
      (A2ARuntime.materializeDispatch terms worker decision record invocation)
      (fun found s => ∀ materialized renewed, found = .ok (materialized, renewed) →
        Leased i (some worker.workerId) record renewed s) := by
  have hkept := h.kept_known record
  have htrue := Contract.Kept.const (C := C) True
  unfold A2ARuntime.materializeDispatch
  cases decision with
  | denied =>
      refine Plainly.bind (h.terminalCall terms worker record invocation _ _) fun outcome => ?_
      exact Plainly.pure htrue.stable fun _ _ _ _ _ heq => nomatch heq
  | transientFailure =>
      refine Plainly.bind (h.releaseClaim worker record) fun released => ?_
      exact Plainly.pure htrue.stable fun _ _ _ _ _ heq => nomatch heq
  | authorized =>
      refine Plainly.bind (h.asksBeside hkept _) fun materialized => ?_
      refine Plainly.bind (h.renewAndVerify worker record) fun found => ?_
      cases found with
      | none => exact Plainly.pure (h.stable_leased _ _ _) fun _ _ _ _ _ heq => nomatch heq
      | some renewed =>
          refine Plainly.pure (h.stable_leased _ _ _) ?_
          rintro s - hleased materialized' renewed' ⟨⟩
          exact hleased renewed rfl

end Executor

/-! ## Recovery -/

section Recovery

variable (terms : CallTerms) (service : RecoveryService) (now : Timestamp)
  (record : AgentCallLedgerRecord)

theorem casOrLoadWinner (candidate : AgentCallLedgerRecord) :
    Plainly C (fun s => MayFollow record candidate ∧ Known record s)
      (A2ARuntime.casOrLoadWinner candidate record.stateVersion) (fun _ _ => True) := by
  have htrue := Contract.Kept.const (C := C) True
  unfold A2ARuntime.casOrLoadWinner
  refine Plainly.bind (R := fun _ _ => True) ?_ fun tried => ?_
  · refine Plainly.drop (Plainly.attempt (Q := fun _ _ => True) ?_ fun _ => htrue.stable)
    refine Plainly.bind h.stores.drop fun outcome => ?_
    split
    · exact Plainly.finish htrue.stable
    · exact Plainly.bind h.load.drop fun winner => Plainly.finish htrue.stable
  · cases tried with
    | ok found => exact Plainly.finish htrue.stable
    | error error =>
        simp only
        split
        · exact Plainly.finish htrue.stable
        · exact Plainly.throw

theorem renewLease (renewedAt : Timestamp) :
    Plainly C (Known record) (A2ARuntime.renewLease service record renewedAt)
      (fun found s => ∀ next, found = some next →
        Leased i (some service.workerId) record next s) :=
  h.renew record _ _ _

theorem releaseAt (nextAttemptAt : Timestamp) :
    Plainly C (Known record) (A2ARuntime.releaseAt service now record nextAttemptAt)
      (fun found s => ∀ next, found = some next → Leased i none record next s) :=
  h.release record _ _ _

theorem releasedAt (nextAttemptAt : Timestamp) :
    Plainly C (Known record) (A2ARuntime.releasedAt service now record nextAttemptAt)
      (fun _ _ => True) := by
  unfold A2ARuntime.releasedAt
  refine Plainly.bind (h.releaseAt service now record nextAttemptAt) fun found => ?_
  exact Plainly.finish (h.stable_leased _ _ _)

theorem reschedule (delay : Nat) :
    Plainly C (Known record) (A2ARuntime.reschedule now record delay) (fun _ _ => True) := by
  have htrue := Contract.Kept.const (C := C) True
  unfold A2ARuntime.reschedule
  refine Plainly.bind ((h.casOrLoadWinner record _).pre fun _ _ hknown => ⟨?_, hknown⟩)
    fun winner => Plainly.finish htrue.stable
  exact fun _ => ordinary_of_state rfl rfl rfl rfl rfl

theorem endWith (observation : NormalizedA2AObservation) :
    Plainly C (Known record) (A2ARuntime.endWith terms service record observation)
      (fun _ _ => True) := by
  have htrue := Contract.Kept.const (C := C) True
  unfold A2ARuntime.endWith
  refine Plainly.bind (h.clockBeside (h.kept_known record) _) fun renewedAt => ?_
  refine Plainly.bind (h.renewLease service record renewedAt) fun found => ?_
  cases found with
  | none => exact Plainly.finish (h.stable_leased _ _ _)
  | some renewed =>
      refine Plainly.pre (P := Known renewed) ?_ fun _ _ hleased => (hleased renewed rfl).known
      refine Plainly.bind (h.steps fun next => mayFollow_observation) fun terminal => ?_
      exact Plainly.bind (h.casOrLoadWinner renewed terminal) fun winner =>
        Plainly.finish htrue.stable

theorem expireCall (code : String) :
    Plainly C (Known record) (A2ARuntime.expireCall terms service now record code)
      (fun _ _ => True) := by
  unfold A2ARuntime.expireCall
  exact Plainly.bind (h.asksBeside (h.kept_known record) _) fun row =>
    h.endWith terms service record _

theorem recoverDispatching :
    Plainly C (Known record) (A2ARuntime.recoverDispatching now record) (fun _ _ => True) := by
  have htrue := Contract.Kept.const (C := C) True
  unfold A2ARuntime.recoverDispatching
  refine Plainly.bind (h.steps fun next => mayFollow_transition rfl nofun nofun) fun uncertain => ?_
  exact Plainly.bind (h.casOrLoadWinner record uncertain) fun winner =>
    Plainly.finish htrue.stable

theorem storeStillWorking :
    Plainly C (Known record) (A2ARuntime.storeStillWorking service now record)
      (fun _ _ => True) := by
  have htrue := Contract.Kept.const (C := C) True
  unfold A2ARuntime.storeStillWorking
  simp only
  split
  · exact h.releasedAt service now record _
  · refine Plainly.bind (h.steps fun next => mayFollow_transition rfl nofun nofun) fun working => ?_
    exact Plainly.bind (h.casOrLoadWinner record working) fun winner =>
      Plainly.finish htrue.stable

theorem storeUninspected :
    Plainly C (Known record) (A2ARuntime.storeUninspected terms service now record)
      (fun _ _ => True) := by
  have htrue := Contract.Kept.const (C := C) True
  unfold A2ARuntime.storeUninspected
  simp only
  split
  · exact h.releasedAt service now record _
  · split
    · exact h.expireCall terms service now record _
    · refine Plainly.bind ((h.casOrLoadWinner record _).pre fun _ _ hknown => ⟨?_, hknown⟩)
        fun winner => Plainly.finish htrue.stable
      exact fun _ => ordinary_of_state rfl rfl rfl rfl rfl

theorem storeInspection (inspected : Option A2ADispatchReceipt) :
    Plainly C (Known record) (A2ARuntime.storeInspection terms service now record inspected)
      (fun _ _ => True) := by
  unfold A2ARuntime.storeInspection
  refine Plainly.bind (h.clockBeside (h.kept_known record) _) fun renewedAt => ?_
  refine Plainly.bind (h.renewLease service record renewedAt) fun found => ?_
  cases found with
  | none => exact Plainly.finish (h.stable_leased _ _ _)
  | some renewed =>
      have hkept := h.kept_known renewed
      refine Plainly.pre (P := Known renewed) ?_ fun _ _ hleased => (hleased renewed rfl).known
      simp only
      split
      · exact Plainly.bind (h.asksBeside hkept _) fun row => h.endWith terms service renewed _
      · split
        · refine Plainly.bind (h.asksBeside hkept _) fun row => ?_
          refine Plainly.bind (h.clockBeside hkept _) fun renewedAt => ?_
          refine Plainly.bind (h.renewLease service renewed renewedAt) fun found => ?_
          cases found with
          | none => exact Plainly.finish (h.stable_leased _ _ _)
          | some again =>
              refine Plainly.pre (P := Known again) ?_ fun _ _ hleased => (hleased again rfl).known
              exact h.asksAnything _ (h.kept_known again)
        · exact h.storeStillWorking service now renewed
        · exact h.storeUninspected terms service now renewed

theorem inspectCall (hsilent : Silent (.inspect (dispatchCommand terms record [] none))) :
    Plainly C (Known record) (A2ARuntime.inspectCall terms service now record)
      (fun _ _ => True) := by
  have hkept := h.kept_known record
  have hbeside {γ : Type} {p : CallProg γ} (hp : Plainly C (fun _ => True) p (fun _ _ => True)) :
      Plainly C (Known record) p (fun _ => Known record) :=
    (hp.beside hkept).post fun _ _ _ hboth => hboth.1
  unfold A2ARuntime.inspectCall
  simp only
  refine Plainly.bind (hbeside (h.runBlocks _)) fun blocked => ?_
  split
  · refine Plainly.bind (h.releaseAt service now record now) fun released => ?_
    exact Plainly.finish (h.stable_leased _ _ _)
  · refine Plainly.bind (hbeside (h.reach hsilent)) fun flight => ?_
    refine Plainly.bind (hbeside (Plainly.drop (Plainly.attempt (h.awaitReply hsilent)
      fun _ => Contract.Stable.const True))) fun result => ?_
    split
    · exact h.storeInspection terms service now record _
    · exact h.expireCall terms service now record _
    · split
      · exact h.storeInspection terms service now record none
      · exact Plainly.throw

end Recovery

end PlainRules

end Hybro.A2ARuntime
