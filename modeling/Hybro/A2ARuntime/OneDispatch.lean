import Hybro.A2ARuntime.DispatchThreads

/-! # One dispatch of a call

Every program of the executor and of call recovery meets the contract of its thread, so
that the invariant of the call holds in every reachable configuration.
-/

namespace Hybro.A2ARuntime

open Orchestrator Interleaving RunRecord

section Programs

variable {terms : CallTerms} {i : Nat} {c : DispatchCall} {worker : CallWorker}
  {record before marked : AgentCallLedgerRecord} {invocation : ToolInvocation}

/-! ## The dispatch -/

theorem reply_meets {command : A2ADispatchCommand} (hmark : IsMark before marked)
    (current : AgentCallLedgerRecord) :
    (dispatchContract terms i c).Raises
      (fun s => Known current s ∧ Awaiting command before marked (keys i s))
      (do return (← awaitReply (.dispatch command), current)) (fun ended => Known ended.2)
      (fun error s => error = .transport → Failed i s) := by
  have hkept : (dispatchContract terms i c).Kept (Known current) := dispatch_kept_known current
  have hawait : (dispatchContract terms i c).Raises
      (fun s => Awaiting command before marked (keys i s)) (awaitReply (.dispatch command))
      (fun _ _ => True) (fun error s => error = .transport → Failed i s) :=
    awaitReply_dispatch hmark
  refine Contract.Raises.bind ((hawait.keep hkept).conseq (fun _ _ h => h) (fun _ _ _ h => h.1)
    (fun _ _ _ h => h.2)) (fun _ => .imp fun _ => stable_failed) fun receipt => ?_
  exact Contract.Raises.pure hkept.stable fun _ _ h => h

theorem settled_meets {command : A2ADispatchCommand} (hmark : IsMark before marked)
    (current : AgentCallLedgerRecord) (flight : Flight) (answered : Bool) :
    (dispatchContract terms i c).Raises
      (fun s => Known current s ∧ Awaiting command before marked (keys i s))
      (match dispatchInterrupt flight with
        | some error => throw error
        | none =>
            if answered then do return (← awaitReply (.dispatch command), current)
            else throw (.adapter "claim lease or room epoch was lost during dispatch"))
      (fun ended => Known ended.2) (fun error s => error = .transport → Failed i s) := by
  have hboth : (dispatchContract terms i c).Stable
      (fun s => Known current s ∧ Awaiting command before marked (keys i s)) :=
    (dispatch_kept_known current).stable.and (dispatch_stable_keys _)
  cases hcancelled : flight.cancelled with
  | true =>
      simp only [dispatchInterrupt, hcancelled, if_true]
      exact Contract.Raises.throw hboth fun _ _ _ => nofun
  | false =>
      simp only [dispatchInterrupt, hcancelled, Bool.false_eq_true, if_false]
      split
      · exact reply_meets hmark current
      · exact Contract.Raises.throw hboth fun _ _ _ => nofun

theorem runFencedDispatch_meets {command : A2ADispatchCommand} (hmark : IsMark before marked)
    (hdispatching : record.state = .dispatching) (hless : marked.stateVersion < record.stateVersion)
    (hnames : (Contact.dispatch command).NamesCall terms) :
    (dispatchContract terms i c).Raises
      (fun s => Known record s ∧ keys i s = [.stored before marked] ∧ Held i record s)
      (runFencedDispatch worker record command) (fun ended => Known ended.2)
      (fun error s => error = .transport → Failed i s) := by
  have hplain : PlainRules (quietContract terms i c) false i Ordinary (Inspects terms) :=
    dispatch_plain
  have hfailed : ∀ error : Raised, (dispatchContract terms i c).Stable
      (fun s => error = .transport → Failed i s) := fun error => .imp fun _ => stable_failed
  have hkept : (dispatchContract terms i c).Kept (Known record) := dispatch_kept_known record
  have hF : (quietContract terms i c).Kept
      (fun s => Awaiting command before marked (keys i s)) := kept_keys _
  have hrenew : ∀ record, Plainly (quietContract terms i c) (Known record)
      (renewDispatchClaim worker 3)
      (fun found s => ∀ renewed, found = some renewed → Known renewed s) :=
    fun record => (hplain.renewDispatchClaim worker 3).pre fun _ _ _ => trivial
  unfold runFencedDispatch runFenced
  refine Contract.Raises.bind (R := fun _ s => Known record s ∧
    Awaiting command before marked (keys i s)) ?_ hfailed fun flight => ?_
  · have hreach : (dispatchContract terms i c).Raises
        (fun s => keys i s = [.stored before marked] ∧ Held i record s)
        (reach (.dispatch command))
        (fun _ s => Awaiting command before marked (keys i s)) (fun _ _ => False) :=
      reach_dispatch hmark hdispatching hless hnames
    exact (hreach.keep hkept).conseq (fun _ _ h => h) (fun _ _ _ h => h) (fun _ _ _ h => h.2.elim)
  · refine Contract.Raises.bind (R := fun ended s => Known ended.1 s ∧
      Awaiting command before marked (keys i s)) ?_ hfailed fun ended => ?_
    · exact ((hplain.heartbeat record hrenew flight.rounds).widen hF).conseq
        (fun _ _ h => ⟨h.2, h.1⟩) (fun _ _ _ h => ⟨h.2, h.1⟩) (fun _ _ _ h => h.2.elim)
    · obtain ⟨current, kept⟩ := ended
      simp only
      split
      · have hcut : (dispatchContract terms i c).Raises
            (fun s => Awaiting command before marked (keys i s) ∧ Known current s ∧ Known current s)
            (Raising.cancelAfter flight.cut (renewDispatchClaim worker 3))
            (fun _ s => Awaiting command before marked (keys i s) ∧ Known current s)
            (fun _ s => Awaiting command before marked (keys i s) ∧ False) :=
          Contract.Raises.widen
            (Contract.Raises.cancelAfter (hrenew current) (hplain.kept_known current)) hF
        refine Contract.Raises.bind (R := fun _ s => Known current s ∧
          Awaiting command before marked (keys i s)) ?_ hfailed fun _ => ?_
        · exact hcut.conseq (fun _ _ h => ⟨h.2, h.1, h.1⟩) (fun _ _ _ h => ⟨h.2, h.1⟩)
            (fun _ _ _ h => h.2.elim)
        · exact settled_meets hmark current flight _
      · exact settled_meets hmark current flight _

theorem unsent_or_dispatching {state : AgentCallState} (h : Legal state .readyToDispatch) :
    state.isUnsent = true ∨ state = .dispatching := by
  cases state <;> first
    | exact .inl rfl
    | exact .inr rfl
    | exact absurd h (by decide)

theorem retryDispatch_meets :
    Plainly (dispatchContract terms i c) (fun s => FailedNotes (keys i s) ∧ Known record s)
      (retryDispatch terms worker record invocation) (fun _ _ => True) := by
  have hplain : PlainRules (quietContract terms i c) false i Ordinary (Inspects terms) :=
    dispatch_plain
  have hfailed : (dispatchContract terms i c).Stable (fun s => FailedNotes (keys i s)) :=
    dispatch_stable_keys FailedNotes
  have hbeside (record : AgentCallLedgerRecord) (workerId : String) :
      Plainly (dispatchContract terms i c) (fun s => FailedNotes (keys i s) ∧ Known record s)
        (readClock workerId) (fun _ s => FailedNotes (keys i s) ∧ Known record s) :=
    quietly (hplain.clockBeside (hplain.kept_known record) workerId) FailedNotes
  have hboth (record : AgentCallLedgerRecord) : (dispatchContract terms i c).Stable
      (fun s => FailedNotes (keys i s) ∧ Known record s) :=
    hfailed.and (dispatch_kept_known record).stable
  have htrue := Contract.Stable.const (C := dispatchContract terms i c) True
  unfold retryDispatch
  refine Plainly.bind (quietly (hplain.reloads worker record) FailedNotes) fun latest => ?_
  refine Plainly.bind (quietly (hplain.renewAndVerify worker latest) FailedNotes) fun found => ?_
  cases found with
  | none =>
      exact Plainly.finish (hfailed.and (.all fun _ => .imp nofun))
  | some renewed =>
      refine Plainly.pre (P := fun s => FailedNotes (keys i s) ∧ Known renewed s) ?_
        fun _ _ h => ⟨h.1, (h.2 renewed rfl).known⟩
      simp only
      split
      · exact (loosely (hplain.terminalCall terms worker renewed invocation _ _)).pre
          fun _ _ h => h.2
      · next hspare =>
          refine Plainly.bind (hbeside renewed _) fun updatedAt => ?_
          refine Plainly.bind (hbeside renewed _) fun now => ?_
          refine Plainly.bind (Plainly.ledgerStep (hboth renewed)) fun retry => ?_
          refine Plainly.given (fun _ _ hstep => hstep.1) fun hstep => ?_
          obtain ⟨hlegal, -⟩ := transitionCall_eq_ok.mp hstep
          obtain ⟨hsucceeds, hstate, hattempts⟩ := transitionCall_succeeds hstep
          refine Plainly.bind (R := fun _ _ => True) ?_ fun outcome => Plainly.finish htrue
          rcases unsent_or_dispatching hlegal with hunsent | hdispatching
          · have hfollows : MayFollow renewed retry :=
              fun _ => transitionCall_ordinary hstep rfl nofun fun _ => hunsent
            exact (loosely hplain.stores.drop).pre fun _ _ h => ⟨hfollows, h.2.2⟩
          · have hback : IsReturn renewed retry := ⟨hdispatching, hstate⟩
            refine (takeBack_cas hback hsucceeds hattempts ?_).pre fun _ _ h => h.2
            rw [hattempts, hsucceeds.policy]
            exact Nat.lt_of_not_le hspare

theorem dispatchMarked_meets {materialized : List MaterializedResourcePart}
    {push : Option A2APushRegistration} (hmark : IsMark before marked)
    (hstep : LeaseStep marked record) :
    Plainly (dispatchContract terms i c)
      (fun s => keys i s = [.stored before marked] ∧ Known record s ∧ Held i record s)
      (dispatchMarked terms worker record materialized push invocation) (fun _ _ => True) := by
  have hplain : PlainRules (quietContract terms i c) false i Ordinary (Inspects terms) :=
    dispatch_plain
  have hknown : (dispatchContract terms i c).Kept (Known record) := dispatch_kept_known record
  have htrue := Contract.Stable.const (C := dispatchContract terms i c) True
  have hkept : (quietContract terms i c).Kept (fun s => Known record s ∧ Held i record s) :=
    (hplain.kept_known record).and (hplain.kept_held record)
  obtain ⟨owner, expiresAt, nextAttemptAt, updatedAt, hrecord⟩ := hstep
  have hdispatching : record.state = .dispatching := by
    rw [hrecord]
    exact hmark.2
  have hless : marked.stateVersion < record.stateVersion := by
    rw [hrecord]
    exact Nat.lt_succ_self _
  refine Plainly.given (fun s (hs : DispatchInv terms s) h => hs.ledger.snapshot record h.2.1) ?_
  intro hsnapshot
  have hnames : (Contact.dispatch (dispatchCommand terms record materialized
      (push.map (·.config)))).NamesCall terms :=
    ⟨congrArg (·.commandId) hsnapshot, congrArg (·.messageId) hsnapshot⟩
  unfold dispatchMarked
  simp only
  refine Plainly.bind (quietly (((hplain.runBlocks worker).drop).beside hkept)
    (· = [CallNote.stored before marked])) fun blocked => ?_
  split
  · exact Plainly.throw
  · have hcaught : Plainly (dispatchContract terms i c)
        (fun s => Known record s ∧ Known record s ∧ keys i s = [.stored before marked] ∧
          Held i record s)
        (Raising.attempt (runFencedDispatch worker record
          (dispatchCommand terms record materialized (push.map (·.config)))))
        (fun result s => Known record s ∧ Contract.Ends (fun ended => Known ended.2)
          (fun error s => error = .transport → Failed i s) result s) :=
      Plainly.keep (Contract.Raises.attempt
        (runFencedDispatch_meets hmark hdispatching hless hnames)
        (fun ended => (dispatch_kept_known ended.2).stable)
        (fun _ => .imp fun _ => stable_failed)) hknown
    refine Plainly.bind (hcaught.pre fun _ _ h => ⟨h.2.1.1, h.2.1.1, h.1, h.2.1.2⟩)
      fun result => ?_
    split
    · next receipt current =>
        exact (loosely (hplain.storeReceipt terms worker current invocation receipt)).pre
          fun _ _ h => h.2
    · refine Plainly.bind ((loosely (hplain.reloads worker record)).pre fun _ _ h => h.1)
        fun latest => ?_
      refine Plainly.bind (loosely (hplain.renewAndVerify worker latest)) fun found => ?_
      cases found with
      | none => exact Plainly.finish (.all fun _ => .imp nofun)
      | some renewed =>
          exact (loosely (hplain.terminalCall terms worker renewed invocation _ _)).pre
            fun _ _ hleased => (hleased renewed rfl).known
    · exact retryDispatch_meets.pre fun _ _ h => ⟨h.2 rfl, h.1⟩
    · split
      · refine Plainly.bind ((loosely (hplain.reloads worker record)).pre fun _ _ h => h.1)
          fun latest => ?_
        refine Plainly.bind (loosely (hplain.renewAndVerify worker latest)) fun found => ?_
        cases found with
        | none => exact Plainly.finish (.all fun _ => .imp nofun)
        | some renewed =>
            refine Plainly.bind ((loosely (hplain.leaveUncertain worker renewed none)).pre
              fun _ _ hleased => (hleased renewed rfl).known) fun left => ?_
            exact Plainly.finish htrue
      · exact Plainly.throw

theorem sendPrepared_meets {materialized : List MaterializedResourcePart}
    (howner : record.claimOwner = some worker.workerId) :
    Plainly (dispatchContract terms i c) (fun s => keys i s = [] ∧ Known record s)
      (sendPrepared terms worker record materialized invocation) (fun _ _ => True) := by
  have hplain : PlainRules (quietContract terms i c) false i Ordinary (Inspects terms) :=
    dispatch_plain
  have hkeys : (dispatchContract terms i c).Stable (fun s => keys i s = []) :=
    dispatch_stable_keys (· = [])
  have htrue := Contract.Stable.const (C := dispatchContract terms i c) True
  unfold sendPrepared
  refine Plainly.bind (quietly (hplain.makeReady worker record _ howner) (· = [])) fun found => ?_
  cases found with
  | none => exact Plainly.finish (hkeys.and (.all fun _ => .imp nofun))
  | some ready =>
      refine Plainly.given (fun _ _ h => (h.2 ready rfl).2) fun hready => ?_
      refine Plainly.pre (P := fun s => keys i s = [] ∧ Known ready s) ?_
        fun _ _ h => ⟨h.1, (h.2 ready rfl).1⟩
      have hkept := hplain.kept_known ready
      simp only
      split
      · refine Plainly.bind ((loosely (hplain.releaseClaim worker ready)).pre fun _ _ h => h.2)
          fun released => Plainly.finish htrue
      · next hunready =>
        have hstate : ready.state = .readyToDispatch := not_not.mp hunready
        refine Plainly.bind (quietly (hplain.issuePush worker ready hkept) (· = []))
          fun push => ?_
        refine Plainly.bind (quietly ((hplain.clock worker.workerId).beside hkept) (· = []))
          fun updatedAt => ?_
        have hread : (dispatchContract terms i c).Stable
            (fun s => (i, .read worker.workerId updatedAt) ∈ s.record) :=
          (dispatch_kept_entry _).stable
        have hbefore := hkeys.and ((dispatch_kept_known ready).stable.and hread)
        refine Plainly.bind (Plainly.ledgerStep hbefore) fun dispatching => ?_
        refine Plainly.given (fun _ _ hstep => hstep.1) fun hstep => ?_
        obtain ⟨hsucceeds, hmarked, hattempts⟩ := transitionCall_succeeds hstep
        obtain ⟨-, hdispatching⟩ := transitionCall_eq_ok.mp hstep
        have hmark : IsMark ready dispatching := ⟨hstate, hmarked⟩
        have hmine : dispatching.claimOwner = some worker.workerId := by
          rw [hdispatching]
          exact hready
        have htime : dispatching.updatedAt = updatedAt := by rw [hdispatching]
        refine Plainly.bind ((mark_cas hmark hsucceeds hattempts hmine).pre
          fun _ _ h => ⟨h.2.1, h.2.2.1, htime ▸ h.2.2.2⟩) fun outcome => ?_
        have hnoted : (dispatchContract terms i c).Stable
            (fun s => keys i s = [.stored ready dispatching]) :=
          dispatch_stable_keys (· = [CallNote.stored ready dispatching])
        split
        · next hsettled =>
          refine Plainly.bind ((quietly (hplain.renewAndVerify worker dispatching)
            (· = [CallNote.stored ready dispatching])).pre fun _ _ h => h hsettled) fun found => ?_
          cases found with
          | none => exact Plainly.finish (hnoted.and (.all fun _ => .imp nofun))
          | some renewed =>
              refine Plainly.given (fun _ _ h => (h.2 renewed rfl).step) fun hlease => ?_
              exact (dispatchMarked_meets hmark hlease).pre
                fun _ _ h => ⟨h.1, (h.2 renewed rfl).known, (h.2 renewed rfl).held⟩
        · exact Plainly.finish (.imp fun _ => hnoted.and (dispatch_kept_known dispatching).stable)

/-! ## The executor -/

theorem executeClaimed_meets :
    Plainly (dispatchContract terms i c) (fun s => keys i s = [] ∧ Known record s)
      (executeClaimed terms worker record invocation) (fun _ _ => True) := by
  have hplain : PlainRules (quietContract terms i c) false i Ordinary (Inspects terms) :=
    dispatch_plain
  have hkeys : (dispatchContract terms i c).Stable (fun s => keys i s = []) :=
    dispatch_stable_keys (· = [])
  have htrue := Contract.Stable.const (C := dispatchContract terms i c) True
  unfold executeClaimed
  split
  · refine Plainly.bind ((loosely (hplain.leaveUncertain worker record _)).pre fun _ _ h => h.2)
      fun left => Plainly.finish htrue
  · split
    · refine Plainly.bind ((loosely (hplain.releaseClaim worker record)).pre fun _ _ h => h.2)
        fun released => Plainly.finish htrue
    · have hauthorized := hplain.releasing worker record
        (hplain.authorizeDispatch terms worker record invocation)
        (fun _ => .all fun _ => .all fun renewed => .imp fun _ =>
          (hplain.kept_leased _ _ renewed).stable)
      refine Plainly.bind (quietly hauthorized (· = [])) fun found => ?_
      split
      · exact Plainly.finish (hkeys.and (.all fun _ => .all fun _ => .imp nofun))
      · next decision renewed =>
        have hmaterialized := hplain.releasing worker renewed
          (hplain.materializeDispatch terms worker renewed invocation decision)
          (fun _ => .all fun _ => .all fun prepared => .imp fun _ =>
            (hplain.kept_leased _ _ prepared).stable)
        refine Plainly.bind ((quietly hmaterialized (· = [])).pre
          fun _ _ h => ⟨h.1, (h.2 decision renewed rfl).known⟩) fun found => ?_
        split
        · exact Plainly.finish (hkeys.and (.all fun _ => .all fun _ => .imp nofun))
        · next materialized prepared =>
          refine Plainly.given (fun _ _ h => (h.2 materialized prepared rfl).owner) fun howner => ?_
          exact (sendPrepared_meets howner).pre
            fun _ _ h => ⟨h.1, (h.2 materialized prepared rfl).known⟩

theorem executeAccepted_meets (acceptance : ToolAcceptance) :
    Plainly (dispatchContract terms i c) (fun s => keys i s = [])
      (executeAccepted terms worker invocation acceptance) (fun _ _ => True) := by
  have hplain : PlainRules (quietContract terms i c) false i Ordinary (Inspects terms) :=
    dispatch_plain
  have hkeys : (dispatchContract terms i c).Stable (fun s => keys i s = []) :=
    dispatch_stable_keys (· = [])
  have htrue := Contract.Stable.const (C := dispatchContract terms i c) True
  unfold executeAccepted
  refine Plainly.bind ((quietly hplain.load (· = [])).pre fun _ _ h => ⟨h, trivial⟩)
    fun found => ?_
  cases found with
  | none => exact Plainly.finish (hkeys.and (.all fun _ => .imp nofun))
  | some record =>
      have hkept := hplain.kept_known record
      refine Plainly.pre (P := fun s => keys i s = [] ∧ Known record s) ?_
        fun _ _ h => ⟨h.1, h.2 record rfl⟩
      simp only
      split
      · exact Plainly.finish (hkeys.and (dispatch_kept_known record).stable)
      · split
        · exact (loosely (hplain.finalizedTerminalOrSuspension record invocation hkept)).pre
            fun _ _ h => h.2
        · refine Plainly.bind (quietly (hplain.asksBeside hkept _) (· = [])) fun checkpointed => ?_
          refine Plainly.bind (quietly (hplain.asksBeside hkept _) (· = [])) fun cancelled => ?_
          split
          · exact Plainly.finish (hkeys.and (dispatch_kept_known record).stable)
          · refine Plainly.bind (quietly (hplain.clockBeside hkept _) (· = [])) fun now => ?_
            refine Plainly.bind (quietly (hplain.claim record worker.workerId
              (now + worker.policy.claimLease) now) (· = [])) fun found => ?_
            cases found with
            | none =>
                exact (loosely (hplain.persistedOutcomeOrSuspension invocation)).pre
                  fun _ _ _ => trivial
            | some claimed =>
                exact executeClaimed_meets.pre fun _ _ h => ⟨h.1, (h.2 claimed rfl).known⟩

theorem execute_meets (acceptance : ToolAcceptance) :
    Plainly (dispatchContract terms i c) (fun s => keys i s = [])
      (execute terms worker invocation acceptance) (fun _ _ => True) := by
  have htrue := Contract.Stable.const (C := dispatchContract terms i c) True
  unfold execute
  refine Plainly.bind (Plainly.drop (Plainly.attempt (executeAccepted_meets acceptance)
    fun _ => htrue)) fun result => ?_
  cases result with
  | ok outcome => exact Plainly.finish htrue
  | error error =>
      simp only
      split
      · exact Plainly.finish htrue
      · exact Plainly.throw

theorem recoverDispatch_meets :
    Plainly (dispatchContract terms i c) (fun s => keys i s = [])
      (recoverDispatch terms worker invocation) (fun _ _ => True) := by
  have hplain : PlainRules (quietContract terms i c) false i Ordinary (Inspects terms) :=
    dispatch_plain
  have htrue := Contract.Stable.const (C := dispatchContract terms i c) True
  unfold recoverDispatch
  refine Plainly.bind ((quietly hplain.load.drop (· = [])).pre fun _ _ h => ⟨h, trivial⟩)
    fun found => ?_
  split
  · exact Plainly.throw
  · exact Plainly.bind ((execute_meets terms.acceptance).pre fun _ _ h => h.1) fun outcome =>
      Plainly.finish htrue

/-! ## The recovery service -/

variable {service : RecoveryService} {runtime : CallWorker} {now : Timestamp}

theorem recoverThroughRun_meets :
    Plainly (dispatchContract terms i c) (fun s => keys i s = [])
      (recoverThroughRun terms runtime) (fun _ _ => True) := by
  have hplain : PlainRules (quietContract terms i c) false i Ordinary (Inspects terms) :=
    dispatch_plain
  unfold recoverThroughRun
  refine Plainly.bind ((quietly (hplain.asks .readInvocation) (· = [])).pre
    fun _ _ h => ⟨h, trivial⟩) fun found => ?_
  cases found with
  | none => exact Plainly.throw
  | some invocation => exact recoverDispatch_meets.pre fun _ _ h => h.1

theorem releaseAndRecover_meets :
    Plainly (dispatchContract terms i c) (fun s => keys i s = [] ∧ Known record s)
      (releaseAndRecover terms service runtime now record) (fun _ _ => True) := by
  have hplain : PlainRules (quietContract terms i c) false i Ordinary (Inspects terms) :=
    dispatch_plain
  have hkeys : (dispatchContract terms i c).Stable (fun s => keys i s = []) :=
    dispatch_stable_keys (· = [])
  have htrue := Contract.Stable.const (C := dispatchContract terms i c) True
  unfold releaseAndRecover
  refine Plainly.bind (quietly (hplain.releaseAt service now record now) (· = [])) fun found => ?_
  cases found with
  | none => exact Plainly.finish (hkeys.and (.all fun _ => .imp nofun))
  | some released =>
      have hknown : (dispatchContract terms i c).Kept (Known released) :=
        dispatch_kept_known released
      refine Plainly.bind (((Plainly.attempt recoverThroughRun_meets fun _ => htrue).keep
        hknown).pre fun _ _ h => ⟨(h.2 released rfl).known, h.1⟩) fun result => ?_
      cases result with
      | ok done => exact Plainly.finish (hknown.stable.and (.all fun _ => .imp fun _ => htrue))
      | error error =>
          simp only
          split
          · refine Plainly.bind ((loosely (hplain.reschedule now released _)).pre
              fun _ _ h => h.1) fun scheduled => Plainly.finish htrue
          · exact Plainly.throw

theorem recoverByState_meets (checkpointed : Bool) :
    Plainly (dispatchContract terms i c) (fun s => keys i s = [] ∧ Known record s)
      (recoverByState terms service runtime now record checkpointed) (fun _ _ => True) := by
  have hplain : PlainRules (quietContract terms i c) false i Ordinary (Inspects terms) :=
    dispatch_plain
  have hreleased (at' : Timestamp) : Plainly (dispatchContract terms i c)
      (fun s => keys i s = [] ∧ Known record s) (releasedAt service now record at')
      (fun _ _ => True) :=
    (loosely (hplain.releasedAt service now record at')).pre fun _ _ h => h.2
  refine Plainly.given (fun s (hs : DispatchInv terms s) h => hs.ledger.snapshot record h.2) ?_
  intro hsnapshot
  have hinspects : Inspects terms (.inspect (dispatchCommand terms record [] none)) :=
    ⟨⟨congrArg (·.commandId) hsnapshot, congrArg (·.messageId) hsnapshot⟩, _, rfl⟩
  unfold recoverByState
  split
  · unfold recoverAccepted
    simp only
    split
    · exact releaseAndRecover_meets
    · split
      · exact (loosely (hplain.expireCall terms service now record _)).pre fun _ _ h => h.2
      · exact hreleased _
  · unfold recoverReady
    split
    · exact releaseAndRecover_meets
    · exact hreleased _
  · exact (loosely (hplain.recoverDispatching now record)).pre fun _ _ h => h.2
  · exact (loosely (hplain.inspectCall terms service now record hinspects)).pre fun _ _ h => h.2
  · exact (loosely (hplain.inspectCall terms service now record hinspects)).pre fun _ _ h => h.2
  · exact (loosely (hplain.inspectCall terms service now record hinspects)).pre fun _ _ h => h.2
  · exact hreleased _

theorem recoverClaimed_meets :
    Plainly (dispatchContract terms i c) (fun s => keys i s = [] ∧ Known record s)
      (recoverClaimed terms service runtime now record) (fun _ _ => True) := by
  have hplain : PlainRules (quietContract terms i c) false i Ordinary (Inspects terms) :=
    dispatch_plain
  have hkeys : (dispatchContract terms i c).Stable (fun s => keys i s = []) :=
    dispatch_stable_keys (· = [])
  have hkept := hplain.kept_known record
  have hexpired (code : String) : Plainly (dispatchContract terms i c)
      (fun s => keys i s = [] ∧ Known record s) (expireCall terms service now record code)
      (fun _ _ => True) :=
    (loosely (hplain.expireCall terms service now record code)).pre fun _ _ h => h.2
  unfold recoverClaimed
  refine Plainly.bind (quietly (hplain.asksBeside hkept _) (· = [])) fun active => ?_
  split
  · exact hexpired _
  · split
    · exact hexpired _
    · refine Plainly.bind (quietly (hplain.asksBeside hkept _) (· = [])) fun checkpointed => ?_
      refine Plainly.bind (quietly (hplain.renewLease service record now) (· = [])) fun found => ?_
      cases found with
      | none => exact Plainly.finish (hkeys.and (.all fun _ => .imp nofun))
      | some renewed =>
          exact (recoverByState_meets checkpointed).pre fun _ _ h => ⟨h.1, (h.2 renewed rfl).known⟩

theorem recoverCall_meets :
    Plainly (dispatchContract terms i c) (fun s => keys i s = [])
      (recoverCall terms service runtime now record) (fun _ _ => True) := by
  have hplain : PlainRules (quietContract terms i c) false i Ordinary (Inspects terms) :=
    dispatch_plain
  have hkeys : (dispatchContract terms i c).Stable (fun s => keys i s = []) :=
    dispatch_stable_keys (· = [])
  unfold recoverCall
  refine Plainly.bind ((quietly hplain.load (· = [])).pre fun _ _ h => ⟨h, trivial⟩)
    fun found => ?_
  cases hfound : found.filter (·.stateVersion = record.stateVersion) with
  | none =>
      simp only
      exact Plainly.finish (hkeys.and (.all fun record => .imp fun _ =>
        (dispatch_kept_known record).stable))
  | some current =>
      have hloaded : found = some current := (Option.filter_eq_some_iff.mp hfound).1
      have hkept := hplain.kept_known current
      refine Plainly.pre (P := fun s => keys i s = [] ∧ Known current s) ?_
        fun _ _ h => ⟨h.1, h.2 current hloaded⟩
      simp only
      refine Plainly.bind (quietly ((hplain.runBlocks _).beside hkept) (· = [])) fun blocked => ?_
      have hbeside : (dispatchContract terms i c).Stable
          (fun s => keys i s = [] ∧ Known current s ∧ True) :=
        hkeys.and ((dispatch_kept_known current).stable.and (Contract.Stable.const True))
      split
      · exact Plainly.finish hbeside
      · split
        · exact Plainly.finish hbeside
        · refine Plainly.bind ((quietly (hplain.claim current service.workerId
            (now + service.policy.claimLease) now) (· = [])).pre
              fun _ _ h => ⟨h.1, h.2.1⟩) fun found => ?_
          cases found with
          | none => exact Plainly.finish (hkeys.and (.all fun _ => .imp nofun))
          | some claimed =>
              exact recoverClaimed_meets.pre fun _ _ h => ⟨h.1, (h.2 claimed rfl).known⟩

end Programs

/-! ## Every reachable configuration -/

variable {terms : CallTerms}

theorem FreshCall.dispatchInv {s : SharedCall} (h : FreshCall terms s) : DispatchInv terms s := by
  have hnone (entry : Nat × CallNote) : entry ∉ s.record := by
    rw [h.record]
    exact List.not_mem_nil
  have honly (record : AgentCallLedgerRecord) (hmem : record ∈ s.ledger.history) :
      record = s.ledger.current := by
    rcases mem_history.mp hmem with hcurrent | hearlier
    · exact hcurrent
    · rw [h.earlier] at hearlier
      cases hearlier
  have hnotMarked (i : Nat) (before marked : AgentCallLedgerRecord) :
      ¬ Marked i s.record before marked := fun hmarked => hnone _ hmarked.1
  refine {
    ledger := ?_
    held := fun _ _ hmem => absurd hmem (hnone _)
    readings := fun _ _ _ _ hmem => absurd hmem (hnone _)
    marks := fun _ _ _ hmarked => absurd hmarked (hnotMarked _ _ _)
    apart := fun _ _ _ _ _ _ hmarked => absurd hmarked (hnotMarked _ _ _)
    counted := ?_
    written := ?_
    returned := fun _ _ _ hmarked => absurd hmarked (hnotMarked _ _ _)
    unreached := fun _ ⟨_, _, hmem, _⟩ => absurd hmem (hnone _)
    named := fun _ _ _ hmem => absurd hmem (hnone _)
    proper := ?_ }
  · refine ⟨?_, ?_, ?_, ?_, ?_, ?_, ?_⟩
    · exact fun record hmem => (honly record hmem) ▸ Nat.le_refl _
    · exact fun first hfirst second hsecond _ => (honly first hfirst).trans (honly second hsecond).symm
    · exact fun record hmem => (honly record hmem) ▸ h.snapshot
    · exact fun record hmem => (honly record hmem) ▸ rfl
    · intro older holder newer hnewer _ hstopped
      rw [honly newer hnewer, ← honly older holder]
      exact hstopped
    · rw [h.attempts]
      exact Nat.zero_le _
    · intro _
      rw [h.attempts]
      exact h.mayAttempt
  · rw [h.record]
    exact Nat.zero_le _
  · intro before marked hbefore hmarked _ hversion
    rw [honly before hbefore, honly marked hmarked] at hversion
    omega
  · rw [h.record]
    exact throughout_nil

theorem Extends.own_eq {i j : Nat} {s s' : SharedCall} (h : Extends j s s') (hother : j ≠ i) :
    own i s'.record = own i s.record := by
  obtain ⟨⟨notes, hrecord⟩, -⟩ := h
  rw [hrecord, own_map_append_of_ne hother]

theorem dispatch_proof : (dispatchSystem terms false).Proof (DispatchInv terms)
    (fun j _ => Extends j) (fun i s => own i s.record = []) (fun _ _ _ _ => True) where
  starts := by
    intro s hfresh
    refine ⟨FreshCall.dispatchInv hfresh, ?_⟩
    intro i
    rw [FreshCall.record hfresh]
    rfl
  environment := by
    rintro s s' hinv ⟨next, hnext, rfl⟩
    exact hinv.elsewhere hnext
  staysFresh := by
    rintro i s s' - (⟨next, -, rfl⟩ | ⟨j, d, hother, hextends⟩) - hfresh
    · exact hfresh
    · rw [hextends.own_eq hother]
      exact hfresh
  body := by
    intro i c
    have hkeys (s : SharedCall) (hfresh : own i s.record = []) : keys i s = [] := by
      unfold keys
      rw [hfresh]
      rfl
    have hrun {α : Type} {p : CallProg α} (hp : Plainly (dispatchContract terms i c)
        (fun s => keys i s = []) p (fun _ _ => True)) :
        (dispatchContract terms i c).Triple (fun s => own i s.record = [] ∧ True)
          (p.run >>= fun _ => pure ()) (fun _ _ => True) := by
      refine Contract.Triple.bind (fun _ _ => True) ?_ ?_
      · refine Contract.Triple.conseq hp (fun s _ h => hkeys s h.1) ?_
        exact fun _ _ _ _ => trivial
      · exact fun _ => Contract.Triple.done (Contract.Stable.const True) fun _ _ _ => trivial
    cases c with
    | execute worker invocation acceptance => exact hrun (execute_meets acceptance)
    | recoverDispatch worker invocation => exact hrun recoverDispatch_meets
    | recoverCall service runtime record now => exact hrun recoverCall_meets
  staysReturned := fun _ _ _ => Contract.Stable.const True

theorem reachable_dispatchInv {cfg : Config (dispatchSystem terms false)}
    (h : (dispatchSystem terms false).Reachable cfg) : DispatchInv terms cfg.shared :=
  (h.sound dispatch_proof).shared

end Hybro.A2ARuntime
