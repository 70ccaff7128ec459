import Hybro.A2ARuntime.LeaseRules

/-! # Dispatching one call

The runs of the executor and of call recovery on one accepted call, and the invariant
of the call and of the record of a run. A write is ordinary unless it marks the call as
dispatching or takes such a mark back; nobody but the executor writes the other two.
-/

namespace Hybro.A2ARuntime

open Orchestrator Interleaving RunRecord

/-! ## Writes -/

def AgentCallState.isUnsent : AgentCallState → Bool
  | .accepted | .readyToDispatch => true
  | _ => false

def AgentCallState.isStopped (state : AgentCallState) : Bool :=
  state = .cancelPending || state.isTerminal

def IsMark (record next : AgentCallLedgerRecord) : Prop :=
  record.state = .readyToDispatch ∧ next.state = .dispatching

def IsReturn (record next : AgentCallLedgerRecord) : Prop :=
  record.state = .dispatching ∧ next.state = .readyToDispatch

instance (record next : AgentCallLedgerRecord) : Decidable (IsMark record next) :=
  inferInstanceAs (Decidable (_ ∧ _))

instance (record next : AgentCallLedgerRecord) : Decidable (IsReturn record next) :=
  inferInstanceAs (Decidable (_ ∧ _))

/-- What every write of a call leaves alone, and how it moves the version and the state. -/
structure Succeeds (record next : AgentCallLedgerRecord) : Prop where
  version : next.stateVersion = record.stateVersion + 1
  policy : next.runtimePolicy = record.runtimePolicy
  snapshot : next.dispatchSnapshot = record.dispatchSnapshot
  state : next.state = record.state ∨ Legal record.state next.state

structure Ordinary (record next : AgentCallLedgerRecord) : Prop extends Succeeds record next where
  attempts : next.transportAttempts = record.transportAttempts
  unmarked : next.state = .dispatching → record.state = .dispatching
  unreturned : next.state = .readyToDispatch → record.state.isUnsent = true

variable {record next : AgentCallLedgerRecord}

theorem Ordinary.not_isMark (h : Ordinary record next) : ¬ IsMark record next := by
  rintro ⟨hready, hdispatching⟩
  have hbefore := h.unmarked hdispatching
  rw [hready] at hbefore
  cases hbefore

theorem Ordinary.not_isReturn (h : Ordinary record next) : ¬ IsReturn record next := by
  rintro ⟨hdispatching, hready⟩
  have hbefore := h.unreturned hready
  rw [hdispatching] at hbefore
  cases hbefore

theorem not_legal_accepted (source : AgentCallState) : ¬ Legal source .accepted := by
  cases source <;> decide

theorem Ordinary.unsent (h : Ordinary record next) (hnext : next.state.isUnsent = true) :
    record.state.isUnsent = true := by
  cases hstate : next.state with
  | accepted =>
      rcases h.state with hsame | hlegal
      · rw [← hsame]
        exact hnext
      · rw [hstate] at hlegal
        exact absurd hlegal (not_legal_accepted _)
  | readyToDispatch => exact h.unreturned hstate
  | _ =>
      rw [hstate] at hnext
      cases hnext

theorem Succeeds.stopped (h : Succeeds record next) (hstopped : record.state.isStopped = true) :
    next.state.isStopped = true := by
  rcases h.state with hsame | hlegal
  · rw [hsame]
    exact hstopped
  · cases hterminal : record.state.isTerminal with
    | true => exact absurd hlegal (not_legal_of_terminal hterminal)
    | false =>
        have hpending : record.state = .cancelPending := by
          simpa [AgentCallState.isStopped, hterminal] using hstopped
        rw [hpending] at hlegal
        rw [eq_canceled_of_legal hlegal]
        rfl

theorem ordinary_of_state (hversion : next.stateVersion = record.stateVersion + 1)
    (hpolicy : next.runtimePolicy = record.runtimePolicy)
    (hsnapshot : next.dispatchSnapshot = record.dispatchSnapshot)
    (hattempts : next.transportAttempts = record.transportAttempts)
    (hstate : next.state = record.state) : Ordinary record next := by
  refine ⟨⟨hversion, hpolicy, hsnapshot, .inl hstate⟩, hattempts, ?_, ?_⟩
  · exact hstate.symm.trans
  · intro hready
    rw [hstate.symm.trans hready]
    rfl

theorem LeaseStep.ordinary (h : LeaseStep record next) : Ordinary record next := by
  obtain ⟨owner, expiresAt, nextAttemptAt, updatedAt, rfl⟩ := h
  exact ordinary_of_state rfl rfl rfl rfl rfl

theorem transitionCall_succeeds {toState : AgentCallState} {updatedAt : Timestamp}
    {updates : CallUpdates} (h : transitionCall record toState updatedAt updates = .ok next) :
    Succeeds record next ∧ next.state = toState ∧
      next.transportAttempts = updates.transportAttempts.getD record.transportAttempts := by
  obtain ⟨hlegal, rfl⟩ := transitionCall_eq_ok.mp h
  refine ⟨⟨rfl, ?_, ?_, .inr hlegal⟩, rfl, ?_⟩ <;>
    · unfold CallUpdates.closing
      split <;> rfl

theorem transitionCall_ordinary {toState : AgentCallState} {updatedAt : Timestamp}
    {updates : CallUpdates} (h : transitionCall record toState updatedAt updates = .ok next)
    (hattempts : updates.transportAttempts = none) (hmark : toState ≠ .dispatching)
    (hreturn : toState = .readyToDispatch → record.state.isUnsent = true) :
    Ordinary record next := by
  obtain ⟨hsucceeds, hstate, hcount⟩ := transitionCall_succeeds h
  refine ⟨hsucceeds, ?_, ?_, ?_⟩
  · rw [hcount, hattempts]
    rfl
  · intro hdispatching
    exact absurd (hstate.symm.trans hdispatching) hmark
  · intro hready
    exact hreturn (hstate.symm.trans hready)

theorem Applied.ordinary {resultDigest : ToolResult → String}
    {observation : NormalizedA2AObservation} {recentLimit : Nat}
    (h : Applied resultDigest record observation recentLimit next)
    (hchanged : next.stateVersion = record.stateVersion + 1) : Ordinary record next := by
  cases h with
  | ignored => omega
  | asked hnoted hkind hmove => exact transitionCall_ordinary hmove rfl nofun nofun
  | started hnoted hkind hmove => exact transitionCall_ordinary hmove rfl nofun nofun
  | progressed hnoted hcancel hkind => exact ordinary_of_state rfl rfl rfl rfl rfl
  | ended hnoted hkind hstatus hmove =>
      rename_i status
      refine transitionCall_ordinary hmove rfl ?_ ?_
      · cases status <;> nofun
      · cases status <;> nofun

/-! ## Runs -/

inductive DispatchCall
  | execute (worker : CallWorker) (invocation : ToolInvocation) (acceptance : ToolAcceptance)
  | recoverDispatch (worker : CallWorker) (invocation : ToolInvocation)
  | recoverCall (service : RecoveryService) (runtime : CallWorker)
      (record : AgentCallLedgerRecord) (now : Timestamp)

/-- The program of a call; what it returns or raises goes to its caller. -/
def dispatchBody (terms : CallTerms) : DispatchCall → Prog CallOp CallOp.Res Unit
  | .execute worker invocation acceptance => do
      let _ ← (execute terms worker invocation acceptance).run
      return ()
  | .recoverDispatch worker invocation => do
      let _ ← (recoverDispatch terms worker invocation).run
      return ()
  | .recoverCall service runtime record now => do
      let _ ← (recoverCall terms service runtime now record).run
      return ()

structure FreshCall (terms : CallTerms) (s : SharedCall) : Prop where
  record : s.record = []
  earlier : s.ledger.earlier = []
  state : s.ledger.current.state = .accepted
  attempts : s.ledger.current.transportAttempts = 0
  snapshot : s.ledger.current.dispatchSnapshot = terms.snapshot
  mayAttempt : 0 < s.ledger.current.runtimePolicy.maxTransportAttempts

/-- Anybody else writes an ordinary successor. -/
def WrittenElsewhere (s s' : SharedCall) : Prop :=
  ∃ next, Ordinary s.ledger.current next ∧ s' = { s with ledger := s.ledger.write next }

def dispatchSystem (terms : CallTerms) (repeats : Bool) : System CallOp CallOp.Res where
  State := SharedCall
  Call := DispatchCall
  Result := Unit
  exec i _ op s reply s' := op.Outcome repeats i s reply s'
  environment := WrittenElsewhere
  admits _ _ := True
  body _ := dispatchBody terms
  initial := FreshCall terms

end Hybro.A2ARuntime
