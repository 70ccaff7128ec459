import Hybro.A2ARuntime.ExecutionRules
import Hybro.A2ARuntime.ModelReply

/-! # Outcomes of a call

Any number of executions and model replies on one ledger record, which anybody else may
move on at any time. A call that has ended keeps its result.
-/

namespace Hybro.A2ARuntime

open Orchestrator Interleaving

/-! ## Records and results -/

/-- A result belongs to a call that has ended, is named as the call is and has a digest. -/
def OwnsResult (record : AgentCallLedgerRecord) : Prop :=
  ∀ result, record.terminalResult = some result →
    record.state.isTerminal = true ∧ result.callId = record.invocationId ∧
      result.toolName = record.toolName ∧ record.terminalResultDigest.isSome = true

structure KeepsResult (record next : AgentCallLedgerRecord) : Prop where
  version : next.stateVersion = record.stateVersion + 1
  invocationId : next.invocationId = record.invocationId
  toolName : next.toolName = record.toolName
  owns : OwnsResult next
  kept : ∀ result, record.terminalResult = some result → next.terminalResult = some result

def Moving (record next : AgentCallLedgerRecord) : Prop :=
  OwnsResult record → KeepsResult record next

/-- The result says of the call what the record says, under the ids of the invocation. -/
structure Reported (invocation : ToolInvocation) (record : AgentCallLedgerRecord)
    (result : ToolResult) : Prop where
  callId : result.callId = invocation.invocationId
  toolName : result.toolName = invocation.tool.definition.name
  terminal : record.state.isTerminal = true
  persisted : ∃ persisted, record.terminalResult = some persisted ∧
    result.status = persisted.status ∧ result.content = persisted.content ∧
    result.artifactRefs = persisted.artifactRefs ∧ result.errorCode = persisted.errorCode ∧
    result.errorMessage = persisted.errorMessage

def LocalRefusal (invocation : ToolInvocation) (result : ToolResult) : Prop :=
  result ∈ autoReplyLimitResult invocation ::
    ["call_ledger_missing", "join_target_not_interactive", "continuation_target_missing",
      "invalid_tool_call"].map (failedResult invocation .failed)

/-! ## Moves -/

section Moves

variable {record next : AgentCallLedgerRecord}

theorem moving_of_result (hversion : next.stateVersion = record.stateVersion + 1)
    (hinvocation : next.invocationId = record.invocationId)
    (htool : next.toolName = record.toolName) (hstate : next.state = record.state)
    (hresult : next.terminalResult = record.terminalResult)
    (hdigest : next.terminalResultDigest = record.terminalResultDigest) : Moving record next := by
  intro howns
  refine ⟨hversion, hinvocation, htool, ?_, fun result h => hresult.trans h⟩
  intro result h
  rw [hstate, hinvocation, htool, hdigest]
  exact howns result (hresult.symm.trans h)

theorem LeaseStep.moving (h : LeaseStep record next) : Moving record next := by
  obtain ⟨owner, expiresAt, nextAttemptAt, updatedAt, rfl⟩ := h
  exact moving_of_result rfl rfl rfl rfl rfl rfl

theorem transitionCall_moving {toState : AgentCallState} {updatedAt : Timestamp}
    {updates : CallUpdates} (h : transitionCall record toState updatedAt updates = .ok next)
    (hresult : ∀ result, updates.terminalResult = some (some result) →
      toState.isTerminal = true ∧ result.callId = record.invocationId ∧
        result.toolName = record.toolName ∧
        ∃ digest, updates.terminalResultDigest = some (some digest)) : Moving record next := by
  intro howns
  have hopen : record.terminalResult = none := by
    obtain ⟨hlegal, -⟩ := transitionCall_eq_ok.mp h
    cases hrecord : record.terminalResult with
    | none => rfl
    | some result => exact absurd hlegal (not_legal_of_terminal (howns result hrecord).1)
  have hnext : next.terminalResult = updates.terminalResult.getD none := by
    rw [transitionCall_terminalResult h, CallUpdates.overlay, hopen]
  obtain ⟨hinvocation, htool⟩ := transitionCall_names h
  refine ⟨(transitionCall_succeeds h).1.version, hinvocation, htool, ?_, ?_⟩
  · intro result heq
    have hupdate : updates.terminalResult = some (some result) := by
      cases hupdate : updates.terminalResult with
      | none => simp [hnext, hupdate] at heq
      | some update => simpa [hnext, hupdate] using heq
    obtain ⟨hterminal, hcall, hname, digest, hdigest⟩ := hresult result hupdate
    rw [transitionCall_state h, hinvocation, htool, transitionCall_terminalResultDigest h]
    exact ⟨hterminal, hcall, hname, by simp [CallUpdates.overlay, hdigest]⟩
  · intro result heq
    rw [hopen] at heq
    cases heq

theorem Applied.moving {resultDigest : ToolResult → String}
    {observation : NormalizedA2AObservation} {recentLimit : Nat}
    (h : Applied resultDigest record observation recentLimit next)
    (hchanged : next.stateVersion = record.stateVersion + 1) : Moving record next := by
  cases h with
  | ignored => omega
  | asked hnoted hkind hmove => exact transitionCall_moving hmove nofun
  | started hnoted hkind hmove => exact transitionCall_moving hmove nofun
  | progressed hnoted hcancel hkind => exact moving_of_result rfl rfl rfl rfl rfl rfl
  | ended hnoted hkind hstatus hmove =>
      refine transitionCall_moving hmove ?_
      rintro result ⟨⟩
      exact ⟨isTerminal_callStateOf _, rfl, rfl, _, rfl⟩

theorem Applied.of_terminal {resultDigest : ToolResult → String}
    {observation : NormalizedA2AObservation} {recentLimit : Nat}
    (h : Applied resultDigest record observation recentLimit next)
    (hterminal : record.state.isTerminal = true) : next = record := by
  have hopen {aliases : List A2AOwnershipAlias} (hnoted : Noted record observation aliases) :
      False := Bool.false_ne_true (hnoted.live.symm.trans hterminal)
  cases h with
  | ignored => rfl
  | asked hnoted | started hnoted | progressed hnoted | ended hnoted => exact (hopen hnoted).elim

theorem joinedCall_moving (invocation : ToolInvocation) (fingerprint commandId : String)
    (joinedAt updatedAt : Timestamp) :
    Moving record (joinedCall record invocation fingerprint commandId joinedAt updatedAt) :=
  moving_of_result rfl rfl rfl rfl rfl rfl

end Moves

/-! ## The ledger -/

structure CallNames where
  invocationId : String
  toolName : String

/-- Every record of the call bears its names, and a result once stored is never replaced. -/
structure CallInv (names : CallNames) (ledger : CallLedger) : Prop where
  named : ∀ record ∈ ledger.history,
    record.invocationId = names.invocationId ∧ record.toolName = names.toolName
  owns : ∀ record ∈ ledger.history, OwnsResult record
  older : ∀ record ∈ ledger.earlier, record.stateVersion < ledger.current.stateVersion
  unique : ∀ first ∈ ledger.history, ∀ second ∈ ledger.history,
    first.stateVersion = second.stateVersion → first = second
  kept : ∀ record ∈ ledger.history, ∀ result, record.terminalResult = some result →
    ledger.current.terminalResult = some result

variable {names : CallNames} {ledger : CallLedger} {record next : AgentCallLedgerRecord}
  {s s' : SharedCall}

theorem CallInv.write (h : CallInv names ledger) (hmove : Moving ledger.current next) :
    CallInv names (ledger.write next) := by
  have hcurrent : ledger.current ∈ ledger.history := List.mem_cons_self ..
  have hkeeps := hmove (h.owns _ hcurrent)
  have hversion := hkeeps.version
  have hless : ∀ record ∈ ledger.history, record.stateVersion < next.stateVersion := by
    intro record hmem
    rcases List.mem_cons.mp hmem with rfl | hearlier
    · omega
    · have hearlier := h.older record hearlier
      omega
  refine ⟨?_, ?_, hless, ?_, ?_⟩
  · intro record hmem
    rcases List.mem_cons.mp hmem with rfl | hmem
    · exact ⟨hkeeps.invocationId.trans (h.named _ hcurrent).1,
        hkeeps.toolName.trans (h.named _ hcurrent).2⟩
    · exact h.named record hmem
  · intro record hmem
    rcases List.mem_cons.mp hmem with rfl | hmem
    · exact hkeeps.owns
    · exact h.owns record hmem
  · intro first hfirst second hsecond hsame
    rcases List.mem_cons.mp hfirst with rfl | hfirst
    · rcases List.mem_cons.mp hsecond with rfl | hsecond
      · rfl
      · have hlater := hless second hsecond
        omega
    · rcases List.mem_cons.mp hsecond with rfl | hsecond
      · have hlater := hless first hfirst
        omega
      · exact h.unique first hfirst second hsecond hsame
  · intro record hmem result hresult
    rcases List.mem_cons.mp hmem with rfl | hmem
    · exact hresult
    · exact hkeeps.kept result (h.kept record hmem result hresult)

theorem CallInv.stored (h : CallInv names s.ledger) (hbase : Known record s)
    (hcurrent : s.ledger.current.stateVersion = record.stateVersion)
    (hmove : Moving record next) : CallInv names (s.ledger.write next) := by
  have hsame := h.unique _ (List.mem_cons_self ..) record hbase hcurrent
  exact h.write (hsame ▸ hmove)

theorem Reported.current {invocation : ToolInvocation} {result : ToolResult}
    (h : Reported invocation record result) (hinv : CallInv names s.ledger)
    (hknown : Known record s) : Reported invocation s.ledger.current result := by
  obtain ⟨persisted, hresult, hsame⟩ := h.persisted
  have hkept := hinv.kept record hknown persisted hresult
  have hterminal := (hinv.owns _ (List.mem_cons_self ..) persisted hkept).1
  exact ⟨h.callId, h.toolName, hterminal, persisted, hkept, hsame⟩

/-! ## Runs -/

inductive RuntimeCall
  | execute (worker : CallWorker) (invocation : ToolInvocation) (acceptance : ToolAcceptance)
  | modelReply (worker : CallWorker) (invocation : ToolInvocation)
      (interactionFingerprint : Option String)

def RuntimeCall.invocation : RuntimeCall → ToolInvocation
  | .execute _ invocation _ | .modelReply _ invocation _ => invocation

def RuntimeCall.isModelReply : RuntimeCall → Bool
  | .execute .. => false
  | .modelReply .. => true

def runtimeBody (terms : CallTerms) (interactions : InteractionTerms) :
    RuntimeCall → ReplyProg ToolExecutionOutcome
  | .execute worker invocation acceptance =>
      executeCall terms interactions worker invocation acceptance
  | .modelReply worker invocation interactionFingerprint =>
      dispatchModelReply terms interactions worker invocation interactionFingerprint

/-- What a port may answer and leave behind to a thread of this call. In `guarded` runs a reply
does not lose a write that ends the call unless the call had ended when it was read, and no
reply finds the observation of an interaction that it has ended in the inbox. -/
inductive ReplyPort.Outcome (guarded : Bool) (i : Nat) (call : RuntimeCall) (s : SharedCall) :
    (port : ReplyPort) → port.Res → SharedCall → Prop
  | loaded (invocationId : String) (hsame : s.ledger.current.invocationId = invocationId) :
      Outcome guarded i call s (.loadInvocation invocationId) (.ok (some s.ledger.current)) s
  | absent (invocationId : String) :
      Outcome guarded i call s (.loadInvocation invocationId) (.ok none) s
  | written (record : AgentCallLedgerRecord) (expected : Nat) (answer : Except ReplyRaised Unit)
      (hcurrent : s.ledger.current.stateVersion = expected)
      (hrecord : record.stateVersion = expected + 1) :
      Outcome guarded i call s (.casUnread record expected) answer (s.stored i record [])
  | lost (record : AgentCallLedgerRecord) (expected : Nat)
      (hversions : s.ledger.current.stateVersion ≠ expected ∨ record.stateVersion ≠ expected + 1)
      (hguarded : guarded = true → record.terminalResult.isSome = true →
        ∃ read ∈ s.ledger.history, read.stateVersion = expected ∧ read.state.isTerminal = true) :
      Outcome guarded i call s (.casUnread record expected) (.ok ()) s
  | recorded (observation : NormalizedA2AObservation) (row : A2AObservationInboxRecord) :
      Outcome guarded i call s (.recordObservation observation) (.ok row)
        { s with inbox := row.observation.observationId :: s.inbox }
  | marked (observationId outcomeDigest : String) (hknown : observationId ∈ s.inbox)
      (hguarded : guarded = true → call.isModelReply = false) :
      Outcome guarded i call s (.markExecutorOutcome observationId outcomeDigest) (.ok ()) s
  | applied (observationId : String) (hknown : observationId ∈ s.inbox) :
      Outcome guarded i call s (.markLedgerApplied observationId) (.ok ()) s
  | finalized (record : AgentCallLedgerRecord) :
      Outcome guarded i call s (.finalize record) (.ok ()) s
  | activated (interactionId callRecordId fingerprint : String) (outcome : StoreOutcome) :
      Outcome guarded i call s (.activate interactionId callRecordId fingerprint) (.ok outcome) s
  | created (record : AgentCallLedgerRecord) (interaction : A2AInteractionSpec)
      (fingerprint interactionId : String) :
      Outcome guarded i call s (.createOrReplay record interaction fingerprint)
        (.ok interactionId) s
  | interactionRead (interactionId : String) (interaction : Option A2AInteractionSpec) :
      Outcome guarded i call s (.readInteraction interactionId) (.ok interaction) s
  | replied (command : A2AModelReplyCommand) (receipt : A2ADispatchReceipt) :
      Outcome guarded i call s (.dispatchModelReply command) (.ok receipt) s
  | raised (port : ReplyPort) (error : ReplyRaised) :
      Outcome guarded i call s port (.error error) s

inductive RuntimeStep (guarded : Bool) (i : Nat) (call : RuntimeCall) (s : SharedCall) :
    (op : CallOp ⊕ ReplyPort) → Sum.elim CallOp.Res ReplyPort.Res op → SharedCall → Prop
  | call {op : CallOp} {reply : op.Res} {s' : SharedCall} (h : op.Outcome true i s reply s') :
      RuntimeStep guarded i call s (.inl op) reply s'
  | port {port : ReplyPort} {answer : port.Res} {s' : SharedCall}
      (h : port.Outcome guarded i call s answer s') :
      RuntimeStep guarded i call s (.inr port) answer s'

/-- Nothing has been written to the ledger since the call has these names. -/
structure NewCall (names : CallNames) (s : SharedCall) : Prop where
  earlier : s.ledger.earlier = []
  named : s.ledger.current.invocationId = names.invocationId ∧
    s.ledger.current.toolName = names.toolName
  owns : OwnsResult s.ledger.current

/-- Anybody else moves the record on, or records an observation. -/
def MovedElsewhere (s s' : SharedCall) : Prop :=
  (∃ next, Moving s.ledger.current next ∧ s' = { s with ledger := s.ledger.write next }) ∨
    ∃ observationId, s' = { s with inbox := observationId :: s.inbox }

/-- The executor finds the record by the invocation it executes, and the id of an invocation
tells its tool. -/
def runtimeSystem (terms : CallTerms) (interactions : InteractionTerms) (names : CallNames)
    (guarded : Bool) : System (CallOp ⊕ ReplyPort) (Sum.elim CallOp.Res ReplyPort.Res) where
  State := SharedCall
  Call := RuntimeCall
  Result := Except ReplyRaised ToolExecutionOutcome
  exec i call op s reply s' := RuntimeStep guarded i call s op reply s'
  environment := MovedElsewhere
  admits _ call :=
    (call.isModelReply = false → call.invocation.invocationId = names.invocationId) ∧
      (call.invocation.invocationId = names.invocationId →
        call.invocation.tool.definition.name = names.toolName)
  body _ call := (runtimeBody terms interactions call).run
  initial := NewCall names

end Hybro.A2ARuntime
