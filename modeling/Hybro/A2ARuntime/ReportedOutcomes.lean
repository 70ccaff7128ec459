import Hybro.A2ARuntime.AtMostOnce
import Hybro.A2ARuntime.ReplyRules

/-! # Reported outcomes

A result that an execution or a model reply returns is the persisted result of the call,
under the ids of the invocation that has returned it.
-/

namespace Hybro.A2ARuntime

open Orchestrator Interleaving

section Replies

variable {terms : CallTerms} {interactions : InteractionTerms} {names : CallNames} {i : Nat}
  {c : RuntimeCall} {s : SharedCall} {P : SharedCall → Prop} {invocation : ToolInvocation}
  {record : AgentCallLedgerRecord} {worker : CallWorker} {observation : NormalizedA2AObservation}

/-! ## Results under the joining invocation -/

theorem CallInv.joined {result : ToolResult} (h : CallInv names s.ledger)
    (hknown : Known record s) (hresult : record.terminalResult = some result) :
    Reported invocation record (joinedResult invocation result) :=
  ⟨rfl, rfl, (h.owns record hknown result hresult).1, result, hresult, rfl, rfl, rfl, rfl, rfl⟩

theorem EndedWith.returns {result : ToolResult} (h : EndedWith result s)
    (hinv : CallInv names s.ledger) :
    Returns invocation (.result (joinedResult invocation result)) s := by
  obtain ⟨ended, hknown, hresult⟩ := h
  rintro returned ⟨⟩
  exact .inr ⟨ended, hknown, hinv.joined hknown hresult⟩

theorem refuses_locally {result : ToolResult} (hrefused : LocalRefusal invocation result)
    (hP : (runtimeContract terms interactions names true i c).Stable P) :
    Plainly (runtimeContract terms interactions names true i c) P
      (pure (.result result) : ReplyProg ToolExecutionOutcome) (Returns invocation) := by
  refine Plainly.pure hP ?_
  rintro s - - returned ⟨⟩
  exact .inl hrefused

theorem modelReplySuspension_returns (call : AgentCallLedgerRecord) (deliveryState : DeliveryState) :
    Plainly (runtimeContract terms interactions names true i c) (fun _ => True)
      (modelReplySuspension interactions invocation call deliveryState) (Returns invocation) := by
  have htrue := Contract.Kept.const (C := runtimeContract terms interactions names true i c) True
  have hsuspends : ∀ {Q : SharedCall → Prop} {suspended : ToolSuspension},
      (runtimeContract terms interactions names true i c).Stable Q →
      Plainly (runtimeContract terms interactions names true i c) Q
        (pure (.suspension suspended) : ReplyProg ToolExecutionOutcome) (Returns invocation) :=
    fun hQ => replySuspends hQ
  unfold modelReplySuspension
  split
  · exact Plainly.bind (Plainly.finish htrue.stable) fun parked => hsuspends htrue.stable
  · refine Plainly.bind ((Plainly.attempt (consults rfl htrue) fun _ => htrue.stable).drop)
      fun parked => ?_
    split
    · exact hsuspends htrue.stable
    · exact hsuspends htrue.stable

theorem joinEnded_returns {ended call : AgentCallLedgerRecord} {result : ToolResult}
    (hresult : ended.terminalResult = some result) :
    Plainly (runtimeContract terms interactions names true i c) (Known ended)
      (joinEnded interactions invocation ended call result) (Returns invocation) := by
  have hkept : (runtimeContract terms interactions names true i c).Kept (Known ended) :=
    runtime_kept_known ended
  have hends : (runtimeContract terms interactions names true i c).Stable (EndedWith result) :=
    runtime_stable_endedWith result
  have hcaught : Plainly (runtimeContract terms interactions names true i c) (Known ended)
      (Raising.attempt (consult (.finalize ended))) (fun _ => EndedWith result) := by
    refine ((Plainly.drop (Plainly.attempt ((consults rfl hkept)) fun _ => hkept.stable)).keep
      hkept).weaken (fun _ _ hknown => ⟨hknown, hknown⟩) ?_
    exact fun _ s _ hboth => ⟨ended, hboth.1, hresult⟩
  unfold joinEnded
  refine Plainly.bind hcaught fun finalized => ?_
  split
  · exact Plainly.pure hends fun s hs hended => hended.returns hs
  · exact (modelReplySuspension_returns call _).pre fun _ _ _ => trivial
  · exact Plainly.throw

theorem terminalizeParentForJoin_returns (errorCode : String) :
    Plainly (runtimeContract terms interactions names true i c) (Known record)
      (terminalizeParentForJoin terms interactions worker record invocation errorCode)
      (Returns invocation) := by
  unfold terminalizeParentForJoin
  simp only
  refine Plainly.bind (liftsClock _) fun updatedAt => ?_
  refine Plainly.bind liftsStep fun terminal => ?_
  refine Plainly.given (fun _ _ hends => hends.1) fun hends => ?_
  have hmove : Moving record terminal := by
    refine transitionCall_moving hends ?_
    rintro result ⟨⟩
    exact ⟨rfl, rfl, rfl, _, rfl⟩
  have hresult := transitionCall_terminalResult hends
  refine Plainly.bind ((liftsWrite fun _ => hmove).pre fun _ _ hboth => hboth.2) fun outcome => ?_
  split
  · next hsettled =>
      exact (joinEnded_returns hresult).pre fun _ _ hstored => hstored hsettled
  · refine Plainly.bind (liftsLoad.pre fun _ _ _ => trivial) fun found => ?_
    cases found with
    | none => exact (modelReplySuspension_returns record _).pre fun _ _ _ => trivial
    | some winner =>
        refine Plainly.pre (P := Known winner) ?_ fun _ _ hknown => hknown winner rfl
        simp only
        split
        · exact (modelReplySuspension_returns record _).pre fun _ _ _ => trivial
        · next result hended => exact joinEnded_returns hended

/-! ## After the contact -/

theorem resumeParent_known (receipt : A2ADispatchReceipt) :
    Plainly (runtimeContract terms interactions names true i c) (Known record)
      (resumeParent worker receipt record)
      (fun found s => ∀ parent, found = some parent → Known parent s) := by
  have hkept : (runtimeContract terms interactions names true i c).Kept (Known record) :=
    runtime_kept_known record
  unfold resumeParent
  split
  · refine Plainly.bind (liftsClock _) fun updatedAt => ?_
    refine Plainly.bind liftsStep fun resuming => ?_
    refine Plainly.given (fun _ _ hmove => hmove.1) fun hmove => ?_
    refine Plainly.bind ((liftsWrite fun _ => transitionCall_moving hmove nofun).pre
      fun _ _ hboth => hboth.2) fun outcome => ?_
    split
    · next hsettled =>
        refine Plainly.pure (.imp fun _ => (runtime_kept_known resuming).stable) ?_
        rintro s - hstored parent ⟨⟩
        exact hstored hsettled
    · exact liftsLoad.pre fun _ _ _ => trivial
  · refine Plainly.pure hkept.stable ?_
    rintro s - hknown parent ⟨⟩
    exact hknown

theorem replyTerminal_returns (call : AgentCallLedgerRecord) :
    Plainly (runtimeContract terms interactions names true i c) (Known record)
      (replyTerminal terms interactions record call invocation observation)
      (Returns invocation) := by
  have hkept : (runtimeContract terms interactions names true i c).Kept (Known record) :=
    runtime_kept_known record
  unfold replyTerminal
  refine Plainly.bind (consults rfl hkept) fun inbox => ?_
  refine Plainly.bind liftsStep fun terminal => ?_
  refine Plainly.given (fun _ _ hstep => hstep.1) fun hstep => ?_
  have happlied := applyObservation_applied hstep
  refine Plainly.bind ((consultsUnread rfl happlied.moving happlied.of_terminal).pre
    fun _ _ hboth => hboth.2) fun _ => ?_
  split
  · exact (modelReplySuspension_returns call _).pre fun _ _ _ => trivial
  · next result hresult =>
      refine Plainly.pre (P := EndedWith result) ?_ fun _ _ hended => hended result hresult
      have hended : (runtimeContract terms interactions names true i c).Kept (EndedWith result) := by
        refine ⟨runtime_stable_endedWith result, ?_⟩
        rintro s s' - hguar ⟨ended, hknown, hsame⟩
        exact ⟨ended, Grows.history hguar _ hknown, hsame⟩
      refine Plainly.bind (consults rfl hended) fun finalized => ?_
      exact Plainly.pure hended.stable fun s hs hends => hends.returns hs

section Joining

variable (hreply : c.isModelReply = true) (htool : invocation.invocationId = names.invocationId →
  invocation.tool.definition.name = names.toolName)

include hreply htool

/-- In a guarded run a reply that has ended an interaction goes no further than the mark. -/
theorem finalizeInteractionTerminal_joins :
    Plainly (runtimeContract terms interactions names true i c) (Known record)
      (finalizeInteractionTerminal record invocation observation) (Returns invocation) := by
  unfold finalizeInteractionTerminal
  split
  · exact (persistedOrSuspension_returns htool).pre fun _ _ _ => trivial
  · next result hresult =>
      refine Plainly.given (fun s hs hknown =>
        (CallInv.owns hs record hknown result hresult).2.2.2) fun hdigest => ?_
      obtain ⟨digest, hdigest⟩ := Option.isSome_iff_exists.mp hdigest
      rw [hdigest]
      refine Plainly.bind ((consultsMark rfl hreply _ _).pre fun _ _ _ => trivial) fun _ => ?_
      exact Plainly.given (fun _ _ hfalse => hfalse) fun hfalse => hfalse.elim

theorem replyInteraction_returns (call : AgentCallLedgerRecord) :
    Plainly (runtimeContract terms interactions names true i c) (Known record)
      (replyInteraction terms interactions worker record call invocation observation)
      (Returns invocation) := by
  unfold replyInteraction
  simp only
  refine Plainly.bind (Plainly.attempt parkCallForInteraction_known fun parked =>
    (runtime_kept_known parked.1).stable) fun result => ?_
  split
  · exact (modelReplySuspension_returns call _).pre fun _ _ _ => trivial
  · exact Plainly.throw
  · next persisted =>
      split
      · exact (modelReplySuspension_returns call _).pre fun _ _ _ => trivial
      · refine Plainly.pre (P := Known persisted) ?_ fun _ _ hends => hends _ rfl
        refine Plainly.bind (consults rfl (runtime_kept_known persisted)) fun applied => ?_
        exact replySuspends (runtime_kept_known persisted).stable
  · exact (finalizeInteractionTerminal_joins hreply htool).pre fun _ _ hends => hends _ rfl

theorem storeReply_returns (call : AgentCallLedgerRecord) (receipt : A2ADispatchReceipt) :
    Plainly (runtimeContract terms interactions names true i c) (fun _ => True)
      (storeReply terms interactions worker call invocation receipt) (Returns invocation) := by
  unfold storeReply
  refine Plainly.bind liftsLoad fun found => ?_
  cases found with
  | none => exact (modelReplySuspension_returns call _).pre fun _ _ _ => trivial
  | some loaded =>
      refine Plainly.pre (P := Known loaded) ?_ fun _ _ hknown => hknown loaded rfl
      refine Plainly.bind (resumeParent_known receipt) fun found => ?_
      cases found with
      | none => exact (modelReplySuspension_returns call _).pre fun _ _ _ => trivial
      | some parent =>
          refine Plainly.pre (P := Known parent) ?_ fun _ _ hknown => hknown parent rfl
          simp only
          split
          · exact replyTerminal_returns call
          · exact replyInteraction_returns hreply htool call
          · exact (modelReplySuspension_returns call _).pre fun _ _ _ => trivial

theorem sendReply_returns (fingerprint taskId contextId messageText : String) :
    Plainly (runtimeContract terms interactions names true i c) (Known record)
      (sendReply terms interactions worker record invocation fingerprint taskId contextId
        messageText) (Returns invocation) := by
  unfold sendReply
  refine Plainly.bind (liftsClock _) fun createdAt => ?_
  refine Plainly.bind (liftsClock _) fun joinedAt => ?_
  refine Plainly.bind (liftsClock _) fun updatedAt => ?_
  simp only
  refine Plainly.bind (liftsWrite fun _ => joinedCall_moving _ _ _ _ _) fun outcome => ?_
  split
  · next hsettled =>
      refine Plainly.pre (P := fun s => Known (joinedCall record invocation fingerprint _ joinedAt
        updatedAt) s ∧ True) ?_ fun _ _ hstored => ⟨hstored hsettled, trivial⟩
      have htrue : (runtimeContract terms interactions names true i c).Kept fun _ => True :=
        Contract.Kept.const True
      refine Plainly.bind ((Plainly.attempt (consults rfl htrue) fun _ => htrue.stable).keep
        (runtime_kept_known _)) fun result => ?_
      split
      · exact (storeReply_returns hreply htool _ _).pre fun _ _ _ => trivial
      · exact (terminalizeParentForJoin_returns _).pre fun _ _ hboth => hboth.1
      · exact (modelReplySuspension_returns _ _).pre fun _ _ _ => trivial
      · exact (modelReplySuspension_returns _ _).pre fun _ _ _ => trivial
      · exact (modelReplySuspension_returns _ _).pre fun _ _ _ => trivial
      · exact Plainly.throw
  · exact (modelReplySuspension_returns record _).pre fun _ _ _ => trivial

theorem dispatchModelReply_returns (interactionFingerprint : Option String) :
    Plainly (runtimeContract terms interactions names true i c) (fun _ => True)
      (dispatchModelReply terms interactions worker invocation interactionFingerprint)
      (Returns invocation) := by
  unfold dispatchModelReply
  refine Plainly.bind liftsLoad fun found => ?_
  cases found with
  | none =>
      refine refuses_locally ?_ (stable_found none)
      simp [LocalRefusal]
  | some call =>
      have hkept : (runtimeContract terms interactions names true i c).Kept (Known call) :=
        runtime_kept_known call
      refine Plainly.pre (P := Known call) ?_ fun _ _ hknown => hknown call rfl
      simp only
      split
      · split
        · next result hresult => exact joinEnded_returns hresult
        · exact (modelReplySuspension_returns call _).pre fun _ _ _ => trivial
      · split
        · exact refuses_locally (by simp [LocalRefusal]) hkept.stable
        · split
          · split
            · exact refuses_locally (by simp [LocalRefusal]) hkept.stable
            · split
              · exact refuses_locally (by simp [LocalRefusal]) hkept.stable
              · exact sendReply_returns hreply htool _ _ _ _
          · exact refuses_locally (by simp [LocalRefusal]) hkept.stable

end Joining

end Replies

/-! ## Every run -/

section Runs

variable {terms : CallTerms} {interactions : InteractionTerms} {names : CallNames}
  {guarded : Bool}

theorem NewCall.callInv {s : SharedCall} (h : NewCall names s) : CallInv names s.ledger := by
  have hhistory : s.ledger.history = [s.ledger.current] := by
    rw [CallLedger.history, h.earlier]
  have honly : ∀ record ∈ s.ledger.history, record = s.ledger.current := by
    intro record hmem
    rw [hhistory] at hmem
    exact List.mem_singleton.mp hmem
  refine ⟨?_, ?_, ?_, ?_, ?_⟩
  · intro record hmem
    exact honly record hmem ▸ h.named
  · intro record hmem
    exact honly record hmem ▸ h.owns
  · intro record hmem
    rw [h.earlier] at hmem
    cases hmem
  · intro first hfirst second hsecond _
    rw [honly first hfirst, honly second hsecond]
  · intro record hmem result hresult
    exact honly record hmem ▸ hresult

theorem runtime_proof : (runtimeSystem terms interactions names true).Proof
    (fun s => CallInv names s.ledger) (fun _ _ => Grows) (fun _ _ => True)
    (fun _ call result s => ∀ outcome, result = .ok outcome → Returns call.invocation outcome s)
    where
  starts := fun _ hnew => ⟨NewCall.callInv hnew, fun _ => trivial⟩
  environment := by
    rintro s s' hinv (⟨next, hmove, rfl⟩ | ⟨observationId, rfl⟩)
    · exact hinv.write hmove
    · exact hinv
  staysFresh := fun _ _ _ _ _ _ _ => trivial
  body := by
    intro i call s hs hadmits
    have hreturns : Plainly (runtimeContract terms interactions names true i call)
        (fun _ => True) (runtimeBody terms interactions call) (Returns call.invocation) := by
      cases call with
      | execute worker invocation acceptance =>
          have hinvocation : invocation.invocationId = names.invocationId := hadmits.2.1 rfl
          exact executeCall_returns acceptance hinvocation (hadmits.2.2 hinvocation)
      | modelReply worker invocation interactionFingerprint =>
          exact dispatchModelReply_returns rfl hadmits.2.2 interactionFingerprint
    refine Contract.Safe.mono ?_ hs (hreturns s hs trivial)
    rintro result s' - hends outcome rfl
    exact hends
  staysReturned := by
    intro i call result
    exact .all fun outcome => .imp fun _ => runtime_stable_returns _ outcome

/-- What has been returned as the outcome of the call is what its record now says. -/
def ReportsOutcomes (cfg : Config (runtimeSystem terms interactions names guarded)) : Prop :=
  ∀ i call result, (i, call, .ok (.result result)) ∈ cfg.returned →
    LocalRefusal call.invocation result ∨
      Reported call.invocation (SharedCall.ledger cfg.shared).current result

theorem reported_outcomes {cfg : Config (runtimeSystem terms interactions names true)}
    (hreach : (runtimeSystem terms interactions names true).Reachable cfg) :
    ReportsOutcomes cfg := by
  have hsound := hreach.sound runtime_proof
  intro i call result hmem
  rcases hsound.returned i call _ hmem _ rfl result rfl with hrefused | ⟨record, hknown, hreported⟩
  · exact .inl hrefused
  · exact .inr (hreported.current hsound.shared hknown)

end Runs

/-! ## Runs of one reply -/

def askingCall : AgentCallLedgerRecord :=
  { workingCall with
    state := .inputRequired
    a2aTaskId := some "task-1"
    a2aContextId := some "context-1"
    pendingInteractionId := some "interaction-1"
    interactionRevision := some 1
    interactionFingerprint := some "question" }

def askingNames : CallNames := ⟨"invocation-1", "agent_a"⟩

def sampleInteractions : InteractionTerms where
  validateInteraction _ := none
  interactionDigest _ := "question"
  parseTask _ := some "Yes."

def joiningReply : RuntimeCall :=
  .modelReply sampleWorker { sampleInvocation with invocationId := "invocation-2" } none

def sampleReceipts : List A2ADispatchReceipt :=
  [{ outcome := .terminal
     terminalObservation := some (endingObservation "observation-1" .completed) },
   { outcome := .interaction
     interactionObservation := some
      { endingObservation "observation-1" .completed with
        eventKind := .inputRequired, status := none } }]

/-- A write that is not read takes place unless the record has moved on. -/
def ReplyPort.outcomes (guarded : Bool) (i : Nat) (s : SharedCall) :
    (port : ReplyPort) → List (port.Res × SharedCall)
  | .casUnread record expected =>
      if s.ledger.current.stateVersion = expected ∧ record.stateVersion = expected + 1 then
        [(.ok (), s.stored i record [])]
      else if guarded then [] else [(.ok (), s)]
  | .dispatchModelReply _ => sampleReceipts.map fun receipt => (.ok receipt, s)
  | .recordObservation observation =>
      [(.ok { bindingScope := observation.bindingScope, conversationId := "room-1", roomEpoch := 1
              observation := observation },
        { s with inbox := observation.observationId :: s.inbox })]
  | .markExecutorOutcome observationId _ =>
      if observationId ∈ s.inbox ∧ guarded = false then [(.ok (), s)]
      else [(.error (.raised (.other observationId)), s)]
  | .finalize _ => [(.ok (), s)]
  | _ => []

theorem replyOutcome_of_mem {guarded : Bool} {i : Nat} {call : RuntimeCall} {s s' : SharedCall}
    {port : ReplyPort} {answer : port.Res} (h : (answer, s') ∈ port.outcomes guarded i s) :
    port.Outcome guarded i call s answer s' := by
  cases port with
  | casUnread record expected =>
      simp only [ReplyPort.outcomes] at h
      split at h
      · next hversions =>
          cases List.mem_singleton.mp h
          exact .written record expected _ hversions.1 hversions.2
      · next hversions =>
          split at h
          · cases h
          · next hfree =>
              cases List.mem_singleton.mp h
              exact .lost record expected (Decidable.not_and_iff_or_not.mp hversions)
                fun hguarded => absurd hguarded hfree
  | dispatchModelReply command =>
      obtain ⟨receipt, -, heq⟩ := List.mem_map.mp h
      obtain ⟨rfl, rfl⟩ := Prod.mk.inj heq
      exact .replied command receipt
  | recordObservation observation =>
      cases List.mem_singleton.mp h
      exact .recorded observation _
  | markExecutorOutcome observationId outcomeDigest =>
      simp only [ReplyPort.outcomes] at h
      split at h
      · next hknown =>
          cases List.mem_singleton.mp h
          refine .marked observationId outcomeDigest hknown.1 fun hguarded => ?_
          rw [hknown.2] at hguarded
          cases hguarded
      · cases List.mem_singleton.mp h
        exact .raised _ _
  | finalize record =>
      cases List.mem_singleton.mp h
      exact .finalized record
  | _ => cases h

def rewritten (s : SharedCall) : SharedCall :=
  let next := { s.ledger.current with stateVersion := s.ledger.current.stateVersion + 1 }
  { s with ledger := s.ledger.write next }

theorem rewritten_moved (s : SharedCall) : MovedElsewhere s (rewritten s) := by
  have hmove : Moving s.ledger.current
      { s.ledger.current with stateVersion := s.ledger.current.stateVersion + 1 } :=
    moving_of_result rfl rfl rfl rfl rfl rfl
  exact .inl ⟨_, hmove, rfl⟩

def failedElsewhere (s : SharedCall) : SharedCall :=
  match applyObservation statusDigest s.ledger.current
      (endingObservation "observation-2" .failed) 128 with
  | .ok next =>
      if next.stateVersion = s.ledger.current.stateVersion + 1 then
        { s with ledger := s.ledger.write next }
      else rewritten s
  | .error _ => rewritten s

theorem failedElsewhere_moved (s : SharedCall) : MovedElsewhere s (failedElsewhere s) := by
  unfold failedElsewhere
  split
  · next next hstep =>
      split
      · next hversion =>
          exact .inl ⟨next, (applyObservation_applied hstep).moving hversion, rfl⟩
      · exact rewritten_moved s
  · exact rewritten_moved s

/-- That failure, or the row of an observation. -/
def arrived : Nat → SharedCall → SharedCall
  | 0, s => failedElsewhere s
  | _ + 1, s => { s with inbox := "observation-1" :: s.inbox }

theorem arrived_moved (n : Nat) (s : SharedCall) : MovedElsewhere s (arrived n s) := by
  cases n with
  | zero => exact failedElsewhere_moved s
  | succ n => exact .inr ⟨"observation-1", rfl⟩

def runtimeStepper (guarded : Bool) :
    (runtimeSystem sampleTerms sampleInteractions askingNames guarded).Stepper where
  admits _ call := call.isModelReply && decide (call.invocation.invocationId = "invocation-2")
  outcomes i _ op s := match op with
    | .inl op => op.outcomes true i s
    | .inr port => port.outcomes guarded i s
  environment := arrived
  admits_sound := by
    intro s call hadmits
    obtain ⟨hreply, hinvocation⟩ := (Bool.and_eq_true _ _).mp hadmits
    refine ⟨fun hexecutes => ?_, fun hsame => ?_⟩
    · rw [hexecutes] at hreply
      cases hreply
    · rw [of_decide_eq_true hinvocation] at hsame
      exact absurd hsame (by decide)
  outcomes_sound := by
    intro i call op s reply s' hmem
    cases op with
    | inl op => exact .call (outcome_of_mem hmem)
    | inr port => exact .port (replyOutcome_of_mem hmem)
  environment_sound := arrived_moved

def askingConfig (guarded : Bool) :
    Config (runtimeSystem sampleTerms sampleInteractions askingNames guarded) where
  shared := ({ ledger := { current := askingCall } } : SharedCall)
  threads := fun _ => .unborn
  returned := []

theorem askingConfig_reachable (guarded : Bool) :
    (runtimeSystem sampleTerms sampleInteractions askingNames guarded).Reachable
      (askingConfig guarded) :=
  .init _ ⟨⟨rfl, ⟨rfl, rfl⟩, nofun⟩, fun _ => rfl, rfl⟩

def sentReply (receipt : Nat) : List (System.Move RuntimeCall) :=
  .start 0 joiningReply :: [0, 0, 0, 0, 0, receipt, 0, 0, 0].map (.act 0)

def storedReply : List (System.Move RuntimeCall) :=
  sentReply 0 ++ [.act 0 0, .act 0 0, .act 0 0, .finish 0]

def overtakenReply : List (System.Move RuntimeCall) :=
  sentReply 0 ++ [.act 0 0, .environment 0, .act 0 0, .act 0 0, .finish 0]

def untypedReply : List (System.Move RuntimeCall) :=
  .environment 1 :: sentReply 1 ++ [.act 0 0, .act 0 0, .act 0 0, .act 0 0, .finish 0]

def lastResult :
    List (Nat × RuntimeCall × Except ReplyRaised ToolExecutionOutcome) → Option ToolResult
  | (_, _, .ok (.result result)) :: _ => some result
  | _ => none

theorem reported_outcomes_stored :
    ∃ cfg : Config (runtimeSystem sampleTerms sampleInteractions askingNames true),
      (lastResult cfg.returned).map (·.status) = some .completed ∧ ReportsOutcomes cfg := by
  obtain ⟨cfg, hreach, hcheck⟩ := System.Stepper.exists_of_play (runtimeStepper true) storedReply
    (fun cfg => (lastResult cfg.returned).map (·.status) = some .completed)
    (askingConfig_reachable true) (by decide +kernel)
  exact ⟨cfg, of_decide_eq_true hcheck, reported_outcomes hreach⟩

/-- The outcome that has been returned last is not the one of the record. -/
def misreports (current : AgentCallLedgerRecord) :
    List (Nat × RuntimeCall × Except ReplyRaised ToolExecutionOutcome) → Bool
  | (_, call, .ok (.result result)) :: _ =>
      !decide (result ∈ autoReplyLimitResult call.invocation ::
        ["call_ledger_missing", "join_target_not_interactive", "continuation_target_missing",
          "invalid_tool_call"].map (failedResult call.invocation .failed)) &&
      (decide (current.terminalResult.map (·.status) ≠ some result.status) ||
        decide (result.callId ≠ call.invocation.invocationId))
  | _ => false

theorem not_reported_of_misreports {current : AgentCallLedgerRecord}
    {returned : List (Nat × RuntimeCall × Except ReplyRaised ToolExecutionOutcome)}
    (h : misreports current returned = true) :
    ∃ i call result, (i, call, .ok (.result result)) ∈ returned ∧
      ¬ LocalRefusal call.invocation result ∧ ¬ Reported call.invocation current result := by
  unfold misreports at h
  split at h
  · next i call result older =>
      obtain ⟨hlocal, hdiffers⟩ := (Bool.and_eq_true _ _).mp h
      refine ⟨i, call, result, List.mem_cons_self .., ?_, ?_⟩
      · intro hrefused
        simp only [Bool.not_eq_true', decide_eq_false_iff_not] at hlocal
        exact hlocal hrefused
      · intro hreported
        obtain ⟨persisted, hpersisted, hstatus, -⟩ := hreported.persisted
        simp [hpersisted, hstatus, hreported.callId] at hdiffers
  · cases h

theorem not_reportsOutcomes {guarded : Bool}
    {cfg : Config (runtimeSystem sampleTerms sampleInteractions askingNames guarded)}
    (h : misreports (SharedCall.ledger cfg.shared).current cfg.returned = true) :
    ¬ ReportsOutcomes cfg := by
  obtain ⟨i, call, result, hmem, hlocal, hreported⟩ := not_reported_of_misreports h
  intro hreports
  rcases hreports i call result hmem with hrefused | hsame
  · exact hlocal hrefused
  · exact hreported hsame

/-- A reply reports its own ending over the one the call has, and an interaction without
a specification reports under the parent call. -/
theorem outcomes_misreported :
    (∃ cfg : Config (runtimeSystem sampleTerms sampleInteractions askingNames false),
      (runtimeSystem sampleTerms sampleInteractions askingNames false).Reachable cfg ∧
        (SharedCall.ledger cfg.shared).current.state = .failed ∧ ¬ ReportsOutcomes cfg) ∧
    (∃ cfg : Config (runtimeSystem sampleTerms sampleInteractions askingNames false),
      (runtimeSystem sampleTerms sampleInteractions askingNames false).Reachable cfg ∧
        (SharedCall.ledger cfg.shared).current.state = .completed ∧ ¬ ReportsOutcomes cfg) := by
  have hmisreported : ∀ (moves : List (System.Move RuntimeCall)) (state : AgentCallState),
      (((runtimeStepper false).play (askingConfig false) moves).any fun cfg =>
        (SharedCall.ledger cfg.shared).current.state = state &&
          misreports (SharedCall.ledger cfg.shared).current cfg.returned) = true →
      ∃ cfg : Config (runtimeSystem sampleTerms sampleInteractions askingNames false),
        (runtimeSystem sampleTerms sampleInteractions askingNames false).Reachable cfg ∧
          (SharedCall.ledger cfg.shared).current.state = state ∧ ¬ ReportsOutcomes cfg := by
    intro moves state hplay
    obtain ⟨cfg, hreach, hcheck⟩ := System.Stepper.exists_of_play (runtimeStepper false) moves _
      (askingConfig_reachable false) hplay
    obtain ⟨hstate, hwrong⟩ := (Bool.and_eq_true _ _).mp hcheck
    exact ⟨cfg, hreach, of_decide_eq_true hstate, not_reportsOutcomes hwrong⟩
  exact ⟨hmisreported overtakenReply .failed (by decide +kernel),
    hmisreported untypedReply .completed (by decide +kernel)⟩

end Hybro.A2ARuntime
