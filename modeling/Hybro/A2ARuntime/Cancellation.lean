import Hybro.Library.PythonText
import Hybro.A2ARuntime.CallStore

/-! # Durable local cancellation

`persist_local_cancellation` over the compare-and-swap store, beside any number
of other cancellations and of observations applied to the same call.
-/

namespace Hybro.A2ARuntime

open Orchestrator Interleaving PythonText

/-! ## The program -/

section Program

-- `stableDigest` is `_stable`
variable (resultDigest : ToolResult → String) (stableDigest : List String → String)

def cancellationCommandId (call : AgentCallLedgerRecord) (reason : String)
    (deletionId : Option String) : String :=
  "cancel-" ++ stableDigest [call.callRecordId, firstChars 1000 reason,
    (orElse deletionId (some "active")).getD "active"]

def cancellationCommand (call : AgentCallLedgerRecord) (reason : String)
    (deletionId : Option String) (createdAt : Timestamp) : A2ACancellationCommand where
  commandId := cancellationCommandId stableDigest call reason deletionId
  transportKind := call.transportKind
  callRecordId := call.callRecordId
  reason := firstChars 1000 reason
  deletionId := deletionId
  createdAt := createdAt

def cancellationUpdates (command : A2ACancellationCommand) : CallUpdates where
  cancellationCommand := some (some command)
  cancellationCommandId := some (some command.commandId)
  cancellationReason := some (some command.reason)
  cancellationState := some (some .pending)

def canceledObservation (call : AgentCallLedgerRecord) (command : A2ACancellationCommand)
    (observedAt : Timestamp) : NormalizedA2AObservation where
  observationId := "cancel-observation-" ++ command.commandId
  callRecordId := some call.callRecordId
  sourceIdentity := "cancel:" ++ command.commandId
  bindingScope := call.endpointScopeDigest
  eventKind := .terminal
  status := some .canceled
  observedAt := observedAt
  taskId := call.a2aTaskId
  contextId := call.a2aContextId
  content := [.text "The Agent call was canceled."]
  errorCode := some "canceled"
  errorMessage := some (firstChars 500 command.reason)

/-- The second write: the canceled result of a call that is to be canceled. -/
def persistCanceled (retry : AgentCallLedgerRecord → LedgerProg AgentCallLedgerRecord)
    (call : AgentCallLedgerRecord) : LedgerProg AgentCallLedgerRecord :=
  match call.cancellationCommand with
  | none => LedgerProg.raise "cancel-pending Agent call has no cancellation command"
  | some command => do
      let observedAt ← now
      let terminal ← raising (applyObservation resultDigest call
        (canceledObservation call command observedAt) call.runtimePolicy.recentObservationIdLimit)
      let outcome ← cas terminal call.stateVersion
      if settled outcome then return terminal
      else
        match ← loadByRecordId with
        | none => LedgerProg.raise "cancellation terminal CAS winner could not be classified"
        | some winner => retry winner

/-- One round of the loop for each attempt that is left. -/
def persistAttempts (reason : String) (deletionId : Option String) :
    Nat → AgentCallLedgerRecord → LedgerProg AgentCallLedgerRecord
  | 0, _ => LedgerProg.raise "Agent-call cancellation CAS did not converge"
  | attempts + 1, call =>
      if call.state.isTerminal then return call
      else if call.state = .cancelPending then
        persistCanceled resultDigest (persistAttempts reason deletionId attempts) call
      else do
        let createdAt ← now
        let updatedAt ← now
        let command := cancellationCommand stableDigest call reason deletionId createdAt
        let pending ← raising
          (transitionCall call .cancelPending updatedAt (cancellationUpdates command))
        let outcome ← cas pending call.stateVersion
        if settled outcome then
          persistCanceled resultDigest (persistAttempts reason deletionId attempts) pending
        else
          match ← loadByRecordId with
          | none => LedgerProg.raise "cancellation CAS winner could not be classified"
          | some winner => persistAttempts reason deletionId attempts winner

def persistLocalCancellation (call : AgentCallLedgerRecord) (reason : String)
    (deletionId : Option String := none) : LedgerProg AgentCallLedgerRecord :=
  persistAttempts resultDigest stableDigest reason deletionId 8 call

/-- An observation is applied to a record that was read before, and the change stored. -/
def applyAndStore (call : AgentCallLedgerRecord) (observation : NormalizedA2AObservation)
    (recentLimit : RecentIdLimit) : LedgerProg AgentCallLedgerRecord := do
  let changed ← raising (applyObservation resultDigest call observation recentLimit)
  if changed = call then return call
  else
    let outcome ← cas changed call.stateVersion
    if settled outcome then return changed
    else
      match ← loadByRecordId with
      | none => LedgerProg.raise "observation call CAS winner could not be classified"
      | some winner => return winner

end Program

/-! ## What the two writers may store -/

def isCancelObservationId (id : String) : Bool :=
  startsWith id "cancel-observation-"

variable {resultDigest : ToolResult → String} {stableDigest : List String → String}
  {record next : AgentCallLedgerRecord} {observation : NormalizedA2AObservation}

theorem isCancelObservationId_canceledObservation (call : AgentCallLedgerRecord)
    (command : A2ACancellationCommand) (observedAt : Timestamp) :
    isCancelObservationId (canceledObservation call command observedAt).observationId = true := by
  exact startsWith_append _ _

theorem cancellationUpdates_coherent {command : A2ACancellationCommand}
    (hrecord : record.Valid resultDigest) (hcommand : command.callRecordId = record.callRecordId) :
    (cancellationUpdates command).Coherent resultDigest record .cancelPending where
  correlated := by
    obtain ⟨hcorrelated, -⟩ := AgentCallLedgerRecord.valid_iff.mp hrecord
    exact
      { hcorrelated with
        cancellation := by
          change (require _ _ >>= fun _ => require _ _) = _
          simp only [check_bind_eq_ok, require_eq_ok]
          exact ⟨⟨hcommand, rfl⟩, rfl⟩ }
  closes := fun hterminal => nomatch hterminal
  stamped := fun hterminal => nomatch hterminal
  keepsRefs := fun _ hmem => hmem
  repeatsNoRef := id

theorem transitionCall_recentObservationIds {toState : AgentCallState} {updatedAt : Timestamp}
    {updates : CallUpdates} (h : transitionCall record toState updatedAt updates = .ok next)
    (hkept : updates.recentObservationIds = none) :
    next.recentObservationIds = record.recentObservationIds := by
  obtain ⟨-, rfl⟩ := transitionCall_eq_ok.mp h
  unfold CallUpdates.closing
  split <;> simp [CallUpdates.overlay, hkept]

variable {reserved : String → Bool}

theorem advance_pending {command : A2ACancellationCommand} {updatedAt : Timestamp}
    (hrecord : record.Valid resultDigest) (hunreserved : Unreserved reserved record)
    (hcommand : command.callRecordId = record.callRecordId)
    (hother : record.state ≠ .cancelPending)
    (h : transitionCall record .cancelPending updatedAt (cancellationUpdates command) = .ok next) :
    Advance resultDigest reserved record next where
  valid := transitionCall_valid (cancellationUpdates_coherent hrecord hcommand) h
  moved := transitionCall_movedOn (cancellationUpdates_coherent hrecord hcommand) h
  canceled := fun hpending => absurd hpending hother
  unreserved := by
    intro _
    unfold Unreserved
    rw [transitionCall_recentObservationIds h rfl]
    exact hunreserved

theorem transitionCall_recentWritten {toState : AgentCallState} {updatedAt : Timestamp}
    {updates : CallUpdates} {ids : List String}
    (h : transitionCall record toState updatedAt updates = .ok next)
    (hwritten : updates.recentObservationIds = some ids) : next.recentObservationIds = ids := by
  obtain ⟨-, rfl⟩ := transitionCall_eq_ok.mp h
  unfold CallUpdates.closing
  split <;> simp [CallUpdates.overlay, hwritten]

theorem Unreserved.noted (hunreserved : Unreserved reserved record)
    (hid : reserved observation.observationId = false) (limit : Nat) :
    ∀ id ∈ PythonList.lastItems limit
      (record.recentObservationIds ++ [observation.observationId]), reserved id = false := by
  intro id hmem
  rcases List.mem_append.mp ((PythonList.lastItems_sublist _ _).subset hmem) with hold | hnew
  · exact hunreserved id hold
  · rw [List.mem_singleton.mp hnew]
    exact hid

theorem Applied.advance {recentLimit : RecentIdLimit}
    (happlied : Applied resultDigest record observation recentLimit next) (hne : next ≠ record)
    (hrecord : record.Valid resultDigest) (hunreserved : Unreserved reserved record)
    (hid : reserved observation.observationId = false ∨ observation.eventKind = .terminal) :
    Advance resultDigest reserved record next := by
  have hmoved : MovedOn record next := (happlied.movedOn recentLimit hrecord).resolve_left hne
  have hnotTerminal : observation.eventKind ≠ .terminal →
      reserved observation.observationId = false := fun hkind => hid.resolve_right hkind
  refine ⟨happlied.valid recentLimit hrecord, hmoved, ?_, ?_⟩
  · intro hpending
    have hcanceled := hmoved.canceling hpending
    cases happlied with
    | ignored => exact absurd rfl hne
    | asked hnoted hkind hmove =>
        rw [transitionCall_state hmove] at hcanceled
        cases hcanceled
    | started hnoted hkind hmove =>
        rw [transitionCall_state hmove] at hcanceled
        cases hcanceled
    | progressed hnoted hcancel hkind => exact absurd hpending hcancel
    | ended hnoted hkind hstatus hmove =>
        rename_i aliases status
        rw [transitionCall_state hmove] at hcanceled
        refine ⟨observationResult record observation status, transitionCall_terminalResult hmove, ?_⟩
        cases status <;> first | rfl | cases hcanceled
  · intro hlive
    cases happlied with
    | ignored => exact absurd rfl hne
    | asked hnoted hkind hmove =>
        have hother : observation.eventKind ≠ .terminal := by
          intro hterminal
          rw [hterminal] at hkind
          cases hkind
        unfold Unreserved
        rw [transitionCall_recentWritten hmove rfl]
        exact hunreserved.noted (hnotTerminal hother) _
    | started hnoted hkind hmove =>
        have hother : observation.eventKind ≠ .terminal := by
          intro hterminal
          rw [hterminal] at hkind
          cases hkind
        unfold Unreserved
        rw [transitionCall_recentWritten hmove rfl]
        exact hunreserved.noted (hnotTerminal hother) _
    | progressed hnoted hcancel hkind =>
        have hother : observation.eventKind ≠ .terminal := by
          intro hterminal
          rw [hterminal] at hkind
          cases hkind
        exact hunreserved.noted (hnotTerminal hother) _
    | ended hnoted hkind hstatus hmove =>
        rw [transitionCall_state hmove, isTerminal_callStateOf] at hlive
        cases hlive

theorem applyObservation_canceled {command : A2ACancellationCommand} {observedAt : Timestamp}
    {limit : Nat} (hpending : record.state = .cancelPending)
    (hunreserved : Unreserved isCancelObservationId record)
    (h : applyObservation resultDigest record (canceledObservation record command observedAt)
      limit = .ok next) : next.state = .canceled ∧ next ≠ record := by
  have hfresh : (canceledObservation record command observedAt).observationId ∉
      record.recentObservationIds := by
    intro hmem
    have hreserved := hunreserved _ hmem
    rw [isCancelObservationId_canceledObservation] at hreserved
    cases hreserved
  have hlive : record.state.isTerminal = false := by rw [hpending]; rfl
  have hopen : observeOpen resultDigest record (canceledObservation record command observedAt)
      limit = .ok next := by
    unfold applyObservation at h
    rw [if_neg hfresh, hlive, if_neg Bool.false_ne_true] at h
    rw [if_neg (fun hother => hother.2 ⟨rfl, rfl⟩)] at h
    rw [if_neg (fun hother => nomatch hother.1)] at h
    exact h
  have hcanceled : next.state = .canceled := by
    cases observeOpen_applied hlive hfresh (fun hkind => nomatch hkind) hopen with
    | ignored =>
        -- the branches of an open call never return the record itself
        exfalso
        unfold observeOpen at hopen
        cases haliases : bindAuthoritativeAliases record
            (canceledObservation record command observedAt).taskId
            (canceledObservation record command observedAt).contextId with
        | error error =>
            rw [haliases] at hopen
            cases hopen
        | ok aliases =>
            rw [haliases] at hopen
            have hstate := transitionCall_state hopen
            rw [hpending] at hstate
            cases hstate
    | asked hnoted hkind hmove => cases hkind
    | started hnoted hkind hmove => cases hkind
    | progressed hnoted hcancel hkind => cases hkind
    | ended hnoted hkind hstatus hmove =>
        cases hstatus
        exact transitionCall_state hmove
  refine ⟨hcanceled, ?_⟩
  intro heq
  rw [heq, hpending] at hcanceled
  cases hcanceled

/-! ## Any number of writers -/

/-- A call starts from a record that was read from the store at some time. -/
inductive LedgerCall
  | cancel (call : AgentCallLedgerRecord) (reason : String) (deletionId : Option String)
  | observe (call : AgentCallLedgerRecord) (observation : NormalizedA2AObservation)
      (recentLimit : RecentIdLimit)

def ledgerBody (resultDigest : ToolResult → String) (stableDigest : List String → String) :
    LedgerCall → LedgerProg AgentCallLedgerRecord
  | .cancel call reason deletionId =>
      persistLocalCancellation resultDigest stableDigest call reason deletionId
  | .observe call observation recentLimit => applyAndStore resultDigest call observation recentLimit

def Admits (allowed : String → Bool) (s : CallLedger) : LedgerCall → Prop
  | .cancel call _ _ => call ∈ s.history
  | .observe call observation _ =>
      call ∈ s.history ∧ allowed observation.observationId = true

structure Untouched (resultDigest : ToolResult → String) (s : CallLedger) : Prop where
  earlier : s.earlier = []
  valid : s.current.Valid resultDigest
  unreserved : Unreserved isCancelObservationId s.current

/-- Cancellations of one call, and observations of it under ids that `allowed` admits. -/
def ledgerSystem (resultDigest : ToolResult → String) (stableDigest : List String → String)
    (allowed : String → Bool) : System LedgerOp LedgerOp.Res where
  State := CallLedger
  Call := LedgerCall
  Result := AgentCallLedgerRecord
  exec _ _ op s reply s' := (reply, s') ∈ op.outcomes s
  environment := Waits
  admits := Admits allowed
  body _ := ledgerBody resultDigest stableDigest
  initial := Untouched resultDigest

section Rules

variable (resultDigest stableDigest) (allowed : String → Bool) (i : Nat) (c : LedgerCall)

abbrev ledgerContract : Contract LedgerOp LedgerOp.Res CallLedger :=
  (ledgerSystem resultDigest stableDigest allowed).contract
    (LedgerInv resultDigest isCancelObservationId)
    (fun _ _ => Writes resultDigest isCancelObservationId) i c

variable {resultDigest stableDigest allowed i c}

/-- Once true, true whatever any writer does. -/
def Lasting (resultDigest : ToolResult → String) (K : CallLedger → Prop) : Prop :=
  ∀ s s', Writes resultDigest isCancelObservationId s s' ∨ Waits s s' → K s → K s'

variable (resultDigest) in
theorem lasting_history (record : AgentCallLedgerRecord) :
    Lasting resultDigest (fun s => record ∈ s.history) := by
  intro s s' hstep hmem
  rcases hstep with hwrites | hwaits
  · exact hwrites.history hmem
  · exact hwaits.history hmem

variable (resultDigest) in
theorem lasting_const (P : Prop) : Lasting resultDigest (fun _ => P) := fun _ _ _ h => h

theorem Lasting.and {K L : CallLedger → Prop} (hK : Lasting resultDigest K)
    (hL : Lasting resultDigest L) : Lasting resultDigest (fun s => K s ∧ L s) :=
  fun s s' hstep h => ⟨hK s s' hstep h.1, hL s s' hstep h.2⟩

theorem Lasting.imp {P : Prop} {K : CallLedger → Prop} (hK : Lasting resultDigest K) :
    Lasting resultDigest (fun s => P → K s) :=
  fun s s' hstep h hp => hK s s' hstep (h hp)

theorem Lasting.all {ι : Sort*} {K : ι → CallLedger → Prop}
    (hK : ∀ x, Lasting resultDigest (K x)) : Lasting resultDigest (fun s => ∀ x, K x s) :=
  fun s s' hstep h x => hK x s s' hstep (h x)

theorem Lasting.stable {K : CallLedger → Prop} (hK : Lasting resultDigest K) :
    (ledgerContract resultDigest stableDigest allowed i c).Stable K := by
  intro s s' _ hrely _ h
  rcases hrely with hwaits | ⟨j, d, -, hwrites⟩
  · exact hK s s' (.inr hwaits) h
  · exact hK s s' (.inl hwrites) h

variable {K : CallLedger → Prop} {α : Type} {Q : α → CallLedger → Prop}

theorem ledger_raise {message : String} :
    (ledgerContract resultDigest stableDigest allowed i c).Triple K
      (LedgerProg.raise message : LedgerProg α) Q :=
  fun _ _ _ _ _ reply => nomatch reply

theorem ledger_now (hK : Lasting resultDigest K) :
    (ledgerContract resultDigest stableDigest allowed i c).Triple K now (fun _ s => K s) := by
  refine Contract.Triple.act (fun _ s => K s) hK.stable ?_ ?_
  · intro s reply s' hinv h hexec
    obtain ⟨-, rfl⟩ := Prod.mk.inj (List.mem_singleton.mp hexec)
    exact ⟨.inl rfl, hinv, h⟩
  · intro reply
    exact Contract.Triple.done hK.stable fun _ _ h => h

theorem ledger_loadByRecordId (hK : Lasting resultDigest K) :
    (ledgerContract resultDigest stableDigest allowed i c).Triple K loadByRecordId
      (fun found s => K s ∧ ∀ record, found = some record → record ∈ s.history) := by
  refine Contract.Triple.act (fun reply s => K s ∧
    ∀ record, reply = .answer (some record) → record ∈ s.history) hK.stable ?_ ?_
  · intro s reply s' hinv h hexec
    obtain ⟨rfl, hreply⟩ := mem_outcomes_load hexec
    refine ⟨.inl rfl, hinv, h, ?_⟩
    intro record heq
    rw [hreply record heq]
    exact List.mem_cons_self ..
  · intro reply
    cases reply with
    | unavailable => exact ledger_raise
    | answer found =>
        have hlasting : Lasting resultDigest (fun s => K s ∧
            ∀ record, LedgerReply.answer found = .answer (some record) → record ∈ s.history) :=
          hK.and (Lasting.all fun record => (lasting_history resultDigest record).imp)
        refine Contract.Triple.done hlasting.stable ?_
        rintro s - ⟨h, hfound⟩
        exact ⟨h, fun record heq => hfound record (congrArg _ heq)⟩

theorem ledger_cas {call : AgentCallLedgerRecord} (hK : Lasting resultDigest K)
    (hcall : ∀ s, K s → call ∈ s.history)
    (hadvance : Advance resultDigest isCancelObservationId call record) :
    (ledgerContract resultDigest stableDigest allowed i c).Triple K (cas record call.stateVersion)
      (fun outcome s => K s ∧ (settled outcome = true → record ∈ s.history)) := by
  refine Contract.Triple.act (fun reply s => K s ∧
    ∀ outcome, reply = .answer outcome → settled outcome = true → record ∈ s.history)
    hK.stable ?_ ?_
  · intro s reply s' hinv h hexec
    obtain ⟨hwrite, hsettled⟩ := mem_outcomes_cas hexec
    have hwrites : Writes resultDigest isCancelObservationId s s' := by
      rcases hwrite with rfl | ⟨hversion, rfl⟩
      · exact .inl rfl
      · have hcurrent := hinv.current_of_version (hcall s h) hversion
        exact .inr ⟨record, hcurrent ▸ hadvance, rfl⟩
    refine ⟨hwrites, hwrites.keeps hinv, hK s s' (.inl hwrites) h, ?_⟩
    intro outcome heq hok
    rw [← hsettled outcome heq hok]
    exact List.mem_cons_self ..
  · intro reply
    cases reply with
    | unavailable => exact ledger_raise
    | answer outcome =>
        have hlasting : Lasting resultDigest (fun s => K s ∧ ∀ outcome',
            LedgerReply.answer outcome = .answer outcome' → settled outcome' = true →
              record ∈ s.history) :=
          hK.and (Lasting.all fun _ => ((lasting_history resultDigest record).imp).imp)
        refine Contract.Triple.done hlasting.stable ?_
        rintro s - ⟨h, hrecord⟩
        exact ⟨h, hrecord outcome rfl⟩

/-- A compare-and-swap whose loser reads the winner and goes on with it. -/
theorem ledger_casOrWinner {call : AgentCallLedgerRecord} {onSettled : LedgerProg α}
    {retry : AgentCallLedgerRecord → LedgerProg α} {message : String}
    (hadvance : Advance resultDigest isCancelObservationId call record)
    (hsettled : (ledgerContract resultDigest stableDigest allowed i c).Triple
      (fun s => record ∈ s.history) onSettled Q)
    (hretry : ∀ winner, (ledgerContract resultDigest stableDigest allowed i c).Triple
      (fun s => winner ∈ s.history) (retry winner) Q) :
    (ledgerContract resultDigest stableDigest allowed i c).Triple (fun s => call ∈ s.history)
      (do
        let outcome ← cas record call.stateVersion
        if settled outcome then onSettled
        else
          match ← loadByRecordId with
          | none => LedgerProg.raise message
          | some winner => retry winner) Q := by
  have hcall := lasting_history resultDigest call
  refine Contract.Triple.bind _ (ledger_cas hcall (fun _ h => h) hadvance) fun outcome => ?_
  cases houtcome : settled outcome with
  | true =>
      rw [if_pos rfl]
      exact hsettled.pre fun s _ h => h.2 rfl
  | false =>
      rw [if_neg Bool.false_ne_true]
      refine (Contract.Triple.bind _ (ledger_loadByRecordId hcall) fun found => ?_).pre
        fun s _ h => h.1
      cases found with
      | none => exact ledger_raise
      | some winner => exact (hretry winner).pre fun s _ h => h.2 winner rfl

/-- The rest of a program after a ledger rule, which may use that the rule did not raise. -/
theorem ledger_raisingThen {result : Except LedgerError α} {β : Type}
    {p : α → LedgerProg β} {R : β → CallLedger → Prop}
    (hp : ∀ value, result = .ok value →
      (ledgerContract resultDigest stableDigest allowed i c).Triple K (p value) R) :
    (ledgerContract resultDigest stableDigest allowed i c).Triple K (raising result >>= p) R := by
  cases result with
  | error error => exact fun _ _ _ _ _ reply => nomatch reply
  | ok value => exact hp value rfl

theorem ledger_known {call : AgentCallLedgerRecord} {p : LedgerProg α}
    (hp : call.Valid resultDigest →
      (call.state.isTerminal = false → Unreserved isCancelObservationId call) →
      (ledgerContract resultDigest stableDigest allowed i c).Triple (fun s => call ∈ s.history) p Q) :
    (ledgerContract resultDigest stableDigest allowed i c).Triple (fun s => call ∈ s.history) p Q :=
  fun s hinv h => hp (hinv.valid call h) (hinv.unreserved call h) s hinv h

/-! ## Both programs meet their contracts -/

def Ended (record : AgentCallLedgerRecord) (s : CallLedger) : Prop :=
  record.state.isTerminal = true ∧ record ∈ s.history

theorem lasting_ended (record : AgentCallLedgerRecord) :
    Lasting resultDigest (Ended record) :=
  (lasting_const resultDigest _).and (lasting_history resultDigest record)

variable {reason : String} {deletionId : Option String}

theorem ledger_persistCanceled
    {retry : AgentCallLedgerRecord → LedgerProg AgentCallLedgerRecord}
    (hretry : ∀ winner, (ledgerContract resultDigest stableDigest allowed i c).Triple
      (fun s => winner ∈ s.history) (retry winner) Ended)
    {call : AgentCallLedgerRecord} (hpending : call.state = .cancelPending) :
    (ledgerContract resultDigest stableDigest allowed i c).Triple (fun s => call ∈ s.history)
      (persistCanceled resultDigest retry call) Ended := by
  have hcall := lasting_history resultDigest call
  have hlive : call.state.isTerminal = false := by rw [hpending]; rfl
  unfold persistCanceled
  cases hcommand : call.cancellationCommand with
  | none => exact ledger_raise
  | some command =>
      apply ledger_known
      intro hvalid hunreserved
      refine Contract.Triple.bind _ (ledger_now hcall) fun observedAt => ?_
      apply ledger_raisingThen
      intro terminal happlied
      obtain ⟨hcanceled, hne⟩ := applyObservation_canceled hpending (hunreserved hlive) happlied
      have hadvance : Advance resultDigest isCancelObservationId call terminal :=
        (applyObservation_applied happlied).advance hne hvalid (hunreserved hlive) (.inr rfl)
      have hended : terminal.state.isTerminal = true := by rw [hcanceled]; rfl
      apply ledger_casOrWinner hadvance
      · exact Contract.Triple.done (lasting_history resultDigest terminal).stable
          fun _ _ hmem => ⟨hended, hmem⟩
      · exact hretry

theorem ledger_persistAttempts (attempts : Nat) (call : AgentCallLedgerRecord) :
    (ledgerContract resultDigest stableDigest allowed i c).Triple (fun s => call ∈ s.history)
      (persistAttempts resultDigest stableDigest reason deletionId attempts call) Ended := by
  induction attempts generalizing call with
  | zero => exact ledger_raise
  | succ attempts ih =>
      have hcall := lasting_history resultDigest call
      unfold persistAttempts
      cases hterminal : call.state.isTerminal with
      | true =>
          rw [if_pos rfl]
          exact Contract.Triple.done hcall.stable fun s _ h => ⟨hterminal, h⟩
      | false =>
          rw [if_neg Bool.false_ne_true]
          by_cases hpending : call.state = .cancelPending
          · rw [if_pos hpending]
            exact ledger_persistCanceled ih hpending
          · rw [if_neg hpending]
            apply ledger_known
            intro hvalid hunreserved
            refine Contract.Triple.bind _ (ledger_now hcall) fun createdAt => ?_
            refine Contract.Triple.bind _ (ledger_now hcall) fun updatedAt => ?_
            apply ledger_raisingThen
            intro pending hmove
            have hadvance : Advance resultDigest isCancelObservationId call pending :=
              advance_pending hvalid (hunreserved hterminal) rfl hpending hmove
            apply ledger_casOrWinner hadvance
            · exact ledger_persistCanceled ih (transitionCall_state hmove)
            · exact ih

theorem ledger_applyAndStore {call : AgentCallLedgerRecord} {recentLimit : RecentIdLimit}
    (hid : isCancelObservationId observation.observationId = false) :
    (ledgerContract resultDigest stableDigest allowed i c).Triple (fun s => call ∈ s.history)
      (applyAndStore resultDigest call observation recentLimit)
      (fun record s => record ∈ s.history) := by
  unfold applyAndStore
  apply ledger_known
  intro hvalid hunreserved
  apply ledger_raisingThen
  intro changed happlied
  by_cases hsame : changed = call
  · rw [if_pos hsame]
    exact Contract.Triple.done (lasting_history resultDigest call).stable fun _ _ h => h
  · rw [if_neg hsame]
    have hmoved := ((applyObservation_applied happlied).movedOn recentLimit hvalid).resolve_left
      hsame
    have hadvance : Advance resultDigest isCancelObservationId call changed :=
      (applyObservation_applied happlied).advance hsame hvalid (hunreserved hmoved.live) (.inl hid)
    apply ledger_casOrWinner hadvance
    · exact Contract.Triple.done (lasting_history resultDigest changed).stable fun _ _ h => h
    · intro winner
      exact Contract.Triple.done (lasting_history resultDigest winner).stable fun _ _ h => h

end Rules

/-! ## The system of all writers -/

/-- Observations under any id but those of a cancellation. -/
def isOrdinaryId (id : String) : Bool :=
  !isCancelObservationId id

/-- What a call that returned gives: a canceler an ended record, an observer one of the ledger. -/
def LedgerCall.Returns : LedgerCall → AgentCallLedgerRecord → CallLedger → Prop
  | .cancel .., record, s => Ended record s
  | .observe .., record, s => record ∈ s.history

theorem ledger_proof (resultDigest : ToolResult → String) (stableDigest : List String → String) :
    (ledgerSystem resultDigest stableDigest isOrdinaryId).Proof
      (LedgerInv resultDigest isCancelObservationId)
      (fun _ _ => Writes resultDigest isCancelObservationId) (fun _ _ => True)
      (fun _ => LedgerCall.Returns) where
  starts := by
    intro (s : CallLedger) hs
    have hhistory : s.history = [s.current] := congrArg (s.current :: ·) hs.earlier
    refine ⟨⟨?_, ?_, ?_, ?_, ?_⟩, fun _ => trivial⟩
    · intro record hmem
      rw [hhistory] at hmem
      rw [List.mem_singleton.mp hmem]
      exact hs.valid
    · intro record hmem _
      rw [hhistory] at hmem
      rw [List.mem_singleton.mp hmem]
      exact hs.unreserved
    · simp [hs.earlier]
    · simp [hs.earlier]
    · simp [hs.earlier]
  environment := fun s s' hinv hwaits => hwaits.keeps hinv
  staysFresh := fun _ _ _ _ _ _ _ => trivial
  body := by
    intro i c
    cases c with
    | cancel call reason deletionId =>
        exact (ledger_persistAttempts 8 call).pre fun s _ h => h.2
    | observe call observation recentLimit =>
        apply Contract.Triple.pre (P := fun s => call ∈ s.history ∧
          isCancelObservationId observation.observationId = false)
        · intro s hinv h
          exact ledger_applyAndStore h.2 s hinv h.1
        · rintro s - ⟨-, hmem, hallowed⟩
          exact ⟨hmem, by simpa [isOrdinaryId] using hallowed⟩
  staysReturned := by
    intro i c record
    cases c with
    | cancel call reason deletionId => exact (lasting_ended record).stable
    | observe call observation recentLimit => exact (lasting_history resultDigest record).stable

/-- In every reachable configuration: a cancellation that returned gave an ended record, the
current one of the ledger; a call that was to be canceled still is, or is canceled with a canceled
result; and a call that ended another way keeps that ending. -/
theorem cancellation_converges (resultDigest : ToolResult → String)
    (stableDigest : List String → String)
    {cfg : Config (ledgerSystem resultDigest stableDigest isOrdinaryId)}
    (hreach : (ledgerSystem resultDigest stableDigest isOrdinaryId).Reachable cfg) :
    (∀ i call reason deletionId record,
      (i, LedgerCall.cancel call reason deletionId, record) ∈ cfg.returned →
        record.state.isTerminal = true ∧ record = CallLedger.current cfg.shared) ∧
    (∀ record ∈ CallLedger.history cfg.shared, record.state = .cancelPending →
      Canceling (CallLedger.current cfg.shared)) ∧
    (∀ record ∈ CallLedger.history cfg.shared, record.state.isTerminal = true →
      CallLedger.current cfg.shared = record) := by
  have hsound := hreach.sound (ledger_proof resultDigest stableDigest)
  have hinv : LedgerInv resultDigest isCancelObservationId cfg.shared := hsound.shared
  refine ⟨?_, ?_, ?_⟩
  · intro i call reason deletionId record hreturned
    obtain ⟨hended, hmem⟩ : Ended record cfg.shared := hsound.returned i _ record hreturned
    exact ⟨hended, (hinv.current_of_terminal hmem hended).symm⟩
  · intro record hmem hpending
    rcases List.mem_cons.mp hmem with rfl | hearlier
    · exact .inl hpending
    · exact hinv.canceling record hearlier hpending
  · intro record hmem hterminal
    exact hinv.current_of_terminal hmem hterminal

/-! ## Schedules -/

def ledgerStepper (resultDigest : ToolResult → String) (stableDigest : List String → String)
    (allowed : String → Bool) : (ledgerSystem resultDigest stableDigest allowed).Stepper where
  admits s c :=
    match c with
    | .cancel call _ _ => decide (call ∈ CallLedger.history s)
    | .observe call observation _ =>
        decide (call ∈ CallLedger.history s) && allowed observation.observationId
  outcomes _ _ op s := op.outcomes s
  environment n s := { s with clock := s.clock + n }
  admits_sound := by
    intro s c h
    cases c with
    | cancel call reason deletionId =>
        have hmem : call ∈ CallLedger.history s := by simpa using h
        exact hmem
    | observe call observation recentLimit =>
        have hboth : call ∈ CallLedger.history s ∧ allowed observation.observationId = true := by
          simpa using h
        exact hboth
  outcomes_sound := fun _ _ _ _ _ _ h => h
  environment_sound := fun _ _ => ⟨rfl, rfl⟩

def workingConfig (allowed : String → Bool) :
    Config (ledgerSystem statusDigest (fun _ => "h") allowed) where
  shared := ({ current := workingCall } : CallLedger)
  threads := fun _ => .unborn
  returned := []

theorem workingConfig_reachable (allowed : String → Bool) :
    (ledgerSystem statusDigest (fun _ => "h") allowed).Reachable (workingConfig allowed) :=
  .init _ ⟨⟨rfl, show workingCall.Valid statusDigest by decide, fun _ hmem => nomatch hmem⟩,
    fun _ => rfl, rfl⟩

/-- Two cancellations race: the first marks the call, the second loses and finishes it. -/
def racingCancellations : List (System.Move LedgerCall) :=
  [.start 0 (.cancel workingCall "first" none), .start 1 (.cancel workingCall "second" none)] ++
    [.act 0 0, .act 0 0, .act 1 0, .act 1 0, .act 0 3, .act 1 0, .act 1 0, .act 1 0, .act 1 3,
      .finish 1]

def LedgerCall.cancels : LedgerCall → Bool
  | .cancel .. => true
  | .observe .. => false

theorem cancellation_converges_racing :
    ∃ cfg : Config (ledgerSystem statusDigest (fun _ => "h") isOrdinaryId),
      ∃ i call reason deletionId record,
        (i, LedgerCall.cancel call reason deletionId, record) ∈ cfg.returned ∧
          record.state.isTerminal = true ∧ record = CallLedger.current cfg.shared := by
  obtain ⟨cfg, hreach, hcheck⟩ := System.Stepper.exists_of_play
    (ledgerStepper statusDigest (fun _ => "h") isOrdinaryId) racingCancellations
    (fun cfg => cfg.returned.any fun entry => LedgerCall.cancels entry.2.1)
    (workingConfig_reachable isOrdinaryId) (by decide +kernel)
  obtain ⟨⟨i, c, record⟩, hmem, hcancels⟩ := List.any_eq_true.mp hcheck
  cases c with
  | observe call observation recentLimit => cases hcancels
  | cancel call reason deletionId =>
      have hconverges := (cancellation_converges statusDigest (fun _ => "h") hreach).1
      exact ⟨cfg, i, call, reason, deletionId, record, hmem,
        hconverges i call reason deletionId record hmem⟩

/-- An observation of a working call that carries the id its cancellation will use. -/
def foreignObservation : NormalizedA2AObservation where
  observationId := "cancel-observation-cancel-h"
  sourceIdentity := "agent"
  bindingScope := "scope-1"
  eventKind := .working
  observedAt := 150

def observeThenCancel : List (System.Move LedgerCall) :=
  [.start 0 (.observe workingCall foreignObservation ⟨128, recentIdLimit_default⟩), .act 0 3, .finish 0,
    .start 1 (.cancel workingCall "stop" none)] ++
    [0, 0, 0, 0, 0, 0, 3, 0, 3].map (.act 1) ++ [.finish 1]

/-- The id is reserved for a reason: after such an observation the cancellation takes its own for
one already applied, and returns a call that is still to be canceled. -/
theorem cancellation_misled :
    ∃ cfg : Config (ledgerSystem statusDigest (fun _ => "h") (fun _ => true)),
      (ledgerSystem statusDigest (fun _ => "h") (fun _ => true)).Reachable cfg ∧
      ∃ i call reason deletionId record,
        (i, LedgerCall.cancel call reason deletionId, record) ∈ cfg.returned ∧
          record.state.isTerminal = false := by
  obtain ⟨cfg, hreach, hcheck⟩ := System.Stepper.exists_of_play
    (ledgerStepper statusDigest (fun _ => "h") (fun _ => true)) observeThenCancel
    (fun cfg => cfg.returned.any fun entry =>
      LedgerCall.cancels entry.2.1 && !AgentCallState.isTerminal entry.2.2.state)
    (workingConfig_reachable _) (by decide +kernel)
  obtain ⟨⟨i, c, record⟩, hmem, hboth⟩ := List.any_eq_true.mp hcheck
  obtain ⟨hcancels, hlive⟩ : LedgerCall.cancels c = true ∧ record.state.isTerminal = false := by
    simpa using hboth
  cases c with
  | observe call observation recentLimit => cases hcancels
  | cancel call reason deletionId =>
      exact ⟨cfg, hreach, i, call, reason, deletionId, record, hmem, hlive⟩

end Hybro.A2ARuntime
