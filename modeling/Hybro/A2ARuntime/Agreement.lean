import Hybro.A2ARuntime.IngressRules
import Hybro.Orchestrator.RunFactory

/-! # The Tool entry agrees with the ledger

One call, the suspended Run that waits for it and the inbox rows about it. The two
records are changed in separate steps, and others write them too. What is proved is what
each processed row leaves behind.
-/

namespace Hybro.A2ARuntime

open Orchestrator Kernel PythonList

/-! ## Agreement -/

/-- The entry shows what the call ended with, or the question it waits with. -/
structure Agrees (call : AgentCallLedgerRecord) (entry : ToolBatchEntry) : Prop where
  terminal : call.state.isTerminal = true →
    entry.state = .terminal ∧ entry.bufferedTerminalResult = call.terminalResult
  parked : ∀ state, entryStateOf call.state = some state →
    entry.state = state ∧ entry.interactionId = call.pendingInteractionId ∧
      entry.interactionFingerprint = call.interactionFingerprint

structure EntryOf (run : OrchestratorRunState) (call : AgentCallLedgerRecord)
    (batchIndex entryIndex : Nat) (entry : ToolBatchEntry) : Prop where
  found : findInvocation run call.invocationId = some (batchIndex, entryIndex)
  present : entryAt? run batchIndex entryIndex = some entry
  invocation : entry.invocation.any (·.invocationId = call.invocationId) = true

structure ProcessorState where
  call : AgentCallLedgerRecord
  run : OrchestratorRunState
  rows : List A2AObservationInboxRecord
  deriving DecidableEq

/-- The call has a result when it has ended, and an entry of the Run. -/
structure Located (state : ProcessorState) : Prop where
  results : ResultWhenEnded state.call
  entry : ∃ batchIndex entryIndex entry, EntryOf state.run state.call batchIndex entryIndex entry

/-! ## Steps -/

/-- A row is processed to its end on a suspended Run; a processing is interrupted, and the row
stays or is released; or the rest of the system writes the call, the Run and the inbox. -/
inductive ProcessorStep (env : ProcessorEnv) :
    ProcessorState → Option (PortAnswers × A2AObservationInboxRecord) → ProcessorState → Prop
  | processed {state : ProcessorState} {index : Nat} {row : A2AObservationInboxRecord}
      {processed : Processed} (answers : PortAnswers) (hrow : state.rows[index]? = some row)
      (hrun : state.run.status.isSuspended = true)
      (h : process env answers state.call state.run row = .ok processed) :
      ProcessorStep env state (some (answers, row))
        ⟨processed.call, processed.run, state.rows.set index processed.row⟩
  | interrupted {state : ProcessorState} {index : Nat} {row row' : A2AObservationInboxRecord}
      {interrupted : Interrupted} (answers : PortAnswers) (hrow : state.rows[index]? = some row)
      (h : process env answers state.call state.run row = .error interrupted)
      (hsame : row'.observation = row.observation) :
      ProcessorStep env state none
        ⟨interrupted.call, interrupted.run, state.rows.set index row'⟩
  | elsewhere {state next : ProcessorState} (h : Located next) : ProcessorStep env state none next

/-- The kernel has no use for the row: its entry does not wait, or has seen it. -/
inductive Deaf (run : OrchestratorRunState) (row : A2AObservationInboxRecord)
    (entry : ToolBatchEntry) : Prop
  | unsuspended (h : isSuspendedEntry entry.state = false)
  | seen (h : row.observationId ∈ entry.processedObservationIds)
  | sent (h : observationCommand row.observationId ∈ run.processedCommandIds)

/-- The row is of a kind that says nothing of a question, and the call waits with one. -/
structure Erases (env : ProcessorEnv) (call : AgentCallLedgerRecord)
    (row : A2AObservationInboxRecord) : Prop where
  unaccounted : ¬ Accounted row
  parked : (entryStateOf call.state).isSome = true
  plain : (typedObservation env row.observation).1.eventKind.isInteraction = false
  ignored : (typedObservation env row.observation).1.eventKind.isProgress = true ∨
    row.observationId ∈ call.recentObservationIds

/-- Before the row is processed. A row that does not get to the entry finds the two in agreement
and leaves the ledger as it is; any other does not erase a question. -/
inductive Keeps (env : ProcessorEnv) (answers : PortAnswers) (call : AgentCallLedgerRecord)
    (run : OrchestratorRunState) (row : A2AObservationInboxRecord) (entry : ToolBatchEntry) : Prop
  | unheard (hunheard : Unheard env answers call run row) (hagrees : Agrees call entry)
  | refused (hdeaf : Deaf run row entry) (hunmoved : Unmoved env call row)
      (hagrees : Agrees call entry)
  | heard (hheard : ¬ Unheard env answers call run row) (hdeaf : ¬ Deaf run row entry)
      (hkeeps : ¬ Erases env call row)

section Steps

variable {env : ProcessorEnv} {answers : PortAnswers} {call call' : AgentCallLedgerRecord}
  {run run' : OrchestratorRunState} {row : A2AObservationInboxRecord}
  {batchIndex entryIndex : Nat} {entry entry' : ToolBatchEntry}
  {observation : NormalizedA2AObservation} {toolObservation : ToolObservation}

/-! ## The entry of the call -/

theorem isTerminal_of_suspended (hrun : run.status.isSuspended = true) :
    run.status.isTerminal = false := by
  cases hstatus : run.status <;> rw [hstatus] at hrun <;> first | rfl | cases hrun

theorem EntryOf.call_eq (h : EntryOf run call batchIndex entryIndex entry)
    (hcall : call'.invocationId = call.invocationId) :
    EntryOf run call' batchIndex entryIndex entry := by
  constructor
  · rw [hcall]
    exact h.found
  · exact h.present
  · rw [hcall]
    exact h.invocation

theorem EntryOf.suspensionCheckpointed (h : EntryOf run call batchIndex entryIndex entry)
    (hsuspended : isSuspendedEntry entry.state = true) :
    isSuspensionCheckpointed run call.invocationId = true := by
  unfold isSuspensionCheckpointed
  rw [List.any_eq_true]
  refine ⟨entry, mem_entries_iff.mpr ⟨batchIndex, entryIndex, h.present⟩, ?_⟩
  rw [h.invocation, hsuspended]
  rfl

theorem EntryOf.observed (h : EntryOf run call batchIndex entryIndex entry)
    (hobserved : Observed run batchIndex entryIndex entry toolObservation run') :
    ∃ entry', EntryOf run' call batchIndex entryIndex entry' ∧
      UpToFlush (observedEntry entry toolObservation) entry' := by
  obtain ⟨entry', hentry', hflush⟩ := hobserved.stage.entry
  refine ⟨entry', ⟨?_, hentry', ?_⟩, hflush⟩
  · rw [findInvocation_eq_findNamed, hobserved.stage.names, ← findInvocation_eq_findNamed]
    exact h.found
  · have hnames := hflush.names.trans (observedEntry_names entry toolObservation)
    have hinvocation : entry'.invocation = entry.invocation := congrArg (·.2.2) hnames
    rw [hinvocation]
    exact h.invocation

theorem EntryOf.stored (h : EntryOf run call batchIndex entryIndex entry)
    (hstored : Stored call run call' run') :
    ∃ entry', EntryOf run' call' batchIndex entryIndex entry' := by
  rcases hstored.run with rfl | ⟨toolObservation, now, hinvocation, hobserved⟩
  · exact ⟨entry, h.call_eq hstored.invocation⟩
  · have hfound : findInvocation run toolObservation.invocationId =
        some (batchIndex, entryIndex) := by
      rw [hinvocation]
      exact h.found
    rcases observeTool_ok hfound h.present hobserved with ⟨rfl, -⟩ | ⟨-, happlied⟩
    · exact ⟨entry, h.call_eq hstored.invocation⟩
    · obtain ⟨entry', hentry', -⟩ := h.observed happlied
      exact ⟨entry', hentry'.call_eq hstored.invocation⟩

/-! ## What is delivered -/

theorem typedSuspension_matches {suspension : ToolSuspension}
    (h : typedSuspension env call observation = .ok suspension) :
    call.state = observation.eventKind.callState ∧
      suspension.status = observation.eventKind.suspensionStatus ∧
      suspension.interactionId = call.pendingInteractionId ∧
      suspension.interactionFingerprint = call.interactionFingerprint := by
  unfold typedSuspension at h
  split at h
  · cases h
  split at h
  · cases h
  split at h
  · cases h
  · rename_i hmatches
    simp only [not_or, not_not] at hmatches
    obtain ⟨hstate, hpending, -, hfingerprint⟩ := hmatches
    cases h
    exact ⟨hstate, rfl, hpending.symm, hfingerprint.symm⟩

theorem entryState_of_question {kind : ObservationKind} {state : ToolBatchEntryState}
    (hkind : kind.isInteraction = true) (h : entryStateOf kind.callState = some state) :
    kind.suspensionStatus.entryState = state := by
  cases kind <;> first | exact Option.some.inj h | cases hkind

theorem toolOutcome_suspension {outcome : ToolExecutionOutcome} (hresult : call.terminalResult = none)
    (h : toolOutcome env call observation = .ok outcome) :
    ∃ suspension, outcome = .suspension suspension ∧
      ((observation.eventKind.isInteraction = true ∧
          typedSuspension env call observation = .ok suspension) ∨
        (observation.eventKind.isInteraction = false ∧
          suspension = waitingSuspension call observation)) := by
  unfold toolOutcome at h
  rw [hresult] at h
  dsimp only at h
  cases hkind : observation.eventKind.isInteraction with
  | true =>
      rw [hkind, if_pos rfl] at h
      split at h
      · cases h
      · rename_i suspension hsuspension
        cases h
        exact ⟨suspension, rfl, .inl ⟨rfl, hsuspension⟩⟩
  | false =>
      rw [hkind, if_neg Bool.false_ne_true] at h
      cases h
      exact ⟨_, rfl, .inr ⟨rfl, rfl⟩⟩

theorem agrees_of_told (hresults : ResultWhenEnded call)
    (htold : toToolObservation env call observation = .ok toolObservation)
    (hkept : observation.eventKind.isInteraction = false → entryStateOf call.state = none)
    (hflush : UpToFlush (observedEntry entry toolObservation) entry') :
    Agrees call entry' := by
  obtain ⟨-, -, houtcome⟩ := toToolObservation_names htold
  obtain ⟨hstate, hbuffered, hid, hfingerprint, -⟩ := hflush.same
  unfold ResultWhenEnded at hresults
  cases hresult : call.terminalResult with
  | some result =>
      rw [hresult] at hresults
      have hended : call.state.isTerminal = true := hresults.symm
      have houtcome : toolObservation.outcome = .result result := by
        unfold toolOutcome at houtcome
        rw [hresult] at houtcome
        exact (Except.ok.inj houtcome).symm
      obtain ⟨hterminal, hdelivered⟩ := observedEntry_of_result entry houtcome
      refine ⟨fun _ => ⟨hstate.trans hterminal, ?_⟩, ?_⟩
      · rw [hbuffered, hdelivered, hresult]
      · intro state hparked
        rw [entryStateOf_terminal hended] at hparked
        cases hparked
  | none =>
      rw [hresult] at hresults
      have hlive : call.state.isTerminal = false := hresults.symm
      obtain ⟨suspension, hsuspension, hread⟩ := toolOutcome_suspension hresult houtcome
      obtain ⟨hstate', hid', hfingerprint'⟩ :=
        observedEntry_of_suspension entry hsuspension
      constructor
      · intro hended
        rw [hlive] at hended
        cases hended
      · intro state hparked
        rcases hread with ⟨hkind, htyped⟩ | ⟨hkind, -⟩
        · obtain ⟨hcall, hstatus, hpending, hprint⟩ := typedSuspension_matches htyped
          rw [hcall] at hparked
          refine ⟨?_, hid.trans (hid'.trans hpending), hfingerprint.trans (hfingerprint'.trans hprint)⟩
          rw [hstate, hstate', hstatus]
          exact entryState_of_question hkind hparked
        · rw [hkept hkind] at hparked
          cases hparked

/-! ## One processing -/

theorem Agrees.stays (h : Agrees call entry) (hstays : Stays call call') : Agrees call' entry where
  terminal hended := by
    have hcall := hstays.ended hended
    subst hcall
    exact h.terminal hended
  parked state hparked := by
    obtain ⟨hbefore, hpending, hfingerprint⟩ := hstays.parked state hparked
    obtain ⟨hstate, hid, hprint⟩ := h.parked state hbefore
    exact ⟨hstate, hid.trans hpending.symm, hprint.trans hfingerprint.symm⟩

/-- Whether the kernel is told depends on no more of the row than these. -/
theorem Unheard.of_same {row' : A2AObservationInboxRecord}
    (h : Unheard env answers call run row) (hobservation : row'.observation = row.observation)
    (hroute : row'.deliveryRoute = row.deliveryRoute)
    (hstate : row'.deliveryState = row.deliveryState)
    (hdigest : row'.outcomeDigest = row.outcomeDigest) : Unheard env answers call run row' := by
  obtain ⟨_, _, _, _, _, _, _, _, _, _⟩ := row
  obtain ⟨_, _, _, _, _, _, _, _, _, _⟩ := row'
  dsimp only at hobservation hroute hstate hdigest
  subst hobservation hroute hstate hdigest
  cases h with
  | accounted hroute hdigest hmute => exact .accounted hroute hdigest hmute
  | closes hunaccounted hcloses =>
      cases hcloses with
      | superseded hquestion hlive hother hknown =>
          exact .closes hunaccounted (.superseded hquestion hlive hother hknown)
      | revised hattached hrevision => exact .closes hunaccounted (.revised hattached hrevision)
      | ended hquestion hended => exact .closes hunaccounted (.ended hquestion hended)
      | contradicts hended hfresh hprepared hkind hstatus hdigest =>
          exact .closes hunaccounted (.contradicts hended hfresh hprepared hkind hstatus hdigest)

theorem Unmoved.ofClaim (h : Unmoved env call row) : Unmoved env call row.claim := by
  cases h with
  | ignored hunmoving => exact .ignored hunmoving
  | attached hattached => exact .attached hattached

theorem Correlates.claim (h : Correlates call row) : Correlates call row.claim :=
  ⟨h.callRecordId, h.bindingScope, h.conversationId, h.roomEpoch⟩

theorem DeliveryOutcome.delivered (row : A2AObservationInboxRecord)
    (hentry : EntryOf run call batchIndex entryIndex entry) (hrun : run.status.isSuspended = true)
    (hid : toolObservation.observationId = row.observationId)
    (hinvocation : toolObservation.invocationId = call.invocationId)
    (hcall : call'.invocationId = call.invocationId)
    (h : DeliveryOutcome run toolObservation answers.now call'.invocationId run') :
    (Deaf run row entry ∧ run' = run) ∨
      (¬ Deaf run row entry ∧ Observed run batchIndex entryIndex entry toolObservation run') := by
  have hfound : findInvocation run toolObservation.invocationId =
      some (batchIndex, entryIndex) := by
    rw [hinvocation]
    exact hentry.found
  cases h with
  | observed hobserved =>
      rcases observeTool_ok hfound hentry.present hobserved with ⟨hsame, hknown⟩ | ⟨hsuspended, happlied⟩
      · left
        rw [hid] at hknown
        rcases hknown with hseen | hsent
        · exact ⟨.seen hseen, hsame⟩
        · exact ⟨.sent hsent, hsame⟩
      · right
        refine ⟨?_, happlied⟩
        have hunseen := happlied.unseen
        have hunsent := happlied.unsent
        rw [hid] at hunseen hunsent
        intro hdeaf
        cases hdeaf with
        | unsuspended hother =>
            rw [hsuspended] at hother
            cases hother
        | seen hseen => exact hunseen hseen
        | sent hsent => exact hunsent hsent
  | deferred hconflict =>
      have hpresent : entry.invocation.isSome = true := by
        have hany := hentry.invocation
        cases hnone : entry.invocation with
        | none => rw [hnone] at hany; cases hany
        | some _ => rfl
      left
      refine ⟨.unsuspended ?_, rfl⟩
      cases hsuspended : isSuspendedEntry entry.state with
      | false => rfl
      | true =>
          exact absurd hconflict
            (observeTool_no_conflict hfound hentry.present hpresent hrun hsuspended)
  | withheld hwithheld =>
      left
      refine ⟨.unsuspended ?_, rfl⟩
      cases hsuspended : isSuspendedEntry entry.state with
      | false => rfl
      | true =>
          rw [hcall, hentry.suspensionCheckpointed hsuspended] at hwithheld
          cases hwithheld

/-- After a row that is no question, and does not erase one, the call waits with none. -/
theorem Heard.unparked (h : Heard env answers call run row observation call')
    (hkeeps : ¬ Erases env call row) (hplain : observation.eventKind.isInteraction = false) :
    entryStateOf call'.state = none := by
  by_contra hparked
  have hparked : (entryStateOf call'.state).isSome = true :=
    Option.isSome_iff_ne_none.mpr hparked
  obtain ⟨hstate, hignored⟩ := h.moved.parked hplain hparked
  rw [hstate] at hparked
  have hlive : call.state.isTerminal = false := by
    cases hended : call.state.isTerminal with
    | false => rfl
    | true =>
        rw [entryStateOf_terminal hended] at hparked
        cases hparked
  obtain ⟨hunaccounted, hkind⟩ := h.kind hlive
  rw [hkind, h.id] at hignored
  rw [hkind] at hplain
  exact hkeeps ⟨hunaccounted, hparked, hplain, hignored⟩

theorem process_agrees {processed : Processed}
    (hentry : EntryOf run call batchIndex entryIndex entry) (hresults : ResultWhenEnded call)
    (hrun : run.status.isSuspended = true) (hopen : row.isDone = false)
    (hcorrelates : Correlates call row) (hkeeps : Keeps env answers call run row entry)
    (h : process env answers call run row = .ok processed) :
    ∃ entry', EntryOf processed.run processed.call batchIndex entryIndex entry' ∧
      Agrees processed.call entry' := by
  cases process_told (isTerminal_of_suspended hrun) hopen h with
  | kept hunheard =>
      have hunheard : Unheard env answers call run row :=
        (hunheard hcorrelates.claim).of_same rfl rfl rfl rfl
      cases hkeeps with
      | unheard _ hagrees => exact ⟨entry, hentry, hagrees⟩
      | refused _ _ hagrees => exact ⟨entry, hentry, hagrees⟩
      | heard hheard _ _ => exact absurd hunheard hheard
  | told hheard htold houtcome =>
      rename_i call' run' row' observation toolObservation
      obtain ⟨hid, hinvocation, -⟩ := toToolObservation_names htold
      have hcall := hheard.moved.invocation
      have hdelivered := houtcome.delivered row hentry hrun (hid.trans hheard.id)
        (hinvocation.trans hcall) hcall
      have hcalled := hentry.call_eq hcall
      cases hkeeps with
      | unheard hunheard _ =>
          have hclaimed : Unheard env answers call run row.claim :=
            hunheard.of_same rfl rfl rfl rfl
          exact absurd hclaimed hheard.heard
      | refused hdeaf hunmoved hagrees =>
          rcases hdelivered with ⟨-, rfl⟩ | ⟨hnotDeaf, -⟩
          · exact ⟨entry, hcalled, hagrees.stays (hheard.stays hunmoved.ofClaim)⟩
          · exact absurd hdeaf hnotDeaf
      | heard _ hnotDeaf herases =>
          rcases hdelivered with ⟨hdeaf, -⟩ | ⟨-, hobserved⟩
          · exact absurd hdeaf hnotDeaf
          obtain ⟨entry', hentry', hflush⟩ := hentry.observed hobserved
          have hkept : observation.eventKind.isInteraction = false →
              entryStateOf call'.state = none :=
            hheard.unparked fun h => herases ⟨h.unaccounted, h.parked, h.plain, h.ignored⟩
          exact ⟨entry', hentry'.call_eq hcall,
            agrees_of_told (hheard.moved.results hresults) htold hkept hflush⟩

end Steps

/-! ## Every run of processings -/

theorem ProcessorStep.located {env : ProcessorEnv} {state next : ProcessorState}
    {event : Option (PortAnswers × A2AObservationInboxRecord)} (hlocated : Located state)
    (hstep : ProcessorStep env state event next) : Located next := by
  obtain ⟨hresults, batchIndex, entryIndex, entry, hentry⟩ := hlocated
  cases hstep with
  | @processed index row processed answers hrow hrun h =>
      have hstored := process_leaves env answers state.call state.run row
      rw [h] at hstored
      exact ⟨hstored.results hresults, batchIndex, entryIndex, hentry.stored hstored⟩
  | @interrupted index row row' interrupted answers hrow h hsame =>
      have hstored := process_leaves env answers state.call state.run row
      rw [h] at hstored
      exact ⟨hstored.results hresults, batchIndex, entryIndex, hentry.stored hstored⟩
  | elsewhere h => exact h

def ProcessorRun (env : ProcessorEnv) : ProcessorState → ProcessorState → Prop :=
  Relation.ReflTransGen fun state next => ∃ event, ProcessorStep env state event next

theorem ProcessorRun.located {env : ProcessorEnv} {start state : ProcessorState}
    (hlocated : Located start) (hrun : ProcessorRun env start state) : Located state := by
  induction hrun with
  | refl => exact hlocated
  | tail _ hstep ih =>
      obtain ⟨event, hstep⟩ := hstep
      exact ProcessorStep.located ih hstep

section Sample

def sampleEnv : ProcessorEnv where
  resultDigest := statusDigest
  validateInteraction spec := if spec = [] then none else some ⟨"question-1", []⟩
  interactionDigest interaction := interaction.interactionId
  toolObservationDigest observation := observation.observationId
  evidenceDigest observation := observation.observationId
  policy := {}

def sampleAnswers : PortAnswers where
  renewed _ := true
  materializeInboundArtifacts refs := .ok refs
  createOrReplay := .ok "question-1"
  activate := .ok ()
  abandon _ := .ok ()
  insertConflict := .ok ()
  now := 300

def sampleInvocation : ToolInvocation where
  invocationId := "invocation-1"
  runId := "run"
  expectedRunVersion := 0
  assistantMessageId := "assistant-1"
  sourceIndex := 0
  causationId := "question"
  idempotencyKey := "invocation-1"
  tool := ⟨⟨"agent_a", "Agent", "", .obj [], .sequential⟩, ⟨"binding-1", "digest-1"⟩⟩
  arguments := []
  deadlineAt := 600

def suspendedRun (entry : ToolBatchEntry) : OrchestratorRunState :=
  { sampleRun with
    status := .waitingExternal
    toolBatches := [⟨"assistant-1", [entry], false, none⟩] }

def waitingEntry : ToolBatchEntry where
  callId := "invocation-1"
  assistantMessageId := "assistant-1"
  sourceIndex := 0
  toolName := "agent_a"
  state := .waitingExternal
  invocation := some sampleInvocation
  suspendedCallRecordId := some "call-1"

def inboxRow (observationId : String) (eventKind : ObservationKind)
    (status : Option ToolResultStatus) : A2AObservationInboxRecord where
  bindingScope := "scope-1"
  conversationId := "room-1"
  roomEpoch := 1
  callRecordId := some "call-1"
  observation :=
    { observationId := observationId, sourceIdentity := observationId, bindingScope := "scope-1"
      eventKind := eventKind, observedAt := 200, status := status }

def endingRow : A2AObservationInboxRecord :=
  inboxRow "ending" .terminal (some .completed)

def endingState : ProcessorState where
  call := workingCall
  run := suspendedRun waitingEntry
  rows := [endingRow]

theorem endingState_located : Located endingState :=
  ⟨rfl, 0, 0, waitingEntry, by decide, by decide, by decide⟩

def lostAnswers : PortAnswers :=
  { sampleAnswers with renewed := (· ≠ 2) }

/-- The ledger has the ending, and the kernel has not heard of it. -/
def lostState : ProcessorState :=
  match process sampleEnv lostAnswers endingState.call endingState.run endingRow with
  | .error interrupted => ⟨interrupted.call, interrupted.run, endingState.rows⟩
  | .ok _ => endingState

theorem lost_step : ProcessorStep sampleEnv endingState none lostState := by
  have hlost : process sampleEnv lostAnswers endingState.call endingState.run endingRow =
      .error ⟨.claimLost, lostState.call, lostState.run⟩ := rfl
  have hrow : endingState.rows[0]? = some endingRow := rfl
  exact .interrupted lostAnswers hrow hlost rfl

theorem lostState_keeps {batchIndex entryIndex : Nat} {entry : ToolBatchEntry}
    (hentry : EntryOf lostState.run lostState.call batchIndex entryIndex entry) :
    Keeps sampleEnv sampleAnswers lostState.call lostState.run endingRow entry := by
  have hfound : some (0, 0) = some (batchIndex, entryIndex) := hentry.found
  cases hfound
  have hpresent : some waitingEntry = some entry := hentry.present
  cases hpresent
  have hplain : (typedObservation sampleEnv endingRow.observation).2 = none := rfl
  have hrecent : lostState.call.recentObservationIds = ["ending"] := rfl
  apply Keeps.heard
  · intro hunheard
    cases hunheard with
    | accounted hroute _ _ => cases hroute
    | closes _ hcloses =>
        cases hcloses with
        | superseded hquestion _ _ _ =>
            rw [hplain] at hquestion
            cases hquestion
        | revised hattached _ =>
            rw [hplain] at hattached
            cases hattached
        | ended hquestion _ =>
            rw [hplain] at hquestion
            cases hquestion
        | contradicts _ hfresh _ _ _ _ =>
            apply hfresh
            rw [hrecent]
            exact List.mem_singleton_self _
  · intro hdeaf
    cases hdeaf with
    | unsuspended hother => cases hother
    | seen hseen => cases hseen
    | sent hsent => cases hsent
  · intro herases
    cases herases.parked

/-- The call and its entry wait with the same question, and late progress is in the inbox. -/
def parkedState : ProcessorState where
  call := { workingCall with
    state := .inputRequired
    pendingInteractionId := some "question-1"
    interactionRevision := some 1
    interactionFingerprint := some "question-1" }
  run := { suspendedRun { waitingEntry with
      state := .inputRequired
      interactionId := some "question-1"
      interactionFingerprint := some "question-1"
      presented := true } with
    status := .awaitingUser }
  rows := [inboxRow "progress" .working none]

theorem parkedState_located : Located parkedState :=
  ⟨rfl, 0, 0, _, by decide, rfl, by decide⟩

end Sample

end Hybro.A2ARuntime
