import Hybro.Kernel.ObservationRules
import Hybro.Orchestrator.RunFactory

/-! # Observations that come again

Polling, callbacks and recovery may deliver an observation any number of times. This module
follows a Run through its observations and all other writes of its Tool batches, and says when
an observation that was applied is recognized.
-/

namespace Hybro.Kernel

open Orchestrator

/-! ## Other writes of the batches -/

/-- The keyword updates of an entry by a write other than an observation; a field left out
keeps its value. -/
structure EntryUpdates where
  opaquePublicCallId : Option String := none
  state : Option ToolBatchEntryState := none
  invocation : Option ToolInvocation := none
  acceptance : Option ToolAcceptance := none
  bufferedTerminalResult : Option (Option ToolResult) := none
  publicUpdateIndex : Option Nat := none
  publicTerminalEmitted : Option Bool := none
  presented : Option Bool := none
  resultFlushed : Option Bool := none
  suspendedCallRecordId : Option (Option String) := none
  surfaceForCallRecordId : Option (Option String) := none
  presentationId : Option (Option String) := none
  interactionId : Option (Option String) := none
  interactionFingerprint : Option (Option String) := none
  interactionQuestions : Option (List ToolInteractionQuestion) := none

/-- `entry.model_copy(update=updates)` -/
def EntryUpdates.overlay (updates : EntryUpdates) (entry : ToolBatchEntry) : ToolBatchEntry :=
  { entry with
    opaquePublicCallId := updates.opaquePublicCallId.orElse fun _ => entry.opaquePublicCallId
    state := updates.state.getD entry.state
    invocation := updates.invocation.orElse fun _ => entry.invocation
    acceptance := updates.acceptance.orElse fun _ => entry.acceptance
    bufferedTerminalResult := updates.bufferedTerminalResult.getD entry.bufferedTerminalResult
    publicUpdateIndex := updates.publicUpdateIndex.getD entry.publicUpdateIndex
    publicTerminalEmitted := updates.publicTerminalEmitted.getD entry.publicTerminalEmitted
    presented := updates.presented.getD entry.presented
    resultFlushed := updates.resultFlushed.getD entry.resultFlushed
    suspendedCallRecordId := updates.suspendedCallRecordId.getD entry.suspendedCallRecordId
    surfaceForCallRecordId := updates.surfaceForCallRecordId.getD entry.surfaceForCallRecordId
    presentationId := updates.presentationId.getD entry.presentationId
    interactionId := updates.interactionId.getD entry.interactionId
    interactionFingerprint := updates.interactionFingerprint.getD entry.interactionFingerprint
    interactionQuestions := updates.interactionQuestions.getD entry.interactionQuestions }

def writeEntries (updates : Nat → Nat → EntryUpdates) (flushed : Nat → Bool)
    (batches : List ToolCallBatch) : List ToolCallBatch :=
  batches.mapIdx fun batchIndex batch =>
    { batch with
      entries := batch.entries.mapIdx fun entryIndex entry =>
        (updates batchIndex entryIndex).overlay entry
      resultsFlushed := flushed batchIndex }

/-- A write of the Run that is no observation. The kernel adds a batch for an Assistant message,
or it updates entries; an invocation has the id of its call. All else of the Run may change. -/
inductive RunWrite (run next : OrchestratorRunState) : Prop
  | entries (updates : Nat → Nat → EntryUpdates) (flushed : Nat → Bool)
      (hinvocations : ∀ batchIndex entryIndex entry invocation,
        entryAt? run batchIndex entryIndex = some entry →
        (updates batchIndex entryIndex).invocation = some invocation →
        invocation.invocationId = entry.callId)
      (h : next.toolBatches = writeEntries updates flushed run.toolBatches)
  | batch (assistant : AssistantMessage) (internalTurnId : Option String)
      (h : next.toolBatches = run.toolBatches ++ [newToolBatch assistant internalTurnId])

/-! ## The target of an observation -/

def target (run : OrchestratorRunState) (observation : ToolObservation) : Option ToolBatchEntry :=
  (findInvocation run observation.invocationId).bind fun (batchIndex, entryIndex) =>
    entryAt? run batchIndex entryIndex

def isProcessed (run : OrchestratorRunState) (observation : ToolObservation) : Bool :=
  (target run observation).any fun entry =>
    decide (observation.observationId ∈ entry.processedObservationIds)

/-- The duplicate check is reached: the Run has ended, or the Run and the entry are suspended. -/
def isRecognized (run : OrchestratorRunState) (observation : ToolObservation) : Bool :=
  run.status.isTerminal ||
    (run.status.isSuspended && (target run observation).any (isSuspendedEntry ·.state))

/-! ## What stays of an entry -/

/-- The entry has an invocation, under the id of its call. -/
def Invoked (entry : ToolBatchEntry) : Prop :=
  ∃ invocation, entry.invocation = some invocation ∧ invocation.invocationId = entry.callId

structure Continues (entry later : ToolBatchEntry) : Prop where
  callId : later.callId = entry.callId
  toolName : later.toolName = entry.toolName
  invoked : Invoked entry → Invoked later
  processed : ∀ id ∈ entry.processedObservationIds, id ∈ later.processedObservationIds

structure Proceeds (run later : OrchestratorRunState) : Prop where
  found : ∀ invocationId place, findInvocation run invocationId = some place →
    findInvocation later invocationId = some place
  entries : ∀ batchIndex entryIndex entry, entryAt? run batchIndex entryIndex = some entry →
    ∃ later', entryAt? later batchIndex entryIndex = some later' ∧ Continues entry later'

section Writes

variable {run next : OrchestratorRunState} {batchIndex entryIndex : Nat}
  {entry : ToolBatchEntry} {observation : ToolObservation} {now : Timestamp}

/-- The call ids of the batches, where `_find_invocation` looks. -/
def callIds (batches : List ToolCallBatch) : List (List String) :=
  batches.map fun batch => batch.entries.map (·.callId)

def findCallId (ids : List (List String)) (invocationId : String) : Option (Nat × Nat) :=
  ids.zipIdx.findSome? fun (batch, batchIndex) =>
    (batch.findIdx? (· = invocationId)).map (batchIndex, ·)

theorem findInvocation_eq_findCallId (run : OrchestratorRunState) (invocationId : String) :
    findInvocation run invocationId = findCallId (callIds run.toolBatches) invocationId := by
  unfold findInvocation findCallId callIds
  rw [List.zipIdx_map, List.findSome?_map]
  congr 1
  funext ⟨batch, batchIndex⟩
  simp only [Function.comp, Prod.map, List.findIdx?_map, id]
  rfl

theorem findInvocation_congr (h : callIds next.toolBatches = callIds run.toolBatches)
    (invocationId : String) :
    findInvocation next invocationId = findInvocation run invocationId := by
  rw [findInvocation_eq_findCallId, findInvocation_eq_findCallId, h]

theorem findCallId_append {ids : List (List String)} {invocationId : String} {place : Nat × Nat}
    (h : findCallId ids invocationId = some place) (more : List (List String)) :
    findCallId (ids ++ more) invocationId = some place := by
  unfold findCallId at *
  rw [List.zipIdx_append, List.findSome?_append, h]
  rfl

theorem callId_of_findInvocation (hfound : findInvocation run observation.invocationId =
      some (batchIndex, entryIndex))
    (hentry : entryAt? run batchIndex entryIndex = some entry) :
    entry.callId = observation.invocationId := by
  unfold findInvocation at hfound
  obtain ⟨⟨batch, index⟩, hmem, hplace⟩ := List.exists_of_findSome?_eq_some hfound
  obtain ⟨found, hfind, heq⟩ := Option.map_eq_some_iff.mp hplace
  cases heq
  have hbatch : run.toolBatches[batchIndex]? = some batch := by
    simpa using List.mk_mem_zipIdx_iff_getElem?.mp hmem
  obtain ⟨hlt, hcall, -⟩ := List.findIdx?_eq_some_iff_getElem.mp hfind
  simp only [entryAt?, hbatch, Option.bind_some] at hentry
  rw [List.getElem?_eq_getElem hlt] at hentry
  rw [← Option.some.inj hentry]
  simpa using hcall

theorem Continues.refl (entry : ToolBatchEntry) : Continues entry entry :=
  ⟨rfl, rfl, id, fun _ hmem => hmem⟩

theorem overlay_continues {updates : EntryUpdates}
    (hinvocation : ∀ invocation, updates.invocation = some invocation →
      invocation.invocationId = entry.callId) : Continues entry (updates.overlay entry) := by
  refine ⟨rfl, rfl, ?_, fun _ hmem => hmem⟩
  intro hinvoked
  cases hupdate : updates.invocation with
  | none =>
      obtain ⟨invocation, hentry, hid⟩ := hinvoked
      exact ⟨invocation, by simp [EntryUpdates.overlay, hupdate, hentry], hid⟩
  | some invocation =>
      exact ⟨invocation, by simp [EntryUpdates.overlay, hupdate], hinvocation invocation hupdate⟩

theorem RunWrite.proceeds (h : RunWrite run next) : Proceeds run next := by
  cases h with
  | entries updates flushed hinvocations hbatches =>
      have hids : callIds next.toolBatches = callIds run.toolBatches := by
        rw [hbatches]
        unfold callIds writeEntries
        apply List.ext_getElem?
        intro i
        simp only [List.getElem?_map, List.getElem?_mapIdx]
        cases run.toolBatches[i]? with
        | none => rfl
        | some batch =>
            simp only [Option.map_some, Option.some.injEq]
            apply List.ext_getElem?
            intro j
            simp only [List.getElem?_map, List.getElem?_mapIdx]
            cases batch.entries[j]? <;> rfl
      constructor
      · intro invocationId place hfound
        rw [findInvocation_congr hids]
        exact hfound
      · intro i j entry hentry
        refine ⟨(updates i j).overlay entry, ?_, overlay_continues (hinvocations i j entry · hentry)⟩
        obtain ⟨batch, hbatch, hget⟩ := Option.bind_eq_some_iff.mp hentry
        simp [entryAt?, hbatches, writeEntries, List.getElem?_mapIdx, hbatch, hget]
  | batch assistant internalTurnId hbatches =>
      constructor
      · intro invocationId place hfound
        rw [findInvocation_eq_findCallId] at hfound ⊢
        rw [hbatches, callIds, List.map_append]
        exact findCallId_append hfound _
      · intro i j entry hentry
        refine ⟨entry, ?_, Continues.refl entry⟩
        obtain ⟨batch, hbatch, hget⟩ := Option.bind_eq_some_iff.mp hentry
        have hlt := (List.getElem?_eq_some_iff.mp hbatch).1
        simp [entryAt?, hbatches, List.getElem?_append_left hlt, hbatch, hget]

end Writes

/-! ## What stays through an observation -/

section Observation

variable {run next updated : OrchestratorRunState} {batchIndex entryIndex : Nat}
  {entry : ToolBatchEntry} {observation : ToolObservation} {now : Timestamp}
  {batches batches' : List ToolCallBatch}

def Remembers (batches later : List ToolCallBatch) : Prop :=
  ∀ i j entry, entryIn batches i j = some entry →
    ∃ entry', entryIn later i j = some entry' ∧
      ∀ id ∈ entry.processedObservationIds, id ∈ entry'.processedObservationIds

theorem Remembers.trans {middle : List ToolCallBatch} (h : Remembers batches middle)
    (hnext : Remembers middle batches') : Remembers batches batches' := by
  intro i j entry hentry
  obtain ⟨entry', hentry', hkept⟩ := h i j entry hentry
  obtain ⟨entry'', hentry'', hkept'⟩ := hnext i j entry' hentry'
  exact ⟨entry'', hentry'', fun id hid => hkept' id (hkept id hid)⟩

theorem remembers_withEntry {observed : ToolBatchEntry}
    (hentry : entryAt? run batchIndex entryIndex = some entry)
    (hkept : ∀ id ∈ entry.processedObservationIds, id ∈ observed.processedObservationIds) :
    Remembers run.toolBatches (withEntry batchIndex entryIndex observed run).toolBatches := by
  intro i j old hold
  obtain ⟨batch, hbatch, hget⟩ := Option.bind_eq_some_iff.mp hold
  by_cases hi : batchIndex = i
  · rw [hi] at hentry ⊢
    by_cases hj : entryIndex = j
    · rw [hj] at hentry ⊢
      have hsame : entry = old := Option.some.inj (hentry.symm.trans hold)
      refine ⟨observed, entryAt?_withEntry_self observed (by rw [hentry]; rfl), ?_⟩
      rw [← hsame]
      exact hkept
    · refine ⟨old, ?_, fun _ hid => hid⟩
      simp [entryIn, withEntry, hbatch, hj, hget]
  · refine ⟨old, ?_, fun _ hid => hid⟩
    simp [entryIn, withEntry, hbatch, hi, hget]

theorem remembers_closeSurfaces (batchIndex : Nat) (entry : ToolBatchEntry)
    (observation : ToolObservation) (batches : List ToolCallBatch) :
    Remembers batches (closeSurfaces batchIndex entry observation batches) := by
  intro i j old hold
  obtain ⟨batch, hbatch, hget⟩ := Option.bind_eq_some_iff.mp hold
  unfold closeSurfaces
  by_cases hround : consumesRound entry observation = true
  · rw [if_pos hround]
    by_cases hi : i = batchIndex
    · refine ⟨old, ?_, fun _ hid => hid⟩
      rw [hi] at hbatch ⊢
      simp [entryIn, List.getElem?_mapIdx, hbatch, hget]
    · by_cases hsurface : isSurfaceOf entry old = true
      · refine ⟨{ old with
          state := .terminal
          bufferedTerminalResult := some (surfaceResult observation old) }, ?_, fun _ hid => hid⟩
        simp [entryIn, List.getElem?_mapIdx, hbatch, hi, List.getElem?_map, hget, hsurface]
      · refine ⟨old, ?_, fun _ hid => hid⟩
        simp [entryIn, List.getElem?_mapIdx, hbatch, hi, List.getElem?_map, hget, hsurface]
  · rw [if_neg hround]
    exact ⟨old, hold, fun _ hid => hid⟩

theorem remembers_flushed (h : List.Forall₂ Flushed batches batches') :
    Remembers batches batches' := by
  intro i j old hold
  obtain ⟨batch, hbatch, hget⟩ := Option.bind_eq_some_iff.mp hold
  obtain ⟨hlt, hat⟩ := List.getElem?_eq_some_iff.mp hbatch
  have hlt' : i < batches'.length := h.length_eq ▸ hlt
  obtain ⟨g, hentries, -, hkept⟩ := h.get hlt hlt'
  simp only [List.get_eq_getElem, hat] at hentries
  have hsame := (hkept old old (UpToFlush.refl old)).same
  refine ⟨g old, ?_, ?_⟩
  · simp [entryIn, List.getElem?_eq_getElem hlt', hentries, List.getElem?_map, hget]
  · rw [hsame.2.2.2.2]
    exact fun _ hid => hid

theorem observedRun_remembers (hentry : entryAt? run batchIndex entryIndex = some entry)
    (h : observedRun run batchIndex entryIndex entry observation now = .ok updated) :
    Remembers run.toolBatches updated.toolBatches := by
  have hprocessed : ∀ id ∈ entry.processedObservationIds,
      id ∈ (observedEntry entry observation).processedObservationIds := by
    intro id hid
    rw [observedEntry_processed]
    exact List.mem_append_left _ hid
  have hstart := (remembers_withEntry hentry hprocessed).trans
    (remembers_closeSurfaces batchIndex entry observation _)
  unfold observedRun at h
  split at h
  · cases h
  · rename_i hobserved
    split at h
    · cases h
    · rename_i hothers
      have hflushed := (hstart.trans (remembers_flushed (flushObserved_flushed hobserved))).trans
        (remembers_flushed (flushOthers_zipIdx_flushed hothers))
      cases h
      cases observation.outcome <;> exact hflushed

theorem observationCheckpoint_batches
    (h : observationCheckpoint run updated observation.observationId now = .ok next) :
    next = run ∨ next.toolBatches = updated.toolBatches := by
  unfold observationCheckpoint casMutateAlone at h
  by_cases hknown : observationCommand observation.observationId ∈ run.processedCommandIds
  · rw [if_pos hknown] at h
    cases h
    exact Or.inl rfl
  · rw [if_neg hknown] at h
    right
    split at h
    · cases h
    · rename_i stored heq
      split at heq
      · cases heq
      · split at heq
        · cases heq
        · split at heq
          · cases heq
            cases h
            rw [withCommand_toolBatches]
            rfl
          · cases heq
    · rename_i stored heq
      split at heq
      · cases heq
      · split at heq
        · cases heq
        · split at heq <;> cases heq
    · cases h

/-- The names that an observation is checked against. -/
structure Correlates (entry : ToolBatchEntry) (observation : ToolObservation) : Prop where
  callId : entry.callId = observation.invocationId
  invoked : Invoked entry
  outcome : match observation.outcome with
    | .result result => result.callId = entry.callId ∧ result.toolName = entry.toolName
    | .suspension suspension => suspension.invocationId = observation.invocationId

theorem Correlates.continues {later : ToolBatchEntry} (h : Correlates entry observation)
    (hlater : Continues entry later) : Correlates later observation := by
  constructor
  · rw [hlater.callId]
    exact h.callId
  · exact hlater.invoked h.invoked
  · have houtcome := h.outcome
    cases hkind : observation.outcome with
    | result result =>
        rw [hkind] at houtcome
        simp only at houtcome ⊢
        rw [hlater.callId, hlater.toolName]
        exact houtcome
    | suspension suspension =>
        rw [hkind] at houtcome
        exact houtcome

/-- What an accepted observation has been checked for, and where its batches come from. -/
theorem observeTool_inv (h : observeTool run observation now = .ok next) :
    ∃ batchIndex entryIndex entry,
      findInvocation run observation.invocationId = some (batchIndex, entryIndex) ∧
      entryAt? run batchIndex entryIndex = some entry ∧ Correlates entry observation ∧
      (next = run ∨ ∃ updated,
        observedRun run batchIndex entryIndex entry observation now = .ok updated ∧
        next.toolBatches = updated.toolBatches) := by
  unfold observeTool at h
  split at h
  · cases h
  split at h
  · cases h
  rename_i batchIndex entryIndex hfound
  split at h
  · cases h
  rename_i entry hentry
  split at h
  · cases h
  rename_i invocation hinvocation
  split at h
  · cases h
  rename_i hid
  have hcallId := callId_of_findInvocation hfound hentry
  have hid : observation.invocationId = invocation.invocationId := by simpa using hid
  split at h
  · cases h
  rename_i hcorrelates
  have houtcome : Correlates entry observation := by
    refine ⟨hcallId, ⟨invocation, hinvocation, hid.symm.trans hcallId.symm⟩, ?_⟩
    unfold outcomeCorrelates at hcorrelates
    cases hkind : observation.outcome with
    | result result =>
        simp only [hkind] at hcorrelates ⊢
        by_cases hnames : result.callId = entry.callId ∧ result.toolName = entry.toolName
        · exact hnames
        · rw [if_neg hnames] at hcorrelates
          cases hcorrelates
    | suspension suspension =>
        simp only [hkind] at hcorrelates ⊢
        by_cases hnames : suspension.invocationId = invocation.invocationId
        · exact hnames.trans hid.symm
        · rw [if_neg hnames] at hcorrelates
          cases hcorrelates
  refine ⟨batchIndex, entryIndex, entry, hfound, hentry, houtcome, ?_⟩
  split at h
  · split at h
    · cases h
      exact Or.inl rfl
    · cases h
  split at h
  · cases h
  split at h
  · cases h
  split at h
  · cases h
    exact Or.inl rfl
  split at h
  · cases h
  rename_i updated hupdated
  exact (observationCheckpoint_batches h).imp_right fun hbatches => ⟨updated, hupdated, hbatches⟩

theorem Proceeds.refl (run : OrchestratorRunState) : Proceeds run run :=
  ⟨fun _ _ hfound => hfound, fun _ _ entry hentry => ⟨entry, hentry, Continues.refl entry⟩⟩

theorem proceeds_of_names (hnames : batchNames next.toolBatches = batchNames run.toolBatches)
    (hremembers : Remembers run.toolBatches next.toolBatches) : Proceeds run next := by
  constructor
  · intro invocationId place hfound
    rw [findInvocation_eq_findNamed] at hfound ⊢
    rw [hnames]
    exact hfound
  · intro i j entry hentry
    obtain ⟨later, hlater, hprocessed⟩ := hremembers i j entry hentry
    have hsame := entryNames_entryIn next.toolBatches i j
    rw [hnames, ← entryNames_entryIn, hlater, ← entryAt?_eq_entryIn, hentry] at hsame
    have hentries : entryNames later = entryNames entry := Option.some.inj hsame
    simp only [entryNames, Prod.mk.injEq] at hentries
    refine ⟨later, hlater, hentries.1, hentries.2.1, ?_, hprocessed⟩
    intro hinvoked
    obtain ⟨invocation, hinvocation, hid⟩ := hinvoked
    exact ⟨invocation, hentries.2.2.trans hinvocation, hid.trans hentries.1.symm⟩

theorem observeTool_proceeds (h : observeTool run observation now = .ok next) :
    Proceeds run next := by
  obtain ⟨i, j, entry, -, hentry, -, hnext⟩ := observeTool_inv h
  cases hnext with
  | inl hsame =>
      rw [hsame]
      exact Proceeds.refl run
  | inr hobserved =>
      obtain ⟨updated, hupdated, hbatches⟩ := hobserved
      apply proceeds_of_names
      · rw [hbatches]
        exact (observedRun_stage hentry hupdated).names
      · rw [hbatches]
        exact observedRun_remembers hentry hupdated

/-! ## Repeated deliveries -/

def Applied (run : OrchestratorRunState) (observation : ToolObservation) : Prop :=
  ∃ batchIndex entryIndex entry,
    findInvocation run observation.invocationId = some (batchIndex, entryIndex) ∧
    entryAt? run batchIndex entryIndex = some entry ∧ Correlates entry observation ∧
    observation.observationId ∈ entry.processedObservationIds

theorem Applied.proceeds (h : Applied run observation) (hnext : Proceeds run next) :
    Applied next observation := by
  obtain ⟨i, j, entry, hfound, hentry, hcorrelates, hprocessed⟩ := h
  obtain ⟨later, hlater, hcontinues⟩ := hnext.entries i j entry hentry
  exact ⟨i, j, later, hnext.found _ _ hfound, hlater, hcorrelates.continues hcontinues,
    hcontinues.processed _ hprocessed⟩

theorem applied_of_observeTool (h : observeTool run observation now = .ok next)
    (hprocessed : isProcessed next observation = true) : Applied next observation := by
  obtain ⟨i, j, entry, hfound, hentry, hcorrelates, -⟩ := observeTool_inv h
  have hproceeds := observeTool_proceeds h
  obtain ⟨later, hlater, hcontinues⟩ := hproceeds.entries i j entry hentry
  have hfoundLater := hproceeds.found _ _ hfound
  have htarget : target next observation = some later := by
    simp only [target, hfoundLater, Option.bind_some, hlater]
  rw [isProcessed, htarget, Option.any_some, decide_eq_true_eq] at hprocessed
  exact ⟨i, j, later, hfoundLater, hlater, hcorrelates.continues hcontinues, hprocessed⟩

/-- A repeated observation is answered with the Run as it is where the duplicate check is
reached, and is refused everywhere else. -/
theorem observeTool_applied (h : Applied run observation) (now : Timestamp) :
    (isRecognized run observation = true → observeTool run observation now = .ok run) ∧
    (isRecognized run observation = false →
      ∃ message, observeTool run observation now = .error (.conflict message)) := by
  obtain ⟨i, j, entry, hfound, hentry, hcorrelates, hprocessed⟩ := h
  obtain ⟨invocation, hinvocation, hid⟩ := hcorrelates.invoked
  have hnames : ¬ observation.invocationId ≠ invocation.invocationId := by
    rw [hid, hcorrelates.callId]
    exact fun hne => hne rfl
  have houtcome : outcomeCorrelates entry invocation observation.outcome = .ok () := by
    have hmatches := hcorrelates.outcome
    cases hkind : observation.outcome with
    | result result =>
        rw [hkind] at hmatches
        exact if_pos hmatches
    | suspension suspension =>
        rw [hkind] at hmatches
        exact if_pos (hmatches.trans (Decidable.not_not.mp hnames))
  have htarget : target run observation = some entry := by
    simp only [target, hfound, Option.bind_some, hentry]
  rw [isRecognized, htarget, Option.any_some]
  by_cases hcanceling : run.status = .canceling
  · have hunrecognized : (run.status.isTerminal ||
        (run.status.isSuspended && isSuspendedEntry entry.state)) = false := by
      rw [hcanceling]
      rfl
    rw [hunrecognized]
    refine ⟨(nomatch ·), fun _ => ?_⟩
    unfold observeTool
    rw [if_pos hcanceling]
    exact ⟨_, rfl⟩
  · unfold observeTool
    rw [if_neg hcanceling, hfound]
    simp only [hentry, hinvocation, if_neg hnames, houtcome]
    cases hterminal : run.status.isTerminal with
    | true =>
        rw [if_pos rfl, if_pos hprocessed]
        exact ⟨fun _ => rfl, (nomatch ·)⟩
    | false =>
        rw [if_neg Bool.false_ne_true]
        cases hwaiting : run.status.isSuspended with
        | false =>
            rw [if_pos rfl]
            exact ⟨(nomatch ·), fun _ => ⟨_, rfl⟩⟩
        | true =>
            rw [if_neg Bool.true_eq_false_eq_False]
            cases hparked : isSuspendedEntry entry.state with
            | false =>
                rw [if_pos rfl]
                exact ⟨(nomatch ·), fun _ => ⟨_, rfl⟩⟩
            | true =>
                rw [if_neg Bool.true_eq_false_eq_False, if_pos hprocessed]
                exact ⟨fun _ => rfl, (nomatch ·)⟩

end Observation

/-! ## Runs -/

/-- The Runs that observations and other writes lead to, with the observations that were applied
on the way. -/
inductive Delivered : OrchestratorRunState → List ToolObservation → Prop
  | start (run : OrchestratorRunState) : Delivered run []
  | write (run next : OrchestratorRunState) (applied : List ToolObservation)
      (h : Delivered run applied) (hwrite : RunWrite run next) : Delivered next applied
  | observe (run next : OrchestratorRunState) (applied : List ToolObservation)
      (observation : ToolObservation) (now : Timestamp) (h : Delivered run applied)
      (hobserve : observeTool run observation now = .ok next)
      (hprocessed : isProcessed next observation = true) : Delivered next (observation :: applied)

theorem Delivered.applied {run : OrchestratorRunState} {applied : List ToolObservation}
    (h : Delivered run applied) : ∀ observation ∈ applied, Applied run observation := by
  induction h with
  | start run =>
      intro observation hmem
      cases hmem
  | write run next applied h hwrite ih =>
      intro observation hmem
      exact (ih observation hmem).proceeds hwrite.proceeds
  | observe run next applied latest now h hobserve hprocessed ih =>
      intro observation hmem
      cases List.mem_cons.mp hmem with
      | inl hlatest =>
          rw [hlatest]
          exact applied_of_observeTool hobserve hprocessed
      | inr hearlier => exact (ih observation hearlier).proceeds (observeTool_proceeds hobserve)

/-- An observation that was applied to the Run changes nothing when it is delivered again. It is
answered as processed exactly when the Run has ended or it is suspended with the entry itself,
and it is refused as a conflict at any other time. -/
theorem observed_again {run : OrchestratorRunState} {applied : List ToolObservation}
    (h : Delivered run applied) (observation : ToolObservation) (hmem : observation ∈ applied)
    (now : Timestamp) :
    (∀ next, observeTool run observation now = .ok next → next = run) ∧
    (observeTool run observation now = .ok run ↔ isRecognized run observation = true) ∧
    (isRecognized run observation = false →
      ∃ message, observeTool run observation now = .error (.conflict message)) := by
  obtain ⟨hrecognized, hrefused⟩ := observeTool_applied (h.applied observation hmem) now
  cases hcheck : isRecognized run observation with
  | true =>
      have hanswer := hrecognized hcheck
      refine ⟨?_, ⟨fun _ => rfl, fun _ => hanswer⟩, (nomatch ·)⟩
      intro next hnext
      exact (Except.ok.inj (hanswer.symm.trans hnext)).symm
  | false =>
      obtain ⟨message, hanswer⟩ := hrefused hcheck
      refine ⟨?_, ⟨?_, (nomatch ·)⟩, fun _ => ⟨message, hanswer⟩⟩
      · intro next hnext
        rw [hanswer] at hnext
        cases hnext
      · intro hnext
        rw [hanswer] at hnext
        cases hnext

/-! ## Two calls -/

def agentInvocation (callId : String) : ToolInvocation where
  invocationId := callId
  runId := "run"
  expectedRunVersion := 0
  assistantMessageId := "assistant-1"
  sourceIndex := 0
  causationId := "question"
  idempotencyKey := callId
  tool := ⟨⟨"agent_a", "Agent", "", .obj [], .sequential⟩, ⟨"binding-1", "digest-1"⟩⟩
  arguments := []
  deadlineAt := 600

def waitingCall (callId : String) (sourceIndex : Nat) : ToolBatchEntry where
  callId := callId
  assistantMessageId := "assistant-1"
  sourceIndex := sourceIndex
  toolName := "agent_a"
  state := .waitingExternal
  invocation := some (agentInvocation callId)

def twoCallsRun : OrchestratorRunState :=
  { sampleRun with
    status := .waitingExternal
    toolBatches := [⟨"assistant-1", [waitingCall "call-1" 0, waitingCall "call-2" 1], false, none⟩] }

def stillWorking : ToolObservation where
  observationId := "observation-1"
  invocationId := "call-1"
  outcome := .suspension { invocationId := "call-1", status := .waitingExternal }
  observedAt := 200

def hasEnded : ToolObservation where
  observationId := "observation-2"
  invocationId := "call-1"
  outcome := .result
    { callId := "call-1", toolName := "agent_a", status := .completed, content := [.text "Done."]
      artifactRefs := [] }
  observedAt := 300

/-- Progress of a call that still works is recognized when it comes again. -/
theorem observed_again_working :
    ∃ run, observeTool twoCallsRun stillWorking 250 = .ok run ∧
      observeTool run stillWorking 260 = .ok run := by
  cases hobserve : observeTool twoCallsRun stillWorking 250 with
  | error error => cases hobserve
  | ok run =>
      have hprocessed : isProcessed run stillWorking = true := by
        cases hobserve
        rfl
      have hrecognized : isRecognized run stillWorking = true := by
        cases hobserve
        rfl
      have hdelivered := Delivered.observe _ _ _ _ _ (.start twoCallsRun) hobserve hprocessed
      refine ⟨run, rfl, ?_⟩
      exact (observed_again hdelivered stillWorking (by simp) 260).2.1.mpr hrecognized

/-- The result of one call comes again while the Run still waits for the other one: it was
applied, and it is refused. -/
theorem observed_again_refused :
    ∃ run, observeTool twoCallsRun hasEnded 350 = .ok run ∧ isProcessed run hasEnded = true ∧
      run.status = .waitingExternal ∧
      observeTool run hasEnded 360 = .error (.conflict "tool observation target is not suspended") := by
  refine ⟨_, rfl, ?_, ?_, ?_⟩
  · rfl
  · rfl
  · rfl

end Hybro.Kernel
