import Hybro.Kernel.Observation

/-! # What an observation leaves behind

The entry that was observed, and what the rest of the Run keeps: every entry
keeps its call and its invocation, and the observed one is not touched again by
the surfaces and batches that are closed with it.
-/

namespace Hybro.Kernel

open Orchestrator

/-! ## Names of entries -/

def entryNames (entry : ToolBatchEntry) : String × String × Option ToolInvocation :=
  (entry.callId, entry.toolName, entry.invocation)

def batchNames (batches : List ToolCallBatch) :
    List (List (String × String × Option ToolInvocation)) :=
  batches.map fun batch => batch.entries.map entryNames

/-- `batches[batch_index].entries[entry_index]` -/
def entryIn (batches : List ToolCallBatch) (batchIndex entryIndex : Nat) : Option ToolBatchEntry :=
  batches[batchIndex]?.bind (·.entries[entryIndex]?)

theorem entryAt?_eq_entryIn (run : OrchestratorRunState) (batchIndex entryIndex : Nat) :
    entryAt? run batchIndex entryIndex = entryIn run.toolBatches batchIndex entryIndex := rfl

theorem entryNames_entryIn (batches : List ToolCallBatch) (batchIndex entryIndex : Nat) :
    (entryIn batches batchIndex entryIndex).map entryNames =
      (batchNames batches)[batchIndex]?.bind (·[entryIndex]?) := by
  unfold entryIn batchNames
  rw [List.getElem?_map]
  cases batches[batchIndex]? with
  | none => rfl
  | some batch => simp [List.getElem?_map]

theorem mem_entries_iff {run : OrchestratorRunState} {entry : ToolBatchEntry} :
    entry ∈ run.entries ↔ ∃ i j, entryAt? run i j = some entry := by
  unfold OrchestratorRunState.entries
  rw [List.mem_flatMap]
  constructor
  · rintro ⟨batch, hbatch, hentry⟩
    obtain ⟨i, hi⟩ := List.mem_iff_getElem?.mp hbatch
    obtain ⟨j, hj⟩ := List.mem_iff_getElem?.mp hentry
    exact ⟨i, j, by simp [entryAt?, hi, hj]⟩
  · rintro ⟨i, j, h⟩
    obtain ⟨batch, hi, hj⟩ := Option.bind_eq_some_iff.mp h
    exact ⟨batch, List.mem_of_getElem? hi, List.mem_of_getElem? hj⟩

/-- `_find_invocation` over the call ids alone. -/
def findNamed (named : List (List (String × String × Option ToolInvocation)))
    (invocationId : String) : Option (Nat × Nat) :=
  named.zipIdx.findSome? fun (names, batchIndex) =>
    (names.findIdx? (·.1 = invocationId)).map (batchIndex, ·)

theorem findInvocation_eq_findNamed (run : OrchestratorRunState) (invocationId : String) :
    findInvocation run invocationId = findNamed (batchNames run.toolBatches) invocationId := by
  unfold findInvocation findNamed batchNames
  rw [List.zipIdx_map, List.findSome?_map]
  congr 1
  funext ⟨batch, batchIndex⟩
  simp only [Function.comp, Prod.map, List.findIdx?_map, id]
  rfl

/-! ## The stages of an observation -/

/-- The entry, but for whether its result has been flushed. -/
def UpToFlush (entry entry' : ToolBatchEntry) : Prop :=
  entry' = { entry with resultFlushed := entry'.resultFlushed }

theorem UpToFlush.refl (entry : ToolBatchEntry) : UpToFlush entry entry := rfl

theorem UpToFlush.names {entry entry' : ToolBatchEntry} (h : UpToFlush entry entry') :
    entryNames entry' = entryNames entry := by
  rw [h]
  rfl

theorem UpToFlush.flush {entry entry' : ToolBatchEntry} (h : UpToFlush entry entry')
    (flushed : Bool) : UpToFlush entry { entry' with resultFlushed := flushed } := by
  unfold UpToFlush at *
  rw [h]

theorem UpToFlush.same {entry entry' : ToolBatchEntry} (h : UpToFlush entry entry') :
    entry'.state = entry.state ∧ entry'.bufferedTerminalResult = entry.bufferedTerminalResult ∧
      entry'.interactionId = entry.interactionId ∧
      entry'.interactionFingerprint = entry.interactionFingerprint ∧
      entry'.processedObservationIds = entry.processedObservationIds := by
  rw [h]
  exact ⟨rfl, rfl, rfl, rfl, rfl⟩

theorem observedEntry_of_result (entry : ToolBatchEntry) {observation : ToolObservation}
    {result : ToolResult} (h : observation.outcome = .result result) :
    (observedEntry entry observation).state = .terminal ∧
      (observedEntry entry observation).bufferedTerminalResult = some result := by
  unfold observedEntry
  rw [h]
  exact ⟨rfl, rfl⟩

theorem observedEntry_of_suspension (entry : ToolBatchEntry) {observation : ToolObservation}
    {suspension : ToolSuspension} (h : observation.outcome = .suspension suspension) :
    (observedEntry entry observation).state = suspension.status.entryState ∧
      (observedEntry entry observation).interactionId = suspension.interactionId ∧
      (observedEntry entry observation).interactionFingerprint =
        suspension.interactionFingerprint := by
  unfold observedEntry
  rw [h]
  exact ⟨rfl, rfl, rfl⟩

theorem observedEntry_processed (entry : ToolBatchEntry) (observation : ToolObservation) :
    (observedEntry entry observation).processedObservationIds =
      entry.processedObservationIds ++ [observation.observationId] := by
  unfold observedEntry
  cases observation.outcome <;> rfl

/-- The batches hold the entry there, and the names of before everywhere. -/
structure Stage (named : List (List (String × String × Option ToolInvocation)))
    (batchIndex entryIndex : Nat) (entry : ToolBatchEntry) (batches : List ToolCallBatch) :
    Prop where
  names : batchNames batches = named
  entry : ∃ entry', entryIn batches batchIndex entryIndex = some entry' ∧ UpToFlush entry entry'

section Stages

variable {named : List (List (String × String × Option ToolInvocation))}
  {batchIndex entryIndex : Nat} {entry observed : ToolBatchEntry}
  {observation : ToolObservation} {batches batches' : List ToolCallBatch}
  {transcript transcript' : List AgentMessage} {now : Timestamp}

theorem observedEntry_names (entry : ToolBatchEntry) (observation : ToolObservation) :
    entryNames (observedEntry entry observation) = entryNames entry := by
  unfold observedEntry
  cases observation.outcome <;> rfl

theorem stage_withEntry {run : OrchestratorRunState}
    (h : entryAt? run batchIndex entryIndex = some entry)
    (hnames : entryNames observed = entryNames entry) :
    Stage (batchNames run.toolBatches) batchIndex entryIndex observed
      (withEntry batchIndex entryIndex observed run).toolBatches where
  names := by
    obtain ⟨batch, hbatch, hentry⟩ := Option.bind_eq_some_iff.mp h
    obtain ⟨hlt, hget⟩ := List.getElem?_eq_some_iff.mp hentry
    have hset : (batch.entries.set entryIndex observed).map entryNames =
        batch.entries.map entryNames := by
      apply List.ext_getElem?
      intro j
      rw [List.getElem?_map, List.getElem?_map, List.getElem?_set]
      by_cases hj : entryIndex = j
      · subst hj
        rw [if_pos rfl, if_pos hlt, hentry, Option.map_some, Option.map_some, hnames]
      · rw [if_neg hj]
    apply List.ext_getElem?
    intro i
    unfold withEntry batchNames
    rw [List.getElem?_map, List.getElem?_map, List.getElem?_modify]
    by_cases hi : batchIndex = i
    · subst hi
      rw [hbatch]
      simp [hset]
    · cases run.toolBatches[i]? <;> simp [hi]
  entry := by
    refine ⟨observed, ?_, .refl _⟩
    exact entryAt?_withEntry_self observed (by rw [h]; rfl)

/-- A rewriting of entries that keeps the names, and the observed entry up to its flush. -/
theorem Stage.mapIdx (h : Stage named batchIndex entryIndex observed batches)
    (f : Nat → ToolCallBatch → ToolCallBatch) (g : Nat → ToolBatchEntry → ToolBatchEntry)
    (hentries : ∀ i batch, (f i batch).entries = batch.entries.map (g i))
    (hnames : ∀ i entry, entryNames (g i entry) = entryNames entry)
    (hkept : ∀ entry, UpToFlush observed entry → UpToFlush observed (g batchIndex entry)) :
    Stage named batchIndex entryIndex observed (batches.mapIdx f) where
  names := by
    rw [← h.names]
    unfold batchNames
    apply List.ext_getElem?
    intro i
    simp only [List.getElem?_map, List.getElem?_mapIdx]
    cases batches[i]? with
    | none => rfl
    | some batch =>
        simp only [Option.map_some, hentries, List.map_map]
        congr 1
        exact List.map_congr_left fun entry _ => hnames i entry
  entry := by
    obtain ⟨entry', hentry, hflush⟩ := h.entry
    obtain ⟨batch, hbatch, hget⟩ := Option.bind_eq_some_iff.mp hentry
    refine ⟨g batchIndex entry', ?_, hkept entry' hflush⟩
    simp [entryIn, List.getElem?_mapIdx, hbatch, hentries, List.getElem?_map, hget]

theorem stage_closeSurfaces (h : Stage named batchIndex entryIndex observed batches) :
    Stage named batchIndex entryIndex observed
      (closeSurfaces batchIndex entry observation batches) := by
  unfold closeSurfaces
  split
  · refine h.mapIdx _ (fun i surface => if i = batchIndex then surface
      else if isSurfaceOf entry surface then
        { surface with
          state := .terminal
          bufferedTerminalResult := some (surfaceResult observation surface) }
      else surface) ?_ ?_ ?_
    · intro i batch
      by_cases hi : i = batchIndex
      · simp [hi]
      · simp [hi]
    · intro i surface
      split
      · rfl
      · split <;> rfl
    · intro entry' hflush
      simpa using hflush
  · exact h

def Flushed (batch batch' : ToolCallBatch) : Prop :=
  ∃ g : ToolBatchEntry → ToolBatchEntry, batch'.entries = batch.entries.map g ∧
    (∀ entry, entryNames (g entry) = entryNames entry) ∧
    ∀ observed entry, UpToFlush observed entry → UpToFlush observed (g entry)

theorem Flushed.refl (batch : ToolCallBatch) : Flushed batch batch :=
  ⟨id, by simp, fun _ => rfl, fun _ _ hflush => hflush⟩

theorem flushBatch_flushed {batch batch' : ToolCallBatch}
    (h : flushBatch transcript batch now = .ok (transcript', batch')) : Flushed batch batch' := by
  unfold flushBatch at h
  split at h
  · cases h
    exact .refl _
  · dsimp only at h
    split at h
    · cases h
    · cases h
      refine ⟨fun entry => if entry.state = .terminal then { entry with resultFlushed := true }
        else entry, rfl, ?_, ?_⟩
      · intro entry
        by_cases hstate : entry.state = .terminal
        · simp [hstate, entryNames]
        · simp [hstate]
      · intro observed entry hflush
        show UpToFlush observed (if _ then _ else _)
        split
        · exact hflush.flush true
        · exact hflush

theorem flushOthers_flushed {indexed : List (ToolCallBatch × Nat)}
    (h : flushOthers batchIndex now transcript indexed = .ok (transcript', batches')) :
    List.Forall₂ (fun numbered batch' => Flushed numbered.1 batch') indexed batches' := by
  induction indexed generalizing transcript batches' with
  | nil =>
      cases h
      exact .nil
  | cons numbered rest ih =>
      obtain ⟨batch, index⟩ := numbered
      unfold flushOthers at h
      split at h
      · split at h
        · cases h
        · rename_i hrest
          cases h
          exact .cons (.refl batch) (ih hrest)
      · split at h
        · cases h
        · rename_i hbatch
          split at h
          · cases h
          · rename_i hrest
            cases h
            exact .cons (flushBatch_flushed hbatch) (ih hrest)

theorem batchNames_of_flushed (hall : List.Forall₂ Flushed batches batches') :
    batchNames batches' = batchNames batches := by
  unfold batchNames
  induction hall with
  | nil => rfl
  | cons hbatch hall ih =>
      obtain ⟨g, hentries, hnames, -⟩ := hbatch
      rw [List.map_cons, List.map_cons, ih, hentries, List.map_map]
      congr 1
      exact List.map_congr_left fun entry _ => hnames entry

theorem Stage.flushed (h : Stage named batchIndex entryIndex observed batches)
    (hall : List.Forall₂ Flushed batches batches') :
    Stage named batchIndex entryIndex observed batches' where
  names := (batchNames_of_flushed hall).trans h.names
  entry := by
    obtain ⟨entry', hentry, hflush⟩ := h.entry
    obtain ⟨batch, hbatch, hget⟩ := Option.bind_eq_some_iff.mp hentry
    obtain ⟨hlt, rfl⟩ := List.getElem?_eq_some_iff.mp hbatch
    have hlt' : batchIndex < batches'.length := hall.length_eq ▸ hlt
    obtain ⟨g, hentries, -, hkept⟩ := hall.get hlt hlt'
    refine ⟨g entry', ?_, hkept _ _ hflush⟩
    simp only [List.get_eq_getElem] at hentries
    simp [entryIn, List.getElem?_eq_getElem hlt', hentries, List.getElem?_map, hget]

theorem flushObserved_flushed
    (h : flushObserved batchIndex observation now transcript batches = .ok (transcript', batches')) :
    List.Forall₂ Flushed batches batches' := by
  have hrefl : List.Forall₂ Flushed batches batches :=
    List.forall₂_same.mpr fun batch _ => .refl batch
  unfold flushObserved at h
  split at h
  · rename_i batch hbatch
    split at h
    · cases h
    · rename_i batch' hflush
      cases h
      obtain ⟨hlt, rfl⟩ := List.getElem?_eq_some_iff.mp hbatch
      rw [List.forall₂_iff_get]
      refine ⟨by simp, ?_⟩
      intro i hi hi'
      simp only [List.get_eq_getElem, List.getElem_set]
      split
      · rename_i heq
        subst heq
        exact flushBatch_flushed hflush
      · exact .refl _
  · cases h
    exact hrefl

theorem flushOthers_zipIdx_flushed
    (h : flushOthers batchIndex now transcript batches.zipIdx = .ok (transcript', batches')) :
    List.Forall₂ Flushed batches batches' := by
  have hall := List.forall₂_map_left_iff.mpr (flushOthers_flushed h)
  rwa [List.zipIdx_map_fst] at hall

end Stages

/-! ## What an observation does to the Run -/

section Observed

variable {run run' updated : OrchestratorRunState} {batchIndex entryIndex : Nat}
  {entry : ToolBatchEntry} {observation : ToolObservation} {now : Timestamp}

structure Observed (run : OrchestratorRunState) (batchIndex entryIndex : Nat)
    (entry : ToolBatchEntry) (observation : ToolObservation) (run' : OrchestratorRunState) :
    Prop where
  stage : Stage (batchNames run.toolBatches) batchIndex entryIndex
    (observedEntry entry observation) run'.toolBatches
  unseen : observation.observationId ∉ entry.processedObservationIds
  unsent : observationCommand observation.observationId ∉ run.processedCommandIds

theorem observedRun_stage (hentry : entryAt? run batchIndex entryIndex = some entry)
    (h : observedRun run batchIndex entryIndex entry observation now = .ok updated) :
    Stage (batchNames run.toolBatches) batchIndex entryIndex (observedEntry entry observation)
      updated.toolBatches := by
  have hstart : Stage (batchNames run.toolBatches) batchIndex entryIndex
      (observedEntry entry observation)
      (observedBatches run batchIndex entryIndex entry observation) := by
    apply stage_closeSurfaces
    exact stage_withEntry hentry (observedEntry_names entry observation)
  unfold observedRun at h
  split at h
  · cases h
  · rename_i hobserved
    split at h
    · cases h
    · rename_i hothers
      have hflushed := (hstart.flushed (flushObserved_flushed hobserved)).flushed
        (flushOthers_zipIdx_flushed hothers)
      cases h
      cases observation.outcome <;> exact hflushed

theorem observedRun_frame
    (h : observedRun run batchIndex entryIndex entry observation now = .ok updated) :
    updated.cancellationCommandId = run.cancellationCommandId ∧
      updated.cancellationRequestedAt = run.cancellationRequestedAt ∧
      updated.cancellationCause = run.cancellationCause := by
  unfold observedRun at h
  split at h
  · cases h
  · split at h
    · cases h
    · cases h
      cases observation.outcome <;> exact ⟨rfl, rfl, rfl⟩

theorem withCommand_toolBatches (run : OrchestratorRunState) (commandId : CommandId) :
    (RunStore.withCommand run commandId).toolBatches = run.toolBatches := by
  unfold RunStore.withCommand
  split <;> rfl

theorem withCommand_cancellation (run : OrchestratorRunState) (commandId : CommandId) :
    (RunStore.withCommand run commandId).cancellationCommandId = run.cancellationCommandId ∧
      (RunStore.withCommand run commandId).cancellationRequestedAt = run.cancellationRequestedAt ∧
      (RunStore.withCommand run commandId).cancellationCause = run.cancellationCause := by
  unfold RunStore.withCommand
  split <;> exact ⟨rfl, rfl, rfl⟩

theorem observationCheckpoint_ok (hentry : entryAt? run batchIndex entryIndex = some entry)
    (hunseen : observation.observationId ∉ entry.processedObservationIds)
    (hupdated : observedRun run batchIndex entryIndex entry observation now = .ok updated)
    (h : observationCheckpoint run updated observation.observationId now = .ok run') :
    (run' = run ∧ observationCommand observation.observationId ∈ run.processedCommandIds) ∨
      Observed run batchIndex entryIndex entry observation run' := by
  unfold observationCheckpoint casMutateAlone at h
  by_cases hknown : observationCommand observation.observationId ∈ run.processedCommandIds
  · rw [if_pos hknown] at h
    cases h
    exact .inl ⟨rfl, hknown⟩
  · rw [if_neg hknown] at h
    right
    split at h
    · cases h
    · rename_i stored heq
      split at heq
      · cases heq
      · split at heq
        · cases heq
        · split at heq
          · cases heq
            cases h
            refine ⟨?_, hunseen, hknown⟩
            rw [withCommand_toolBatches]
            show Stage _ _ _ _ updated.toolBatches
            exact observedRun_stage hentry hupdated
          · cases heq
    · rename_i stored heq
      split at heq
      · cases heq
      · split at heq
        · cases heq
        · split at heq <;> cases heq
    · cases h

theorem observeTool_ok
    (hfound : findInvocation run observation.invocationId = some (batchIndex, entryIndex))
    (hentry : entryAt? run batchIndex entryIndex = some entry)
    (h : observeTool run observation now = .ok run') :
    (run' = run ∧ (observation.observationId ∈ entry.processedObservationIds ∨
        observationCommand observation.observationId ∈ run.processedCommandIds)) ∨
      (isSuspendedEntry entry.state = true ∧
        Observed run batchIndex entryIndex entry observation run') := by
  unfold observeTool at h
  rw [hfound] at h
  simp only [hentry] at h
  split at h
  · cases h
  split at h
  · cases h
  split at h
  · cases h
  split at h
  · cases h
  split at h
  · split at h
    · rename_i hknown
      cases h
      exact .inl ⟨rfl, .inl hknown⟩
    · cases h
  split at h
  · cases h
  split at h
  · cases h
  rename_i hsuspended
  split at h
  · rename_i hknown
    cases h
    exact .inl ⟨rfl, .inl hknown⟩
  rename_i hunseen
  split at h
  · cases h
  · rename_i updated hupdated
    rcases observationCheckpoint_ok hentry hunseen hupdated h with ⟨rfl, hknown⟩ | hobserved
    · exact .inl ⟨rfl, .inr hknown⟩
    · exact .inr ⟨by simpa using hsuspended, hobserved⟩

/-! ## No conflict on a suspended Run -/

theorem toolResultMessage_error {error : KernelError} (h : toolResultMessage entry now = .error error) :
    ∃ message, error = .invalidValue message := by
  unfold toolResultMessage at h
  split at h
  · cases h
    exact ⟨_, rfl⟩
  · cases h

theorem mapM_toolResultMessage_error {entries : List ToolBatchEntry} {error : KernelError}
    (h : entries.mapM (toolResultMessage · now) = .error error) :
    ∃ message, error = .invalidValue message := by
  induction entries with
  | nil => cases h
  | cons entry rest ih =>
      rw [List.mapM_cons] at h
      cases hentry : toolResultMessage entry now with
      | error first =>
          rw [hentry] at h
          cases h
          exact toolResultMessage_error hentry
      | ok result =>
          rw [hentry] at h
          cases hrest : rest.mapM (toolResultMessage · now) with
          | error first =>
              rw [hrest] at h
              cases h
              exact ih hrest
          | ok results =>
              rw [hrest] at h
              cases h

theorem flushBatch_error {transcript : List AgentMessage} {batch : ToolCallBatch}
    {error : KernelError} (h : flushBatch transcript batch now = .error error) :
    ∃ message, error = .invalidValue message := by
  unfold flushBatch at h
  split at h
  · cases h
  · dsimp only at h
    split at h
    · rename_i hresults
      cases h
      exact mapM_toolResultMessage_error hresults
    · cases h

theorem flushOthers_error {indexed : List (ToolCallBatch × Nat)} {transcript : List AgentMessage}
    {error : KernelError} (h : flushOthers batchIndex now transcript indexed = .error error) :
    ∃ message, error = .invalidValue message := by
  induction indexed generalizing transcript with
  | nil => cases h
  | cons numbered rest ih =>
      obtain ⟨batch, index⟩ := numbered
      unfold flushOthers at h
      split at h
      · split at h
        · rename_i hrest
          cases h
          exact ih hrest
        · cases h
      · split at h
        · rename_i hbatch
          cases h
          exact flushBatch_error hbatch
        · split at h
          · rename_i hrest
            cases h
            exact ih hrest
          · cases h

theorem observedRun_error {error : KernelError}
    (h : observedRun run batchIndex entryIndex entry observation now = .error error) :
    ∃ message, error = .invalidValue message := by
  unfold observedRun at h
  split at h
  · rename_i first hobserved
    cases h
    unfold flushObserved at hobserved
    split at hobserved
    · split at hobserved
      · rename_i hbatch
        cases hobserved
        exact flushBatch_error hbatch
      · cases hobserved
    · cases hobserved
  · split at h
    · rename_i hothers
      cases h
      exact flushOthers_error hothers
    · cases h

theorem observationCheckpoint_error {error : KernelError} (hstatus : run.status ≠ .canceling)
    (hupdated : observedRun run batchIndex entryIndex entry observation now = .ok updated)
    (h : observationCheckpoint run updated observation.observationId now = .error error) :
    ∃ message, error = .invalidValue message := by
  obtain ⟨hcommand, hrequested, hcause⟩ := observedRun_frame hupdated
  have hallowed : RunStore.cancellationTransitionAllowed run
      (RunStore.withCommand (checkpointCandidate run (fun _ => updated) now)
        (observationCommand observation.observationId)) = true := by
    obtain ⟨hcommand', hrequested', hcause'⟩ := withCommand_cancellation
      (checkpointCandidate run (fun _ => updated) now)
      (observationCommand observation.observationId)
    unfold RunStore.cancellationTransitionAllowed
    rw [hcommand', hrequested', hcause']
    simp [checkpointCandidate, hcommand, hrequested, hcause, hstatus]
  have hversion : ¬ (run.stateVersion ≠ run.stateVersion ∨
      (checkpointCandidate run (fun _ => updated) now).stateVersion ≠ run.stateVersion + 1) := by
    simp [checkpointCandidate]
  unfold observationCheckpoint casMutateAlone at h
  by_cases hknown : observationCommand observation.observationId ∈ run.processedCommandIds
  · rw [if_pos hknown] at h
    cases h
  · rw [if_neg hknown, if_neg hversion] at h
    split at h
    · cases h
      exact ⟨_, rfl⟩
    · cases h
    · cases h
    · rename_i haccepted hreplayed heq
      split at heq
      · cases heq
      · rw [if_pos hallowed] at heq
        cases heq
        exact absurd rfl (haccepted _)

/-- On a suspended Run the observation of a suspended entry is never refused as a conflict. -/
theorem observeTool_no_conflict {message : String}
    (hfound : findInvocation run observation.invocationId = some (batchIndex, entryIndex))
    (hentry : entryAt? run batchIndex entryIndex = some entry)
    (hinvocation : entry.invocation.isSome) (hrun : run.status.isSuspended = true)
    (hsuspended : isSuspendedEntry entry.state = true) :
    observeTool run observation now ≠ .error (.conflict message) := by
  intro h
  have hcanceling : run.status ≠ .canceling := by
    intro hstatus
    rw [hstatus] at hrun
    cases hrun
  have hlive : run.status.isTerminal = false := by
    cases hstatus : run.status <;> rw [hstatus] at hrun <;> first | rfl | cases hrun
  unfold observeTool at h
  rw [if_neg hcanceling, hfound] at h
  simp only [hentry] at h
  split at h
  · rename_i hnone
    rw [hnone] at hinvocation
    cases hinvocation
  split at h
  · cases h
  split at h
  · rename_i houtcome
    cases h
    unfold outcomeCorrelates at houtcome
    split at houtcome <;> split at houtcome <;> cases houtcome
  rw [hlive, hrun, hsuspended] at h
  simp only [Bool.false_eq_true, Bool.true_eq_false, if_false] at h
  split at h
  · cases h
  split at h
  · rename_i hupdated
    cases h
    obtain ⟨_, hmessage⟩ := observedRun_error hupdated
    cases hmessage
  · rename_i hupdated
    obtain ⟨_, hmessage⟩ := observationCheckpoint_error hcanceling hupdated h
    cases hmessage

end Observed

end Hybro.Kernel
