import Hybro.Kernel.Alone

/-! # The checkpoints of one call

Every checkpoint of the loop changes the entry of the call in hand and the two
counters, under a command of that call. From this follow what a call leaves alone:
the entries of the other calls, and the freshness of the calls that are still to come.
-/

namespace Hybro.Kernel

open Orchestrator Interleaving

/-! ## Commands that settle a call -/

def settlingLabels : List String :=
  ["skip-tool", "invalid-ask", "invalid-ask-choices", "invalid-ask-pending-agent", "ask-user",
    "surface-batch-limit", "invalid-surface", "surface-target-missing",
    "surface-target-no-interaction", "surface-target-no-call", "surface-publication-failed",
    "surface-questions", "invalid-tool", "tool-budget-exhausted", "join-limit", "accepted-join",
    "acceptance-failed", "accepted-tool"]

def missingLabel : String := "join-target-missing"

def settles (state : ToolBatchEntryState) (callId : String) (commandId : CommandId) : Prop :=
  commandId.parts = [.text callId] ∧
    ((state = .pending ∧ commandId.label ∈ settlingLabels) ∨
      (state ≠ .terminal ∧ commandId.label = missingLabel))

def EntryFresh (run : OrchestratorRunState) (entry : ToolBatchEntry) : Prop :=
  ∀ commandId ∈ run.processedCommandIds, ¬ settles entry.state entry.callId commandId

theorem settles_pending {state : ToolBatchEntryState} {callId : String} {commandId : CommandId}
    (h : settles state callId commandId) : settles .pending callId commandId := by
  obtain ⟨hparts, ⟨-, hlabel⟩ | ⟨-, hlabel⟩⟩ := h
  · exact ⟨hparts, Or.inl ⟨rfl, hlabel⟩⟩
  · exact ⟨hparts, Or.inr ⟨by decide, hlabel⟩⟩

/-- How a checkpoint of a call may change the entry of that call. -/
structure Moves (callId : String) (entry entry' : ToolBatchEntry) (commandId : CommandId) :
    Prop where
  sameCall : entry'.callId = entry.callId
  sameTool : entry'.toolName = entry.toolName
  own : ∀ state other, settles state other commandId → other = callId
  fresh : ∀ other, settles entry'.state callId other → settles entry.state callId other
  unsettled : ¬ settles entry'.state callId commandId
  parked : entry.state.isParked = true → entry' = entry

theorem own_of_parts {callId label : String} (state : ToolBatchEntryState) (other : String)
    (h : settles state other ⟨label, [.text callId]⟩) : other = callId := by
  have hparts : [CommandPart.text callId] = [.text other] := h.1
  injection hparts with hpart
  injection hpart with hid
  exact hid.symm

theorem Moves.settle {entry entry' : ToolBatchEntry} {callId label : String}
    (hpending : entry.state = .pending) (hlabel : label ∈ settlingLabels)
    (hcall : entry'.callId = entry.callId) (htool : entry'.toolName = entry.toolName)
    (hstate : entry'.state ≠ .pending) : Moves callId entry entry' ⟨label, [.text callId]⟩ := by
  refine ⟨hcall, htool, own_of_parts, ?_, ?_, ?_⟩
  · intro other hsettles
    rw [hpending]
    exact settles_pending hsettles
  · rintro ⟨-, ⟨hpend, -⟩ | ⟨-, hmissing⟩⟩
    · exact hstate hpend
    · -- the two kinds of settling commands have different labels
      obtain rfl : label = missingLabel := hmissing
      exact absurd hlabel (by decide)
  · rw [hpending]
    exact fun hparked => absurd hparked (by decide)

theorem Moves.missing {entry entry' : ToolBatchEntry} {callId : String}
    (hopen : entry.state.isParked = false) (hcall : entry'.callId = entry.callId) (htool : entry'.toolName = entry.toolName)
    (hstate : entry'.state = .terminal) :
    Moves callId entry entry' ⟨missingLabel, [.text callId]⟩ := by
  have hnot : ∀ other, ¬ settles entry'.state callId other := by
    rw [hstate]
    rintro other ⟨-, ⟨hpend, -⟩ | ⟨hterminal, -⟩⟩
    · cases hpend
    · exact hterminal rfl
  refine ⟨hcall, htool, own_of_parts, fun other h => absurd h (hnot other), hnot _, ?_⟩
  rw [hopen]
  exact fun hparked => absurd hparked Bool.false_ne_true

theorem Moves.keep {entry entry' : ToolBatchEntry} {callId label : String}
    {parts : List CommandPart}
    (hcall : entry'.callId = entry.callId) (htool : entry'.toolName = entry.toolName)
    (hstate : entry'.state = entry.state)
    (hparked : entry.state.isParked = true → entry' = entry)
    (hlabel : label ∉ missingLabel :: settlingLabels) :
    Moves callId entry entry' ⟨label, parts⟩ := by
  have hnot : ∀ state other, ¬ settles state other ⟨label, parts⟩ := by
    rintro state other ⟨-, ⟨-, hsettling⟩ | ⟨-, hmissing⟩⟩
    · exact hlabel (List.mem_cons_of_mem _ hsettling)
    · obtain rfl : label = missingLabel := hmissing
      exact hlabel List.mem_cons_self
  refine ⟨hcall, htool, fun state other h => absurd h (hnot state other), ?_, hnot _ _, hparked⟩
  intro other hsettles
  rwa [hstate] at hsettles

/-! ## Calls and their entries -/

structure Located (ctx : BatchContext) (run : OrchestratorRunState) (call : ToolCall)
    (entryIndex : Nat) (entry : ToolBatchEntry) : Prop where
  batch : ∃ batch, run.toolBatches[ctx.batchIndex]? = some batch ∧
    batch.entries.findIdx? (·.callId = call.callId) = some entryIndex ∧
    batch.entries[entryIndex]? = some entry
  sameCall : entry.callId = call.callId
  sameTool : entry.toolName = call.toolName

/-- The batch holds one entry for each declared call, and no entry has been moved on from
the state it is in. -/
structure Ready (ctx : BatchContext) (run : OrchestratorRunState) : Prop where
  live : Live run
  declared : ∃ batch, run.toolBatches[ctx.batchIndex]? = some batch ∧
    batch.entries.map (fun entry => (entry.callId, entry.toolName)) =
      ctx.assistant.toolCalls.map (fun call => (call.callId, call.toolName)) ∧
    ∀ entry ∈ batch.entries, EntryFresh run entry
  distinct : (ctx.assistant.toolCalls.map (·.callId)).Nodup

section Located

variable {ctx : BatchContext} {run : OrchestratorRunState} {call other : ToolCall}
  {entryIndex otherIndex : Nat} {entry entry' : ToolBatchEntry} {change : LocalChange}
  {now : Timestamp} {commandId : CommandId}

theorem Located.entryAt (h : Located ctx run call entryIndex entry) :
    entryAt? run ctx.batchIndex entryIndex = some entry := by
  obtain ⟨batch, hbatch, -, hentry⟩ := h.batch
  unfold entryAt?
  rw [hbatch]
  exact hentry

theorem Ready.located (h : Ready ctx run) (hcall : call ∈ ctx.assistant.toolCalls) :
    ∃ entryIndex entry, Located ctx run call entryIndex entry := by
  obtain ⟨batch, hbatch, hdeclared, -⟩ := h.declared
  have hmem : (call.callId, call.toolName) ∈
      batch.entries.map (fun entry => (entry.callId, entry.toolName)) := by
    rw [hdeclared]
    exact List.mem_map.mpr ⟨call, hcall, rfl⟩
  obtain ⟨found, hfound, hpair⟩ := List.mem_map.mp hmem
  have hsome : (batch.entries.findIdx? (·.callId = call.callId)).isSome := by
    rw [List.findIdx?_isSome, List.any_eq_true]
    exact ⟨found, hfound, by simpa using congrArg Prod.fst hpair⟩
  obtain ⟨entryIndex, hindex⟩ := Option.isSome_iff_exists.mp hsome
  obtain ⟨hlt, hid, -⟩ := List.findIdx?_eq_some_iff_getElem.mp hindex
  have hsame : (batch.entries[entryIndex]).callId = call.callId := by simpa using hid
  refine ⟨entryIndex, batch.entries[entryIndex],
    ⟨batch, hbatch, hindex, List.getElem?_eq_getElem hlt⟩, hsame, ?_⟩
  have hpair' : ((batch.entries[entryIndex]).callId, (batch.entries[entryIndex]).toolName) ∈
      ctx.assistant.toolCalls.map (fun call => (call.callId, call.toolName)) := by
    rw [← hdeclared]
    exact List.mem_map.mpr ⟨_, List.getElem_mem hlt, rfl⟩
  obtain ⟨other, hother, heq⟩ := List.mem_map.mp hpair'
  have hcallId : other.callId = call.callId := (congrArg Prod.fst heq).trans hsame
  have : other = call := List.inj_on_of_nodup_map h.distinct hother hcall hcallId
  subst this
  exact (congrArg Prod.snd heq).symm

theorem Ready.fresh (h : Ready ctx run) (hlocated : Located ctx run call entryIndex entry) :
    EntryFresh run entry := by
  obtain ⟨batch, hbatch, -, hfresh⟩ := h.declared
  obtain ⟨batch', hbatch', -, hentry⟩ := hlocated.batch
  rw [hbatch] at hbatch'
  cases hbatch'
  exact hfresh entry (List.mem_of_getElem? hentry)

theorem entryCallIds_nodup (h : Ready ctx run) {batch : ToolCallBatch}
    (hbatch : run.toolBatches[ctx.batchIndex]? = some batch) :
    (batch.entries.map (·.callId)).Nodup := by
  obtain ⟨batch', hbatch', hdeclared, -⟩ := h.declared
  rw [hbatch] at hbatch'
  cases hbatch'
  have hids := congrArg (List.map Prod.fst) hdeclared
  rw [List.map_map, List.map_map] at hids
  show (batch.entries.map (Prod.fst ∘ fun entry => (entry.callId, entry.toolName))).Nodup
  rw [hids]
  exact h.distinct

/-! ## One accepted checkpoint -/

theorem committed_batch {batch : ToolCallBatch} (hindex : change.batchIndex = ctx.batchIndex)
    (hbatch : run.toolBatches[ctx.batchIndex]? = some batch) :
    (committed change run now commandId).toolBatches[ctx.batchIndex]? =
      some { batch with entries := batch.entries.set change.entryIndex change.entry } := by
  show (run.toolBatches.modify change.batchIndex _)[ctx.batchIndex]? = _
  rw [hindex, List.getElem?_modify, hbatch]
  simp

theorem findIdx?_set {α : Type} (p : α → Bool) (l : List α) (i : Nat) (a b : α)
    (h : l[i]? = some a) (hp : p b = p a) : (l.set i b).findIdx? p = l.findIdx? p := by
  induction l generalizing i with
  | nil => simp at h
  | cons x xs ih =>
      cases i with
      | zero =>
          simp only [List.getElem?_cons_zero, Option.some.injEq] at h
          subst h
          simp [List.findIdx?_cons, hp]
      | succ i =>
          simp only [List.getElem?_cons_succ] at h
          simp only [List.set_cons_succ, List.findIdx?_cons, ih i h]

theorem map_set_same {α β : Type} (f : α → β) (l : List α) (i : Nat) (a b : α)
    (h : l[i]? = some a) (hf : f b = f a) : (l.set i b).map f = l.map f := by
  obtain ⟨hlt, hget⟩ := List.getElem?_eq_some_iff.mp h
  rw [List.map_set, hf, ← hget, ← List.getElem_map f, List.set_getElem_self]
  simpa using hlt

/-- An accepted change of the entry of `call`. -/
structure Committed (ctx : BatchContext) (call : ToolCall) (entryIndex : Nat)
    (entry : ToolBatchEntry) (change : LocalChange) (commandId : CommandId)
    (run : OrchestratorRunState) : Prop where
  located : Located ctx run call entryIndex entry
  batchIndex : change.batchIndex = ctx.batchIndex
  entryIndex : change.entryIndex = entryIndex
  moves : Moves call.callId entry change.entry commandId

theorem Committed.frame (h : Committed ctx call entryIndex entry change commandId run)
    (hother : Located ctx run other otherIndex entry') (hne : other.callId ≠ call.callId) :
    Located ctx (committed change run now commandId) other otherIndex entry' := by
  obtain ⟨batch, hbatch, hindex, hentry⟩ := hother.batch
  have hold : batch.entries[entryIndex]? = some entry := by
    simpa [entryAt?, hbatch] using h.located.entryAt
  have hdifferent : entryIndex ≠ otherIndex := by
    rintro rfl
    rw [hentry] at hold
    cases hold
    exact hne (hother.sameCall.symm.trans h.located.sameCall)
  refine ⟨⟨_, committed_batch h.batchIndex hbatch, ?_, ?_⟩, hother.sameCall, hother.sameTool⟩
  · rw [← hindex]
    exact findIdx?_set _ _ _ entry _ (h.entryIndex ▸ hold) (by rw [h.moves.sameCall])
  · show (batch.entries.set change.entryIndex change.entry)[otherIndex]? = _
    rw [h.entryIndex, List.getElem?_set_ne hdifferent]
    exact hentry

theorem Committed.own (h : Committed ctx call entryIndex entry change commandId run) :
    Located ctx (committed change run now commandId) call entryIndex change.entry := by
  obtain ⟨batch, hbatch, hindex, hentry⟩ := h.located.batch
  have hlt : entryIndex < batch.entries.length := (List.getElem?_eq_some_iff.mp hentry).1
  refine ⟨⟨_, committed_batch h.batchIndex hbatch, ?_, ?_⟩, ?_, ?_⟩
  · rw [← hindex]
    exact findIdx?_set _ _ _ entry _ (h.entryIndex ▸ hentry) (by rw [h.moves.sameCall])
  · simp [h.entryIndex, hlt]
  · rw [h.moves.sameCall, h.located.sameCall]
  · rw [h.moves.sameTool, h.located.sameTool]

theorem Committed.ready (h : Committed ctx call entryIndex entry change commandId run)
    (hready : Ready ctx run) : Ready ctx (committed change run now commandId) := by
  obtain ⟨batch, hbatch, hdeclared, hfresh⟩ := hready.declared
  have hnodup := entryCallIds_nodup hready hbatch
  have hold : batch.entries[change.entryIndex]? = some entry := by
    simpa [entryAt?, hbatch, h.entryIndex] using h.located.entryAt
  refine ⟨⟨hready.live.running, hready.live.clock⟩,
    ⟨_, committed_batch h.batchIndex hbatch, ?_, ?_⟩, hready.distinct⟩
  · rw [← hdeclared]
    exact map_set_same _ _ _ entry _ hold (by rw [h.moves.sameCall, h.moves.sameTool])
  · intro found hmem other hother hsettles
    obtain ⟨i, hi⟩ := List.mem_iff_getElem?.mp hmem
    rw [List.getElem?_set] at hi
    by_cases hown : change.entryIndex = i
    · rw [if_pos hown] at hi
      split_ifs at hi
      cases hi
      rw [h.moves.sameCall, h.located.sameCall] at hsettles
      rcases List.mem_append.mp hother with hother | hother
      · have hbefore := hfresh entry (List.mem_of_getElem? hold) other hother
        rw [h.located.sameCall] at hbefore
        exact hbefore (h.moves.fresh other hsettles)
      · rw [List.mem_singleton.mp hother] at hsettles
        exact h.moves.unsettled hsettles
    · rw [if_neg hown] at hi
      rcases List.mem_append.mp hother with hother | hother
      · exact hfresh found (List.mem_of_getElem? hi) other hother hsettles
      · rw [List.mem_singleton.mp hother] at hsettles
        have hid : found.callId = entry.callId :=
          (h.moves.own _ _ hsettles).trans h.located.sameCall.symm
        have hlt : i < (batch.entries.map (·.callId)).length := by
          simpa using (List.getElem?_eq_some_iff.mp hi).1
        have hsame : (batch.entries.map (·.callId))[i]? =
            (batch.entries.map (·.callId))[change.entryIndex]? := by
          rw [List.getElem?_map, List.getElem?_map, hi, hold]
          exact congrArg some hid
        exact hown ((List.getElem?_inj hlt hnodup).mp hsame).symm

theorem Committed.parked (h : Committed ctx call entryIndex entry change commandId run)
    {parked : ToolBatchEntry} (hmem : parked ∈ run.entries)
    (hparked : parked.state.isParked = true) :
    parked ∈ (committed change run now commandId).entries := by
  obtain ⟨batch, hbatch, hentry⟩ := List.mem_flatMap.mp hmem
  obtain ⟨b, hb⟩ := List.mem_iff_getElem?.mp hbatch
  obtain ⟨i, hi⟩ := List.mem_iff_getElem?.mp hentry
  refine List.mem_flatMap.mpr ?_
  by_cases hsame : b = ctx.batchIndex
  · subst hsame
    refine ⟨_, List.mem_of_getElem? (committed_batch h.batchIndex hb), ?_⟩
    have hold : batch.entries[entryIndex]? = some entry := by
      simpa [entryAt?, hb] using h.located.entryAt
    by_cases hown : change.entryIndex = i
    · -- the changed entry is not parked, or it is as it was
      have heq : parked = entry := by
        rw [← hown, h.entryIndex, hold] at hi
        exact (Option.some.inj hi).symm
      have hlt : i < batch.entries.length := (List.getElem?_eq_some_iff.mp hi).1
      have hkept : change.entry = parked := heq ▸ h.moves.parked (heq ▸ hparked)
      rw [← hkept, hown]
      exact List.mem_set hlt _
    · refine List.mem_of_getElem? (i := i) ?_
      rw [List.getElem?_set_ne hown]
      exact hi
  · refine ⟨batch, List.mem_of_getElem? (i := b) ?_, hentry⟩
    show (run.toolBatches.modify change.batchIndex _)[b]? = _
    rw [h.batchIndex, List.getElem?_modify, hb]
    simp [Ne.symm hsame]

end Located

/-! ## Where a call has come to -/

/-- The Run has come from `first` by checkpoints of `call`, whose entry is now `entry`. -/
structure Reached (ctx : BatchContext) (call : ToolCall) (entryIndex : Nat)
    (first : OrchestratorRunState) (entry : ToolBatchEntry) (run : OrchestratorRunState) :
    Prop where
  ready : Ready ctx run
  located : Located ctx run call entryIndex entry
  others : ∀ other otherIndex otherEntry, other.callId ≠ call.callId →
    Located ctx first other otherIndex otherEntry → Located ctx run other otherIndex otherEntry
  parked : ∀ entry ∈ first.entries, entry.state.isParked = true → entry ∈ run.entries
  profile : run.profile = first.profile
  used : run.budget.agentCallsUsed ≤ max first.budget.agentCallsUsed first.profile.maxAgentCalls

section Reached

variable {ctx : BatchContext} {call : ToolCall} {entryIndex : Nat}
  {first run : OrchestratorRunState} {entry : ToolBatchEntry} {change : LocalChange}
  {commandId : CommandId} {s t : Process}

theorem Ready.reached (hready : Ready ctx run) (hlocated : Located ctx run call entryIndex entry) :
    Reached ctx call entryIndex run entry run :=
  ⟨hready, hlocated, fun _ _ _ _ h => h, fun _ h _ => h, rfl, Nat.le_max_left ..⟩

theorem Reached.trans {second : OrchestratorRunState} {entry' : ToolBatchEntry}
    (h : Reached ctx call entryIndex first entry second)
    (h' : Reached ctx call entryIndex second entry' run) :
    Reached ctx call entryIndex first entry' run where
  ready := h'.ready
  located := h'.located
  others other otherIndex otherEntry hne hother :=
    h'.others other otherIndex otherEntry hne (h.others other otherIndex otherEntry hne hother)
  parked entry hmem hparked := h'.parked entry (h.parked entry hmem hparked) hparked
  profile := h'.profile.trans h.profile
  used := by
    have hsecond := h.used
    have hused := h'.used
    rw [h.profile] at hused
    omega

structure Reached.Change (h : Reached ctx call entryIndex first entry s.run) (change : LocalChange)
    (commandId : CommandId) : Prop where
  batchIndex : change.batchIndex = ctx.batchIndex
  entryIndex : change.entryIndex = entryIndex
  moves : Moves call.callId entry change.entry commandId
  used : change.agentCallsUsed ≤ max first.budget.agentCallsUsed first.profile.maxAgentCalls

theorem Reached.Change.committed {h : Reached ctx call entryIndex first entry s.run}
    (hchange : h.Change change commandId) :
    Committed ctx call entryIndex entry change commandId s.run :=
  ⟨h.located, hchange.batchIndex, hchange.entryIndex, hchange.moves⟩

theorem Reached.written (h : Reached ctx call entryIndex first entry s.run)
    (hchange : h.Change change commandId) (hwritten : Written change commandId s run t) :
    t.run = run ∧ ∃ entry', Reached ctx call entryIndex first entry' run ∧
      (entry' = change.entry ∨ (entry' = entry ∧ commandId ∈ s.run.processedCommandIds)) := by
  refine ⟨hwritten.stored, ?_⟩
  by_cases hold : commandId ∈ s.run.processedCommandIds
  · rw [hwritten.replayed hold]
    exact ⟨entry, h, Or.inr ⟨rfl, hold⟩⟩
  · obtain ⟨now, rfl⟩ := hwritten.accepted hold
    have hcommitted := hchange.committed
    refine ⟨change.entry, ⟨hcommitted.ready h.ready, hcommitted.own, ?_, ?_, h.profile,
      hchange.used⟩, Or.inl rfl⟩
    · intro other otherIndex otherEntry hne hother
      exact hcommitted.frame (h.others other otherIndex otherEntry hne hother) hne
    · intro parked hmem hparked
      exact hcommitted.parked (h.parked parked hmem hparked) hparked

end Reached

end Hybro.Kernel
