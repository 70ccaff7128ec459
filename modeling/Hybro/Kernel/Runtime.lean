import Hybro.Library.PythonText
import Hybro.Library.Machine
import Hybro.Orchestrator.Budget
import Hybro.RunStore.Store

/-! # What the kernel runs on

The kernel is a program over the Run store and its injected ports. Every
operation is one exchange with the outside; what a port answers is left open, and
an answer may be an exception. The kernel reads the Run with `load` and writes it
with `checkpoint`, which advances the version it read by one.
-/

namespace Hybro.Kernel

open Orchestrator Interleaving
open RunStore (MongoRunStoreResult)

/-! ## Operations -/

inductive KernelError
  | conflict (message : String)
  | cancellationPending
  | invalidValue (message : String)
  | raised (message : String)
  deriving DecidableEq

/-- What a port may raise, where its caller looks at the class. -/
inductive PublicationReply
  | published
  | invalidTarget
  | raised (message : String)
  deriving DecidableEq

inductive KernelOp
  | load
  | now
  | casMutate (candidate : OrchestratorRunState) (expectedStateVersion : Nat)
      (commandId : CommandId)
  | emit (eventType : String) (payload : JsonObject)
  | accept (invocation : ToolInvocation)
  | publishParkedInteraction (callRecordId interactionId : String)
  | supervisorHitl (interactionId callId question : String) (choices : List String)
  deriving DecidableEq

abbrev KernelOp.Res : KernelOp → Type
  | .load => OrchestratorRunState
  | .now => Timestamp
  | .casMutate .. => Except String MongoRunStoreResult
  | .emit .. => Unit
  | .accept _ => Except String ToolAcceptance
  | .publishParkedInteraction .. => PublicationReply
  | .supervisorHitl .. => Except String Unit

abbrev KernelM := ExceptT KernelError (Prog KernelOp KernelOp.Res)

def perform (op : KernelOp) : KernelM op.Res := ExceptT.lift (Prog.perform op)

def load : KernelM OrchestratorRunState := perform .load

/-- `clock.now()` -/
def clockNow : KernelM Timestamp := perform .now

def emit (eventType : String) (payload : JsonObject) : KernelM Unit :=
  perform (.emit eventType payload)

def jsonText : Option String → JsonValue
  | none => .null
  | some text => .str text

/-! ## The store alone

What the store answers when nothing else writes to the Run.
-/

def modelValidate (run : OrchestratorRunState) : Except String Unit :=
  match quarantineFieldsArePaired run.recoveryClaim with
  | .error message => .error message
  | .ok () => aggregateIdentityAndUniqueness run

def casMutateAlone (current candidate : OrchestratorRunState) (expectedStateVersion : Nat)
    (commandId : CommandId) : Except String MongoRunStoreResult :=
  if commandId ∈ current.processedCommandIds then .ok ⟨.replayed, some current⟩
  else if current.stateVersion ≠ expectedStateVersion ∨
      candidate.stateVersion ≠ expectedStateVersion + 1 then .ok ⟨.conflict, some current⟩
  else
    match modelValidate (RunStore.withCommand candidate commandId) with
    | .error message => .error message
    | .ok () =>
        if RunStore.cancellationTransitionAllowed current
            (RunStore.withCommand candidate commandId) then
          .ok ⟨.accepted, some (RunStore.withCommand candidate commandId)⟩
        else .ok ⟨.conflict, some current⟩

def storedAfter (current : OrchestratorRunState) (reply : Except String MongoRunStoreResult) :
    OrchestratorRunState :=
  match reply with
  | .ok ⟨.accepted, some run⟩ => run
  | _ => current

/-! ## Checkpoints -/

/-- The Run that `_checkpoint` hands to the store. -/
def checkpointCandidate (run : OrchestratorRunState)
    (updates : OrchestratorRunState → OrchestratorRunState) (now : Timestamp) :
    OrchestratorRunState :=
  let updated := updates run
  { updated with
    budget := applySuspensionClock updated.budget updated.status.isSuspended now
    stateVersion := run.stateVersion + 1
    updatedAt := now }

def StoreOutcome.value : StoreOutcome → String
  | .accepted => "accepted"
  | .replayed => "replayed"
  | .conflict => "conflict"
  | .error => "error"

def refusedCheckpoint (commandId : CommandId) (outcome : StoreOutcome) :
    KernelM OrchestratorRunState := do
  let failed := KernelError.conflict s!"checkpoint failed: {commandId.render}:{StoreOutcome.value outcome}"
  if outcome = .conflict then
    let current ← load
    if current.status = .canceling then throw .cancellationPending
    else if commandId ∈ current.processedCommandIds then return current
    else throw failed
  else throw failed

/-- `_checkpoint`: a command that was processed before is answered with the Run as
it is now, without the updates. -/
def checkpoint (run : OrchestratorRunState)
    (updates : OrchestratorRunState → OrchestratorRunState) (commandId : CommandId) :
    KernelM OrchestratorRunState := do
  let now ← clockNow
  match ← perform (.casMutate (checkpointCandidate run updates now) run.stateVersion commandId) with
  | .error message => throw (.invalidValue message)
  | .ok ⟨.accepted, some stored⟩ => return stored
  | .ok ⟨.replayed, some stored⟩ => return stored
  | .ok ⟨outcome, _⟩ => refusedCheckpoint commandId outcome

/-! ## Entries -/

/-- `run.tool_batches[batch_index].entries[entry_index]` -/
def entryAt? (run : OrchestratorRunState) (batchIndex entryIndex : Nat) : Option ToolBatchEntry :=
  run.toolBatches[batchIndex]?.bind (·.entries[entryIndex]?)

def entryAt (run : OrchestratorRunState) (batchIndex entryIndex : Nat) : KernelM ToolBatchEntry :=
  match entryAt? run batchIndex entryIndex with
  | some entry => return entry
  | none => throw (.raised "list index out of range")

def withEntry (batchIndex entryIndex : Nat) (entry : ToolBatchEntry)
    (run : OrchestratorRunState) : OrchestratorRunState :=
  { run with toolBatches := run.toolBatches.modify batchIndex fun batch =>
      { batch with entries := batch.entries.set entryIndex entry } }

theorem entryAt?_withEntry_self {run : OrchestratorRunState} {batchIndex entryIndex : Nat}
    (entry : ToolBatchEntry) (h : (entryAt? run batchIndex entryIndex).isSome) :
    entryAt? (withEntry batchIndex entryIndex entry run) batchIndex entryIndex = some entry := by
  unfold entryAt? withEntry at *
  cases hbatch : run.toolBatches[batchIndex]? with
  | none => simp [hbatch] at h
  | some batch =>
      simp only [hbatch, Option.bind_some, Option.isSome_iff_exists] at h
      obtain ⟨old, hold⟩ := h
      have hlt : entryIndex < batch.entries.length := (List.getElem?_eq_some_iff.mp hold).1
      simp [hbatch, hlt]

theorem withEntry_self {run : OrchestratorRunState} {batchIndex entryIndex : Nat} {entry : ToolBatchEntry}
    (h : entryAt? run batchIndex entryIndex = some entry) :
    withEntry batchIndex entryIndex entry run = run := by
  obtain ⟨batch, hbatch, hentry⟩ := Option.bind_eq_some_iff.mp h
  obtain ⟨hlt, hget⟩ := List.getElem?_eq_some_iff.mp hentry
  have hset : batch.entries.set entryIndex entry = batch.entries := by
    rw [← hget, List.set_getElem_self]
  have hbatches : (run.toolBatches.modify batchIndex fun batch =>
      { batch with entries := batch.entries.set entryIndex entry }) = run.toolBatches := by
    apply List.ext_getElem?
    intro i
    rw [List.getElem?_modify]
    by_cases hi : batchIndex = i
    · subst hi
      rw [hbatch]
      simp [hset]
    · cases run.toolBatches[i]? <;> simp [hi]
  unfold withEntry
  rw [hbatches]

def findEntry (run : OrchestratorRunState) (assistantMessageId callId : String) :
    Option (Nat × Nat) :=
  run.toolBatches.zipIdx.findSome? fun (batch, batchIndex) =>
    if batch.assistantMessageId ≠ assistantMessageId then none
    else (batch.entries.findIdx? (·.callId = callId)).map (batchIndex, ·)

/-- The keyword arguments of `_update_entry`. -/
structure EntryUpdate where
  state : ToolBatchEntryState
  invocation : Option ToolInvocation := none
  acceptance : Option ToolAcceptance := none
  opaquePublicCallId : Option String := none
  result : Option ToolResult := none
  publicUpdateIndex : Option Nat := none
  publicTerminalEmitted : Option Bool := none

def EntryUpdate.apply (update : EntryUpdate) (entry : ToolBatchEntry) : ToolBatchEntry :=
  { entry with
    state := update.state
    bufferedTerminalResult := update.result
    invocation := update.invocation <|> entry.invocation
    acceptance := update.acceptance <|> entry.acceptance
    opaquePublicCallId := update.opaquePublicCallId <|> entry.opaquePublicCallId
    publicUpdateIndex := update.publicUpdateIndex.getD entry.publicUpdateIndex
    publicTerminalEmitted := update.publicTerminalEmitted.getD entry.publicTerminalEmitted }

/-- The second attempt of `_update_entry`, over the Run that won the first. -/
def retryEntryUpdate (original desired : ToolBatchEntry) (commandId : CommandId) :
    KernelM OrchestratorRunState := do
  let current ← load
  match findEntry current original.assistantMessageId original.callId with
  | none => throw (.conflict "tool entry disappeared during CAS retry")
  | some (batchIndex, entryIndex) =>
      let currentEntry ← entryAt current batchIndex entryIndex
      if currentEntry = desired then return current
      else if currentEntry ≠ original then
        throw (.conflict "tool entry changed during CAS retry")
      else checkpoint current (withEntry batchIndex entryIndex desired) commandId

def updateEntry (run : OrchestratorRunState) (batchIndex entryIndex : Nat) (update : EntryUpdate)
    (commandId : CommandId) : KernelM OrchestratorRunState := do
  let original ← entryAt run batchIndex entryIndex
  let desired := update.apply original
  tryCatch (checkpoint run (withEntry batchIndex entryIndex desired) commandId) fun
    | .conflict _ => retryEntryUpdate original desired commandId
    | error => throw error

/-! ## The kernel's configuration -/

structure ValidationError where
  absolutePath : List String
  validator : String
  instanceValue : JsonValue
  properties : Option (List String)
  validatorValue : JsonValue
  deriving DecidableEq

/-- The catalog of a frozen snapshot. How a definition is narrowed to the resources
of a manifest is left to the catalog. -/
structure FrozenToolCatalog where
  snapshot : FrozenToolCatalogSnapshot
  definitionForManifest : RunResourceManifestSnapshot → FrozenToolCatalogEntry → ToolDefinition

def FrozenToolCatalog.definitionForRun (catalog : FrozenToolCatalog) (run : OrchestratorRunState)
    (entry : FrozenToolCatalogEntry) : ToolDefinition :=
  match run.resourceManifest with
  | none => entry.definition
  | some manifest => catalog.definitionForManifest manifest entry

/-- The lookup raises `KeyError` for a name that is not in the snapshot. -/
def FrozenToolCatalog.resolve (catalog : FrozenToolCatalog) (run : OrchestratorRunState)
    (toolName : String) : Except String (Option ResolvedTool) :=
  if run.toolCatalog.map (·.catalogId) ≠ some catalog.snapshot.catalogId then
    .error "Run is not bound to this frozen tool catalog"
  else
    -- the last entry of a name wins, as in the dictionary built from the snapshot
    .ok ((catalog.snapshot.entries.reverse.find? (·.definition.name = toolName)).map fun entry =>
      ⟨catalog.definitionForRun run entry, entry.binding⟩)

/-- What the kernel is built with, and the library functions it calls. -/
structure OrchestratorKernel where
  toolCatalog : FrozenToolCatalog
  supervisorHitlBound : Bool
  schemaErrors : JsonValue → JsonObject → List ValidationError
  sha256 : String → String
  repr : JsonValue → String

def stableId (kernel : OrchestratorKernel) (run : OrchestratorRunState) (parts : List String) :
    String :=
  kernel.sha256 (String.intercalate ":" (run.runId :: parts))

def opaquePublicCallId (kernel : OrchestratorKernel) (runId privateCallId : String) : String :=
  "inv_" ++ String.ofList ((kernel.sha256 (runId ++ ":" ++ privateCallId)).toList.take 24)

/-- `text[:length]` -/
def slice (length : Nat) (text : String) : String := String.ofList (text.toList.take length)

/-- `text.strip()` -/
def strip (text : String) : String :=
  String.ofList ((text.toList.dropWhile PythonText.isSpace).reverse.dropWhile
    PythonText.isSpace).reverse

def toolLabel (run : OrchestratorRunState) (toolName : String) : Option String :=
  match run.toolCatalog.bind (·.entries.find? (·.definition.name = toolName)) with
  | none => none
  | some entry => if strip entry.definition.label = "" then none
      else some (strip entry.definition.label)

end Hybro.Kernel
