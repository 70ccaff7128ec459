import Hybro.A2ARuntime.LedgerRules

/-! # The remote ids of a call

A call is named to its Agent by a task id and a context id. The ingress checks the ids of an
observation against the call when it records it; they are written when the observation is
applied, which may be much later. This module follows one call and the observations recorded
for it through every order of records, applications and other writes.
-/

namespace Hybro.A2ARuntime

open Orchestrator PythonList

/-! ## Ids by their kind -/

/-- A task id or a context id, by the kind of alias that it may be bound as. -/
def idOf (taskId contextId : Option String) : AliasKind → Option String
  | .task => taskId
  | .context => contextId
  | .relayJournal => none

def AgentCallLedgerRecord.a2aId (record : AgentCallLedgerRecord) : AliasKind → Option String :=
  idOf record.a2aTaskId record.a2aContextId

def NormalizedA2AObservation.a2aId (observation : NormalizedA2AObservation) :
    AliasKind → Option String :=
  idOf observation.taskId observation.contextId

def isAuthoritative (value : String) : Bool :=
  value ≠ "" && !isProvisional value

/-! ## The ingress -/

/-- `find_by_alias`, of the one call there is. -/
def findByAlias (call : AgentCallLedgerRecord) (bindingScope : String)
    (taskId contextId : Option String) : Option AgentCallLedgerRecord :=
  if call.ownershipAliases.any fun ownership =>
      ownership.bindingScope = bindingScope &&
        ((ownership.kind = .task && some ownership.value = taskId) ||
          (ownership.kind = .context && some ownership.value = contextId)) then
    some call
  else none

/-- `value not in {None, expected}` -/
def differs (value : Option String) (expected : String) : Bool :=
  value ≠ none && value ≠ some expected

def resolveLineage (call : AgentCallLedgerRecord) (observation : NormalizedA2AObservation) :
    Option AgentCallLedgerRecord :=
  let found :=
    match observation.callRecordId with
    | some callRecordId => if callRecordId = call.callRecordId then some call else none
    | none => findByAlias call observation.bindingScope observation.taskId observation.contextId
  found.filter fun call =>
    call.endpointScopeDigest = observation.bindingScope &&
      !differs observation.callRecordId call.callRecordId &&
      !differs observation.agentId call.agentId &&
      !call.a2aTaskId.any (differs observation.taskId) &&
      !call.a2aContextId.any (differs observation.contextId)

/-! ## One call and its evidence -/

/-- A call and the observations that were recorded for it. -/
structure Evidence where
  call : AgentCallLedgerRecord
  rows : List NormalizedA2AObservation
  deriving DecidableEq

/-- An observation as the one who applies it has prepared it: its content and its ending may
have changed, and not what it is an observation of. -/
def SameLineage (row prepared : NormalizedA2AObservation) : Prop :=
  prepared.observationId = row.observationId ∧ prepared.taskId = row.taskId ∧
    prepared.contextId = row.contextId

instance (row prepared : NormalizedA2AObservation) : Decidable (SameLineage row prepared) :=
  inferInstanceAs (Decidable (_ ∧ _))

/-- A write that has nothing to do with the ids of the call. -/
def SameIds (call next : AgentCallLedgerRecord) : Prop :=
  next.endpointScopeDigest = call.endpointScopeDigest ∧
    next.ownershipAliases = call.ownershipAliases ∧ next.a2aTaskId = call.a2aTaskId ∧
    next.a2aContextId = call.a2aContextId

instance (call next : AgentCallLedgerRecord) : Decidable (SameIds call next) :=
  inferInstanceAs (Decidable (_ ∧ _))

/-- The call after its dispatch was accepted with these ids, when its state allows it. -/
def acceptDispatch (call : AgentCallLedgerRecord) (taskId contextId : Option String)
    (now : Timestamp) : Except LedgerError AgentCallLedgerRecord := do
  let aliases ← bindAuthoritativeAliases call taskId contextId
  if aliases.any (·.kind = .task) then
    transitionCall call .working now
      { a2aTaskId := some taskId
        a2aContextId := some contextId
        ownershipAliases := some aliases
        ownershipAliasKeys := some (ownershipAliasKeys aliases) }
  else .ok call

/-- What can happen to a call and its evidence. An application may be made by the processor or
by any other that holds the observation. -/
inductive EvidenceMove
  | record (observation : NormalizedA2AObservation)
  | apply (index : Nat) (prepared : NormalizedA2AObservation) (recentLimit : Nat)
  | accept (taskId contextId : Option String) (now : Timestamp)
  | write (next : AgentCallLedgerRecord)

def written (call : AgentCallLedgerRecord) (result : Except LedgerError AgentCallLedgerRecord) :
    AgentCallLedgerRecord :=
  match result with
  | .ok next => next
  | .error _ => call

def Evidence.move (resultDigest : ToolResult → String) (evidence : Evidence) :
    EvidenceMove → Option Evidence
  | .record observation =>
      (resolveLineage evidence.call observation).map fun _ =>
        { evidence with rows := evidence.rows ++ [observation] }
  | .apply index prepared recentLimit =>
      let result := applyObservation resultDigest evidence.call prepared recentLimit
      (evidence.rows[index]?.filter (SameLineage · prepared)).map fun _ =>
        { evidence with call := written evidence.call result }
  | .accept taskId contextId now =>
      let result := acceptDispatch evidence.call taskId contextId now
      some { evidence with call := written evidence.call result }
  | .write next => if SameIds evidence.call next then some { evidence with call := next } else none

/-! ## Agreement -/

/-- The ids of the call are those that are bound, one of a kind and none of them provisional. -/
structure AgentCallLedgerRecord.Agrees (call : AgentCallLedgerRecord) : Prop where
  single : (call.ownershipAliases.map (·.kind)).Nodup
  named : ∀ ownership ∈ call.ownershipAliases, call.a2aId ownership.kind = some ownership.value
  lasting : ∀ ownership ∈ call.ownershipAliases, isAuthoritative ownership.value = true
  inScope : ∀ ownership ∈ call.ownershipAliases,
    ownership.bindingScope = call.endpointScopeDigest ∧ ownership.authoritative = true

def Fits (aliases : List A2AOwnershipAlias) (given : AliasKind → Option String) : Prop :=
  ∀ ownership ∈ aliases, ∀ value, given ownership.kind = some value →
    isAuthoritative value = true → value = ownership.value

end Hybro.A2ARuntime
