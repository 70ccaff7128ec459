import Hybro.Library.BsonDocument
import Hybro.Orchestrator.Settlement

/-! # Insert and compare-and-set of the A2A records

`MongoAgentToolBindingStore.insert`, `MongoAgentCallLedgerStore.insert` and `cas`, and
`MongoObservationInboxStore.insert` and `cas`. A record is the nested mapping that `model_dump`
gives and `model_validate` takes back, its dates in microseconds.
-/

namespace Hybro.RecordStores

open BsonDocument BsonDocument.Document
open Orchestrator (StoreOutcome)

variable {F : Type} [BEq F]

/-! ## Collections -/

inductive Fate
  | acknowledged
  | lost
  | failed
  deriving DecidableEq

inductive WriteReply
  | written
  | unmatched
  | duplicateKey
  | unavailable
  deriving DecidableEq

/-- A write with the collection after it; `applied` tells whether it took place. -/
structure Write (F : Type) where
  reply : WriteReply
  documents : List (Document F)
  applied : Bool

def scalarAt (document : Document F) (name : String) : Scalar :=
  (document.field name).scalar

/-- Two documents that a unique index over `names` keeps apart. -/
def sameKey (names : List String) (a b : Document F) : Bool :=
  names.all fun name => scalarAt a name = scalarAt b name

/-- The write is carried out as `fate` says. -/
def carryOut (fate : Fate) (before after : List (Document F)) : Write F :=
  match fate with
  | .acknowledged => ⟨.written, after, true⟩
  | .lost => ⟨.unavailable, after, true⟩
  | .failed => ⟨.unavailable, before, false⟩

/-- `insert_one` under the unique indexes `clash`. -/
def insertOne (clash : Document F → Document F → Bool) (fate : Fate) (record : Document F)
    (documents : List (Document F)) : Write F :=
  if documents.any (clash record) then ⟨.duplicateKey, documents, false⟩
  else carryOut fate documents (stored record :: documents)

def replaceFirst (selects : Document F → Bool) (record : Document F) :
    List (Document F) → List (Document F)
  | [] => []
  | document :: documents =>
      if selects document then stored record :: documents
      else document :: replaceFirst selects record documents

/-- `replace_one` of the document that the filter selects. -/
def replaceOne (clash : Document F → Document F → Bool) (selects : Document F → Bool)
    (fate : Fate) (record : Document F) (documents : List (Document F)) : Write F :=
  if !documents.any selects then
    ⟨if fate = .acknowledged then .unmatched else .unavailable, documents, false⟩
  else if documents.any fun document => !selects document && clash record document then
    ⟨.duplicateKey, documents, false⟩
  else carryOut fate documents (replaceFirst selects record documents)

/-! ## Operations -/

inductive Answer
  | returned (outcome : StoreOutcome)
  | raised
  deriving DecidableEq

/-- One operation, with the collection after it; `wrote` tells whether its write took place. -/
structure Operation (F : Type) where
  answer : Answer
  documents : List (Document F)
  wrote : Bool

def replayedIf (replayed : Bool) : Answer :=
  .returned (if replayed then .replayed else .conflict)

/-- `find_one` by the fields that the record has under `names`. -/
def load (names : List String) (record : Document F) (documents : List (Document F)) :
    Option (Document F) :=
  documents.find? (sameKey names record)

/-- The three inserts: `names` is looked up, `repeats` recognizes the record in what was found,
and `survived` after a write whose acknowledgement did not arrive. -/
def insertOperation (names : List String) (clash repeats survived : Document F → Document F → Bool)
    (record : Document F) (fate : Fate) (documents : List (Document F)) : Operation F :=
  match load names record documents with
  | some existing => ⟨replayedIf (repeats existing record), documents, false⟩
  | none =>
      let write := insertOne clash fate record documents
      let existing := load names record write.documents
      match write.reply with
      | .duplicateKey =>
          ⟨replayedIf (existing.any (repeats · record)), write.documents, write.applied⟩
      | .unavailable =>
          ⟨if existing.any (survived · record) then .returned .replayed else .raised,
            write.documents, write.applied⟩
      | _ => ⟨.returned .accepted, write.documents, write.applied⟩

/-- The two compare-and-sets: `refused` holds the checks of each store, `selects` its filter. -/
def casOperation (names : List String) (clash : Document F → Document F → Bool)
    (refused : List (Document F) → Document F → Bool) (selects : Document F → Bool)
    (record : Document F) (expectedStateVersion : Int) (fate : Fate)
    (documents : List (Document F)) : Operation F :=
  match load names record documents with
  | none => ⟨.returned .error, documents, false⟩
  | some current =>
      if same current record then ⟨.returned .replayed, documents, false⟩
      else if scalarAt current "state_version" ≠ .int expectedStateVersion ∨
          scalarAt record "state_version" ≠ .int (expectedStateVersion + 1) then
        ⟨.returned .conflict, documents, false⟩
      else if refused documents current then ⟨.returned .conflict, documents, false⟩
      else
        let write := replaceOne clash selects fate record documents
        let replay := load names record write.documents
        match write.reply with
        | .duplicateKey => ⟨.returned .conflict, write.documents, write.applied⟩
        | .unavailable =>
            ⟨if replay.any (same · record) then .returned .replayed else .raised,
              write.documents, write.applied⟩
        | .written => ⟨.returned .accepted, write.documents, write.applied⟩
        | .unmatched =>
            ⟨replayedIf (replay.any (same · record)), write.documents, write.applied⟩

/-! ## Tool bindings -/

/-- `AGENT_TOOL_BINDING_INDEXES` -/
def bindingsClash (a b : Document F) : Bool :=
  sameKey ["binding_id"] a b || sameKey ["run_id", "tool_name"] a b

/-- `MongoAgentToolBindingStore.insert` -/
def insertBinding (record : Document F) (fate : Fate) (documents : List (Document F)) :
    Operation F :=
  insertOperation ["binding_id"] bindingsClash same same record fate documents

/-! ## Call ledger -/

def shareKey (name : String) (a b : Document F) : Bool :=
  (a.field name).scalars.any (· ∈ (b.field name).scalars)

/-- `AGENT_CALL_INDEXES` -/
def callsClash (a b : Document F) : Bool :=
  sameKey ["call_record_id"] a b || sameKey ["run_id", "invocation_id"] a b ||
    sameKey ["acceptance_id"] a b || sameKey ["idempotency_key"] a b ||
    sameKey ["run_id", "assistant_message_id", "source_index"] a b ||
    shareKey "ownership_alias_keys" a b ||
    (scalarAt a "pending_interaction_id" != .none && sameKey ["pending_interaction_id"] a b)

def acceptanceIdentity (record : Document F) : List Scalar :=
  (["call_record_id", "run_id", "invocation_id", "acceptance_id", "idempotency_key",
    "binding_digest", "arguments_digest"] : List String).map (scalarAt record) ++
    [scalarAt (record.field "resource_manifest") "content_digest", scalarAt record "room_epoch"]

def sameAcceptance (existing record : Document F) : Bool :=
  acceptanceIdentity existing = acceptanceIdentity record

/-- `MongoAgentCallLedgerStore.insert` -/
def insertCall (record : Document F) (fate : Fate) (documents : List (Document F)) :
    Operation F :=
  insertOperation ["run_id", "invocation_id"] callsClash sameAcceptance sameAcceptance record fate
    documents

def aliasConflict (record : Document F) (documents : List (Document F)) : Bool :=
  documents.any fun document =>
    shareKey "ownership_alias_keys" record document && !sameKey ["call_record_id"] record document

/-- `MongoAgentCallLedgerStore.cas` -/
def casCall (record : Document F) (expectedStateVersion : Int) (fate : Fate)
    (documents : List (Document F)) : Operation F :=
  casOperation ["call_record_id"] callsClash (fun documents _ => aliasConflict record documents)
    (fun document => sameKey ["call_record_id"] record document &&
      scalarAt document "state_version" = .int expectedStateVersion)
    record expectedStateVersion fate documents

/-! ## Observation inbox -/

/-- `OBSERVATION_INDEXES` -/
def observationsClash (a b : Document F) : Bool :=
  sameKey ["observation_id"] a b || sameKey ["source_identity"] a b

def samePayload (existing record : Document F) : Bool :=
  scalarAt existing "payload_digest" = scalarAt record "payload_digest"

/-- `MongoObservationInboxStore.insert` -/
def insertObservation (record : Document F) (fate : Fate) (documents : List (Document F)) :
    Operation F :=
  insertOperation ["source_identity"] observationsClash samePayload same record fate documents

/-- The fields of `_inbox_evidence_identity`. -/
def evidenceFields : List String :=
  ["observation_id", "source_kind", "source_identity", "payload_digest", "received_at",
    "binding_scope", "room_id", "room_epoch", "call_record_id", "task_id", "context_id",
    "agent_id", "event_kind", "observation"]

def sameEvidence (current record : Document F) : Bool :=
  evidenceFields.all fun name => same (current.field name) (record.field name)

structure RowClaim where
  ownerId : String
  claimToken : Option String

def RowClaim.holds (claim : RowClaim) (document : Document F) : Bool :=
  scalarAt document "claim_owner" = .text claim.ownerId &&
    scalarAt document "claim_token" = claim.claimToken.elim .none .text

/-- `MongoObservationInboxStore.cas` -/
def casObservation (record : Document F) (expectedStateVersion : Int) (claim : Option RowClaim)
    (fate : Fate) (documents : List (Document F)) : Operation F :=
  casOperation ["observation_id"] observationsClash
    (fun _ current =>
      claim.any (fun worker => !worker.holds current) || !sameEvidence current record)
    (fun document => sameKey ["observation_id"] record document &&
      scalarAt document "state_version" = .int expectedStateVersion &&
      claim.all (·.holds document))
    record expectedStateVersion fate documents

end Hybro.RecordStores
