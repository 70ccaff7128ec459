import Mathlib.Data.List.Infix
import Mathlib.Data.List.Sort
import Hybro.Library.PythonList
import Hybro.Library.PythonValue

/-! # Candidate scopes

`normalize_candidate_scope`: the shapes of a selected agent set are told apart, every item of
it is read into a snapshot of an agent, and the scope keeps the first snapshot of each id.
-/

namespace Hybro.Conversation

open PythonText PythonValue PythonList

variable {F : Type}

/-- What is taken from the language: `float` of an integer, unless it overflows, the truth of a
float, `str.lower`, which leaves no blanks and does not empty a text, and `str` of what is no
text. -/
structure Builtins (F : Type) where
  floatOf : Int → Option F
  truthy : F → Bool
  lower : String → String
  lower_clean : ∀ text, Clean text → Clean (lower text)
  shown : Value F → String

inductive Raised
  | notIterable
  | overflow
  | invalidSummary
  | unsupportedSource
  deriving DecidableEq

/-! ## Snapshots -/

@[ext] structure CandidateAgentSnapshot (F : Type) where
  agentId : String
  name : Option String := none
  role : Option String := none
  capabilitySummary : String := ""
  status : Option String := none
  source : Option String := none
  capabilities : List String := []
  inputModes : List String := ["text"]
  outputModes : List String := []
  supportsFileUpload : Bool := false
  successRate : Option F := none
  deriving DecidableEq

structure AuthorizationBasis where
  kind : String
  conversationId : Option String
  groupId : Option String
  selectedByUserId : Option String
  deriving DecidableEq

structure CandidateScopeSnapshot (F : Type) where
  snapshotId : String
  revision : Int := 1
  source : String
  conversationId : String
  groupId : Option String := none
  agentIds : List String
  agents : List (CandidateAgentSnapshot F)
  roomMembershipVersion : Option String := none
  groupVersion : Option String := none
  authorizationBasis : AuthorizationBasis
  deriving DecidableEq

/-! ## Snapshots as values -/

def CandidateAgentSnapshot.fields (agent : CandidateAgentSnapshot F) : List (String × Value F) :=
  [("agent_id", .str agent.agentId), ("name", .ofText agent.name), ("role", .ofText agent.role),
    ("capability_summary", .str agent.capabilitySummary), ("status", .ofText agent.status),
    ("source", .ofText agent.source), ("capabilities", .texts agent.capabilities),
    ("input_modes", .texts agent.inputModes), ("output_modes", .texts agent.outputModes),
    ("supports_file_upload", .bool agent.supportsFileUpload),
    ("success_rate", agent.successRate.elim .none .float)]

def AuthorizationBasis.fields (basis : AuthorizationBasis) : List (String × Value F) :=
  [("kind", .str basis.kind), ("conversation_id", .ofText basis.conversationId),
    ("group_id", .ofText basis.groupId),
    ("selected_by_user_id", .ofText basis.selectedByUserId)]

/-- The fields of a scope, whose agents and basis are objects or mappings by `nested`. -/
def CandidateScopeSnapshot.fields (scope : CandidateScopeSnapshot F)
    (nested : List (String × Value F) → Value F) : List (String × Value F) :=
  [("snapshot_id", .str scope.snapshotId), ("revision", .int scope.revision),
    ("source", .str scope.source), ("conversation_id", .str scope.conversationId),
    ("group_id", .ofText scope.groupId), ("agent_ids", .texts scope.agentIds),
    ("agents", .list (scope.agents.map fun agent => nested agent.fields)),
    ("room_membership_version", .ofText scope.roomMembershipVersion),
    ("group_version", .ofText scope.groupVersion),
    ("authorization_basis", nested scope.authorizationBasis.fields)]

def CandidateScopeSnapshot.asObject (scope : CandidateScopeSnapshot F) : Value F :=
  .object (scope.fields .object)

def CandidateScopeSnapshot.modelDump (scope : CandidateScopeSnapshot F) : Value F :=
  .mapping (scope.fields .mapping)

/-! ## Lookups -/

def firstMappingValue (entries : List (Key × Value F)) (keys : List String) : Value F :=
  Value.firstOf (Value.lookup entries) keys

def firstAttrValue (value : Value F) (attrs : List String) : Value F :=
  Value.firstOf value.attribute? attrs

def firstCardValue : Value F → List String → Value F
  | .dict entries, keys => firstMappingValue entries keys
  | card, keys => firstAttrValue card keys

def stringList (value : Value F) : List String :=
  (value.items?.getD []).filterMap (·.strippedText)

/-- One item of `_skill_list`. -/
def skill : Value F → Option String
  | .str text => strippedText text
  | .dict entries =>
      (firstAttrValue (.dict entries) ["id", "name"]).strippedText.or
        (firstMappingValue entries ["id", "name"]).strippedText
  | item => (firstAttrValue item ["id", "name"]).strippedText

def skillList (value : Value F) : List String :=
  (value.items?.getD []).filterMap skill

def optionalFloat (S : Builtins F) : Value F → Except Raised (Option F)
  | .float x => .ok (some x)
  | .int n =>
      match S.floatOf n with
      | some x => .ok (some x)
      | none => .error .overflow
  | _ => .ok none

/-- `bool(value)` -/
def truthy (S : Builtins F) : Value F → Bool
  | .none => false
  | .bool value => value
  | .int value => value != 0
  | .float value => S.truthy value
  | .str text => text != ""
  | .list items => !items.isEmpty
  | .dict entries => !entries.isEmpty
  | .object _ => true

/-! ## The modes of an agent card -/

def textModes : Value F := Value.texts ["text"]

/-- What `agent_input_modes` iterates over. -/
def rawInputModes (S : Builtins F) : Value F → Value F
  | .dict entries =>
      let first := (Value.lookup entries "default_input_modes").getD .none
      let second := (Value.lookup entries "defaultInputModes").getD .none
      if truthy S first then first else if truthy S second then second else textModes
  | card =>
      let first := (card.attribute? "default_input_modes").getD .none
      let raw := if first.isNone then (card.attribute? "defaultInputModes").getD .none else first
      if raw.isNone then textModes else raw

/-- `iter(value)`, by the texts of the items. -/
def shownItems (S : Builtins F) : Value F → Option (List String)
  | .list items => some (items.map fun item =>
      match item with
      | .str text => text
      | other => S.shown other)
  | .str text => some (text.toList.map String.singleton)
  | .dict entries => some (entries.map fun entry =>
      match entry.1 with
      | .text name => name
      | .other shown => shown)
  | _ => none

/-- `agent_input_modes`, a set as a list without repetitions. -/
def agentInputModes (S : Builtins F) (card : Value F) : Except Raised (List String) :=
  match shownItems S (rawInputModes S card) with
  | some shown => .ok (fromKeys ((shown.filterMap strippedText).map S.lower))
  | none => .error .notIterable

def fileCapableExact : List String := ["file", "*/*"]

def fileCapablePrefixes : List String := ["image/", "audio/", "video/"]

def fileCapableMimes : List String :=
  ["application/pdf", "application/octet-stream", "application/zip", "application/x-tar",
    "application/gzip"]

def modeIsMimeLikeFileCapability (mode : String) : Bool :=
  let characters := mode.toList
  if '/' ∉ characters ∨ "://".toList <:+: characters then false
  else
    let topLevel := characters.takeWhile (· ≠ '/')
    let subtype := (characters.dropWhile (· ≠ '/')).drop 1
    !topLevel.isEmpty && (!subtype.isEmpty || characters.getLast? == some '/')

/-- `agent_supports_any_file`, over the modes of the card. -/
def supportsAnyFile (modes : List String) : Bool :=
  modes.any (· ∈ fileCapableExact) || modes.any (· ∈ fileCapableMimes) ||
    modes.any fun mode =>
      fileCapablePrefixes.any (startsWith mode) || modeIsMimeLikeFileCapability mode

structure CardModes where
  inputModes : List String := ["text"]
  outputModes : List String := []
  supportsFileUpload : Bool := false

def cardModes (S : Builtins F) (card : Value F) : Except Raised CardModes :=
  if card.isNone then .ok {}
  else do
    let modes ← agentInputModes S card
    return {
      inputModes := modes.insertionSort (· ≤ ·)
      outputModes := stringList (firstCardValue card ["default_output_modes", "defaultOutputModes"])
      supportsFileUpload := supportsAnyFile modes }

/-! ## One agent -/

/-- `_capability_summary_from_mapping` and `_capability_summary_from_object` -/
def capabilitySummary (first : List String → Value F) : String :=
  match (first ["capability_summary"]).strippedText with
  | some summary => summary
  | none =>
      match (first ["description"]).strippedText with
      | some description => description
      | none => ", ".intercalate (skillList (first ["capabilities", "skills"]))

/-- The summary once the card has been asked, which may be `None`. -/
def summaryWithCard (first : List String → Value F) (card : Value F) : Option String :=
  let summary := capabilitySummary first
  if card.isNone ∨ summary ≠ "" then some summary
  else
    match skillList (firstCardValue card ["skills"]) with
    | [] =>
        (firstCardValue card ["capability_summary"]).strippedText.or
          (firstCardValue card ["description"]).strippedText
    | skills => some (", ".intercalate skills)

def statusFromHealth : Value F → Option String
  | .bool value => some (if value then "active" else "inactive")
  | _ => none

/-- `_status_from_mapping` and `_status_from_object`, which takes the value of an enumeration. -/
def agentStatus (first : List String → Value F) (enumValue : Value F → Value F) : Option String :=
  (enumValue (first ["status", "agent_status"])).strippedText.or
    (statusFromHealth (first ["is_healthy", "healthy"]))

def orCard (own : Option String) (card : Value F) (keys : List String) : Option String :=
  if card.isNone then own else own.or (firstCardValue card keys).strippedText

def orElse (own other : List String) : List String :=
  if own = [] then other else own

/-- The snapshot of an item that is no text: `first` looks a field up, `enumValue` reads the
status. -/
def agentRecord (S : Builtins F) (first : List String → Value F) (enumValue : Value F → Value F)
    (agentId : String) (modes : CardModes) (successRate : Option F) (summary : String) :
    CandidateAgentSnapshot F :=
  let card := first ["agent_card"]
  let upload := first ["supports_file_upload", "supportsFileUpload"]
  let capabilities := stringList (first ["capabilities", "skills"])
  { agentId
    name := orCard (first ["name", "agent_name"]).strippedText card ["name", "agent_name"]
    role := orCard (first ["role"]).strippedText card ["role"]
    capabilitySummary := summary
    status := agentStatus first enumValue
    source := (first ["source"]).strippedText
    capabilities :=
      if card.isNone then capabilities
      else orElse capabilities (skillList (firstCardValue card ["skills"]))
    inputModes :=
      orElse (stringList (first ["input_modes", "default_input_modes", "defaultInputModes"]))
        modes.inputModes
    outputModes :=
      orElse (stringList (first ["output_modes", "default_output_modes", "defaultOutputModes"]))
        modes.outputModes
    supportsFileUpload := if upload.isNone then modes.supportsFileUpload else truthy S upload
    successRate }

/-- The two branches of `_candidate_agent_snapshot` for such items; `summaryField` checks the
summary. -/
def agentFrom (S : Builtins F) (first : List String → Value F) (enumValue : Value F → Value F)
    (summaryField : Option String → Except Raised String) :
    Except Raised (Option (CandidateAgentSnapshot F)) :=
  match (first ["agent_id", "id"]).strippedText with
  | none => .ok none
  | some agentId => do
      let card := first ["agent_card"]
      let modes ← cardModes S card
      let successRate ← optionalFloat S (first ["success_rate"])
      let summary ← summaryField (summaryWithCard first card)
      return some (agentRecord S first enumValue agentId modes successRate summary)

/-- The field `capability_summary: str` of the model. -/
def checkedSummary : Option String → Except Raised String
  | some summary => .ok summary
  | none => .error .invalidSummary

/-- `capability_summary or ""` -/
def summaryOrEmpty (summary : Option String) : Except Raised String :=
  .ok (summary.getD "")

/-- `getattr(status, "value", status)` -/
def enumerated (status : Value F) : Value F := (status.attribute? "value").getD status

def candidateAgentSnapshot (S : Builtins F) :
    Value F → Except Raised (Option (CandidateAgentSnapshot F))
  | .str text => .ok ((strippedText text).map fun agentId => { agentId })
  | .dict entries => agentFrom S (firstMappingValue entries) id checkedSummary
  | item => agentFrom S (firstAttrValue item) enumerated summaryOrEmpty

def candidateItemId : Value F → Option String
  | .str text => strippedText text
  | .dict entries => (firstMappingValue entries ["agent_id", "id"]).strippedText
  | item => (firstAttrValue item ["agent_id", "id"]).strippedText

/-! ## The shapes of a selection -/

/-- The loop of `_candidate_items_ordered_by_ids`. -/
def orderedByIds (rawItems : List (Value F)) (seenIds : List String) :
    List (Value F) → List (Value F)
  | [] => []
  | rawId :: rawIds =>
      match rawId.strippedText with
      | none => orderedByIds rawItems seenIds rawIds
      | some agentId =>
          if agentId ∈ seenIds then orderedByIds rawItems seenIds rawIds
          else
            (rawItems.find? (candidateItemId · = some agentId)).getD (.str agentId) ::
              orderedByIds rawItems (agentId :: seenIds) rawIds

/-- `_candidate_items_from_agents_and_ids` -/
def itemsFromAgentsAndIds (rawAgents rawIds : Value F) : Option (List (Value F)) :=
  let ids := rawIds.items?
  match rawAgents.items?.getD [] with
  | [] => ids
  | items => some (if ids.getD [] = [] then items else orderedByIds items [] (ids.getD []))

def agentKeys : List String := ["agents", "candidate_agents"]

def idKeys : List String := ["agent_ids", "candidate_agent_ids"]

def scopeKeys : List String :=
  ["source", "mode", "candidate_scope_mode", "group_id", "candidate_scope_group_id", "revision",
    "snapshot_version", "candidate_scope_snapshot_version"]

/-- `any(key in value for key in keys)` -/
def hasAnyKey (entries : List (Key × Value F)) (keys : List String) : Bool :=
  keys.any fun key => (Value.lookup entries key).isSome

def keyedItem : Key × Value F → Option (Value F)
  | (.other _, _) => none
  | (.text agentId, .str name) =>
      some (.dict [(.text "agent_id", .str agentId), (.text "name", .str name)])
  | (.text agentId, .dict entries) =>
      some (.dict ((.text "agent_id", (Value.lookup entries "agent_id").getD (.str agentId)) ::
        entries.filter (·.1 ≠ .text "agent_id")))
  | (.text _, value) => some value

/-- `_raw_candidate_items_from_mapping` -/
def rawItemsFromMapping (entries : List (Key × Value F)) : List (Value F) :=
  match itemsFromAgentsAndIds (firstMappingValue entries agentKeys)
      (firstMappingValue entries idKeys) with
  | some items => items
  | none =>
      if hasAnyKey entries ["agent_id", "id"] then [.dict entries]
      else if hasAnyKey entries scopeKeys then []
      else entries.filterMap keyedItem

def looksLikeScopeObject (value : Value F) : Bool :=
  (["agents", "agent_ids", "candidate_agents", "candidate_agent_ids"] : List String).any
    fun attr => (value.attribute? attr).isSome

def rawCandidateItems : Value F → List (Value F)
  | .dict entries => rawItemsFromMapping entries
  | .list items => items
  | value =>
      if looksLikeScopeObject value then
        (itemsFromAgentsAndIds (firstAttrValue value agentKeys)
          (firstAttrValue value idKeys)).getD []
      else [value]

/-- `_candidate_agents_from_selected_set` from the ids that are already taken. -/
def agentsFrom (S : Builtins F) (seenIds : List String) :
    List (Value F) → Except Raised (List (CandidateAgentSnapshot F))
  | [] => .ok []
  | item :: items => do
      match ← candidateAgentSnapshot S item with
      | none => agentsFrom S seenIds items
      | some agent =>
          if agent.agentId ∈ seenIds then agentsFrom S seenIds items
          else return agent :: (← agentsFrom S (agent.agentId :: seenIds) items)

/-! ## The scope -/

/-- The arguments beside the selection, with the `uuid4` that is drawn. -/
structure ScopeRequest where
  conversationId : String
  source : String
  groupId : Option String := none
  selectedByUserId : Option String := none
  roomMembershipVersion : Option String := none
  groupVersion : Option String := none
  uuidHex : String := ""

def authorizationKindBySource : List (String × String) :=
  [("room_default", "room_member"), ("saved_group", "saved_group_member"),
    ("explicit_selection", "explicit_selection"), ("mention", "mention"),
    ("all_agents", "all_active_agents")]

def authorizationKind (source : String) : Except Raised String :=
  match authorizationKindBySource.lookup source with
  | some kind => .ok kind
  | none => .error .unsupportedSource

def normalizeCandidateScope (S : Builtins F) (request : ScopeRequest) (selectedAgentSet : Value F) :
    Except Raised (CandidateScopeSnapshot F) := do
  let agents ← agentsFrom S [] (rawCandidateItems selectedAgentSet)
  let kind ← authorizationKind request.source
  return {
    snapshotId := request.uuidHex
    source := request.source
    conversationId := request.conversationId
    groupId := request.groupId
    agentIds := agents.map (·.agentId)
    agents
    roomMembershipVersion := request.roomMembershipVersion
    groupVersion := request.groupVersion
    authorizationBasis := {
      kind
      conversationId := request.conversationId
      groupId := request.groupId
      selectedByUserId := request.selectedByUserId } }

end Hybro.Conversation
