import Hybro.RuntimeFiles.Credentials

/-! # The configuration file

What `config.json` may hold, how a document is read and dumped, and how settings are edited in it.
The rules for the values of the two sections are parameters, and so are the comparison of floats
and the digest of the settings.
-/

namespace Hybro.RuntimeFiles

open JsonDocument

variable {F : Type}

/-! ## Retired settings -/

def removedFields : List String := [
  "mongodb_host", "mongodb_port", "bundled_agents_use_service_hosts", "mongodb_username",
  "orchestration_outcome_guardrails", "supervisor_max_steps", "parse_confidence_threshold",
  "cloud_health_cache_ttl", "max_tasks_per_user", "max_tasks_per_room",
  "run_watchdog_stale_minutes", "processing_status_expiry_minutes",
  "a2a_inline_file_max_raw_bytes", "a2a_inline_message_max_encoded_bytes",
  "cancellation_ttl_seconds", "cancellation_cache_maxsize", "redis_cancel_channel",
  "redis_cancel_key_prefix", "cs_backoff_base", "cs_backoff_max", "cs_backoff_factor",
  "cs_jitter_fraction", "orphan_threshold_minutes", "stale_check_minutes",
  "task_expiry_hours", "pending_task_warning_hours", "webhook_base_url",
  "webhook_signing_key", "feature_run_event_sse", "context_model_window",
  "context_system_prompt_tokens", "context_tool_schema_tokens",
  "context_response_reserve_tokens", "context_room_pct", "context_history_pct",
  "context_task_pct", "memory_search_enabled", "memory_search_temporal_decay_enabled",
  "memory_search_half_life_days", "memory_search_max_results",
  "memory_search_max_candidates", "memory_search_max_snippet_chars"]

/-- `strip_removed_fields`, the values. -/
def stripRemovedFields (values : Members F) : Members F :=
  values.filter fun member => !removedFields.contains member.1

/-- `strip_removed_fields`, the keys. -/
def removedOf (values : Members F) : List String :=
  removedFields.filter fun field => (values.map (·.1)).contains field

/-! ## Documents -/

structure RuntimeProvider where
  id : ProviderId
  auth : AuthMethod
  valid : auth = .oauth → id = .openai
  deriving DecidableEq

structure RuntimeModels where
  text : String
  image : Option String
  deriving DecidableEq

inductive ImageSize
  | square
  | landscape
  | portrait
  | auto
  deriving DecidableEq

def ImageSize.value : ImageSize → String
  | .square => "1024x1024"
  | .landscape => "1536x1024"
  | .portrait => "1024x1536"
  | .auto => "auto"

def ImageSize.ofText : String → Option ImageSize
  | "1024x1024" => some .square
  | "1536x1024" => some .landscape
  | "1024x1536" => some .portrait
  | "auto" => some .auto
  | _ => none

/-- `RuntimeConfig`, with what was dropped while it was read. -/
structure RuntimeConfig (F : Type) where
  provider : Option RuntimeProvider := none
  models : Option RuntimeModels := none
  backend : Members F := []
  frontend : Members F := []
  imageSize : ImageSize := .square
  removedBackendFields : List String := []
  hadInstances : Bool := false
  together : provider.isSome = models.isSome := by rfl

/-- What the documents are read and compared with. -/
structure Surroundings (F : Type) where
  format : JsonFormat F
  numbers : Json.Numbers F
  oauth : OAuthRules F
  /-- `validate_backend` accepts the values. -/
  validBackend : Members F → Bool
  /-- `FrontendSettings.model_validate` accepts the values. -/
  validFrontend : Members F → Bool
  /-- The digest of the two sections and the image size. -/
  settingsRevision : Members F → Members F → ImageSize → String

variable (env : Surroundings F)

/-- A `White_Space` character. -/
def isWhiteSpace (c : Char) : Bool :=
  PythonText.isSpace c && !(0x1c ≤ c.val && c.val ≤ 0x1f)

def modelId (text : String) : Option String :=
  let stripped := ((text.toList.dropWhile isWhiteSpace).reverse.dropWhile isWhiteSpace).reverse
  if 1 ≤ stripped.length ∧ stripped.length ≤ 200 then some (String.ofList stripped) else none

def hasOnly (fields : List String) (members : Members F) : Bool :=
  members.all fun member => fields.contains member.1

def authOf : String → Option AuthMethod
  | "api_key" => some .apiKey
  | "oauth" => some .oauth
  | _ => none

/-- The field `provider`. -/
def providerOf : Option (Json F) → Option (Option RuntimeProvider)
  | none | some .null => some none
  | some (.object members) =>
      match hasOnly ["id", "auth"] members, OrderedMap.get members "id",
        OrderedMap.get members "auth" with
      | true, some (.text id), some (.text auth) =>
          match ProviderId.ofText id, authOf auth with
          | some id, some auth =>
              if h : auth = .oauth → id = .openai then some (some ⟨id, auth, h⟩) else none
          | _, _ => none
      | _, _, _ => none
  | _ => none

/-- The field `image` of the models. -/
def imageModelOf : Option (Json F) → Option (Option String)
  | none | some .null => some none
  | some (.text image) => (modelId image).map some
  | _ => none

/-- The field `models`. -/
def modelsOf : Option (Json F) → Option (Option RuntimeModels)
  | none | some .null => some none
  | some (.object members) =>
      match hasOnly ["text", "image"] members, OrderedMap.get members "text" with
      | true, some (.text text) => do
          let text ← modelId text
          let image ← imageModelOf (OrderedMap.get members "image")
          return some { text, image }
      | _, _ => none
  | _ => none

def sectionOf : Option (Json F) → Option (Members F)
  | none => some []
  | some (.object members) => some members
  | _ => none

/-- `validate_backend_settings` -/
def backendOf (value : Option (Json F)) : Option (Members F) := do
  let values ← sectionOf value
  if env.validBackend (stripRemovedFields values) then return stripRemovedFields values else none

/-- `validate_frontend_settings` -/
def frontendOf (value : Option (Json F)) : Option (Members F) := do
  let values ← sectionOf value
  if !(values.map (·.1)).contains "mcp_url" && env.validFrontend values then return values else none

def imageSizeOf : Option (Json F) → Option ImageSize
  | none => some .square
  | some (.text size) => ImageSize.ofText size
  | _ => none

/-- `validate_version` and the literal 1. -/
def isSchemaVersion : Option (Json F) → Bool
  | none => true
  | some (.int version) => version = 1
  | _ => false

/-- `validate_api_prefixes` -/
def samePrefix (backend frontend : Members F) : Bool :=
  match OrderedMap.get frontend "api_prefix" with
  | none => true
  | some prefixed =>
      Json.equal env.numbers prefixed
        ((OrderedMap.get backend "api_prefix").getD (.text "/api/v1"))

def configFields : List String :=
  ["version", "provider", "models", "backend", "frontend", "image_size"]

/-- The keys of the retired settings in the section. -/
def removedIn : Option (Json F) → List String
  | some (.object members) => removedOf members
  | _ => []

def modelValidate (members : Members F) : Option (RuntimeConfig F) := do
  let fields := OrderedMap.erase members "instances"
  let provider ← providerOf (OrderedMap.get fields "provider")
  let models ← modelsOf (OrderedMap.get fields "models")
  let backend ← backendOf env (OrderedMap.get fields "backend")
  let frontend ← frontendOf env (OrderedMap.get fields "frontend")
  let imageSize ← imageSizeOf (OrderedMap.get fields "image_size")
  if h : provider.isSome = models.isSome then
    if hasOnly configFields fields && isSchemaVersion (OrderedMap.get fields "version") &&
        samePrefix env backend frontend then
      return {
        provider, models, backend, frontend, imageSize
        removedBackendFields := removedIn (OrderedMap.get fields "backend")
        hadInstances := (members.map (·.1)).contains "instances"
        together := h }
    else none
  else none

/-- `parse_config`; which fields a validation error names is left out. -/
def parseConfig (data : Bytes) : Except Raised (RuntimeConfig F) :=
  match jsonObject env.format data with
  | .error _ =>
      throw (.configuration
        "Invalid config.json; expected bounded JSON with unique keys and finite values.")
  | .ok members =>
      match modelValidate env members with
      | some config => return config
      | none => throw (.configuration "Invalid config.json: ")

/-- `model_dump(exclude_none=True)` -/
def RuntimeConfig.members (config : RuntimeConfig F) : Members F :=
  [("version", .int 1)] ++
    (match config.provider with
      | some provider =>
          [("provider", .object [("id", .text provider.id.value),
            ("auth", .text provider.auth.value)])]
      | none => []) ++
    (match config.models with
      | some models =>
          [("models", .object ([("text", .text models.text)] ++
            match models.image with
            | some image => [("image", .text image)]
            | none => []))]
      | none => []) ++
    [("backend", .object config.backend), ("frontend", .object config.frontend),
      ("image_size", .text config.imageSize.value)]

def RuntimeConfig.settingsRevision (config : RuntimeConfig F) : String :=
  env.settingsRevision config.backend config.frontend config.imageSize

/-- `==` of two documents, with what was dropped. -/
def RuntimeConfig.equal (first second : RuntimeConfig F) : Bool :=
  first.provider = second.provider && first.models = second.models &&
    Json.equal env.numbers (.object first.backend) (.object second.backend) &&
    Json.equal env.numbers (.object first.frontend) (.object second.frontend) &&
    first.imageSize = second.imageSize &&
    first.removedBackendFields = second.removedBackendFields &&
    first.hadInstances = second.hadInstances

/-! ## Resolving -/

variable {rules : OAuthRules F}

structure ResolvedCredential (rules : OAuthRules F) where
  fromEnvironment : Bool
  credential : StoredCredential rules

def environmentKey : ProviderId → String
  | .openai => "OPENAI_API_KEY"
  | .deepseek => "DEEPSEEK_API_KEY"
  | .anthropic => "ANTHROPIC_API_KEY"

def resolveCredential (config : RuntimeConfig F) (stored : Option (StoredCredential rules))
    (environment : String → Option String) :
    Except Raised (Option (ResolvedCredential rules)) :=
  match config.provider with
  | none => return none
  | some provider =>
      if (stored.any fun stored =>
          !decide (stored.provider = provider.id ∧ stored.auth = provider.auth)) then
        throw (.configuration "Configuration and stored credential identity differ; rerun setup.")
      else if provider.auth = .oauth then
        match stored with
        | some (.oauth credential) => return some ⟨false, .oauth credential⟩
        | _ => throw (.configuration "OAuth credential missing; rerun setup.")
      else
        let key := (environment (environmentKey provider.id)).getD ""
        if h : PythonText.isBlank key = false then
          if stored.isSome then
            throw (.configuration
              "Both environment and stored credentials are configured; remove one.")
          else return some ⟨true, .apiKey ⟨provider.id, key, h⟩⟩
        else
          match stored with
          | some (.apiKey credential) => return some ⟨false, .apiKey credential⟩
          | _ => throw (.configuration "Provider API key missing; run setup.")

/-! ## Edits -/

def withoutRetired (document : Members F) : Members F :=
  let document := OrderedMap.erase document "instances"
  match OrderedMap.get document "backend" with
  | some (.object backend) =>
      OrderedMap.put document "backend" (.object (stripRemovedFields backend))
  | _ => document

/-- One edit of `_with_settings_edits`; `null` removes the key. A section that is no object raises. -/
def applyEdit (document : Members F) (edit : (String × String) × Json F) : Option (Members F) :=
  let ((settings, name), value) := edit
  match value, OrderedMap.get document settings with
  | .null, some (.object target) =>
      some (OrderedMap.put document settings (.object (OrderedMap.erase target name)))
  | .null, _ => some document
  | value, none | value, some .null =>
      some (OrderedMap.put document settings (.object [(name, value)]))
  | value, some (.object target) =>
      some (OrderedMap.put document settings (.object (OrderedMap.put target name value)))
  | _, some _ => none

def withSettingsEdits (original : Members F) (edits : List ((String × String) × Json F)) :
    Except Raised (Members F) :=
  match edits.foldlM applyEdit original with
  | some document => return withoutRetired document
  | none => throw (.other "TypeError")

def setPath (document : Members F) : List String → Json F → Option (Members F)
  | [], _ => none
  | [last], value => some (OrderedMap.put document last value)
  | part :: next :: rest, value =>
      match OrderedMap.get document part with
      | none =>
          (setPath [] (next :: rest) value).map fun child =>
            OrderedMap.put document part (.object child)
      | some (.object child) =>
          (setPath child (next :: rest) value).map fun child =>
            OrderedMap.put document part (.object child)
      | some _ => none

end Hybro.RuntimeFiles
