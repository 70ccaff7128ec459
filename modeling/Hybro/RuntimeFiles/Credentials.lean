import Hybro.Library.ExceptBind
import Hybro.Library.JsonDocument
import Hybro.Library.PythonText

/-! # The credential file

What `auth.json` may hold: one provider credential and the secrets of services. `json` is a
parameter with the rule that what it writes it reads back, and so is what the claims of an OAuth
token say. Texts are Unicode strings, floats any type of finite numbers.
-/

namespace Hybro.RuntimeFiles

open JsonDocument

abbrev Bytes := List UInt8

variable {F : Type}

/-- `json.loads` with finite numbers only, with the members of an object in their order, and
`json.dumps` in the three layouts that are written. -/
structure JsonFormat (F : Type) where
  loads : Bytes → Option (Json F)
  dumps : Json F → Option Bytes
  /-- With `indent=2` and a line end. -/
  dumpsIndented : Json F → Option Bytes
  /-- With `sort_keys=True` and a line end. -/
  dumpsSorted : Json F → Option Bytes
  loads_dumps : ∀ {value data}, dumps value = some data → loads data = some value
  loads_dumpsIndented : ∀ {value data}, dumpsIndented value = some data → loads data = some value
  loads_dumpsSorted : ∀ {value data}, dumpsSorted value = some data →
    loads data = some value.sortKeys

inductive Raised
  | os
  | valueError (message : String)
  | configuration (message : String)
  | settingsFileInvalid (message : String)
  | settingsRevisionConflict (message : String)
  | settingsCandidateInvalid (message : String)
  | other (message : String)
  deriving DecidableEq

variable (format : JsonFormat F)

def maxFileBytes : Nat := 64 * 1024

/-- `_json_object` with the hook `_unique_json_pairs`. -/
def jsonObject (data : Bytes) : Except Raised (Members F) :=
  if maxFileBytes < data.length then throw (.valueError "File too large")
  else
    match format.loads data with
    | none => throw (.valueError "Invalid JSON")
    | some value =>
        if !value.uniqueKeys then throw (.valueError "Duplicate JSON key")
        else
          match value with
          | .object members => return members
          | _ => throw (.valueError "Expected a JSON object")

/-! ## Credentials -/

inductive ProviderId
  | openai
  | deepseek
  | anthropic
  deriving DecidableEq

def ProviderId.value : ProviderId → String
  | .openai => "openai"
  | .deepseek => "deepseek"
  | .anthropic => "anthropic"

def ProviderId.ofText : String → Option ProviderId
  | "openai" => some .openai
  | "deepseek" => some .deepseek
  | "anthropic" => some .anthropic
  | _ => none

inductive AuthMethod
  | apiKey
  | oauth
  deriving DecidableEq

def AuthMethod.value : AuthMethod → String
  | .apiKey => "api_key"
  | .oauth => "oauth"

structure ApiKeyCredential where
  provider : ProviderId
  apiKey : String
  notBlank : PythonText.isBlank apiKey = false
  deriving DecidableEq

structure OAuthRules (F : Type) where
  /-- `account_id`, if the token has the claim. -/
  accountId : String → Option String
  positive : F → Bool
  /-- The float of an integer, unless it is out of range. -/
  ofInt : Int → Option F

variable {rules : OAuthRules F}

/-- A letter, a digit, `_` or `-`. -/
def isAccountChar (c : Char) : Bool :=
  c.isAlphanum || c == '_' || c == '-'

/-- The checks of the fields of an `OAuthCredential`. -/
def oauthValid (rules : OAuthRules F) (accessToken refreshToken : String) (expiresAt : F)
    (accountId : String) : Bool :=
  !PythonText.isBlank accessToken && !PythonText.isBlank refreshToken &&
    rules.positive expiresAt && accountId != "" && accountId.length ≤ 256 &&
    accountId.toList.all isAccountChar && rules.accountId accessToken == some accountId

structure OAuthCredential (rules : OAuthRules F) where
  accessToken : String
  refreshToken : String
  expiresAt : F
  accountId : String
  valid : oauthValid rules accessToken refreshToken expiresAt accountId = true
  deriving DecidableEq

inductive StoredCredential (rules : OAuthRules F)
  | apiKey (credential : ApiKeyCredential)
  | oauth (credential : OAuthCredential rules)
  deriving DecidableEq

def StoredCredential.provider : StoredCredential rules → ProviderId
  | .apiKey credential => credential.provider
  | .oauth _ => .openai

def StoredCredential.auth : StoredCredential rules → AuthMethod
  | .apiKey _ => .apiKey
  | .oauth _ => .oauth

def StoredCredential.members : StoredCredential rules → Members F
  | .apiKey credential =>
      [("provider", .text credential.provider.value), ("auth", .text "api_key"),
        ("api_key", .text credential.apiKey)]
  | .oauth credential =>
      [("provider", .text "openai"), ("auth", .text "oauth"),
        ("access_token", .text credential.accessToken),
        ("refresh_token", .text credential.refreshToken),
        ("expires_at", .float credential.expiresAt), ("account_id", .text credential.accountId)]

def apiKeyFields : List String := ["provider", "auth", "api_key"]

def oauthFields : List String :=
  ["provider", "auth", "access_token", "refresh_token", "expires_at", "account_id"]

def apiKeyCredential (members : Members F) : Option ApiKeyCredential :=
  match OrderedMap.get members "provider", OrderedMap.get members "api_key" with
  | some (.text provider), some (.text apiKey) =>
      match ProviderId.ofText provider with
      | some provider =>
          if h : PythonText.isBlank apiKey = false then some ⟨provider, apiKey, h⟩ else none
      | none => none
  | _, _ => none

def strictFloat (rules : OAuthRules F) : Option (Json F) → Option F
  | some (.float value) => some value
  | some (.int value) => rules.ofInt value
  | _ => none

/-- `provider` may be left out. -/
def isOpenai : Option (Json F) → Bool
  | none => true
  | some (.text provider) => provider = "openai"
  | _ => false

def oauthCredential (rules : OAuthRules F) (members : Members F) :
    Option (OAuthCredential rules) :=
  match OrderedMap.get members "access_token", OrderedMap.get members "refresh_token",
    strictFloat rules (OrderedMap.get members "expires_at"),
    OrderedMap.get members "account_id" with
  | some (.text accessToken), some (.text refreshToken), some expiresAt, some (.text accountId) =>
      if h : oauthValid rules accessToken refreshToken expiresAt accountId = true then
        some ⟨accessToken, refreshToken, expiresAt, accountId, h⟩
      else none
  | _, _, _, _ => none

/-- `CREDENTIAL_ADAPTER.validate_python` -/
def storedCredential (rules : OAuthRules F) (members : Members F) :
    Option (StoredCredential rules) :=
  match OrderedMap.get members "auth" with
  | some (.text auth) =>
      if auth = "api_key" then
        if members.all fun member => apiKeyFields.contains member.1 then
          (apiKeyCredential members).map .apiKey
        else none
      else if auth = "oauth" then
        if (members.all fun member => oauthFields.contains member.1) &&
            isOpenai (OrderedMap.get members "provider") then
          (oauthCredential rules members).map .oauth
        else none
      else none
  | _ => none

/-! ## Services -/

def serviceKeys : List String :=
  ["clerk_secret_key", "clerk_webhook_secret", "mongodb_url", "redis_url",
    "default_agent_llm_token"]

def retiredServiceKeys : List String :=
  ["mongodb_password", "webhook_signing_key", "default_agent_registrar_token"]

def isServiceSecret (member : String × Json F) : Bool :=
  (serviceKeys.contains member.1 || retiredServiceKeys.contains member.1) &&
    match member.2 with
    | .text _ => true
    | _ => false

/-- `_json_object(data) if data is not None else {}` -/
def optionalObject : Option Bytes → Except Raised (Members F)
  | some data => jsonObject format data
  | none => return []

def authObject (data : Option Bytes) : Except Raised (Members F) := do
  let value ← optionalObject format data
  match OrderedMap.get value "services" with
  | none => return value
  | some (.object services) =>
      if services.all isServiceSecret then return value
      else throw (.configuration "Invalid auth.json service credentials.")
  | some _ => throw (.configuration "Invalid auth.json service credentials.")

/-- `value.get("services", {})` -/
def services (value : Members F) : Members F :=
  match OrderedMap.get value "services" with
  | some (.object services) => services
  | _ => []

def parseCredential (rules : OAuthRules F) (data : Bytes) :
    Except Raised (Option (StoredCredential rules)) :=
  match authObject format (some data) with
  | .error _ => throw (.configuration "Invalid auth.json; rerun setup.")
  | .ok value =>
      let value := OrderedMap.erase value "services"
      if value.isEmpty then return none
      else
        match storedCredential rules value with
        | some credential => return some credential
        | none => throw (.configuration "Invalid auth.json; rerun setup.")

def authDocument (credential : Option (StoredCredential rules)) (services : Members F) :
    Members F :=
  (credential.map StoredCredential.members).getD [] ++
    if services.isEmpty then [] else [("services", .object services)]

def credentialBytes (credential : Option (StoredCredential rules)) (previous : Option Bytes) :
    Except Raised Bytes := do
  let value ← authObject format previous
  match format.dumpsSorted (.object (authDocument credential (services value))) with
  | none => throw (.valueError "Cannot serialize")
  | some encoded =>
      if maxFileBytes < encoded.length then
        throw (.configuration "Credential exceeds the file size limit.")
      else return encoded

end Hybro.RuntimeFiles
