import Hybro.Library.FailingSteps
import Hybro.RuntimeFiles.Configuration

/-! # The store of the two files

The calls of `RuntimeConfigStore` as programs over a directory, in which at most one file-system
step of a call fails. The directory and its files have the right kind and mode, and the lock is
free: the calls come one after the other. Environment variables, refreshed tokens, the clock and
the random token of a call are its arguments.
-/

namespace Hybro.RuntimeFiles

open FailingSteps JsonDocument

variable {F : Type}

/-! ## The directory -/

inductive FileName
  | config
  | auth
  deriving DecidableEq

/-- The contents of `config.json` and `auth.json`. -/
structure Files where
  config : Option Bytes
  auth : Option Bytes
  deriving DecidableEq

def Files.get (files : Files) : FileName → Option Bytes
  | .config => files.config
  | .auth => files.auth

def Files.set (files : Files) (data : Option Bytes) : FileName → Files
  | .config => { files with config := data }
  | .auth => { files with auth := data }

structure Directory where
  files : Files
  /-- The file that is being written. -/
  temporary : Option Bytes

inductive FileStep
  | makeDirectory
  | statDirectory
  | openLock
  | statLock
  | lock
  | closeLock
  | openFile
  | statFile
  | readFile
  | closeFile
  | createTemporary
  | openTemporary
  | writeTemporary
  | flushTemporary
  | syncTemporary
  | closeTemporary
  | rename
  | removeTemporary
  | remove
  | openDirectory
  | syncDirectory
  | closeDirectory
  deriving DecidableEq

abbrev Call (α : Type) := Steps Directory FileStep Raised α

def touch (label : FileStep) : Call Unit := Steps.step .os label id

def writing (label : FileStep) (effect : Directory → Directory) : Call Unit :=
  Steps.step .os label effect

/-- `except OSError: raise RuntimeConfigurationError(message) from None` -/
def withMessage {α : Type} (message : String) (call : Call α) : Call α :=
  call.handle fun error =>
    match error with
    | .os => Steps.raise (.configuration message)
    | error => Steps.raise error

/-! ## Locking, reading and writing -/

def openLock : Call Unit := do
  withMessage "Cannot open runtime directory lock." do
    touch .makeDirectory
    touch .statDirectory
    touch .openLock
  (touch .statLock).handle fun error => do
    touch .closeLock
    Steps.raise error

def locked {α : Type} (body : Call α) : Call α := do
  openLock
  (do touch .lock; body).lastly (touch .closeLock)

def read (name : FileName) : Call (Option Bytes) := do
  touch .openFile
  let directory ← Steps.look
  match directory.files.get name with
  | none => return none
  | some data =>
      (do touch .statFile; touch .readFile).lastly (touch .closeFile)
      if maxFileBytes < data.length then
        Steps.raise (.configuration "Runtime file exceeds the size limit.")
      else return some data

def writeTemporary (name : FileName) (data : Bytes) : Call Unit := do
  writing .createTemporary fun directory => { directory with temporary := some [] }
  (do
    touch .openTemporary
    (do
      writing .writeTemporary fun directory => { directory with temporary := some data }
      touch .flushTemporary
      touch .syncTemporary).lastly (touch .closeTemporary)
    writing .rename fun directory =>
      { files := directory.files.set directory.temporary name, temporary := none }).lastly
    (writing .removeTemporary fun directory => { directory with temporary := none })

def replace (name : FileName) : Option Bytes → Call Unit
  | none => do
      writing .remove fun directory => { directory with files := directory.files.set none name }
      syncDirectory
  | some data => do
      writeTemporary name data
      syncDirectory
where
  syncDirectory : Call Unit := do
    touch .openDirectory
    (touch .syncDirectory).lastly (touch .closeDirectory)

/-! ## Calls -/

variable (env : Surroundings F)

def unconfigured : RuntimeConfig F := {}

def missingDocument : Members F := [("version", .int 1)]

def parseOptionalConfig : Option Bytes → Except Raised (RuntimeConfig F)
  | some data => parseConfig env data
  | none => return unconfigured

def parseOptionalCredential :
    Option Bytes → Except Raised (Option (StoredCredential env.oauth))
  | some data => parseCredential env.format env.oauth data
  | none => return none

/-- `load_snapshot`, without the signature and the digest of the files. -/
def loadSnapshot : Call (RuntimeConfig F × Option (StoredCredential env.oauth)) :=
  withMessage "Cannot read runtime configuration." <| locked do
    let configData ← read .config
    let authData ← read .auth
    let config ← Steps.ofExcept (parseOptionalConfig env configData)
    let stored ← Steps.ofExcept (parseOptionalCredential env authData)
    return (config, stored)

def internalToken (secrets : Members F) (token : String) : String :=
  match OrderedMap.get secrets "default_agent_llm_token" with
  | some (.text current) => if current = "" then token else current
  | _ => token

def ensuredServices (secrets : Members F) (token : String) : Except Raised (Members F) :=
  let secrets := secrets.filter fun member => !retiredServiceKeys.contains member.1
  if (internalToken secrets token).utf8ByteSize < 32 then
    throw (.configuration "Internal credentials must be at least 32 bytes.")
  else
    return OrderedMap.put secrets "default_agent_llm_token" (.text (internalToken secrets token))

/-- `ensure_service_credentials`; `token` is `secrets.token_hex(32)`. -/
def ensureServiceCredentials (token : String) : Call (Members F) := locked do
  let data ← read .auth
  let credential ← Steps.ofExcept (parseOptionalCredential env data)
  let value ← Steps.ofExcept (authObject env.format data)
  let secrets ← Steps.ofExcept (ensuredServices (services value) token)
  let previous ← Steps.ofExcept <|
    match env.format.dumps (.object (OrderedMap.put value "services" (.object secrets))) with
    | some previous => .ok previous
    | none => .error (.valueError "Cannot serialize")
  let updated ← Steps.ofExcept (credentialBytes env.format credential (some previous))
  if data ≠ some updated then do
    replace .auth (some updated)
    return secrets
  else return secrets

/-- `json.dumps(document, indent=2, allow_nan=False) + "\n"`, encoded. -/
def encodeConfig (document : Members F) : Except Raised Bytes :=
  match env.format.dumpsIndented (.object document) with
  | some encoded => return encoded
  | none => throw (.valueError "Cannot serialize")

def documentOf : Option Bytes → Except Raised (Members F)
  | some data => jsonObject env.format data
  | none => return missingDocument

/-- The text that `update_config` writes. -/
def updatedConfig (previous : Option Bytes) (path : List String) (value : Json F)
    (validate : RuntimeConfig F → Except Raised Unit) : Except Raised Bytes := do
  let document ← documentOf env previous
  checkPath path
  match setPath document path value with
  | none => throw (.configuration "Configuration path must refer to an object.")
  | some document =>
      let encoded ← encodeConfig env (withoutRetired document)
      let candidate ← parseConfig env encoded
      validate candidate
      return encoded
where
  checkPath : List String → Except Raised Unit
    | ["backend", name] =>
        if removedFields.contains name then
          throw (.configuration s!"backend.{name} was removed and is no longer a setting.")
        else return
    | _ => return

def updateConfig (path : List String) (value : Json F)
    (validate : RuntimeConfig F → Except Raised Unit) : Call Unit :=
  if path.head?.any fun part => ["backend", "frontend", "image_size"].contains part then locked do
    let previous ← read .config
    let encoded ← Steps.ofExcept (updatedConfig env previous path value validate)
    replace .config (some encoded)
  else
    Steps.raise (.configuration "Change the Provider and models in Settings, Model provider.")

abbrev SettingsEdits (F : Type) := List ((String × String) × Json F)

/-- `str(error)` of a configuration error. -/
def Raised.message : Raised → String
  | .configuration message => message
  | _ => ""

/-- The text that an edited document is written as, if it is not the one of the file. -/
def encodeEdited (previous : RuntimeConfig F) (original document : Members F) :
    Except Raised (RuntimeConfig F × Option Bytes) :=
  if Json.equal env.numbers (.object document) (.object original) then return (previous, none)
  else do
    let encoded ← encodeConfig env document
    match parseConfig env encoded with
    | .error error => throw (.settingsCandidateInvalid error.message)
    | .ok current => return (current, some encoded)

/-- What `update_settings` makes of the file: the previous document, the resulting one, and the
text if one is written. -/
def editedSettings (data : Option Bytes) (edits : SettingsEdits F) (expectedRevision : String)
    (validate : Members F → Except Raised (Members F)) :
    Except Raised (RuntimeConfig F × RuntimeConfig F × Option Bytes) :=
  match parseOptionalConfig env data with
  | .error error => throw (.settingsFileInvalid error.message)
  | .ok previous =>
      if previous.settingsRevision env ≠ expectedRevision then
        throw (.settingsRevisionConflict
          "config.json changed since it was read; reload and retry.")
      else do
        let original ← documentOf env data
        let candidate ← withSettingsEdits original edits
        let document ← validate candidate
        let (current, encoded) ← encodeEdited env previous original document
        return (previous, current, encoded)

def updateSettings (edits : SettingsEdits F) (expectedRevision : String)
    (validate : Members F → Except Raised (Members F)) :
    Call (RuntimeConfig F × RuntimeConfig F) :=
  if edits.any fun edit => !(["backend", "frontend"].contains edit.1.1) then
    Steps.raise (.valueError "Settings edits apply only to backend and frontend.")
  else locked do
    let data ← read .config
    let (previous, current, encoded) ←
      Steps.ofExcept (editedSettings env data edits expectedRevision validate)
    match encoded with
    | some encoded => do
        replace .config (some encoded)
        return (previous, current)
    | none => return (previous, current)

/-- The part of `resolve_oauth` that reads both files. -/
def oauthSnapshot (expected : RuntimeConfig F) (account : String)
    (environment : String → Option String) :
    Call (Option Bytes × Option Bytes × OAuthCredential env.oauth) := do
  let configData ← read .config
  let authData ← read .auth
  let credential ← Steps.ofExcept (selectedOAuth configData authData)
  return (configData, authData, credential)
where
  selectedOAuth (configData authData : Option Bytes) :
      Except Raised (OAuthCredential env.oauth) :=
    match configData, authData with
    | some configData, some authData => do
        let config ← parseConfig env configData
        let stored ← parseCredential env.format env.oauth authData
        let resolved ← resolveCredential config stored environment
        match resolved with
        | some ⟨_, .oauth credential⟩ =>
            if (config.provider, config.models) = (expected.provider, expected.models) ∧
                credential.accountId = account then return credential
            else throw (.configuration
              "OAuth selection/account changed; retry with the saved setup.")
        | _ => throw (.configuration
            "OAuth selection/account changed; retry with the saved setup.")
    | _, _ => throw (.configuration "OAuth configuration missing; rerun setup.")

/-- `resolve_oauth`. `fresh` tells a credential that does not expire within five minutes, `expired`
one that has expired; `refresh` is what the provider answers. -/
def resolveOAuth (expected : RuntimeConfig F) (account : String)
    (environment : String → Option String)
    (refresh : OAuthCredential env.oauth → Except Raised (OAuthCredential env.oauth))
    (fresh expired : OAuthCredential env.oauth → Bool) : Call (OAuthCredential env.oauth) :=
  withMessage "OAuth refresh/store unavailable; retry setup or restart backend." <| locked do
    let (configData, authData, credential) ← oauthSnapshot env expected account environment
    if fresh credential then return credential
    else do
      let updated ← Steps.ofExcept (refreshed credential)
      let (currentConfig, currentAuth, _) ← oauthSnapshot env expected account environment
      if (currentConfig, currentAuth) ≠ (configData, authData) then
        Steps.raise (.configuration "OAuth state changed during refresh; rerun setup.")
      else do
        let data ← Steps.ofExcept
          (credentialBytes env.format (some (.oauth updated)) currentAuth)
        replace .auth (some data)
        return updated
where
  refreshed (credential : OAuthCredential env.oauth) :
      Except Raised (OAuthCredential env.oauth) := do
    let updated ← refresh credential
    if updated.accountId ≠ account ∨ expired updated then
      throw (.configuration "Invalid refreshed OAuth identity or expiry.")
    else return updated

/-- The sections that `save` takes over from the file. -/
def withPreviousSections (config : RuntimeConfig F) : Option (RuntimeConfig F) → RuntimeConfig F
  | some previous =>
      { config with
        backend := previous.backend, frontend := previous.frontend
        imageSize := previous.imageSize }
  | none => config

def setsBaseUrl (config : RuntimeConfig F) (environment : String → Option String) : Bool :=
  (config.provider.any fun provider =>
    decide (provider.id = .openai ∧ provider.auth = .apiKey)) &&
      (environment "OPENAI_BASE_URL").getD "" ≠ ""

def withBaseUrl (config : RuntimeConfig F) (environment : String → Option String) :
    RuntimeConfig F :=
  if setsBaseUrl config environment then
    { config with
      backend := OrderedMap.put config.backend "openai_base_url"
        (.text ((environment "OPENAI_BASE_URL").getD "")) }
  else config

def unchanged (config : RuntimeConfig F) (credential : StoredCredential env.oauth)
    (oldConfig oldAuth : Option Bytes) [DecidableEq F] : Bool :=
  match oldConfig with
  | none => false
  | some oldConfig =>
      match parseConfig env oldConfig, parseOptionalCredential env oldAuth with
      | .ok previous, .ok stored =>
          config.equal env previous && decide (stored = some credential)
      | _, _ => false

def savePair (config auth : Bytes) (oldConfig oldAuth : Option Bytes) : Call Unit :=
  (do
    replace .auth (some auth)
    replace .config (some config)).handle fun error =>
      match error with
      | .os => do
          withMessage "Configuration write and rollback failed; rerun setup before start." do
            replace .auth oldAuth
            replace .config oldConfig
          Steps.raise (.configuration "Configuration write failed; previous files restored.")
      | error => Steps.raise error

/-- `expected_stored` that was given is still stored. -/
def checkExpected (expectedStored : Option (Option (StoredCredential env.oauth)))
    (oldAuth : Option Bytes) [DecidableEq F] : Except Raised Unit :=
  match expectedStored with
  | none => return
  | some expected => do
      let current ← parseOptionalCredential env oldAuth
      if current = expected then return
      else throw (.configuration "Stored credential changed during setup; rerun setup.")

/-- What `save` makes of the old file: the document, and its text when it is valid. -/
def savedConfig (config : RuntimeConfig F) (environment : String → Option String)
    (oldConfig : Option Bytes) : Except Raised (RuntimeConfig F × Bytes) := do
  let previous ← oldConfig.mapM (parseConfig env)
  let config := withBaseUrl (withPreviousSections config previous) environment
  let data ← encodeConfig env config.members
  let _ ← parseConfig env data
  return (config, data)

/-- `save`. `expectedStored` is `none` for `_ExpectedStored.UNSET`. -/
def save (config : RuntimeConfig F) (credential : Option (StoredCredential env.oauth))
    (environment : String → Option String)
    (expectedStored : Option (Option (StoredCredential env.oauth))) [DecidableEq F] : Call Bool := do
  let resolved ← Steps.ofExcept (selected)
  withMessage "Cannot write runtime configuration." <| locked do
    let oldConfig ← read .config
    let oldAuth ← read .auth
    let _ ← Steps.ofExcept (checkExpected env expectedStored oldAuth)
    let (config, configData) ← Steps.ofExcept (savedConfig env config environment oldConfig)
    let authData ← Steps.ofExcept (credentialBytes env.format (some resolved) oldAuth)
    if unchanged env config resolved oldConfig oldAuth then return false
    else do
      savePair configData authData oldConfig oldAuth
      return true
where
  selected : Except Raised (StoredCredential env.oauth) := do
    match ← resolveCredential config credential environment with
    | some resolved => return resolved.credential
    | none => throw (.configuration "Select a Provider and models to save.")

end Hybro.RuntimeFiles
