import Hybro.RuntimeFiles.CallRules
import Hybro.RuntimeFiles.DocumentRules
import Hybro.RuntimeFiles.TextFormat

/-! # What every sequence of calls keeps

Each call that returns changes only its own part of the two files, each call that raises keeps
both, unless a step has failed that it cannot take back, and the pair can be loaded after every
call.
-/

namespace Hybro.RuntimeFiles

open FailingSteps JsonDocument

variable {F : Type} {env : Surroundings F}

/-! ## Calls -/

inductive Command (env : Surroundings F)
  | save (config : RuntimeConfig F) (credential : Option (StoredCredential env.oauth))
      (environment : String → Option String)
      (expectedStored : Option (Option (StoredCredential env.oauth)))
  | updateConfig (path : List String) (value : Json F)
      (validate : RuntimeConfig F → Except Raised Unit)
  | updateSettings (edits : SettingsEdits F) (expectedRevision : String)
      (validator : SettingsValidator edits)
  | resolveOAuth (expected : RuntimeConfig F) (account : String)
      (environment : String → Option String)
      (refresh : OAuthCredential env.oauth → Except Raised (OAuthCredential env.oauth))
      (fresh expired : OAuthCredential env.oauth → Bool)
  | ensureServiceCredentials (token : String)

def Command.call [DecidableEq F] : Command env → Call Unit
  | .save config credential environment expectedStored => do
      let _ ← RuntimeFiles.save env config credential environment expectedStored
      return
  | .updateConfig path value validate => RuntimeFiles.updateConfig env path value validate
  | .updateSettings edits expectedRevision validator => do
      let _ ← RuntimeFiles.updateSettings env edits expectedRevision validator.run
      return
  | .resolveOAuth expected account environment refresh fresh expired => do
      let _ ← RuntimeFiles.resolveOAuth env expected account environment refresh fresh expired
      return
  | .ensureServiceCredentials token => do
      let _ ← RuntimeFiles.ensureServiceCredentials env token
      return

def Command.late : Command env → FileStep → Bool
  | .save .. => lateInSave
  | _ => lateInReplace

/-! ## Parts -/

def ConfigRelated (env : Surroundings F) (R : Members F → Members F → Prop)
    (before after : Option Bytes) : Prop :=
  ∃ old new, documentOf env before = .ok old ∧ documentOf env after = .ok new ∧ R old new

def ServicesKept (env : Surroundings F) (kept : String → Prop) (before after : Option Bytes) :
    Prop :=
  ∃ old new, authObject env.format before = .ok old ∧ authObject env.format after = .ok new ∧
    ∀ key, kept key → OrderedMap.get (services new) key = OrderedMap.get (services old) key

def Command.Keeps : Command env → Files → Files → Prop
  | .save config _ environment _, before, after =>
      ServicesKept env (fun _ => True) before.auth after.auth ∧
        (before.config = none ∨
          ConfigRelated env (SaveKept (setsBaseUrl config environment)) before.config after.config)
  | .updateConfig path _ _, before, after =>
      after.auth = before.auth ∧
        ConfigRelated env (SettingsKept (pathKey path) (pathSettings path)) before.config
          after.config
  | .updateSettings edits _ _, before, after =>
      after.auth = before.auth ∧
        ConfigRelated env (SettingsKept (fun _ => False) (namedIn edits)) before.config
          after.config
  | .resolveOAuth .., before, after =>
      after.config = before.config ∧ ServicesKept env (fun _ => True) before.auth after.auth
  | .ensureServiceCredentials _, before, after =>
      after.config = before.config ∧
        parseOptionalCredential env after.auth = parseOptionalCredential env before.auth ∧
        ServicesKept env
          (fun key => key ∉ retiredServiceKeys ∧ key ≠ "default_agent_llm_token")
          before.auth after.auth

/-! ## Valid files -/

theorem ValidFiles.document {files : Files} (h : ValidFiles env files) :
    ∃ document, documentOf env files.config = .ok document := by
  obtain ⟨⟨config, hconfig⟩, -⟩ := h
  cases hfile : files.config with
  | none => exact ⟨missingDocument, rfl⟩
  | some data =>
      rw [hfile] at hconfig
      obtain ⟨document, hdocument, -⟩ := parseConfig_ok.mp hconfig
      exact ⟨document, hdocument⟩

theorem ValidFiles.authObject {files : Files} (h : ValidFiles env files) :
    ∃ value, RuntimeFiles.authObject env.format files.auth = .ok value := by
  obtain ⟨-, credential, hcredential⟩ := h
  cases hfile : files.auth with
  | none => exact ⟨[], rfl⟩
  | some data =>
      rw [hfile] at hcredential
      change parseCredential env.format env.oauth data = .ok credential at hcredential
      unfold parseCredential at hcredential
      split at hcredential
      next => cases hcredential
      next value hvalue => exact ⟨value, hvalue⟩

theorem ValidFiles.withConfig {files : Files} (h : ValidFiles env files) {data : Bytes}
    (hdata : ∃ config, parseConfig env data = .ok config) :
    ValidFiles env (files.set (some data) .config) := ⟨hdata, h.auth⟩

theorem ValidFiles.withAuth {files : Files} (h : ValidFiles env files) {data : Bytes}
    {credential : Option (StoredCredential env.oauth)} {previous : Option Bytes}
    (hdata : credentialBytes env.format credential previous = .ok data) :
    ValidFiles env (files.set (some data) .auth) :=
  ⟨h.config, credential, parseCredential_written hdata⟩

theorem ServicesKept.refl {files : Files} (h : ValidFiles env files) (kept : String → Prop) :
    ServicesKept env kept files.auth files.auth := by
  obtain ⟨value, hvalue⟩ := h.authObject
  exact ⟨value, value, hvalue, hvalue, fun _ _ => rfl⟩

theorem servicesKept_written {credential : Option (StoredCredential env.oauth)}
    {previous : Option Bytes} {data : Bytes}
    (h : credentialBytes env.format credential previous = .ok data) :
    ServicesKept env (fun _ => True) previous (some data) := by
  obtain ⟨old, new, hold, hnew, hget⟩ := services_written h
  exact ⟨old, new, hold, hnew, fun key _ => hget key⟩

theorem configRelated_refl {files : Files} (h : ValidFiles env files)
    {R : Members F → Members F → Prop} (hR : ∀ document, R document document) :
    ConfigRelated env R files.config files.config := by
  obtain ⟨document, hdocument⟩ := h.document
  exact ⟨document, document, hdocument, hdocument, hR document⟩

theorem SaveKept.refl (baseUrlSet : Bool) (document : Members F) :
    SaveKept baseUrlSet document document :=
  ⟨fun _ _ _ => rfl, fun _ => rfl, rfl⟩

theorem EditWritten.related {editedKey : String → Prop} {edited : String → String → Prop}
    {previous : Option Bytes} {encoded : Bytes}
    (h : EditWritten env editedKey edited previous encoded) :
    ConfigRelated env (SettingsKept editedKey edited) previous (some encoded) := h.kept

theorem ensuredServices_kept {secrets ensured : Members F} {token : String}
    (h : ensuredServices secrets token = .ok ensured) {key : String}
    (hretired : key ∉ retiredServiceKeys) (htoken : key ≠ "default_agent_llm_token") :
    OrderedMap.get ensured key = OrderedMap.get secrets key := by
  unfold ensuredServices at h
  dsimp only at h
  split at h
  next => cases h
  next =>
    cases h
    rw [OrderedMap.get_put_of_ne _ htoken]
    refine get_filter_keys (fun key => !retiredServiceKeys.contains key) secrets ?_
    simpa using hretired

theorem Ensured.servicesKept {data : Option Bytes} {token : String} {secrets : Members F}
    {updated : Bytes} (h : Ensured env data token secrets updated) :
    parseOptionalCredential env (some updated) = parseOptionalCredential env data ∧
      ServicesKept env (fun key => key ∉ retiredServiceKeys ∧ key ≠ "default_agent_llm_token")
        data (some updated) := by
  obtain ⟨credential, value, previous, hcredential, hvalue, hsecrets, hdumps, hupdated⟩ :=
    h.credential
  refine ⟨(parseCredential_written hupdated).trans hcredential.symm, ?_⟩
  obtain ⟨middle, new, hmiddle, hnew, hget⟩ := services_written hupdated
  have hservices : services middle = secrets := by
    have hload := (jsonObject_ok.mp (authObject_read hmiddle)).2.1
    rw [env.format.loads_dumps hdumps] at hload
    obtain rfl := Json.object.inj (Option.some.inj hload)
    rw [services, OrderedMap.get_put_self]
  refine ⟨value, new, hvalue, hnew, fun key hkey => ?_⟩
  rw [hget, hservices]
  exact ensuredServices_kept hsecrets hkey.1 hkey.2

/-! ## Every call -/

section Calls

variable [DecidableEq F] {files : Files}

theorem dropped_ends {α : Type} {call : Call α} {Q : Files → Prop} {late : FileStep → Bool}
    {W : Files → Prop} {P : α → World Directory FileStep → Prop}
    (h : Ends (Contents files) call P fun _ => Kept late W files)
    (hQ : ∀ a w, P a w → Q w.state.files) :
    Ends (Contents files) (do let _ ← call; return ()) (fun _ w => Q w.state.files)
      fun _ => Kept late W files :=
  Ends.bind h fun _ => Ends.pure fun w hw => hQ _ w hw

omit [DecidableEq F] in
theorem SavedPair.valid {config : RuntimeConfig F} {environment : String → Option String}
    {after : Files} (h : SavedPair env files config environment after) :
    ValidFiles env after ∧ ServicesKept env (fun _ => True) files.auth after.auth ∧
      (files.config = none ∨
        ConfigRelated env (SaveKept (setsBaseUrl config environment)) files.config
          after.config) := by
  obtain ⟨resolved, written, configData, authData, hconfig, hauth, rfl⟩ := h
  obtain ⟨hvalid, hkept⟩ := savedConfig_ok hconfig
  refine ⟨⟨hvalid, _, parseCredential_written hauth⟩, servicesKept_written hauth, ?_⟩
  cases hfile : files.config with
  | none => exact Or.inl rfl
  | some data =>
      obtain ⟨before, after, hbefore, hafter, hsave⟩ := hkept data hfile
      exact Or.inr ⟨before, after, hbefore, hafter, hsave⟩

/-- One call: what it keeps when it returns, and what is left when it raises. -/
theorem Command.call_ends (hvalid : ValidFiles env files) (command : Command env) :
    Ends (Contents files) command.call
      (fun _ w => command.Keeps files w.state.files ∧ ValidFiles env w.state.files)
      fun _ => Kept command.late (ValidFiles env) files := by
  cases command with
  | save config credential environment expectedStored =>
      refine dropped_ends (Q := fun after =>
        (Command.save config credential environment expectedStored).Keeps files after ∧
          ValidFiles env after) (save_ends hvalid config credential environment expectedStored
            fun after hsaved => hsaved.valid.1) ?_
      rintro - w (hsame | hsaved)
      · rw [hsame]
        exact ⟨⟨ServicesKept.refl hvalid _,
          Or.inr (configRelated_refl hvalid (SaveKept.refl _))⟩, hvalid⟩
      · exact ⟨hsaved.valid.2, hsaved.valid.1⟩
  | updateConfig path value validate =>
      refine (updateConfig_ends hvalid path value validate fun encoded hencoded =>
        hvalid.withConfig (updatedConfig_ok hencoded).valid).conseq (fun _ h => h) ?_
        fun _ _ h => h
      rintro - w ⟨encoded, hencoded, hfiles⟩
      have hwritten := updatedConfig_ok hencoded
      rw [hfiles]
      exact ⟨⟨rfl, hwritten.related⟩, hvalid.withConfig hwritten.valid⟩
  | updateSettings edits expectedRevision validator =>
      refine dropped_ends (Q := fun after =>
        (Command.updateSettings edits expectedRevision validator).Keeps files after ∧
          ValidFiles env after) (updateSettings_ends hvalid edits expectedRevision validator.run
            fun hsettings _ _ encoded hencoded =>
              hvalid.withConfig (editedSettings_ok hsettings hencoded).valid) ?_
      rintro answer w ⟨hsettings, encoded, hencoded, hfiles⟩
      cases encoded with
      | none =>
          rw [hfiles]
          exact ⟨⟨rfl, configRelated_refl hvalid fun _ => SettingsKept.refl⟩, hvalid⟩
      | some encoded =>
          have hwritten := editedSettings_ok hsettings hencoded
          rw [hfiles]
          exact ⟨⟨rfl, hwritten.related⟩, hvalid.withConfig hwritten.valid⟩
  | resolveOAuth expected account environment refresh fresh expired =>
      refine dropped_ends (Q := fun after =>
        (Command.resolveOAuth expected account environment refresh fresh expired).Keeps files after ∧
          ValidFiles env after) (resolveOAuth_ends hvalid expected account environment refresh fresh
            expired fun credential data hdata => hvalid.withAuth hdata) ?_
      rintro credential w (hsame | ⟨data, hdata, hfiles⟩)
      · rw [hsame]
        exact ⟨⟨rfl, ServicesKept.refl hvalid _⟩, hvalid⟩
      · rw [hfiles]
        exact ⟨⟨rfl, servicesKept_written hdata⟩, hvalid.withAuth hdata⟩
  | ensureServiceCredentials token =>
      have hnew : ∀ secrets updated, Ensured env files.auth token secrets updated →
          ValidFiles env (files.set (some updated) .auth) := by
        intro secrets updated hensured
        obtain ⟨credential, value, previous, -, -, -, -, hupdated⟩ := hensured.credential
        exact hvalid.withAuth hupdated
      refine dropped_ends (Q := fun after =>
        (Command.ensureServiceCredentials token : Command env).Keeps files after ∧
          ValidFiles env after) (ensureServiceCredentials_ends hvalid token hnew) ?_
      rintro secrets w ⟨updated, hensured, hfiles⟩
      rw [hfiles]
      exact ⟨⟨rfl, hensured.servicesKept.1, hensured.servicesKept.2⟩, hnew secrets updated hensured⟩

/-! ## Every sequence of calls -/

structure Record (env : Surroundings F) where
  command : Command env
  before : Files
  outcome : Except Raised Unit
  /-- The step that has failed. -/
  failed : Option FileStep
  after : Files

def faultOf : Option Nat → Fault FileStep
  | some steps => .ahead steps
  | none => .none

def failedStep : Fault FileStep → Option FileStep
  | .struck label => some label
  | _ => none

def Command.execute (command : Command env) (files : Files) (failing : Option Nat) :
    Record env :=
  let (outcome, world) := command.call ⟨⟨files, none⟩, faultOf failing⟩
  { command, before := files, outcome, failed := failedStep world.fault
    after := world.state.files }

/-- The calls one after the other, each with the step that fails in it, if one does. -/
def execution (files : Files) : List (Command env × Option Nat) → List (Record env)
  | [] => []
  | (command, failing) :: calls =>
      command.execute files failing :: execution (command.execute files failing).after calls

structure Record.Sound (record : Record env) : Prop where
  returned : record.outcome = .ok () → record.command.Keeps record.before record.after
  raised : ∀ error, record.outcome = .error error →
    (∀ label, record.failed = some label → record.command.late label = false) →
    record.after = record.before
  loads : ∃ config credential, loadSnapshot env ⟨⟨record.after, none⟩, .none⟩ =
    (.ok (config, credential), ⟨⟨record.after, none⟩, .none⟩)

theorem Command.execute_sound (hvalid : ValidFiles env files) (command : Command env)
    (failing : Option Nat) :
    (command.execute files failing).Sound ∧
      ValidFiles env (command.execute files failing).after := by
  have hends := command.call_ends hvalid ⟨⟨files, none⟩, faultOf failing⟩ rfl
  unfold Command.execute
  cases hrun : command.call ⟨⟨files, none⟩, faultOf failing⟩ with
  | mk outcome world =>
      rw [hrun] at hends
      have hstruck : ∀ label, world.fault = .struck label →
          failedStep world.fault = some label := fun label hfault => by rw [hfault]; rfl
      cases outcome with
      | ok answer =>
          refine ⟨⟨fun _ => hends.1, ?_, loadSnapshot_calm hends.2 _⟩, hends.2⟩
          intro error h
          cases h
      | error error =>
          refine ⟨⟨?_, ?_, loadSnapshot_calm hends.always _⟩, hends.always⟩
          · intro h
            cases h
          · exact fun _ _ hnot =>
              hends.restored fun label hfault => hnot label (hstruck label hfault)

/-- Whatever calls are made with whatever arguments, and whichever step of each of them fails. -/
theorem execution_sound (env : Surroundings F) (hvalid : ValidFiles env files)
    (calls : List (Command env × Option Nat)) :
    ∀ record ∈ execution files calls, record.Sound := by
  induction calls generalizing files with
  | nil =>
      intro record hrecord
      cases hrecord
  | cons call calls ih =>
      obtain ⟨command, failing⟩ := call
      have hfirst := command.execute_sound hvalid failing
      intro record hrecord
      rcases List.mem_cons.mp hrecord with rfl | hrest
      · exact hfirst.1
      · exact ih hfirst.2 record hrest

end Calls

/-! ## A save over a retired setting -/

/-- Integers only, and no setting but the log level. -/
def sampleSurroundings : Surroundings Empty where
  format := textFormat
  numbers := ⟨nofun, nofun⟩
  oauth := ⟨fun _ => none, nofun, fun _ => none⟩
  validBackend values := values.all fun member => member.1 = "log_level"
  validFrontend values := values.isEmpty
  settingsRevision _ _ _ := ""

def retiredFiles : Files where
  config := some (encodeText
    "\x7b\"version\": 1, \"backend\": \x7b\"max_tasks_per_user\": 3\x7d\x7d")
  auth := none

def openaiKey : StoredCredential sampleSurroundings.oauth :=
  .apiKey ⟨.openai, "sk-1", by decide⟩

def saveOpenai : Command sampleSurroundings :=
  .save { provider := some ⟨.openai, .apiKey, by decide⟩, models := some ⟨"gpt-5", none⟩ }
    (some openaiKey) (fun _ => none) none

theorem retiredFiles_valid : ValidFiles sampleSurroundings retiredFiles := by
  have hparsed : (parseOptionalConfig sampleSurroundings retiredFiles.config).isOk = true := by
    decide +kernel
  refine ⟨?_, none, rfl⟩
  cases hconfig : parseOptionalConfig sampleSurroundings retiredFiles.config with
  | ok config => exact ⟨config, rfl⟩
  | error error =>
      rw [hconfig] at hparsed
      cases hparsed

theorem execution_sound_retired :
    ValidFiles sampleSurroundings retiredFiles ∧
      ∀ record ∈ execution retiredFiles [(saveOpenai, none), (saveOpenai, some 12)], record.Sound :=
  ⟨retiredFiles_valid, execution_sound sampleSurroundings retiredFiles_valid _⟩

def hasSetting (file : Option Bytes) (settings name : String) : Bool :=
  ((documentOf sampleSurroundings file).toOption.bind fun document =>
    setting document settings name).isSome

/-- A retired key of the backend section does not survive a save. -/
theorem save_drops_retired :
    (saveOpenai.execute retiredFiles none).outcome = .ok () ∧
      hasSetting retiredFiles.config "backend" "max_tasks_per_user" = true ∧
      hasSetting (saveOpenai.execute retiredFiles none).after.config "backend"
        "max_tasks_per_user" = false := by
  decide +kernel

end Hybro.RuntimeFiles
