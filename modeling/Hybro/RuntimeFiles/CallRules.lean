import Hybro.RuntimeFiles.CredentialRules
import Hybro.RuntimeFiles.StoreRules

/-! # What each call leaves

A call that returns has written what its checks give for the contents it has read. A call that
raises has kept both files, unless a step has failed that comes after the rename of a single
file, or the lock could not be closed.
-/

namespace Hybro.RuntimeFiles

open FailingSteps JsonDocument

variable {F : Type} {files : Files} {env : Surroundings F} {W : Files → Prop}

/-- The steps after which a call that writes one file cannot take it back. -/
def lateInReplace (label : FileStep) : Bool :=
  afterRename label || label = .closeLock

/-- The step after which `save` cannot take its files back. -/
def lateInSave (label : FileStep) : Bool :=
  label = .closeLock

theorem late_of_afterRename (label : FileStep) (h : afterRename label = true) :
    lateInReplace label = true := by
  simp [lateInReplace, h]

/-! ## Settings -/

theorem updateConfig_ends (hold : W files) (path : List String) (value : Json F)
    (validate : RuntimeConfig F → Except Raised Unit)
    (hnew : ∀ encoded, updatedConfig env files.config path value validate = .ok encoded →
      W (files.set (some encoded) .config)) :
    Ends (Contents files) (updateConfig env path value validate)
      (fun _ w => ∃ encoded, updatedConfig env files.config path value validate = .ok encoded ∧
        w.state.files = files.set (some encoded) .config)
      fun _ => Kept lateInReplace W files := by
  unfold updateConfig
  split
  next =>
    refine locked_ends (R := fun _ after => ∃ encoded,
      updatedConfig env files.config path value validate = .ok encoded ∧
        after = files.set (some encoded) .config) rfl hold ?_ ?_
    · rintro - after ⟨encoded, hencoded, rfl⟩
      exact hnew encoded hencoded
    refine Ends.bind (read_ends hold .config) fun data => Ends.given fun hdata => ?_
    rw [hdata]
    refine Ends.bind (check_ends hold _) fun encoded => Ends.given fun hencoded => ?_
    exact (replace_kept late_of_afterRename hold (hnew encoded hencoded)).conseq (fun _ h => h)
      (fun _ _ h => ⟨encoded, hencoded, h⟩) fun _ _ h => h
  next => exact Ends.raise fun _ => Contents.kept hold

def settingsWritten (files : Files) : Option Bytes → Files
  | some encoded => files.set (some encoded) .config
  | none => files

theorem updateSettings_ends (hold : W files) (edits : SettingsEdits F)
    (expectedRevision : String) (validate : Members F → Except Raised (Members F))
    (hnew : (∀ edit ∈ edits, edit.1.1 = "backend" ∨ edit.1.1 = "frontend") →
      ∀ previous current encoded,
        editedSettings env files.config edits expectedRevision validate =
          .ok (previous, current, some encoded) → W (files.set (some encoded) .config)) :
    Ends (Contents files) (updateSettings env edits expectedRevision validate)
      (fun answer w => (∀ edit ∈ edits, edit.1.1 = "backend" ∨ edit.1.1 = "frontend") ∧
        ∃ encoded, editedSettings env files.config edits expectedRevision validate =
          .ok (answer.1, answer.2, encoded) ∧ w.state.files = settingsWritten files encoded)
      fun _ => Kept lateInReplace W files := by
  unfold updateSettings
  split
  next => exact Ends.raise fun _ => Contents.kept hold
  next hsections =>
    have hedits : ∀ edit ∈ edits, edit.1.1 = "backend" ∨ edit.1.1 = "frontend" := by
      simpa [or_iff_not_imp_left] using hsections
    refine locked_ends (R := fun (answer : RuntimeConfig F × RuntimeConfig F) after =>
      (∀ edit ∈ edits, edit.1.1 = "backend" ∨ edit.1.1 = "frontend") ∧
      ∃ encoded, editedSettings env files.config edits expectedRevision validate =
        .ok (answer.1, answer.2, encoded) ∧ after = settingsWritten files encoded) rfl hold ?_ ?_
    · rintro answer after ⟨-, encoded, hencoded, rfl⟩
      cases encoded with
      | none => exact hold
      | some encoded => exact hnew hedits _ _ encoded hencoded
    refine Ends.bind (read_ends hold .config) fun data => Ends.given fun hdata => ?_
    rw [hdata]
    refine Ends.bind (check_ends hold _) fun result => Ends.given fun hresult => ?_
    obtain ⟨previous, current, encoded⟩ := result
    cases encoded with
    | none => exact Ends.pure fun _ h => ⟨hedits, none, hresult, h⟩
    | some encoded =>
        refine Ends.bind (replace_kept late_of_afterRename hold
          (hnew hedits _ _ encoded hresult))
          fun _ => ?_
        exact Ends.pure fun _ h => ⟨hedits, some encoded, hresult, h⟩

/-! ## Credentials -/

/-- The checks of `ensure_service_credentials` give these secrets and this text. -/
structure Ensured (env : Surroundings F) (data : Option Bytes) (token : String)
    (secrets : Members F) (updated : Bytes) : Prop where
  credential : ∃ credential value previous,
    parseOptionalCredential env data = .ok credential ∧
    authObject env.format data = .ok value ∧
    ensuredServices (services value) token = .ok secrets ∧
    env.format.dumps (.object (OrderedMap.put value "services" (.object secrets))) =
      some previous ∧
    credentialBytes env.format credential (some previous) = .ok updated

theorem ensureServiceCredentials_ends (hold : W files) (token : String)
    (hnew : ∀ secrets updated, Ensured env files.auth token secrets updated →
      W (files.set (some updated) .auth)) :
    Ends (Contents files) (ensureServiceCredentials env token)
      (fun secrets w => ∃ updated, Ensured env files.auth token secrets updated ∧
        w.state.files = files.set (some updated) .auth)
      fun _ => Kept lateInReplace W files := by
  unfold ensureServiceCredentials
  refine locked_ends (R := fun secrets after => ∃ updated,
    Ensured env files.auth token secrets updated ∧ after = files.set (some updated) .auth)
    rfl hold ?_ ?_
  · rintro secrets after ⟨updated, hensured, rfl⟩
    exact hnew secrets updated hensured
  refine Ends.bind (read_ends hold .auth) fun data => Ends.given fun hdata => ?_
  rw [hdata]
  refine Ends.bind (check_ends hold _) fun credential => Ends.given fun hcredential => ?_
  refine Ends.bind (check_ends hold _) fun value => Ends.given fun hvalue => ?_
  refine Ends.bind (check_ends hold _) fun secrets => Ends.given fun hsecrets => ?_
  refine Ends.bind (check_ends hold _) fun previous => Ends.given fun hprevious => ?_
  refine Ends.bind (check_ends hold _) fun updated => Ends.given fun hupdated => ?_
  have hdumps : env.format.dumps (.object (OrderedMap.put value "services" (.object secrets))) =
      some previous := by
    split at hprevious
    · cases hprevious
      assumption
    · cases hprevious
  have hensured : Ensured env files.auth token secrets updated :=
    ⟨credential, value, previous, hcredential, hvalue, hsecrets, hdumps, hupdated⟩
  split
  next =>
    exact Ends.bind (replace_kept late_of_afterRename hold (hnew secrets updated hensured))
      fun _ => Ends.pure fun _ h => ⟨updated, hensured, h⟩
  next hsame =>
    have hauth : files.auth = some updated := not_not.mp hsame
    refine Ends.pure fun w h => ⟨updated, hensured, ?_⟩
    rw [h]
    simp [Files.set, ← hauth]

/-- Both files as `resolve_oauth` reads them. -/
theorem oauthSnapshot_ends (hold : W files) (expected : RuntimeConfig F) (account : String)
    (environment : String → Option String) :
    Ends (Contents files) (oauthSnapshot env expected account environment)
      (fun answer w => answer.2.1 = files.auth ∧ Contents files w)
      fun _ => Kept lateInReplace W files := by
  unfold oauthSnapshot
  refine Ends.bind (read_ends hold .config) fun configData => Ends.given fun _ => ?_
  refine Ends.bind (read_ends hold .auth) fun authData => Ends.given fun hauth => ?_
  refine Ends.bind (check_ends hold _) fun credential => Ends.given fun _ => ?_
  exact Ends.pure fun _ h => ⟨hauth, h⟩

theorem resolveOAuth_ends (hold : W files) (expected : RuntimeConfig F) (account : String)
    (environment : String → Option String)
    (refresh : OAuthCredential env.oauth → Except Raised (OAuthCredential env.oauth))
    (fresh expired : OAuthCredential env.oauth → Bool)
    (hnew : ∀ credential : OAuthCredential env.oauth, ∀ data,
      credentialBytes env.format (some (.oauth credential)) files.auth = .ok data →
        W (files.set (some data) .auth)) :
    Ends (Contents files)
      (resolveOAuth env expected account environment refresh fresh expired)
      (fun credential w => w.state.files = files ∨ ∃ data,
        credentialBytes env.format (some (.oauth credential)) files.auth = .ok data ∧
          w.state.files = files.set (some data) .auth)
      fun _ => Kept lateInReplace W files := by
  unfold resolveOAuth
  refine withMessage_ends (locked_ends (R := fun credential after => after = files ∨ ∃ data,
    credentialBytes env.format (some (.oauth credential)) files.auth = .ok data ∧
      after = files.set (some data) .auth) rfl hold ?_ ?_)
  · rintro credential after (rfl | ⟨data, hdata, rfl⟩)
    · exact hold
    · exact hnew credential data hdata
  refine Ends.bind (oauthSnapshot_ends hold expected account environment) fun first =>
    Ends.given fun _ => ?_
  obtain ⟨configData, authData, credential⟩ := first
  dsimp only
  split
  next => exact Ends.pure fun _ h => Or.inl h
  next =>
    refine Ends.bind (check_ends hold _) fun updated => Ends.given fun _ => ?_
    refine Ends.bind (oauthSnapshot_ends hold expected account environment) fun second =>
      Ends.given fun hauth => ?_
    obtain ⟨currentConfig, currentAuth, current⟩ := second
    dsimp only at hauth ⊢
    rw [hauth]
    split
    next => exact Ends.raise fun _ => Contents.kept hold
    next =>
      refine Ends.bind (check_ends hold _) fun data => Ends.given fun hdata => ?_
      refine Ends.bind (replace_kept late_of_afterRename hold (hnew updated data hdata))
        fun _ => ?_
      exact Ends.pure fun _ h => Or.inr ⟨data, hdata, h⟩

/-! ## Saving a pair -/

/-- The rollback writes the old contents whatever is there: no other step fails. -/
theorem rollback_ends (oldConfig oldAuth : Option Bytes) {E : Raised → World Directory FileStep → Prop} :
    Ends (fun w => Calm w.fault) (do replace .auth oldAuth; replace .config oldConfig)
      (fun _ => Contents ⟨oldConfig, oldAuth⟩) E := by
  have hreplace : ∀ name data before,
      Ends (Stood True fun directory => directory.files = before) (replace name data)
        (fun _ => Stood True fun directory => directory.files = before.set data name) E := by
    intro name data before
    refine (replace_ends name data before).conseq (fun _ h => h) (fun _ _ h => h) ?_
    rintro error w ⟨-, hnot, -⟩
    exact absurd trivial hnot
  have hall : ∀ before, Ends (Stood True fun directory => directory.files = before)
      (do replace .auth oldAuth; replace .config oldConfig)
      (fun _ => Contents ⟨oldConfig, oldAuth⟩) E := by
    intro before
    refine Ends.bind (hreplace .auth oldAuth before) fun _ => ?_
    exact (hreplace .config oldConfig _).conseq (fun _ h => h) (fun _ _ h => h.1) fun _ _ h => h
  intro w hcalm
  exact hall w.state.files w ⟨rfl, fun _ => hcalm⟩

theorem savePair_ends (config auth : Bytes) :
    Ends (Contents files) (savePair config auth files.config files.auth)
      (fun _ => Contents ⟨some config, some auth⟩) fun _ => Contents files := by
  have hpair : Ends (Contents files) (do replace .auth (some auth); replace .config (some config))
      (fun _ => Contents ⟨some config, some auth⟩)
      (fun error w => error = Raised.os ∧ Calm w.fault) := by
    have hfailed : ∀ before after error (w : World Directory FileStep),
        Failed False Raised.os (Around before after) error w →
          error = Raised.os ∧ Calm w.fault := by
      rintro before after error w ⟨herror, -, label, hfault, -⟩
      exact ⟨herror, calm_of_struck hfault⟩
    refine Ends.bind ((replace_ends .auth (some auth) files).conseq
      (fun _ h => stood_false.mpr h) (fun _ _ h => h) (hfailed _ _)) fun _ => ?_
    exact (replace_ends .config (some config) _).conseq (fun _ h => h)
      (fun _ _ h => stood_false.mp h) (hfailed _ _)
  unfold savePair
  refine Ends.handle hpair fun error => Ends.given fun herror => ?_
  rw [herror]
  refine Ends.bind (R := fun _ => Contents files) (withMessage_ends (rollback_ends _ _)) fun _ => ?_
  exact Ends.raise fun _ h => h

/-- What `save` has written when it has not found the pair unchanged. -/
def SavedPair (env : Surroundings F) (files : Files) (config : RuntimeConfig F)
    (environment : String → Option String) (after : Files) : Prop :=
  ∃ (resolved : StoredCredential env.oauth) (written : RuntimeConfig F) (configData authData : Bytes),
    savedConfig env config environment files.config = .ok (written, configData) ∧
      credentialBytes env.format (some resolved) files.auth = .ok authData ∧
      after = ⟨some configData, some authData⟩

theorem save_ends [DecidableEq F] (hold : W files) (config : RuntimeConfig F)
    (credential : Option (StoredCredential env.oauth)) (environment : String → Option String)
    (expectedStored : Option (Option (StoredCredential env.oauth)))
    (hnew : ∀ after, SavedPair env files config environment after → W after) :
    Ends (Contents files) (save env config credential environment expectedStored)
      (fun _ w => w.state.files = files ∨ SavedPair env files config environment w.state.files)
      fun _ => Kept lateInSave W files := by
  unfold save
  refine Ends.bind (check_ends hold _) fun resolved => Ends.given fun _ => ?_
  refine withMessage_ends (locked_ends (R := fun (_ : Bool) after =>
    after = files ∨ SavedPair env files config environment after) rfl hold ?_ ?_)
  · rintro - after (rfl | hsaved)
    · exact hold
    · exact hnew after hsaved
  refine Ends.bind (read_ends hold .config) fun oldConfig => Ends.given fun hconfig => ?_
  refine Ends.bind (read_ends hold .auth) fun oldAuth => Ends.given fun hauth => ?_
  rw [hconfig, hauth]
  refine Ends.bind (check_ends hold _) fun _ => Ends.given fun _ => ?_
  refine Ends.bind (check_ends hold _) fun result => Ends.given fun hresult => ?_
  obtain ⟨written, configData⟩ := result
  refine Ends.bind (check_ends hold _) fun authData => Ends.given fun hdata => ?_
  split
  next => exact Ends.pure fun _ h => Or.inl h
  next =>
    refine Ends.bind ((savePair_ends configData authData).conseq (fun _ h => h) (fun _ _ h => h)
      fun _ _ => Contents.kept hold) fun _ => ?_
    exact Ends.pure fun _ h => Or.inr ⟨resolved, written, configData, authData, hresult, hdata, h⟩

/-! ## Loading -/

structure ValidFiles (env : Surroundings F) (files : Files) : Prop where
  config : ∃ config, parseOptionalConfig env files.config = .ok config
  auth : ∃ credential, parseOptionalCredential env files.auth = .ok credential

theorem touch_calm (label : FileStep) (directory : Directory) :
    touch label ⟨directory, .none⟩ = (.ok (), ⟨directory, .none⟩) := rfl

theorem locked_calm {α : Type} {body : Call α} {a : α} {directory : Directory}
    (h : body ⟨directory, .none⟩ = (.ok a, ⟨directory, .none⟩)) :
    locked body ⟨directory, .none⟩ = (.ok a, ⟨directory, .none⟩) := by
  have hopen : openLock ⟨directory, .none⟩ = (.ok (), ⟨directory, .none⟩) := rfl
  unfold locked
  refine (Steps.bind_eq hopen).trans (Steps.lastly_eq ?_ (touch_calm _ _))
  exact (Steps.bind_eq (touch_calm _ _)).trans h

theorem check_calm {α : Type} {result : Except Raised α} {a : α} (h : result = .ok a)
    (w : World Directory FileStep) :
    (Steps.ofExcept result : Call α) w = (.ok a, w) := by
  rw [h]
  rfl

theorem read_calm (name : FileName) (directory : Directory)
    (hsize : ∀ data, directory.files.get name = some data → data.length ≤ maxFileBytes) :
    read name ⟨directory, .none⟩ = (.ok (directory.files.get name), ⟨directory, .none⟩) := by
  have hlook : ∀ next : Directory → Call (Option Bytes),
      (do touch .openFile; let found ← Steps.look; next found : Call (Option Bytes))
        ⟨directory, .none⟩ = next directory ⟨directory, .none⟩ := fun _ => rfl
  refine (hlook _).trans ?_
  cases hdata : directory.files.get name with
  | none => rfl
  | some data =>
      have hsmall : ¬maxFileBytes < data.length := Nat.not_lt.mpr (hsize data hdata)
      change (if maxFileBytes < data.length then _ else _ : Call (Option Bytes))
        ⟨directory, .none⟩ = _
      rw [if_neg hsmall]
      rfl

theorem size_of_parseConfig {data : Bytes} {config : RuntimeConfig F}
    (h : parseConfig env data = .ok config) : data.length ≤ maxFileBytes := by
  unfold parseConfig at h
  split at h
  next => cases h
  next members hmembers => exact (jsonObject_ok.mp hmembers).1

theorem size_of_parseCredential {data : Bytes} {credential : Option (StoredCredential env.oauth)}
    (h : parseCredential env.format env.oauth data = .ok credential) :
    data.length ≤ maxFileBytes := by
  unfold parseCredential at h
  split at h
  next => cases h
  next value hvalue =>
    unfold authObject at hvalue
    rw [bind_eq_ok] at hvalue
    obtain ⟨members, hmembers, -⟩ := hvalue
    exact (jsonObject_ok.mp hmembers).1

theorem loadSnapshot_calm (hvalid : ValidFiles env files) (temporary : Option Bytes) :
    ∃ config credential, loadSnapshot env ⟨⟨files, temporary⟩, .none⟩ =
      (.ok (config, credential), ⟨⟨files, temporary⟩, .none⟩) := by
  obtain ⟨⟨config, hconfig⟩, credential, hcredential⟩ := hvalid
  have hconfigSize : ∀ data, files.get .config = some data → data.length ≤ maxFileBytes := by
    intro data hdata
    change files.config = some data at hdata
    rw [hdata] at hconfig
    exact size_of_parseConfig hconfig
  have hauthSize : ∀ data, files.get .auth = some data → data.length ≤ maxFileBytes := by
    intro data hdata
    change files.auth = some data at hdata
    rw [hdata] at hcredential
    exact size_of_parseCredential hcredential
  refine ⟨config, credential, ?_⟩
  unfold loadSnapshot withMessage
  refine Steps.handle_eq (locked_calm ?_)
  refine (Steps.bind_eq (read_calm .config _ hconfigSize)).trans ?_
  refine (Steps.bind_eq (read_calm .auth _ hauthSize)).trans ?_
  refine (Steps.bind_eq (check_calm hconfig _)).trans ?_
  exact Steps.bind_eq (check_calm hcredential _)

end Hybro.RuntimeFiles
