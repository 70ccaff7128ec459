import Hybro.RuntimeFiles.CredentialRules
import Hybro.RuntimeFiles.Store

/-! # What an edit of the configuration keeps

An edit at a path, a batch of settings edits and a save change the settings they name and drop
retired ones. Everything else has the value it had, and what is written is valid.
-/

namespace Hybro.RuntimeFiles

open JsonDocument

variable {F : Type} {env : Surroundings F}

/-! ## Settings of a document -/

def setting (document : Members F) (settings name : String) : Option (Json F) :=
  match OrderedMap.get document settings with
  | some (.object members) => OrderedMap.get members name
  | _ => none

/-- The values that an edit keeps: the keys beside the sections, and the settings that it does not
name and that are not retired. -/
structure SettingsKept (editedKey : String → Prop) (edited : String → String → Prop)
    (before after : Members F) : Prop where
  keys : ∀ key ∈ ["version", "provider", "models", "image_size"], ¬editedKey key →
    OrderedMap.get after key = OrderedMap.get before key
  backend : ∀ name, ¬edited "backend" name → name ∉ removedFields →
    setting after "backend" name = setting before "backend" name
  frontend : ∀ name, ¬edited "frontend" name →
    setting after "frontend" name = setting before "frontend" name

variable {editedKey : String → Prop} {edited : String → String → Prop}
  {before middle after document : Members F}

theorem SettingsKept.refl : SettingsKept editedKey edited document document :=
  ⟨fun _ _ _ => rfl, fun _ _ _ => rfl, fun _ _ => rfl⟩

theorem SettingsKept.trans (first : SettingsKept editedKey edited before middle)
    (second : SettingsKept editedKey edited middle after) :
    SettingsKept editedKey edited before after where
  keys key hkey hedited := (second.keys key hkey hedited).trans (first.keys key hkey hedited)
  backend name hedited hretired :=
    (second.backend name hedited hretired).trans (first.backend name hedited hretired)
  frontend name hedited := (second.frontend name hedited).trans (first.frontend name hedited)

theorem SettingsKept.mono {editedKey' : String → Prop} {edited' : String → String → Prop}
    (h : SettingsKept editedKey edited before after) (hkeys : ∀ key, editedKey key → editedKey' key)
    (hsettings : ∀ settings name, edited settings name → edited' settings name) :
    SettingsKept editedKey' edited' before after where
  keys key hkey hnot := h.keys key hkey (mt (hkeys key) hnot)
  backend name hnot := h.backend name (mt (hsettings _ name) hnot)
  frontend name hnot := h.frontend name (mt (hsettings _ name) hnot)

theorem setting_put_self (document : Members F) (settings name : String) (members : Members F) :
    setting (OrderedMap.put document settings (.object members)) settings name =
      OrderedMap.get members name := by
  unfold setting
  rw [OrderedMap.get_put_self]

theorem setting_put_of_ne {settings other : String} (name : String) (value : Json F)
    (h : other ≠ settings) :
    setting (OrderedMap.put document settings value) other name = setting document other name := by
  unfold setting
  rw [OrderedMap.get_put_of_ne value h]

theorem put_kept {settings : String} {members : Members F}
    (hsettings : settings ∉ ["version", "provider", "models", "image_size"])
    (hkept : ∀ name, ¬edited settings name → (settings = "backend" → name ∉ removedFields) →
      OrderedMap.get members name = setting document settings name) :
    SettingsKept editedKey edited document
      (OrderedMap.put document settings (.object members)) where
  keys key hkey _ := by
    apply OrderedMap.get_put_of_ne
    rintro rfl
    exact hsettings hkey
  backend name hnot hretired := by
    by_cases h : settings = "backend"
    · rw [← h] at hnot ⊢
      rw [setting_put_self]
      exact hkept name hnot fun _ => hretired
    · exact setting_put_of_ne name _ (Ne.symm h)
  frontend name hnot := by
    by_cases h : settings = "frontend"
    · rw [← h] at hnot ⊢
      rw [setting_put_self]
      refine hkept name hnot fun hbackend => ?_
      rw [h] at hbackend
      exact absurd hbackend (by decide)
    · exact setting_put_of_ne name _ (Ne.symm h)

/-! ## Retired settings -/

theorem get_filter_keys (p : String → Bool) (members : Members F) {key : String}
    (h : p key = true) :
    OrderedMap.get (members.filter fun member => p member.1) key = OrderedMap.get members key := by
  induction members with
  | nil => rfl
  | cons member members ih =>
      rw [List.filter_cons, Json.get_cons]
      by_cases hkey : member.1 = key
      · rw [hkey, h, if_pos rfl, Json.get_cons, hkey, if_pos rfl, if_pos rfl]
      · rw [if_neg hkey]
        split
        · rw [Json.get_cons, if_neg hkey, ih]
        · exact ih

theorem get_stripRemovedFields {members : Members F} {name : String} (h : name ∉ removedFields) :
    OrderedMap.get (stripRemovedFields members) name = OrderedMap.get members name := by
  refine get_filter_keys (fun key => !removedFields.contains key) members ?_
  simpa using h

theorem erase_instances_kept :
    SettingsKept editedKey edited document (OrderedMap.erase document "instances") where
  keys key hkey _ := by
    apply OrderedMap.get_erase_of_ne
    rintro rfl
    simp at hkey
  backend name _ _ := by
    unfold setting
    rw [OrderedMap.get_erase_of_ne (by decide)]
  frontend name _ := by
    unfold setting
    rw [OrderedMap.get_erase_of_ne (by decide)]

theorem withoutRetired_kept : SettingsKept editedKey edited document (withoutRetired document) := by
  refine erase_instances_kept.trans ?_
  unfold withoutRetired
  dsimp only
  split
  next backend hbackend =>
    refine put_kept (by decide) fun name _ hretired => ?_
    rw [get_stripRemovedFields (hretired rfl), setting, hbackend]
  next => exact SettingsKept.refl

/-! ## Edits -/

theorem applyEdit_kept {edit : (String × String) × Json F}
    (hsettings : edit.1.1 = "backend" ∨ edit.1.1 = "frontend")
    (h : applyEdit document edit = some after) :
    SettingsKept editedKey (fun settings name => (settings, name) = edit.1) document after := by
  obtain ⟨⟨settings, name⟩, value⟩ := edit
  have hnot : settings ∉ ["version", "provider", "models", "image_size"] := by
    rcases hsettings with h | h <;> dsimp only at h <;> rw [h] <;> decide
  have herased : ∀ target other, OrderedMap.get document settings = some (.object target) →
      ¬((settings, other) = (settings, name)) →
      OrderedMap.get (OrderedMap.erase target name) other = setting document settings other := by
    intro target other htarget hother
    have hne : other ≠ name := fun heq => hother (by rw [heq])
    rw [OrderedMap.get_erase_of_ne hne, setting, htarget]
  have hput : ∀ target other, OrderedMap.get document settings = some (.object target) →
      ¬((settings, other) = (settings, name)) →
      OrderedMap.get (OrderedMap.put target name value) other =
        setting document settings other := by
    intro target other htarget hother
    have hne : other ≠ name := fun heq => hother (by rw [heq])
    rw [OrderedMap.get_put_of_ne _ hne, setting, htarget]
  have hnew : ∀ other, (∀ target, OrderedMap.get document settings ≠ some (.object target)) →
      ¬((settings, other) = (settings, name)) →
      OrderedMap.get [(name, value)] other = setting document settings other := by
    intro other hmissing hother
    have hne : ¬name = other := fun heq => hother (by rw [heq])
    rw [Json.get_cons, if_neg hne, setting]
    split
    · exact absurd ‹_› (hmissing _)
    · rfl
  unfold applyEdit at h
  dsimp only at h
  split at h
  next target htarget =>
    obtain rfl := Option.some.inj h
    exact put_kept hnot fun other hother _ => herased target other htarget hother
  next =>
    obtain rfl := Option.some.inj h
    exact SettingsKept.refl
  next hmissing =>
    obtain rfl := Option.some.inj h
    refine put_kept hnot fun other hother _ => hnew other (fun target => ?_) hother
    rw [hmissing]
    intro heq
    cases heq
  next hmissing =>
    obtain rfl := Option.some.inj h
    refine put_kept hnot fun other hother _ => hnew other (fun target => ?_) hother
    rw [hmissing]
    intro heq
    cases heq
  next target _ htarget =>
    obtain rfl := Option.some.inj h
    exact put_kept hnot fun other hother _ => hput target other htarget hother
  next => cases h

theorem foldlM_applyEdit_kept {edits : SettingsEdits F}
    (hsettings : ∀ edit ∈ edits, edit.1.1 = "backend" ∨ edit.1.1 = "frontend")
    (h : edits.foldlM applyEdit document = some after) :
    SettingsKept editedKey (fun settings name => ∃ edit ∈ edits, (settings, name) = edit.1)
      document after := by
  induction edits generalizing document with
  | nil =>
      obtain rfl := Option.some.inj h
      exact SettingsKept.refl
  | cons edit edits ih =>
      rw [List.foldlM_cons, Option.bind_eq_bind, Option.bind_eq_some_iff] at h
      obtain ⟨next, hnext, hrest⟩ := h
      have hfirst : SettingsKept editedKey (fun settings name => (settings, name) = edit.1)
          document next := applyEdit_kept (hsettings edit List.mem_cons_self) hnext
      have hothers := ih (fun other hother => hsettings other (List.mem_cons_of_mem _ hother)) hrest
      refine (hfirst.mono (fun _ h => h) ?_).trans (hothers.mono (fun _ h => h) ?_)
      · exact fun _ _ heq => ⟨edit, List.mem_cons_self, heq⟩
      · rintro settings name ⟨other, hother, heq⟩
        exact ⟨other, List.mem_cons_of_mem _ hother, heq⟩

theorem withSettingsEdits_kept {edits : SettingsEdits F}
    (hsettings : ∀ edit ∈ edits, edit.1.1 = "backend" ∨ edit.1.1 = "frontend")
    (h : withSettingsEdits document edits = .ok after) :
    SettingsKept editedKey (fun settings name => ∃ edit ∈ edits, (settings, name) = edit.1)
      document after := by
  unfold withSettingsEdits at h
  split at h
  next edited hedited =>
    cases h
    exact (foldlM_applyEdit_kept hsettings hedited).trans withoutRetired_kept
  next => cases h

theorem get_setPath {part : String} {rest : List String} {value : Json F}
    (h : setPath document (part :: rest) value = some after) {key : String} (hkey : key ≠ part) :
    OrderedMap.get after key = OrderedMap.get document key := by
  cases rest with
  | nil =>
      obtain rfl := Option.some.inj h
      exact OrderedMap.get_put_of_ne _ hkey
  | cons next rest =>
      unfold setPath at h
      split at h
      · obtain ⟨child, -, rfl⟩ := Option.map_eq_some_iff.mp h
        exact OrderedMap.get_put_of_ne _ hkey
      · obtain ⟨child, -, rfl⟩ := Option.map_eq_some_iff.mp h
        exact OrderedMap.get_put_of_ne _ hkey
      · cases h

theorem setting_setPath {part next : String} {rest : List String} {value : Json F}
    (h : setPath document (part :: next :: rest) value = some after) {name : String}
    (hname : name ≠ next) : setting after part name = setting document part name := by
  unfold setPath at h
  split at h
  next hmissing =>
    obtain ⟨child, hchild, rfl⟩ := Option.map_eq_some_iff.mp h
    rw [setting_put_self, get_setPath hchild hname, setting, hmissing]
    rfl
  next child hfound =>
    obtain ⟨child', hchild, rfl⟩ := Option.map_eq_some_iff.mp h
    rw [setting_put_self, get_setPath hchild hname, setting, hfound]
  next => cases h

def pathKey (path : List String) (key : String) : Prop :=
  path.head? = some key

def pathSettings : List String → String → String → Prop
  | [part], settings, _ => part = settings
  | part :: next :: _, settings, name => part = settings ∧ next = name
  | [], _, _ => False

theorem setPath_kept {path : List String} {value : Json F}
    (h : setPath document path value = some after) :
    SettingsKept (pathKey path) (pathSettings path) document after := by
  cases path with
  | nil => cases h
  | cons part rest =>
      have hsetting : ∀ settings name, ¬pathSettings (part :: rest) settings name →
          setting after settings name = setting document settings name := by
        intro settings name hnot
        by_cases hpart : settings = part
        · cases rest with
          | nil => exact absurd hpart.symm hnot
          | cons next rest =>
              rw [hpart] at hnot ⊢
              exact setting_setPath h fun hname => hnot ⟨rfl, hname.symm⟩
        · unfold setting
          rw [get_setPath h hpart]
      refine ⟨fun key _ hnot => get_setPath h fun heq => hnot ?_, ?_, ?_⟩
      · rw [pathKey, heq]
        rfl
      · exact fun name hnot _ => hsetting "backend" name hnot
      · exact fun name hnot => hsetting "frontend" name hnot

/-! ## What is written -/

theorem parseConfig_ok {data : Bytes} {config : RuntimeConfig F} :
    parseConfig env data = .ok config ↔
      ∃ members, jsonObject env.format data = .ok members ∧
        modelValidate env members = some config := by
  unfold parseConfig
  cases hread : jsonObject env.format data with
  | error e =>
      refine ⟨nofun, ?_⟩
      rintro ⟨members, hmembers, -⟩
      cases hmembers
  | ok members =>
      dsimp only
      constructor
      · intro h
        cases hvalid : modelValidate env members with
        | none =>
            rw [hvalid] at h
            cases h
        | some other =>
            rw [hvalid] at h
            cases h
            exact ⟨members, rfl, hvalid⟩
      · rintro ⟨found, hfound, hvalid⟩
        cases hfound
        rw [hvalid]
        rfl

theorem jsonObject_encoded {data : Bytes} {config : RuntimeConfig F}
    (hencode : encodeConfig env document = .ok data) (hparse : parseConfig env data = .ok config) :
    jsonObject env.format data = .ok document := by
  obtain ⟨members, hmembers, -⟩ := parseConfig_ok.mp hparse
  have hload := (jsonObject_ok.mp hmembers).2.1
  unfold encodeConfig at hencode
  split at hencode
  next encoded hencoded =>
    cases hencode
    rw [env.format.loads_dumpsIndented hencoded] at hload
    cases hload
    exact hmembers
  next => cases hencode

/-- An edit of a valid file that was written: the document before it, the text, what was kept. -/
structure EditWritten (env : Surroundings F) (editedKey : String → Prop)
    (edited : String → String → Prop) (previous : Option Bytes) (encoded : Bytes) : Prop where
  valid : ∃ config, parseConfig env encoded = .ok config
  kept : ∃ before after, documentOf env previous = .ok before ∧
    jsonObject env.format encoded = .ok after ∧ SettingsKept editedKey edited before after

theorem updatedConfig_ok {previous : Option Bytes} {path : List String} {value : Json F}
    {validate : RuntimeConfig F → Except Raised Unit} {encoded : Bytes}
    (h : updatedConfig env previous path value validate = .ok encoded) :
    EditWritten env (pathKey path) (pathSettings path) previous encoded := by
  unfold updatedConfig at h
  simp only [bind_eq_ok] at h
  obtain ⟨before, hbefore, -, -, h⟩ := h
  split at h
  next => cases h
  next edited hedited =>
    simp only [bind_eq_ok] at h
    obtain ⟨data, hdata, candidate, hcandidate, -, -, h⟩ := h
    cases h
    exact ⟨⟨candidate, hcandidate⟩, before, _, hbefore, jsonObject_encoded hdata hcandidate,
      (setPath_kept hedited).trans withoutRetired_kept⟩

def namedIn (edits : SettingsEdits F) (settings name : String) : Prop :=
  ∃ edit ∈ edits, (settings, name) = edit.1

/-- A validator may raise and may write another value for an edited setting. -/
structure SettingsValidator (edits : SettingsEdits F) where
  run : Members F → Except Raised (Members F)
  kept : ∀ {candidate document}, run candidate = .ok document →
    SettingsKept (fun _ => False) (namedIn edits) candidate document

/-- `_CAPPED_FIELDS` of the settings service. -/
def cappedFields : List String :=
  ["orchestrator_fast_max_parallel_calls", "orchestrator_ultimate_max_parallel_calls"]

/-- The validated value of one edited setting; a capped one keeps the value that was entered. -/
def setNormalized (validated : String → String → Json F) (document : Members F)
    (spec : String × String) : Members F :=
  match OrderedMap.get document spec.1 with
  | some (.object values) =>
      if (OrderedMap.get values spec.2).isSome && !cappedFields.contains spec.2 then
        OrderedMap.put document spec.1
          (.object (OrderedMap.put values spec.2 (validated spec.1 spec.2)))
      else document
  | _ => document

/-- `document.get(settings, {})`, which is a mapping. -/
def sectionValues (document : Members F) (settings : String) : Except Raised (Members F) :=
  match sectionOf (OrderedMap.get document settings) with
  | some values => return values
  | none => throw (.other "AssertionError")

/-- `_normalize` of the settings service. `validated` gives the fields of a validated section or
raises what is wrong with it. -/
def normalize (validated : String → Members F → Except Raised (String → Json F))
    (specs : List (String × String)) (document : Members F) : Except Raised (Members F) := do
  let backend ← validated "backend" (← sectionValues document "backend")
  let frontend ← validated "frontend" (← sectionValues document "frontend")
  return specs.foldl
    (setNormalized fun settings => if settings = "backend" then backend else frontend) document

theorem setNormalized_kept (validated : String → String → Json F) {spec : String × String}
    (hsettings : spec.1 = "backend" ∨ spec.1 = "frontend") :
    SettingsKept editedKey (fun settings name => (settings, name) = spec) document
      (setNormalized validated document spec) := by
  have hnot : spec.1 ∉ ["version", "provider", "models", "image_size"] := by
    rcases hsettings with h | h <;> rw [h] <;> decide
  unfold setNormalized
  split
  next values hvalues =>
    split
    · refine put_kept hnot fun name hname _ => ?_
      have hne : name ≠ spec.2 := fun heq => hname (by rw [heq])
      rw [OrderedMap.get_put_of_ne _ hne, setting, hvalues]
    · exact SettingsKept.refl
  next => exact SettingsKept.refl

def settingsValidator (validated : String → Members F → Except Raised (String → Json F))
    (edits : SettingsEdits F)
    (hsettings : ∀ edit ∈ edits, edit.1.1 = "backend" ∨ edit.1.1 = "frontend") :
    SettingsValidator edits where
  run := normalize validated (edits.map (·.1))
  kept := by
    intro candidate document h
    unfold normalize at h
    simp only [bind_eq_ok] at h
    obtain ⟨_, -, backend, -, _, -, frontend, -, h⟩ := h
    cases h
    have hspecs : ∀ spec ∈ edits.map (·.1), (spec.1 = "backend" ∨ spec.1 = "frontend") ∧
        namedIn edits spec.1 spec.2 := by
      intro spec hspec
      obtain ⟨edit, hedit, rfl⟩ := List.mem_map.mp hspec
      exact ⟨hsettings edit hedit, edit, hedit, rfl⟩
    generalize edits.map (·.1) = specs at hspecs
    induction specs generalizing candidate with
    | nil => exact SettingsKept.refl
    | cons spec specs ih =>
        obtain ⟨hsection, hnamed⟩ := hspecs spec List.mem_cons_self
        refine ((setNormalized_kept _ hsection).mono (fun _ h => h) ?_).trans
          (ih fun other hother => hspecs other (List.mem_cons_of_mem _ hother))
        rintro settings name heq
        cases heq
        exact hnamed

theorem editedSettings_ok {data : Option Bytes} {edits : SettingsEdits F}
    {expectedRevision : String} {validator : SettingsValidator edits}
    {previous current : RuntimeConfig F} {encoded : Bytes}
    (hsettings : ∀ edit ∈ edits, edit.1.1 = "backend" ∨ edit.1.1 = "frontend")
    (h : editedSettings env data edits expectedRevision validator.run =
      .ok (previous, current, some encoded)) :
    EditWritten env (fun _ => False) (namedIn edits) data encoded := by
  unfold editedSettings at h
  split at h
  next => cases h
  next read hread =>
    split at h
    next => cases h
    next =>
      simp only [bind_eq_ok] at h
      obtain ⟨before, hbefore, candidate, hcandidate, edited, hedited, ⟨written, optional⟩, hresult,
        h⟩ := h
      cases h
      unfold encodeEdited at hresult
      split at hresult
      next => cases hresult
      next =>
        simp only [bind_eq_ok] at hresult
        obtain ⟨text, htext, hresult⟩ := hresult
        split at hresult
        next => cases hresult
        next config hconfig =>
          cases hresult
          exact ⟨⟨_, hconfig⟩, before, edited, hbefore, jsonObject_encoded htext hconfig,
            (withSettingsEdits_kept hsettings hcandidate).trans (validator.kept hedited)⟩

/-! ## Saving -/

structure Sections (env : Surroundings F) (document : Members F) (config : RuntimeConfig F) :
    Prop where
  backend : ∃ values, sectionOf (OrderedMap.get document "backend") = some values ∧
    config.backend = stripRemovedFields values
  frontend : sectionOf (OrderedMap.get document "frontend") = some config.frontend
  imageSize : imageSizeOf (OrderedMap.get document "image_size") = some config.imageSize

theorem modelValidate_sections {config : RuntimeConfig F}
    (h : modelValidate env document = some config) : Sections env document config := by
  have hget : ∀ key, key ≠ "instances" →
      OrderedMap.get (OrderedMap.erase document "instances") key = OrderedMap.get document key :=
    fun key hkey => OrderedMap.get_erase_of_ne hkey
  unfold modelValidate at h
  simp only [Option.bind_eq_bind, Option.bind_eq_some_iff] at h
  obtain ⟨provider, -, models, -, backend, hbackend, frontend, hfrontend, imageSize, himage, h⟩ := h
  split at h
  next =>
    split at h
    next =>
      cases h
      rw [hget _ (by decide)] at hbackend hfrontend himage
      unfold backendOf at hbackend
      unfold frontendOf at hfrontend
      simp only [Option.bind_eq_bind, Option.bind_eq_some_iff] at hbackend hfrontend
      obtain ⟨values, hvalues, hbackend⟩ := hbackend
      obtain ⟨front, hfront, hfrontend⟩ := hfrontend
      refine ⟨⟨values, hvalues, ?_⟩, ?_, himage⟩
      · split at hbackend
        · cases hbackend
          rfl
        · cases hbackend
      · split at hfrontend
        · cases hfrontend
          exact hfront
        · cases hfrontend
    next => cases h
  next => cases h

theorem setting_of_sectionOf {settings name : String} {values : Members F}
    (h : sectionOf (OrderedMap.get document settings) = some values) :
    setting document settings name = OrderedMap.get values name := by
  unfold sectionOf at h
  unfold setting
  split at h
  next hnone =>
    cases h
    rw [hnone]
    rfl
  next members hmembers =>
    cases h
    rw [hmembers]
  next => cases h

/-- What `save` keeps of a document, with and without setting the base URL itself. -/
structure SaveKept (baseUrlSet : Bool) (before after : Members F) : Prop where
  backend : ∀ name, (baseUrlSet = true → name ≠ "openai_base_url") → name ∉ removedFields →
    setting after "backend" name = setting before "backend" name
  frontend : ∀ name, setting after "frontend" name = setting before "frontend" name
  imageSize : imageSizeOf (OrderedMap.get after "image_size") =
    imageSizeOf (OrderedMap.get before "image_size")

theorem ImageSize.ofText_value (size : ImageSize) : ImageSize.ofText size.value = some size := by
  cases size <;> rfl

theorem get_members (config : RuntimeConfig F) :
    OrderedMap.get config.members "backend" = some (.object config.backend) ∧
      OrderedMap.get config.members "frontend" = some (.object config.frontend) ∧
      OrderedMap.get config.members "image_size" = some (.text config.imageSize.value) := by
  unfold RuntimeConfig.members
  cases config.provider <;> cases config.models <;> simp [OrderedMap.get]

theorem withBaseUrl_sections (config : RuntimeConfig F) (environment : String → Option String) :
    (∀ name, (setsBaseUrl config environment = true → name ≠ "openai_base_url") →
      OrderedMap.get (withBaseUrl config environment).backend name =
        OrderedMap.get config.backend name) ∧
      (withBaseUrl config environment).frontend = config.frontend ∧
      (withBaseUrl config environment).imageSize = config.imageSize := by
  unfold withBaseUrl
  split
  next hset => exact ⟨fun name hname => OrderedMap.get_put_of_ne _ (hname hset), rfl, rfl⟩
  next => exact ⟨fun _ _ => rfl, rfl, rfl⟩

theorem saveKept_of_sections {config previous : RuntimeConfig F}
    {environment : String → Option String} (h : Sections env before previous) :
    SaveKept (setsBaseUrl config environment) before
      (withBaseUrl (withPreviousSections config (some previous)) environment).members := by
  obtain ⟨⟨values, hvalues, hbackend⟩, hfrontend, himage⟩ := h
  obtain ⟨hbase, hfront, hsize⟩ :=
    withBaseUrl_sections (withPreviousSections config (some previous)) environment
  obtain ⟨hgetBackend, hgetFrontend, hgetImage⟩ :=
    get_members (withBaseUrl (withPreviousSections config (some previous)) environment)
  refine ⟨fun name hname hretired => ?_, fun name => ?_, ?_⟩
  · rw [setting, hgetBackend, setting_of_sectionOf hvalues]
    dsimp only
    rw [hbase name hname, withPreviousSections, hbackend, get_stripRemovedFields hretired]
  · rw [setting, hgetFrontend, setting_of_sectionOf hfrontend]
    dsimp only
    rw [hfront]
    rfl
  · rw [hgetImage, himage, imageSizeOf, ImageSize.ofText_value, hsize]
    rfl

/-- What `save` has written of the configuration. -/
structure ConfigSaved (env : Surroundings F) (baseUrlSet : Bool) (previous : Option Bytes)
    (encoded : Bytes) : Prop where
  valid : ∃ config, parseConfig env encoded = .ok config
  kept : ∀ data, previous = some data → ∃ before after,
    jsonObject env.format data = .ok before ∧ jsonObject env.format encoded = .ok after ∧
      SaveKept baseUrlSet before after

theorem savedConfig_ok {config written : RuntimeConfig F} {environment : String → Option String}
    {previous : Option Bytes} {encoded : Bytes}
    (h : savedConfig env config environment previous = .ok (written, encoded)) :
    ConfigSaved env (setsBaseUrl config environment) previous encoded := by
  unfold savedConfig at h
  simp only [bind_eq_ok] at h
  obtain ⟨read, hread, data, hdata, parsed, hparsed, h⟩ := h
  cases h
  refine ⟨⟨parsed, hparsed⟩, fun old hold => ?_⟩
  rw [hold] at hread
  change (parseConfig env old >>= fun config => pure (some config)) = .ok read at hread
  rw [bind_eq_ok] at hread
  obtain ⟨previous, hprevious, hread⟩ := hread
  cases hread
  obtain ⟨before, hbefore, hvalid⟩ := parseConfig_ok.mp hprevious
  exact ⟨before, _, hbefore, jsonObject_encoded hdata hparsed,
    saveKept_of_sections (modelValidate_sections hvalid)⟩

end Hybro.RuntimeFiles
