import Hybro.RuntimeFiles.Credentials

/-! # The credential file is read back

A file that is written for a credential and the secrets of the file before it parses to that
credential and has the same secrets.
-/

namespace Hybro.RuntimeFiles

open JsonDocument

variable {F : Type} {format : JsonFormat F} {rules : OAuthRules F}

/-! ## Documents -/

theorem jsonObject_ok {data : Bytes} {members : Members F} :
    jsonObject format data = .ok members ↔ data.length ≤ maxFileBytes ∧
      format.loads data = some (.object members) ∧ (Json.object members).uniqueKeys = true := by
  unfold jsonObject
  by_cases hsize : maxFileBytes < data.length
  · rw [if_pos hsize]
    exact ⟨nofun, fun h => absurd h.1 (by omega)⟩
  · rw [if_neg hsize]
    cases hload : format.loads data with
    | none => exact ⟨nofun, fun h => nomatch h.2.1⟩
    | some value =>
        dsimp only
        cases hunique : value.uniqueKeys with
        | false =>
            refine ⟨nofun, fun h => ?_⟩
            obtain rfl := Option.some.inj h.2.1
            rw [hunique] at h
            cases h.2.2
        | true =>
            cases value with
            | object other =>
                constructor
                · intro h
                  cases h
                  exact ⟨by omega, rfl, hunique⟩
                · intro h
                  cases h.2.1
                  rfl
            | _ => exact ⟨nofun, fun h => nomatch h.2.1⟩

/-- The secrets of an object that `_auth_object` accepts. -/
structure SecretServices (value : Members F) : Prop where
  secrets : ∀ member ∈ services value, isServiceSecret member = true
  unique : ((services value).map (·.1)).Nodup

theorem isServiceSecret_text {member : String × Json F} (h : isServiceSecret member = true) :
    ∃ text, member.2 = .text text := by
  obtain ⟨key, value⟩ := member
  cases value with
  | text text => exact ⟨text, rfl⟩
  | _ => simp [isServiceSecret] at h

theorem isServiceSecret_scalar {member : String × Json F} (h : isServiceSecret member = true) :
    member.2.isScalar = true := by
  obtain ⟨text, htext⟩ := isServiceSecret_text h
  rw [htext]
  rfl

theorem mem_of_get {members : Members F} {key : String} {value : Json F}
    (h : OrderedMap.get members key = some value) : (key, value) ∈ members := by
  obtain ⟨member, hfind, hvalue⟩ := Option.map_eq_some_iff.mp h
  have hkey : member.1 = key := by simpa using List.find?_some hfind
  have hmem := List.mem_of_find?_eq_some hfind
  rw [← hkey, ← hvalue]
  exact hmem

theorem authObject_ok {data : Option Bytes} {value : Members F}
    (h : authObject format data = .ok value) : SecretServices value := by
  have hempty : ∀ value : Members F, OrderedMap.get value "services" = none →
      SecretServices value := by
    intro value hnone
    have hservices : services value = [] := by simp [services, hnone]
    exact ⟨by simp [hservices], by simp [hservices]⟩
  unfold authObject at h
  rw [bind_eq_ok] at h
  obtain ⟨read, hread, h⟩ := h
  have hunique : (Json.object read).uniqueKeys = true := by
    cases data with
    | none =>
        obtain rfl := Except.ok.inj hread
        simp [Json.uniqueKeys, Json.uniqueMembers]
    | some data => exact (jsonObject_ok.mp hread).2.2
  cases hget : OrderedMap.get read "services" with
  | none =>
      rw [hget] at h
      cases h
      exact hempty _ hget
  | some found =>
      rw [hget] at h
      cases found with
      | object secrets =>
          dsimp only at h
          split at h
          next hsecrets =>
            cases h
            have hservices : services value = secrets := by simp [services, hget]
            have hinner : (Json.object secrets).uniqueKeys = true := by
              rw [Json.uniqueKeys, Bool.and_eq_true] at hunique
              exact Json.uniqueMembers_iff.mp hunique.2 _ (mem_of_get hget)
            rw [Json.uniqueKeys, Bool.and_eq_true, decide_eq_true_eq] at hinner
            exact ⟨by rwa [hservices, ← List.all_eq_true], by rw [hservices]; exact hinner.1⟩
          next => cases h
      | _ => cases h

/-! ## Credentials -/

theorem ofText_value (provider : ProviderId) :
    ProviderId.ofText provider.value = some provider := by
  cases provider <;> rfl

theorem storedCredential_members (credential : StoredCredential rules) :
    storedCredential rules credential.members = some credential := by
  cases credential with
  | apiKey credential =>
      simp [storedCredential, StoredCredential.members, OrderedMap.get, apiKeyFields,
        apiKeyCredential, ofText_value, credential.notBlank]
  | oauth credential =>
      simp [storedCredential, StoredCredential.members, OrderedMap.get, oauthFields,
        oauthCredential, strictFloat, isOpenai, credential.valid]

theorem all_keys_congr {first second : Members F} (p : String → Bool)
    (hget : ∀ key, OrderedMap.get first key = OrderedMap.get second key) :
    (first.all fun member => p member.1) = second.all fun member => p member.1 := by
  have hkeys : ∀ members : Members F, (members.all fun member => p member.1) = true ↔
      ∀ key, (OrderedMap.get members key).isSome = true → p key = true := by
    intro members
    simp only [← OrderedMap.mem_keys_iff, List.all_eq_true, List.mem_map]
    constructor
    · rintro h key ⟨member, hmember, rfl⟩
      exact h member hmember
    · intro h member hmember
      exact h member.1 ⟨member, hmember, rfl⟩
  rw [Bool.eq_iff_iff, hkeys, hkeys]
  simp only [hget]

theorem storedCredential_congr {first second : Members F}
    (hget : ∀ key, OrderedMap.get first key = OrderedMap.get second key) :
    storedCredential rules first = storedCredential rules second := by
  have hapiKey := all_keys_congr apiKeyFields.contains hget
  have hoauth := all_keys_congr oauthFields.contains hget
  unfold storedCredential apiKeyCredential oauthCredential
  simp only [hget, hapiKey, hoauth]

theorem members_scalar (credential : StoredCredential rules) :
    ∀ member ∈ credential.members, member.2.isScalar = true := by
  cases credential <;> simp [StoredCredential.members, Json.isScalar]

theorem members_keys (credential : StoredCredential rules) :
    "services" ∉ credential.members.map (·.1) ∧ (credential.members.map (·.1)).Nodup := by
  cases credential <;> simp [StoredCredential.members]

/-! ## The round trip -/

theorem get_append {first second : Members F} {key : String} :
    OrderedMap.get (first ++ second) key =
      (OrderedMap.get first key).or (OrderedMap.get second key) := by
  unfold OrderedMap.get
  rw [List.find?_append]
  cases first.find? (·.1 = key) <;> simp

theorem get_of_not_mem {members : Members F} {key : String} (h : key ∉ members.map (·.1)) :
    OrderedMap.get members key = none := by
  have hnot := mt OrderedMap.mem_keys_iff.mpr h
  cases hget : OrderedMap.get members key with
  | none => rfl
  | some value => exact absurd (by rw [hget]; rfl) hnot

def credentialMembers (credential : Option (StoredCredential rules)) : Members F :=
  (credential.map StoredCredential.members).getD []

theorem credentialMembers_scalar (credential : Option (StoredCredential rules)) :
    ∀ member ∈ credentialMembers credential, member.2.isScalar = true := by
  cases credential with
  | none => simp [credentialMembers]
  | some credential => exact members_scalar credential

theorem credentialMembers_keys (credential : Option (StoredCredential rules)) :
    "services" ∉ (credentialMembers credential).map (·.1) ∧
      ((credentialMembers credential).map (·.1)).Nodup := by
  cases credential with
  | none => simp [credentialMembers]
  | some credential => exact members_keys credential

def servicesMembers (secrets : Members F) : Members F :=
  if secrets.isEmpty then [] else [("services", .object secrets)]

theorem authDocument_eq (credential : Option (StoredCredential rules)) (secrets : Members F) :
    authDocument credential secrets = credentialMembers credential ++ servicesMembers secrets := rfl

theorem get_servicesMembers (secrets : Members F) :
    OrderedMap.get (servicesMembers secrets) "services" =
      if secrets.isEmpty then none else some (.object secrets) := by
  unfold servicesMembers
  split <;> simp [OrderedMap.get]

theorem uniqueKeys_authDocument (credential : Option (StoredCredential rules))
    {secrets : Members F} (hsecrets : ∀ member ∈ secrets, isServiceSecret member = true)
    (hunique : (secrets.map (·.1)).Nodup) :
    (Json.object (authDocument credential secrets)).uniqueKeys = true := by
  obtain ⟨hservices, hnodup⟩ := credentialMembers_keys credential
  rw [Json.uniqueKeys, Bool.and_eq_true, decide_eq_true_eq, Json.uniqueMembers_iff, authDocument_eq]
  constructor
  · rw [List.map_append]
    refine hnodup.append ?_ ?_
    · unfold servicesMembers
      split <;> simp
    · intro key hkey hother
      unfold servicesMembers at hother
      split at hother
      · cases hother
      · rw [List.map_singleton, List.mem_singleton] at hother
        exact hservices (by rwa [hother] at hkey)
  · intro member hmember
    rcases List.mem_append.mp hmember with hmem | hmem
    · exact Json.uniqueKeys_scalar (credentialMembers_scalar credential member hmem)
    · unfold servicesMembers at hmem
      split at hmem
      · cases hmem
      · rw [List.mem_singleton.mp hmem]
        dsimp only
        rw [Json.uniqueKeys, Bool.and_eq_true, decide_eq_true_eq, Json.uniqueMembers_iff]
        exact ⟨hunique, fun secret hsecret =>
          Json.uniqueKeys_scalar (isServiceSecret_scalar (hsecrets secret hsecret))⟩

/-- What `credentialBytes` writes. -/
theorem credentialBytes_ok {credential : Option (StoredCredential rules)}
    {previous : Option Bytes} {data : Bytes}
    (h : credentialBytes format credential previous = .ok data) :
    ∃ value, authObject format previous = .ok value ∧
      jsonObject format data = .ok (Json.sortMembers (authDocument credential (services value))) := by
  unfold credentialBytes at h
  rw [bind_eq_ok] at h
  obtain ⟨value, hvalue, h⟩ := h
  obtain ⟨hsecrets, hunique⟩ := authObject_ok hvalue
  refine ⟨value, hvalue, ?_⟩
  split at h
  next => cases h
  next encoded hencoded =>
    split at h
    next => cases h
    next hsize =>
      cases h
      have hload := format.loads_dumpsSorted hencoded
      have hkeys := uniqueKeys_authDocument credential hsecrets hunique
      refine jsonObject_ok.mpr ⟨by omega, hload, ?_⟩
      have hsorted := Json.uniqueKeys_sortKeys _ hkeys
      rwa [Json.sortKeys] at hsorted

theorem get_services_sorted (credential : Option (StoredCredential rules)) (secrets : Members F) :
    OrderedMap.get (Json.sortMembers (authDocument credential secrets)) "services" =
      if secrets.isEmpty then none else some (.object (Json.sortMembers secrets)) := by
  have hnone := get_of_not_mem (credentialMembers_keys credential).1
  rw [Json.get_sortMembers, authDocument_eq, get_append, hnone, Option.none_or, get_servicesMembers]
  split <;> simp [Json.sortKeys]

theorem services_sorted (credential : Option (StoredCredential rules)) (secrets : Members F) :
    services (Json.sortMembers (authDocument credential secrets)) = Json.sortMembers secrets := by
  unfold services
  rw [get_services_sorted]
  cases secrets with
  | nil => rfl
  | cons secret secrets => rfl

theorem get_rest_sorted (credential : Option (StoredCredential rules)) (secrets : Members F)
    (key : String) :
    OrderedMap.get (OrderedMap.erase (Json.sortMembers (authDocument credential secrets))
      "services") key = OrderedMap.get (credentialMembers credential) key := by
  by_cases hkey : key = "services"
  · rw [hkey, OrderedMap.get_erase_self, get_of_not_mem (credentialMembers_keys credential).1]
  · have hnone : OrderedMap.get (servicesMembers secrets) key = none := by
      unfold servicesMembers
      split <;> simp [OrderedMap.get, Ne.symm hkey]
    rw [OrderedMap.get_erase_of_ne hkey, Json.get_sortMembers, authDocument_eq, get_append, hnone,
      Option.or_none]
    cases hget : OrderedMap.get (credentialMembers credential) key with
    | none => rfl
    | some value =>
        have hscalar := credentialMembers_scalar credential _ (mem_of_get hget)
        rw [Option.map_some, Json.sortKeys_scalar hscalar]

theorem authObject_written {credential : Option (StoredCredential rules)}
    {previous : Option Bytes} {data : Bytes}
    (h : credentialBytes format credential previous = .ok data) :
    ∃ value, authObject format previous = .ok value ∧ authObject format (some data) =
      .ok (Json.sortMembers (authDocument credential (services value))) := by
  obtain ⟨value, hvalue, hread⟩ := credentialBytes_ok h
  have hsecrets := (authObject_ok hvalue).secrets
  refine ⟨value, hvalue, ?_⟩
  unfold authObject
  rw [bind_eq_ok]
  refine ⟨_, hread, ?_⟩
  rw [get_services_sorted]
  split
  next => rfl
  next secrets heq =>
    split at heq
    · cases heq
    · obtain ⟨rfl⟩ := heq
      have hall : (Json.sortMembers (services value)).all isServiceSecret = true := by
        have hscalar := fun member hmember =>
          isServiceSecret_scalar (hsecrets member hmember)
        rw [(Json.perm_sortMembers hscalar).all_eq, List.all_eq_true]
        exact hsecrets
      rw [if_pos hall]
      rfl
  next other hnot heq =>
    split at heq
    · cases heq
    · obtain ⟨rfl⟩ := heq
      exact absurd rfl (hnot _)

theorem parseCredential_written {credential : Option (StoredCredential rules)}
    {previous : Option Bytes} {data : Bytes}
    (h : credentialBytes format credential previous = .ok data) :
    parseCredential format rules data = .ok credential := by
  obtain ⟨value, -, hauth⟩ := authObject_written h
  have hget := get_rest_sorted credential (services value)
  unfold parseCredential
  rw [hauth]
  dsimp only
  cases credential with
  | none =>
      have hempty : OrderedMap.erase (Json.sortMembers
          (authDocument (none : Option (StoredCredential rules)) (services value))) "services" =
          [] := by
        refine List.eq_nil_iff_forall_not_mem.mpr fun member hmember => ?_
        have hsome := OrderedMap.mem_keys_iff.mp (List.mem_map_of_mem (f := (·.1)) hmember)
        rw [hget] at hsome
        cases hsome
      rw [hempty]
      rfl
  | some credential =>
      have hstored : storedCredential rules (OrderedMap.erase (Json.sortMembers
          (authDocument (some credential) (services value))) "services") = some credential := by
        rw [storedCredential_congr hget]
        exact storedCredential_members credential
      have hne : (OrderedMap.erase (Json.sortMembers
          (authDocument (some credential) (services value))) "services").isEmpty = false := by
        cases hrest : OrderedMap.erase (Json.sortMembers
            (authDocument (some credential) (services value))) "services" with
        | nil =>
            rw [hrest] at hstored
            cases hstored
        | cons member members => rfl
      rw [hne, hstored]
      rfl

theorem services_written {credential : Option (StoredCredential rules)}
    {previous : Option Bytes} {data : Bytes}
    (h : credentialBytes format credential previous = .ok data) :
    ∃ before after, authObject format previous = .ok before ∧
      authObject format (some data) = .ok after ∧
      ∀ key, OrderedMap.get (services after) key = OrderedMap.get (services before) key := by
  obtain ⟨value, hvalue, hauth⟩ := authObject_written h
  have hsecrets := (authObject_ok hvalue).secrets
  refine ⟨value, _, hvalue, hauth, fun key => ?_⟩
  rw [services_sorted, Json.get_sortMembers]
  cases hget : OrderedMap.get (services value) key with
  | none => rfl
  | some secret =>
      have hscalar := isServiceSecret_scalar (hsecrets _ (mem_of_get hget))
      rw [Option.map_some, Json.sortKeys_scalar hscalar]

theorem authObject_read {data : Bytes} {value : Members F}
    (h : authObject format (some data) = .ok value) : jsonObject format data = .ok value := by
  unfold authObject at h
  rw [bind_eq_ok] at h
  obtain ⟨read, hread, h⟩ := h
  have hsame : read = value := by
    split at h
    next => exact Except.ok.inj h
    next =>
      split at h
      · exact Except.ok.inj h
      · cases h
    next => cases h
  rw [← hsame]
  exact hread

end Hybro.RuntimeFiles
