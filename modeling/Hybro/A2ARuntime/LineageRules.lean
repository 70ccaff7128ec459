import Mathlib.Data.List.Nodup
import Hybro.A2ARuntime.Lineage

/-! # Whether the ids follow the aliases

An alias stays once it is bound, and a kind has one at most. The ids of the call follow the
aliases in every run in which nothing provisional is applied over a bound alias, and in no
other: a record may be checked before the alias is bound and applied after it.
-/

namespace Hybro.A2ARuntime

open Orchestrator PythonList

variable {resultDigest : ToolResult → String} {call next : AgentCallLedgerRecord}
variable {observation : NormalizedA2AObservation} {recentLimit : Nat}

/-! ## Binding -/

section Binding

variable {scope : String} {aliases bound : List A2AOwnershipAlias} {kind : AliasKind}
variable {value : Option String} {given : AliasKind → Option String}

theorem not_isAuthoritative {value : String} :
    isAuthoritative value = false ↔ value = "" ∨ isProvisional value = true := by
  simp only [isAuthoritative, Bool.and_eq_false_iff, decide_eq_false_iff_not, not_not,
    Bool.not_eq_false']

theorem isProvisional_ne_empty {value : String} (h : isProvisional value = true) : value ≠ "" := by
  intro hempty
  rw [hempty] at h
  revert h
  decide

theorem find_of_single (hsingle : (aliases.map (·.kind)).Nodup) {ownership : A2AOwnershipAlias}
    (hmem : ownership ∈ aliases) (hkind : ownership.kind = kind) :
    aliases.find? (fun bound => bound.kind = kind) = some ownership := by
  cases hfind : aliases.find? (fun bound => bound.kind = kind) with
  | none =>
      have hnone := List.find?_eq_none.mp hfind ownership hmem
      simp [hkind] at hnone
  | some other =>
      have hother : other.kind = kind := by simpa using List.find?_some hfind
      have hsame : other.kind = ownership.kind := hother.trans hkind.symm
      rw [List.inj_on_of_nodup_map hsingle (List.mem_of_find?_eq_some hfind) hmem hsame]

/-- What a list of aliases becomes: what was there stays, and what is new was given. -/
structure Binds (scope : String) (aliases : List A2AOwnershipAlias)
    (given : AliasKind → Option String) (bound : List A2AOwnershipAlias) : Prop where
  kept : ∀ ownership ∈ aliases, ownership ∈ bound
  single : (bound.map (·.kind)).Nodup
  origin : ∀ ownership ∈ bound, ownership ∈ aliases ∨
    (given ownership.kind = some ownership.value ∧ isAuthoritative ownership.value = true ∧
      ownership.bindingScope = scope ∧ ownership.authoritative = true)

/-- The given id of one kind does not contradict its alias. -/
def FitsKind (aliases : List A2AOwnershipAlias) (kind : AliasKind) (value : Option String) : Prop :=
  ∀ ownership ∈ aliases, ownership.kind = kind → ∀ given, value = some given →
    isAuthoritative given = true → given = ownership.value

theorem Binds.refl (hsingle : (aliases.map (·.kind)).Nodup) : Binds scope aliases given aliases :=
  ⟨fun _ hmem => hmem, hsingle, fun _ hmem => Or.inl hmem⟩

theorem bindAlias_binds (hsingle : (aliases.map (·.kind)).Nodup)
    (h : bindAlias scope kind (given kind) aliases = .ok bound) :
    FitsKind aliases kind (given kind) ∧ Binds scope aliases given bound := by
  cases hvalue : given kind with
  | none =>
      rw [hvalue] at h
      cases h
      refine ⟨?_, Binds.refl hsingle⟩
      intro _ _ _ _ hgiven
      cases hgiven
  | some value =>
      rw [hvalue] at h
      simp only [bindAlias] at h
      cases hauthoritative : isAuthoritative value with
      | false =>
          rw [if_pos (not_isAuthoritative.mp hauthoritative)] at h
          cases h
          refine ⟨?_, Binds.refl hsingle⟩
          intro ownership _ _ given hgiven hother
          rw [← Option.some.inj hgiven, hauthoritative] at hother
          cases hother
      | true =>
          have hnot : ¬ (value = "" ∨ isProvisional value = true) := by
            rw [← not_isAuthoritative, hauthoritative]
            exact Bool.true_eq_false_eq_False
          rw [if_neg hnot] at h
          cases hfind : aliases.find? (fun bound => bound.kind = kind) with
          | none =>
              rw [hfind] at h
              cases h
              have hfree : ∀ ownership ∈ aliases, ownership.kind ≠ kind := by
                intro ownership hmem
                simpa using List.find?_eq_none.mp hfind ownership hmem
              refine ⟨fun ownership hmem hkind => absurd hkind (hfree ownership hmem), ?_, ?_, ?_⟩
              · exact fun _ hmem => List.mem_append_left _ hmem
              · rw [List.map_append, List.map_singleton, List.nodup_append]
                refine ⟨hsingle, List.nodup_singleton _, ?_⟩
                intro first hfirst last hlast
                obtain ⟨ownership, hmem, rfl⟩ := List.mem_map.mp hfirst
                rw [List.mem_singleton.mp hlast]
                exact hfree ownership hmem
              · intro ownership hmem
                apply (List.mem_append.mp hmem).imp_right
                intro hlast
                rw [List.mem_singleton.mp hlast]
                exact ⟨hvalue, hauthoritative, rfl, rfl⟩
          | some other =>
              rw [hfind] at h
              by_cases hsame : other = ⟨kind, value, scope, true⟩
              · simp only [if_pos hsame] at h
                cases h
                refine ⟨?_, Binds.refl hsingle⟩
                intro ownership hmem hkind given hgiven _
                have hfound := find_of_single hsingle hmem hkind
                rw [hfind] at hfound
                rw [← Option.some.inj hfound, hsame]
                exact (Option.some.inj hgiven).symm
              · simp only [if_neg hsame] at h
                cases h

theorem bindAlias_ok (hscope : ∀ ownership ∈ aliases,
      ownership.bindingScope = scope ∧ ownership.authoritative = true)
    (hfits : FitsKind aliases kind value) : ∃ bound, bindAlias scope kind value aliases = .ok bound := by
  cases value with
  | none => exact ⟨aliases, rfl⟩
  | some value =>
      simp only [bindAlias]
      cases hauthoritative : isAuthoritative value with
      | false =>
          rw [if_pos (not_isAuthoritative.mp hauthoritative)]
          exact ⟨aliases, rfl⟩
      | true =>
          have hnot : ¬ (value = "" ∨ isProvisional value = true) := by
            rw [← not_isAuthoritative, hauthoritative]
            exact Bool.true_eq_false_eq_False
          rw [if_neg hnot]
          cases hfind : aliases.find? (fun bound => bound.kind = kind) with
          | none => exact ⟨_, rfl⟩
          | some other =>
              have hmem := List.mem_of_find?_eq_some hfind
              have hkind : other.kind = kind := by simpa using List.find?_some hfind
              have hvalue := hfits other hmem hkind value rfl hauthoritative
              have hsame : other = ⟨kind, value, scope, true⟩ := by
                obtain ⟨hother, htrue⟩ := hscope other hmem
                cases other
                simp_all
              exact ⟨aliases, if_pos hsame⟩

theorem bindAlias_there {value : String} (hauthoritative : isAuthoritative value = true)
    (h : bindAlias scope kind (some value) aliases = .ok bound) :
    ∃ ownership ∈ bound, ownership.kind = kind := by
  have hnot : ¬ (value = "" ∨ isProvisional value = true) := by
    rw [← not_isAuthoritative, hauthoritative]
    exact Bool.true_eq_false_eq_False
  simp only [bindAlias, if_neg hnot] at h
  cases hfind : aliases.find? (fun bound => bound.kind = kind) with
  | none =>
      rw [hfind] at h
      cases h
      exact ⟨_, List.mem_append_right _ (List.mem_singleton.mpr rfl), rfl⟩
  | some other =>
      rw [hfind] at h
      have hkind : other.kind = kind := by simpa using List.find?_some hfind
      by_cases hsame : other = ⟨kind, value, scope, true⟩
      · simp only [if_pos hsame] at h
        cases h
        exact ⟨other, List.mem_of_find?_eq_some hfind, hkind⟩
      · simp only [if_neg hsame] at h
        cases h

theorem Binds.trans {middle : List A2AOwnershipAlias} (h : Binds scope aliases given middle)
    (hnext : Binds scope middle given bound) : Binds scope aliases given bound where
  kept := fun ownership hmem => hnext.kept ownership (h.kept ownership hmem)
  single := hnext.single
  origin := fun ownership hmem => (hnext.origin ownership hmem).elim (h.origin ownership) Or.inr

end Binding

section Both

variable {taskId contextId : Option String} {bound : List A2AOwnershipAlias}

theorem bindAuthoritativeAliases_binds (hsingle : (call.ownershipAliases.map (·.kind)).Nodup)
    (h : bindAuthoritativeAliases call taskId contextId = .ok bound) :
    Fits call.ownershipAliases (idOf taskId contextId) ∧
      Binds call.endpointScopeDigest call.ownershipAliases (idOf taskId contextId) bound := by
  unfold bindAuthoritativeAliases at h
  cases htask : bindAlias call.endpointScopeDigest .task taskId call.ownershipAliases with
  | error error =>
      rw [htask] at h
      cases h
  | ok withTask =>
      rw [htask] at h
      have htaskGiven : bindAlias call.endpointScopeDigest .task (idOf taskId contextId .task)
        call.ownershipAliases = .ok withTask := htask
      obtain ⟨hfitsTask, hfirst⟩ := bindAlias_binds hsingle htaskGiven
      have hcontextGiven : bindAlias call.endpointScopeDigest .context
        (idOf taskId contextId .context) withTask = .ok bound := h
      obtain ⟨hfitsContext, hsecond⟩ := bindAlias_binds hfirst.single hcontextGiven
      refine ⟨?_, hfirst.trans hsecond⟩
      intro ownership hmem value hgiven hauthoritative
      cases hkind : ownership.kind with
      | task =>
          rw [hkind] at hgiven
          exact hfitsTask ownership hmem hkind value hgiven hauthoritative
      | context =>
          rw [hkind] at hgiven
          have hthere := hfirst.kept ownership hmem
          exact hfitsContext ownership hthere hkind value hgiven hauthoritative
      | relayJournal =>
          rw [hkind] at hgiven
          cases hgiven

theorem bindAuthoritativeAliases_task (hsingle : (call.ownershipAliases.map (·.kind)).Nodup)
    (h : bindAuthoritativeAliases call taskId contextId = .ok bound)
    (htask : taskId.any isAuthoritative = true) : ∃ ownership ∈ bound, ownership.kind = .task := by
  unfold bindAuthoritativeAliases at h
  cases hfirst : bindAlias call.endpointScopeDigest .task taskId call.ownershipAliases with
  | error error =>
      rw [hfirst] at h
      cases h
  | ok withTask =>
      rw [hfirst] at h
      obtain ⟨value, hvalue, hauthoritative⟩ :
          ∃ value, taskId = some value ∧ isAuthoritative value = true := by
        cases taskId with
        | none => cases htask
        | some value => exact ⟨value, rfl, htask⟩
      have htaskGiven : bindAlias call.endpointScopeDigest .task (idOf taskId contextId .task)
        call.ownershipAliases = .ok withTask := hfirst
      have hcontextGiven : bindAlias call.endpointScopeDigest .context
        (idOf taskId contextId .context) withTask = .ok bound := h
      have hbinds := (bindAlias_binds hsingle htaskGiven).2
      rw [hvalue] at hfirst
      obtain ⟨ownership, hmem, hkind⟩ := bindAlias_there hauthoritative hfirst
      have hkept := (bindAlias_binds hbinds.single hcontextGiven).2.kept
      exact ⟨ownership, hkept ownership hmem, hkind⟩

theorem bindAuthoritativeAliases_ok (hagrees : call.Agrees)
    (hfits : Fits call.ownershipAliases (idOf taskId contextId)) :
    ∃ bound, bindAuthoritativeAliases call taskId contextId = .ok bound := by
  have hfitsTask : FitsKind call.ownershipAliases .task (idOf taskId contextId .task) := by
    intro ownership hmem hkind value hgiven hauthoritative
    exact hfits ownership hmem value (hkind ▸ hgiven) hauthoritative
  obtain ⟨withTask, htask⟩ := bindAlias_ok hagrees.inScope hfitsTask
  obtain ⟨-, hfirst⟩ := bindAlias_binds hagrees.single htask
  have hscope : ∀ ownership ∈ withTask,
      ownership.bindingScope = call.endpointScopeDigest ∧ ownership.authoritative = true := by
    intro ownership hmem
    cases hfirst.origin ownership hmem with
    | inl hold => exact hagrees.inScope ownership hold
    | inr hnew => exact hnew.2.2
  have hfitsContext : FitsKind withTask .context (idOf taskId contextId .context) := by
    intro ownership hmem hkind value hgiven hauthoritative
    cases hfirst.origin ownership hmem with
    | inl hold => exact hfits ownership hold value (hkind ▸ hgiven) hauthoritative
    | inr hnew =>
        rw [hkind, hgiven] at hnew
        exact Option.some.inj hnew.1
  obtain ⟨bound, hcontext⟩ := bindAlias_ok hscope hfitsContext
  refine ⟨bound, ?_⟩
  have htaskGiven : bindAlias call.endpointScopeDigest .task taskId call.ownershipAliases =
    .ok withTask := htask
  unfold bindAuthoritativeAliases
  rw [htaskGiven]
  exact hcontext

end Both

/-! ## One application -/

theorem idOf_orElse (taskId contextId task context : Option String) (kind : AliasKind) :
    idOf (orElse taskId task) (orElse contextId context) kind =
      orElse (idOf taskId contextId kind) (idOf task context kind) := by
  cases kind <;> rfl

structure Attends (call : AgentCallLedgerRecord) (observation : NormalizedA2AObservation) : Prop where
  fresh : observation.observationId ∉ call.recentObservationIds
  live : call.state.isTerminal = false
  canceling : ¬ (call.state = .cancelPending ∧
    ¬ (observation.eventKind = .terminal ∧ observation.status = some .canceled))
  dispatched : ¬ (observation.eventKind.isProgress = true ∧
    call.state ∈ [.accepted, .readyToDispatch])

def Moves (call : AgentCallLedgerRecord) (observation : NormalizedA2AObservation) : Prop :=
  if observation.eventKind.isInteraction then Legal call.state .continuationPending
  else observation.eventKind.isProgress = true ∨
    ∃ status, observation.status = some status ∧ Legal call.state (callStateOf status)

structure Notes (call : AgentCallLedgerRecord) (observation : NormalizedA2AObservation) : Prop where
  attends : Attends call observation
  moves : Moves call observation
  fits : Fits call.ownershipAliases observation.a2aId

structure Takes (call : AgentCallLedgerRecord) (observation : NormalizedA2AObservation)
    (next : AgentCallLedgerRecord) : Prop where
  bound : bindAuthoritativeAliases call observation.taskId observation.contextId =
    .ok next.ownershipAliases
  scope : next.endpointScopeDigest = call.endpointScopeDigest
  ids : ∀ kind, next.a2aId kind = orElse (observation.a2aId kind) (call.a2aId kind)

theorem applyObservation_open (h : Attends call observation) :
    applyObservation resultDigest call observation recentLimit =
      observeOpen resultDigest call observation recentLimit := by
  rw [applyObservation, if_neg h.fresh, if_neg (by simp [h.live]), if_neg h.canceling,
    if_neg h.dispatched]

theorem applyObservation_shut (h : ¬ Attends call observation)
    (hok : applyObservation resultDigest call observation recentLimit = .ok next) : next = call := by
  unfold applyObservation at hok
  split at hok
  · exact (Except.ok.inj hok).symm
  · rename_i hfresh
    cases hlive : call.state.isTerminal with
    | true =>
        rw [hlive, if_pos rfl] at hok
        exact observeTerminal_ok hok
    | false =>
        rw [hlive, if_neg Bool.false_ne_true] at hok
        split at hok
        · exact (Except.ok.inj hok).symm
        · rename_i hcanceling
          split at hok
          · exact (Except.ok.inj hok).symm
          · rename_i hdispatched
            exact absurd ⟨hfresh, hlive, hcanceling, hdispatched⟩ h

theorem transitionCall_takes {updates : CallUpdates} {toState : AgentCallState} {updatedAt : Timestamp}
    {aliases : List A2AOwnershipAlias}
    (hbound : bindAuthoritativeAliases call observation.taskId observation.contextId = .ok aliases)
    (haliases : updates.ownershipAliases = some aliases)
    (htask : updates.a2aTaskId = some (orElse observation.taskId call.a2aTaskId))
    (hcontext : updates.a2aContextId = some (orElse observation.contextId call.a2aContextId))
    (hlegal : Legal call.state toState) :
    ∃ next, transitionCall call toState updatedAt updates = .ok next ∧
      Takes call observation next := by
  refine ⟨_, transitionCall_eq_ok.mpr ⟨hlegal, rfl⟩, ?_⟩
  have hclosing : (updates.closing toState updatedAt).ownershipAliases = updates.ownershipAliases ∧
      (updates.closing toState updatedAt).a2aTaskId = updates.a2aTaskId ∧
      (updates.closing toState updatedAt).a2aContextId = updates.a2aContextId := by
    unfold CallUpdates.closing
    split <;> exact ⟨rfl, rfl, rfl⟩
  obtain ⟨hclosed, hclosedTask, hclosedContext⟩ := hclosing
  constructor
  · simp only [CallUpdates.overlay, hclosed, haliases, Option.getD_some]
    exact hbound
  · rfl
  · intro kind
    rw [AgentCallLedgerRecord.a2aId, NormalizedA2AObservation.a2aId, AgentCallLedgerRecord.a2aId,
      ← idOf_orElse]
    simp only [CallUpdates.overlay, hclosedTask, hclosedContext, htask, hcontext, Option.getD_some]

theorem observeOpen_takes (hagrees : call.Agrees) (hmoves : Moves call observation)
    (hfits : Fits call.ownershipAliases observation.a2aId) :
    ∃ next, observeOpen resultDigest call observation recentLimit = .ok next ∧
      Takes call observation next := by
  obtain ⟨aliases, hbound⟩ := bindAuthoritativeAliases_ok hagrees hfits
  simp only [observeOpen, hbound, bind, Except.bind]
  unfold Moves at hmoves
  cases hasks : observation.eventKind.isInteraction with
  | true =>
      rw [hasks, if_pos rfl] at hmoves
      exact transitionCall_takes hbound rfl rfl rfl hmoves
  | false =>
      rw [hasks, if_neg Bool.false_ne_true] at hmoves
      simp only [Bool.false_eq_true, if_false]
      cases hprogress : observation.eventKind.isProgress with
      | true =>
          simp only [if_true]
          by_cases hstarts : call.state ∈ [.dispatching, .deliveryUncertain, .resuming]
          · have hlegal : Legal call.state .working := by
              simp only [List.mem_cons, List.not_mem_nil, or_false] at hstarts
              obtain hstate | hstate | hstate := hstarts <;> rw [hstate] <;> decide
            rw [if_pos hstarts]
            exact transitionCall_takes hbound rfl rfl rfl hlegal
          · rw [if_neg hstarts]
            refine ⟨_, rfl, hbound, rfl, ?_⟩
            intro kind
            exact idOf_orElse _ _ _ _ kind
      | false =>
          simp only [Bool.false_eq_true, if_false]
          obtain hother | ⟨status, hstatus, hlegal⟩ := hmoves
          · rw [hprogress] at hother
            cases hother
          · simp only [hstatus]
            exact transitionCall_takes hbound rfl rfl rfl hlegal

theorem observeOpen_notes (hagrees : call.Agrees)
    (h : observeOpen resultDigest call observation recentLimit = .ok next) :
    Moves call observation ∧ Fits call.ownershipAliases observation.a2aId := by
  cases hbound : bindAuthoritativeAliases call observation.taskId observation.contextId with
  | error error =>
      simp only [observeOpen, hbound, bind, Except.bind] at h
      cases h
  | ok aliases =>
      refine ⟨?_, (bindAuthoritativeAliases_binds hagrees.single hbound).1⟩
      simp only [observeOpen, hbound, bind, Except.bind] at h
      unfold Moves
      cases hasks : observation.eventKind.isInteraction with
      | true =>
          rw [hasks, if_pos rfl] at h
          rw [if_pos rfl]
          exact (transitionCall_eq_ok.mp h).1
      | false =>
          rw [hasks, if_neg Bool.false_ne_true] at h
          rw [if_neg Bool.false_ne_true]
          cases hprogress : observation.eventKind.isProgress with
          | true => exact Or.inl rfl
          | false =>
              rw [hprogress, if_neg Bool.false_ne_true] at h
              cases hstatus : observation.status with
              | none =>
                  rw [hstatus] at h
                  cases h
              | some status =>
                  rw [hstatus] at h
                  exact Or.inr ⟨status, rfl, (transitionCall_eq_ok.mp h).1⟩

theorem applyObservation_ids (hagrees : call.Agrees) (observation : NormalizedA2AObservation)
    (recentLimit : Nat) :
    (Notes call observation → Takes call observation
      (written call (applyObservation resultDigest call observation recentLimit))) ∧
    (¬ Notes call observation →
      written call (applyObservation resultDigest call observation recentLimit) = call) := by
  constructor
  · intro hnotes
    obtain ⟨next, hopen, htakes⟩ := observeOpen_takes hagrees hnotes.moves hnotes.fits
    rw [applyObservation_open hnotes.attends, hopen]
    exact htakes
  · intro hnotes
    cases happly : applyObservation resultDigest call observation recentLimit with
    | error error => rfl
    | ok next =>
        by_cases hattends : Attends call observation
        · rw [applyObservation_open hattends] at happly
          obtain ⟨hmoves, hfits⟩ := observeOpen_notes hagrees happly
          exact absurd ⟨hattends, hmoves, hfits⟩ hnotes
        · exact applyObservation_shut hattends happly

/-! ## One move -/

theorem orElse_some {value : String} (h : value ≠ "") (second : Option String) :
    orElse (some value) second = some value := by
  simp [orElse, truthy, h]

theorem AgentCallLedgerRecord.Agrees.value (h : call.Agrees) {ownership : A2AOwnershipAlias}
    (hmem : ownership ∈ call.ownershipAliases) :
    ownership.value ≠ "" ∧ isProvisional ownership.value = false := by
  have hlasting := h.lasting ownership hmem
  simpa [isAuthoritative] using hlasting

theorem Binds.agrees (h : call.Agrees) {given : AliasKind → Option String}
    (hbinds : Binds call.endpointScopeDigest call.ownershipAliases given next.ownershipAliases)
    (hscope : next.endpointScopeDigest = call.endpointScopeDigest)
    (hnamed : ∀ ownership ∈ next.ownershipAliases,
      next.a2aId ownership.kind = some ownership.value) : next.Agrees := by
  constructor
  · exact hbinds.single
  · exact hnamed
  · intro ownership hmem
    cases hbinds.origin ownership hmem with
    | inl hold => exact h.lasting ownership hold
    | inr hnew => exact hnew.2.1
  · intro ownership hmem
    rw [hscope]
    cases hbinds.origin ownership hmem with
    | inl hold => exact h.inScope ownership hold
    | inr hnew => exact hnew.2.2

def GivesLasting (call : AgentCallLedgerRecord) (given : AliasKind → Option String) : Prop :=
  ∀ ownership ∈ call.ownershipAliases, ∀ value, given ownership.kind = some value →
    isProvisional value = false

theorem Takes.binds (h : Takes call observation next) (hagrees : call.Agrees) :
    Fits call.ownershipAliases observation.a2aId ∧
      Binds call.endpointScopeDigest call.ownershipAliases observation.a2aId
        next.ownershipAliases :=
  bindAuthoritativeAliases_binds hagrees.single h.bound

theorem Takes.agrees_iff (h : Takes call observation next) (hagrees : call.Agrees) :
    next.Agrees ↔ GivesLasting call observation.a2aId := by
  obtain ⟨hfits, hbinds⟩ := h.binds hagrees
  constructor
  · intro hnext ownership hmem value hgiven
    cases hprovisional : isProvisional value with
    | false => rfl
    | true =>
        have hnamed := hnext.named ownership (hbinds.kept ownership hmem)
        rw [h.ids, hgiven, orElse_some (isProvisional_ne_empty hprovisional)] at hnamed
        have hlasting := (hagrees.value hmem).2
        rw [← Option.some.inj hnamed, hprovisional] at hlasting
        cases hlasting
  · intro hlasting
    apply hbinds.agrees hagrees h.scope
    intro ownership hmem
    rw [h.ids]
    cases hbinds.origin ownership hmem with
    | inr hnew =>
        have hshape : ownership.value ≠ "" ∧ isProvisional ownership.value = false := by
          simpa [isAuthoritative] using hnew.2.1
        rw [hnew.1, orElse_some hshape.1]
    | inl hold =>
        have hnamed := hagrees.named ownership hold
        cases hgiven : observation.a2aId ownership.kind with
        | none => exact hnamed
        | some value =>
            by_cases hempty : value = ""
            · rw [hempty]
              exact hnamed
            · have hprovisional := hlasting ownership hold value hgiven
              have hvalue := hfits ownership hold value hgiven (by
                simp [isAuthoritative, hempty, hprovisional])
              rw [orElse_some hempty, hvalue]

/-- An id is given where another one is bound: the check of the ingress fails on it. -/
def Mismatched (call : AgentCallLedgerRecord) (given : AliasKind → Option String) : Prop :=
  ∃ ownership ∈ call.ownershipAliases, differs (given ownership.kind) ownership.value = true

def Blank (call : AgentCallLedgerRecord) (given : AliasKind → Option String) : Prop :=
  ∃ ownership ∈ call.ownershipAliases, given ownership.kind = some ""

/-- Nothing is given that the call does not have. -/
def Repeats (call : AgentCallLedgerRecord) (given : AliasKind → Option String) : Prop :=
  ∀ kind value, given kind = some value → value = "" ∨ call.a2aId kind = some value

theorem mismatched_iff (hagrees : call.Agrees) {given : AliasKind → Option String}
    (hfits : Fits call.ownershipAliases given) (hlasting : GivesLasting call given) :
    Mismatched call given ↔ Blank call given := by
  constructor
  · intro hmismatched
    obtain ⟨ownership, hmem, hdiffers⟩ := hmismatched
    refine ⟨ownership, hmem, ?_⟩
    simp only [differs, Bool.and_eq_true, decide_eq_true_eq] at hdiffers
    cases hgiven : given ownership.kind with
    | none => exact absurd hgiven hdiffers.1
    | some value =>
        by_cases hempty : value = ""
        · rw [hempty]
        · have hprovisional := hlasting ownership hmem value hgiven
          have hvalue := hfits ownership hmem value hgiven (by
            simp [isAuthoritative, hempty, hprovisional])
          rw [hgiven, hvalue] at hdiffers
          exact absurd rfl hdiffers.2
  · intro hblank
    obtain ⟨ownership, hmem, hempty⟩ := hblank
    refine ⟨ownership, hmem, ?_⟩
    have hvalue := (hagrees.value hmem).1
    simp [differs, hempty, hvalue.symm]

theorem orElse_eq_iff (call : AgentCallLedgerRecord) (given : AliasKind → Option String) :
    (∀ kind, orElse (given kind) (call.a2aId kind) = call.a2aId kind) ↔ Repeats call given := by
  constructor
  · intro h kind value hgiven
    have hkind := h kind
    by_cases hempty : value = ""
    · exact Or.inl hempty
    · rw [hgiven, orElse_some hempty] at hkind
      exact Or.inr hkind.symm
  · intro h kind
    cases hgiven : given kind with
    | none => rfl
    | some value =>
        by_cases hempty : value = ""
        · rw [hempty]
          rfl
        · rw [orElse_some hempty]
          exact ((h kind value hgiven).resolve_left hempty).symm

structure Accepts (call : AgentCallLedgerRecord) (taskId contextId : Option String) : Prop where
  legal : Legal call.state .working
  fits : Fits call.ownershipAliases (idOf taskId contextId)
  task : (∃ ownership ∈ call.ownershipAliases, ownership.kind = .task) ∨
    taskId.any isAuthoritative = true

/-- The move does nothing to the ids that it should not. -/
def Evidence.Follows (evidence next : Evidence) : EvidenceMove → Prop
  | .apply _ prepared _ =>
      next.call.Agrees ∧ (Mismatched evidence.call prepared.a2aId →
        ∀ kind, next.call.a2aId kind = evidence.call.a2aId kind)
  | _ => next.call.Agrees

/-- What a move may ask of the call: an observation that is noted gives nothing provisional where
an id is bound, and nothing new beside an empty id; an accepted dispatch names what is bound. -/
def Evidence.Meets (evidence : Evidence) : EvidenceMove → Prop
  | .apply _ prepared _ => Notes evidence.call prepared →
      GivesLasting evidence.call prepared.a2aId ∧
        (Blank evidence.call prepared.a2aId → Repeats evidence.call prepared.a2aId)
  | .accept taskId contextId _ => Accepts evidence.call taskId contextId →
      ∀ ownership ∈ evidence.call.ownershipAliases,
        idOf taskId contextId ownership.kind = some ownership.value
  | _ => True

theorem apply_follows (hagrees : call.Agrees) (observation : NormalizedA2AObservation)
    (recentLimit : Nat) (result : AgentCallLedgerRecord)
    (hresult : written call (applyObservation resultDigest call observation recentLimit) = result) :
    (∀ ownership ∈ call.ownershipAliases, ownership ∈ result.ownershipAliases) ∧
    ((result.Agrees ∧ (Mismatched call observation.a2aId →
        ∀ kind, result.a2aId kind = call.a2aId kind)) ↔
      (Notes call observation → GivesLasting call observation.a2aId ∧
        (Blank call observation.a2aId → Repeats call observation.a2aId))) := by
  obtain ⟨hnoted, hshut⟩ := @applyObservation_ids resultDigest call hagrees observation recentLimit
  by_cases hnotes : Notes call observation
  · have htakes := hnoted hnotes
    rw [hresult] at htakes
    obtain ⟨hfits, hbinds⟩ := htakes.binds hagrees
    refine ⟨hbinds.kept, ?_⟩
    constructor
    · intro h _
      have hlasting := (htakes.agrees_iff hagrees).mp h.1
      refine ⟨hlasting, ?_⟩
      intro hblank
      have hsame := h.2 ((mismatched_iff hagrees hfits hlasting).mpr hblank)
      apply (orElse_eq_iff call observation.a2aId).mp
      intro kind
      rw [← htakes.ids]
      exact hsame kind
    · intro h
      obtain ⟨hlasting, hrepeats⟩ := h hnotes
      refine ⟨(htakes.agrees_iff hagrees).mpr hlasting, ?_⟩
      intro hmismatched kind
      have hblank := (mismatched_iff hagrees hfits hlasting).mp hmismatched
      rw [htakes.ids]
      exact (orElse_eq_iff call observation.a2aId).mpr (hrepeats hblank) kind
  · have hsame : result = call := hresult.symm.trans (hshut hnotes)
    rw [hsame]
    refine ⟨fun _ hmem => hmem, ?_⟩
    constructor
    · exact fun _ hnotes' => absurd hnotes' hnotes
    · exact fun _ => ⟨hagrees, fun _ _ => rfl⟩

theorem acceptDispatch_cases (hagrees : call.Agrees) (taskId contextId : Option String)
    (now : Timestamp) :
    (Accepts call taskId contextId →
      ∃ result, acceptDispatch call taskId contextId now = .ok result ∧
        bindAuthoritativeAliases call taskId contextId = .ok result.ownershipAliases ∧
        result.endpointScopeDigest = call.endpointScopeDigest ∧
        result.a2aId = idOf taskId contextId) ∧
    (¬ Accepts call taskId contextId →
      written call (acceptDispatch call taskId contextId now) = call) := by
  cases hbound : bindAuthoritativeAliases call taskId contextId with
  | error error =>
      constructor
      · intro haccepts
        obtain ⟨bound, hok⟩ := bindAuthoritativeAliases_ok hagrees haccepts.fits
        rw [hok] at hbound
        cases hbound
      · intro _
        simp only [acceptDispatch, hbound, bind, Except.bind, written]
  | ok aliases =>
      obtain ⟨hfits, hbinds⟩ := bindAuthoritativeAliases_binds hagrees.single hbound
      have htask : aliases.any (·.kind = .task) = true ↔
          (∃ ownership ∈ call.ownershipAliases, ownership.kind = .task) ∨
            taskId.any isAuthoritative = true := by
        simp only [List.any_eq_true, decide_eq_true_eq]
        constructor
        · intro hthere
          obtain ⟨ownership, hmem, hkind⟩ := hthere
          cases hbinds.origin ownership hmem with
          | inl hold => exact Or.inl ⟨ownership, hold, hkind⟩
          | inr hnew =>
              right
              have hgiven : taskId = some ownership.value := by
                have hid := hnew.1
                rw [hkind] at hid
                exact hid
              rw [hgiven, Option.any_some]
              exact hnew.2.1
        · intro hthere
          cases hthere with
          | inl hold =>
              obtain ⟨ownership, hmem, hkind⟩ := hold
              exact ⟨ownership, hbinds.kept ownership hmem, hkind⟩
          | inr hgiven => exact bindAuthoritativeAliases_task hagrees.single hbound hgiven
      simp only [acceptDispatch, hbound, bind, Except.bind]
      by_cases hany : aliases.any (·.kind = .task) = true
      · rw [if_pos hany]
        by_cases hlegal : Legal call.state .working
        · refine ⟨fun _ => ⟨_, transitionCall_eq_ok.mpr ⟨hlegal, rfl⟩, rfl, rfl, rfl⟩, ?_⟩
          intro hnot
          exact absurd ⟨hlegal, hfits, htask.mp hany⟩ hnot
        · refine ⟨fun haccepts => absurd haccepts.legal hlegal, ?_⟩
          intro _
          simp only [transitionCall, validateAgentCallTransition, if_neg hlegal, bind, Except.bind,
            written]
      · rw [if_neg hany]
        exact ⟨fun haccepts => absurd (htask.mpr haccepts.task) hany, fun _ => rfl⟩

theorem accept_follows (hagrees : call.Agrees) (taskId contextId : Option String) (now : Timestamp)
    (result : AgentCallLedgerRecord)
    (hresult : written call (acceptDispatch call taskId contextId now) = result) :
    (∀ ownership ∈ call.ownershipAliases, ownership ∈ result.ownershipAliases) ∧
    (result.Agrees ↔ (Accepts call taskId contextId → ∀ ownership ∈ call.ownershipAliases,
      idOf taskId contextId ownership.kind = some ownership.value)) := by
  obtain ⟨haccepted, hrefused⟩ := acceptDispatch_cases hagrees taskId contextId now
  by_cases haccepts : Accepts call taskId contextId
  · obtain ⟨next, hok, hbound, hscope, hids⟩ := haccepted haccepts
    have hsame : next = result := by
      rw [← hresult, hok]
      rfl
    rw [← hsame]
    obtain ⟨-, hbinds⟩ := bindAuthoritativeAliases_binds hagrees.single hbound
    refine ⟨hbinds.kept, ?_⟩
    constructor
    · intro hnext _ ownership hmem
      rw [← hids]
      exact hnext.named ownership (hbinds.kept ownership hmem)
    · intro h
      apply hbinds.agrees hagrees hscope
      intro ownership hmem
      rw [hids]
      cases hbinds.origin ownership hmem with
      | inl hold => exact h haccepts ownership hold
      | inr hnew => exact hnew.1
  · have hsame : result = call := hresult.symm.trans (hrefused haccepts)
    rw [hsame]
    refine ⟨fun _ hmem => hmem, ?_⟩
    constructor
    · exact fun _ haccepts' => absurd haccepts' haccepts
    · exact fun _ => hagrees

theorem SameIds.agrees (h : SameIds call next) (hagrees : call.Agrees) : next.Agrees := by
  obtain ⟨hscope, haliases, htask, hcontext⟩ := h
  constructor
  · rw [haliases]
    exact hagrees.single
  · rw [haliases, AgentCallLedgerRecord.a2aId, htask, hcontext]
    exact hagrees.named
  · rw [haliases]
    exact hagrees.lasting
  · rw [haliases, hscope]
    exact hagrees.inScope

/-- From a call whose ids follow its aliases, a move keeps every alias, and the ids go on to
follow them exactly when it meets the condition. -/
theorem move_follows {evidence after : Evidence} {m : EvidenceMove} (hagrees : evidence.call.Agrees)
    (hmove : evidence.move resultDigest m = some after) :
    (∀ ownership ∈ evidence.call.ownershipAliases, ownership ∈ after.call.ownershipAliases) ∧
    (evidence.Follows after m ↔ evidence.Meets m) := by
  cases m with
  | record observation =>
      have hcall : after.call = evidence.call := by
        obtain ⟨found, -, hafter⟩ := Option.map_eq_some_iff.mp hmove
        rw [← hafter]
      rw [hcall]
      refine ⟨fun _ hmem => hmem, ?_⟩
      simp only [Evidence.Follows, Evidence.Meets, hcall, hagrees]
  | apply index prepared limit =>
      obtain ⟨row, -, hafter⟩ := Option.map_eq_some_iff.mp hmove
      rw [← hafter]
      exact apply_follows hagrees prepared limit _ rfl
  | accept taskId contextId now =>
      rw [← Option.some.inj hmove]
      exact accept_follows hagrees taskId contextId now _ rfl
  | write next =>
      by_cases hsame : SameIds evidence.call next
      · simp only [Evidence.move, if_pos hsame, Option.some.injEq] at hmove
        have hnext := hsame.agrees hagrees
        rw [← hmove]
        refine ⟨?_, ?_⟩
        · intro ownership hmem
          rw [hsame.2.1]
          exact hmem
        · simp only [Evidence.Follows, Evidence.Meets, hnext]
      · simp only [Evidence.move, if_neg hsame] at hmove
        cases hmove

/-! ## Runs -/

/-- A call that was never named to its Agent. -/
def Unnamed (call : AgentCallLedgerRecord) : Prop :=
  call.ownershipAliases = [] ∧ call.a2aTaskId = none ∧ call.a2aContextId = none

inductive Gathered (resultDigest : ToolResult → String) : Evidence → Prop
  | start (call : AgentCallLedgerRecord) (hunnamed : Unnamed call) : Gathered resultDigest ⟨call, []⟩
  | move (evidence after : Evidence) (m : EvidenceMove) (h : Gathered resultDigest evidence)
      (hmeets : evidence.Meets m) (hmove : evidence.move resultDigest m = some after) :
      Gathered resultDigest after

theorem Unnamed.agrees (h : Unnamed call) : call.Agrees := by
  obtain ⟨haliases, -, -⟩ := h
  constructor
  all_goals simp [haliases]

theorem Evidence.Follows.agrees {evidence after : Evidence} {m : EvidenceMove}
    (h : evidence.Follows after m) : after.call.Agrees := by
  cases m with
  | apply index prepared limit => exact h.1
  | _ => exact h

theorem Gathered.agrees {evidence : Evidence} (h : Gathered resultDigest evidence) :
    evidence.call.Agrees := by
  induction h with
  | start call hunnamed => exact hunnamed.agrees
  | move evidence after m h hmeets hmove ih => exact ((move_follows ih hmove).2.mpr hmeets).agrees

/-- In a run whose moves meet the condition the ids of the call follow its aliases, an alias
stays for good, and the next move keeps all this exactly when it meets the condition too. -/
theorem ids_follow_aliases {evidence : Evidence} (h : Gathered resultDigest evidence) :
    evidence.call.Agrees ∧ ∀ m after, evidence.move resultDigest m = some after →
      (∀ ownership ∈ evidence.call.ownershipAliases, ownership ∈ after.call.ownershipAliases) ∧
      (evidence.Follows after m ↔ evidence.Meets m) :=
  ⟨h.agrees, fun _ _ hmove => move_follows h.agrees hmove⟩

def progressObservation (observationId taskId : String) : NormalizedA2AObservation where
  observationId := observationId
  callRecordId := some "call-1"
  sourceIdentity := observationId
  bindingScope := "scope-1"
  eventKind := .working
  taskId := some taskId
  observedAt := 200

theorem progressObservation_meets (evidence : Evidence) (index : Nat) (observationId : String)
    (recentLimit : Nat) :
    evidence.Meets (.apply index (progressObservation observationId "task-1") recentLimit) := by
  intro _
  have hgiven : ∀ kind value, (progressObservation observationId "task-1").a2aId kind = some value →
      value = "task-1" := by
    intro kind value h
    cases kind with
    | task => exact (Option.some.inj h).symm
    | context => cases h
    | relayJournal => cases h
  constructor
  · intro ownership _ value h
    rw [hgiven _ _ h]
    decide
  · rintro ⟨ownership, _, h⟩
    exact absurd (hgiven _ _ h) (by decide)

def Evidence.run (resultDigest : ToolResult → String) (evidence : Evidence)
    (moves : List EvidenceMove) : Option Evidence :=
  moves.foldlM (Evidence.move resultDigest) evidence

/-- A provisional id is noted before any id is bound, two observations of the task are recorded,
the first of them binds its id, and a third one is recorded and applied after that. -/
theorem ids_follow_aliases_working :
    ∃ evidence, Evidence.run statusDigest ⟨workingCall, []⟩
        [.record (progressObservation "seen-0" "pending-1"),
          .record (progressObservation "seen-1" "task-1"),
          .record (progressObservation "seen-2" "task-1"),
          .apply 0 (progressObservation "seen-0" "pending-1") 128,
          .apply 1 (progressObservation "seen-1" "task-1") 128,
          .record (progressObservation "seen-3" "task-1"),
          .apply 3 (progressObservation "seen-3" "task-1") 128,
          .apply 2 (progressObservation "seen-2" "task-1") 128] = some evidence ∧
      ⟨.task, "task-1", "scope-1", true⟩ ∈ evidence.call.ownershipAliases ∧
      evidence.call.a2aTaskId = some "task-1" ∧ evidence.call.Agrees := by
  have hstart : Gathered statusDigest ⟨workingCall, []⟩ := .start workingCall ⟨rfl, rfl, rfl⟩
  have hrecorded : Gathered statusDigest ⟨workingCall,
      [progressObservation "seen-0" "pending-1", progressObservation "seen-1" "task-1",
        progressObservation "seen-2" "task-1"]⟩ :=
    ((hstart.move _ _ (.record (progressObservation "seen-0" "pending-1")) trivial rfl).move _ _
      (.record (progressObservation "seen-1" "task-1")) trivial rfl).move _ _
      (.record (progressObservation "seen-2" "task-1")) trivial rfl
  have hunbound : (⟨workingCall, [progressObservation "seen-0" "pending-1",
      progressObservation "seen-1" "task-1", progressObservation "seen-2" "task-1"]⟩ :
      Evidence).Meets (.apply 0 (progressObservation "seen-0" "pending-1") 128) := by
    intro _
    constructor
    · intro ownership hmem
      cases hmem
    · rintro ⟨ownership, hmem, _⟩
      cases hmem
  have hnoted := hrecorded.move _ _ _ hunbound rfl
  have hbound := hnoted.move _ _ (.apply 1 (progressObservation "seen-1" "task-1") 128)
    (progressObservation_meets _ _ _ _) rfl
  have hthree := hbound.move _ _ (.record (progressObservation "seen-3" "task-1")) trivial rfl
  have hagain := hthree.move _ _ (.apply 3 (progressObservation "seen-3" "task-1") 128)
    (progressObservation_meets _ _ _ _) rfl
  have hlate := hagain.move _ _ (.apply 2 (progressObservation "seen-2" "task-1") 128)
    (progressObservation_meets _ _ _ _) rfl
  exact ⟨_, rfl, by decide, by decide, (ids_follow_aliases hlate).1⟩

/-- Two observations are recorded before any id is bound, and the provisional one is applied
last: the call goes by an id that is not the one it is bound to. -/
theorem ids_leave_alias :
    ∃ evidence, Evidence.run statusDigest ⟨workingCall, []⟩
        [.record (progressObservation "seen-1" "pending-1"),
          .record (progressObservation "seen-2" "task-1"),
          .apply 1 (progressObservation "seen-2" "task-1") 128,
          .apply 0 (progressObservation "seen-1" "pending-1") 128] = some evidence ∧
      ⟨.task, "task-1", "scope-1", true⟩ ∈ evidence.call.ownershipAliases ∧
      evidence.call.a2aTaskId = some "pending-1" := by
  refine ⟨_, rfl, ?_, ?_⟩
  · decide
  · decide

end Hybro.A2ARuntime
