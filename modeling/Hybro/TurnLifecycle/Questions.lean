import Hybro.TurnLifecycle.Inventory

/-! # The questionnaires of a Turn

The requests of an interaction are listed in order, and count the same number of
questions.
-/

namespace Hybro.TurnLifecycle

open OrderedMap

/-! ## Complete questionnaires -/

structure HITLInteractionProjection.Consistent (interaction : HITLInteractionProjection) :
    Prop where
  listed : interaction.requests.map (·.requestId) = interaction.requestIds
  distinct : (interaction.requests.map (·.requestId)).Nodup
  counted : ∃ count, ∀ request ∈ interaction.requests,
    request.questionCount = count ∧ request.questionIndex < count
  indexes : (interaction.requests.map (·.questionIndex)).Nodup

def HITLInteractionProjection.partlyReceived (interaction : HITLInteractionProjection) : Bool :=
  interaction.requests.any fun request => interaction.requests.length < request.questionCount

theorem HITLInteractionProjection.Consistent.complete {interaction : HITLInteractionProjection}
    (h : interaction.Consistent) (hfull : interaction.partlyReceived = false) :
    interaction.complete = true := by
  obtain ⟨count, hcounted⟩ := h.counted
  have hsubset : interaction.requests.map (·.questionIndex) ⊆ List.range count := by
    intro index hindex
    obtain ⟨request, hmem, rfl⟩ := List.mem_map.mp hindex
    exact List.mem_range.mpr (hcounted request hmem).2
  have hsubperm := List.subperm_of_subset h.indexes hsubset
  have hle : interaction.requests.length ≤ count := by
    simpa using hsubperm.length_le
  have hcount : ∀ request ∈ interaction.requests,
      request.questionCount = interaction.requests.length := by
    intro request hmem
    have hreceived : ¬ interaction.requests.length < request.questionCount := by
      simpa using List.any_eq_false.mp hfull request hmem
    have hsame := (hcounted request hmem).1
    omega
  have hsorted : (interaction.requests.map (·.questionIndex)).insertionSort (· ≤ ·) =
      List.range interaction.requests.length := by
    cases hrequests : interaction.requests with
    | nil => rfl
    | cons first rest =>
        have hlength : interaction.requests.length = count := by
          have hfirst : first ∈ interaction.requests := by
            rw [hrequests]
            exact List.mem_cons_self ..
          rw [← hcount first hfirst]
          exact (hcounted first hfirst).1
        rw [← hrequests, hlength]
        have hperm : (interaction.requests.map (·.questionIndex)).Perm (List.range count) := by
          apply hsubperm.perm_of_length_le
          simp [hlength]
        have hsorted := (List.perm_insertionSort (· ≤ ·) (interaction.requests.map
          (·.questionIndex))).trans hperm
        exact hsorted.eq_of_pairwise' (List.pairwise_insertionSort _ _) List.pairwise_le_range
  unfold HITLInteractionProjection.complete
  rw [hsorted]
  simpa using hcount

/-! ## The rules -/

structure Questions (turn : TurnProjection) : Prop where
  consistent : ∀ interaction ∈ turn.hitlInteractions, interaction.Consistent
  active : ∀ id, turn.activeInteractionId = some id → id ≠ "" ∧
    ∃ interaction, turn.findInteraction id = some interaction ∧ interaction.state = .awaitingInput
  awaiting : turn.state = .awaitingInput → turn.activeInteractionId.isSome = true

/-! ## Requests and answers -/

namespace HITLInteractionProjection.Consistent

variable {interaction : HITLInteractionProjection}

theorem of_same {other : HITLInteractionProjection} (h : interaction.Consistent)
    (hids : other.requestIds = interaction.requestIds)
    (hrequests : other.requests = interaction.requests) : other.Consistent where
  listed := by rw [hrequests, hids, h.listed]
  distinct := by rw [hrequests]; exact h.distinct
  counted := by rw [hrequests]; exact h.counted
  indexes := by rw [hrequests]; exact h.indexes

theorem first (data : CanonicalHITLRequestData) (state : InteractionState)
    (requestedAt : String) : HITLInteractionProjection.Consistent
      { interactionId := data.interactionId
        state := state
        requestIds := [data.requestId]
        requests := [questionOf data]
        requestedAt := requestedAt
        resumedAt := none } where
  listed := rfl
  distinct := List.nodup_singleton _
  counted := by
    refine ⟨data.questionCount, ?_⟩
    intro request hmem
    rw [List.mem_singleton.mp hmem]
    exact ⟨rfl, data.indexed⟩
  indexes := List.nodup_singleton _

theorem push {data : CanonicalHITLRequestData} (h : interaction.Consistent)
    (hnew : interaction.requests.find? (·.requestId = data.requestId) = none)
    (hindex : interaction.requests.any (·.questionIndex = data.questionIndex) = false)
    (hcount : interaction.requests.any (·.questionCount ≠ data.questionCount) = false) :
    (interaction.push (questionOf data)).Consistent where
  listed := by
    show (interaction.requests ++ [questionOf data]).map (·.requestId) =
      interaction.requestIds ++ [data.requestId]
    rw [List.map_append, h.listed]
    rfl
  distinct := by
    show ((interaction.requests ++ [questionOf data]).map (·.requestId)).Nodup
    rw [List.map_append]
    apply List.nodup_append.mpr
    refine ⟨h.distinct, List.nodup_singleton _, ?_⟩
    rintro id hid other hother rfl
    obtain ⟨request, hmem, hsame⟩ := List.mem_map.mp hid
    have hne := List.find?_eq_none.mp hnew request hmem
    rw [List.mem_singleton.mp hother] at hsame
    exact hne (by simpa [questionOf] using hsame)
  counted := by
    refine ⟨data.questionCount, ?_⟩
    intro request hmem
    rcases List.mem_append.mp hmem with hmem | hmem
    · obtain ⟨count, hcounted⟩ := h.counted
      have hsame : request.questionCount = data.questionCount := by
        simpa using List.any_eq_false.mp hcount request hmem
      have hbefore := hcounted request hmem
      exact ⟨hsame, by omega⟩
    · rw [List.mem_singleton.mp hmem]
      exact ⟨rfl, data.indexed⟩
  indexes := by
    show ((interaction.requests ++ [questionOf data]).map (·.questionIndex)).Nodup
    rw [List.map_append]
    apply List.nodup_append.mpr
    refine ⟨h.indexes, List.nodup_singleton _, ?_⟩
    rintro index hid other hother rfl
    obtain ⟨request, hmem, hsame⟩ := List.mem_map.mp hid
    have hne := List.any_eq_false.mp hindex request hmem
    rw [List.mem_singleton.mp hother] at hsame
    exact hne (by simpa [questionOf] using hsame)

theorem map_answer {γ : Type} {data : CanonicalHITLResponseData}
    {g : HITLQuestionProjection → γ}
    (hg : ∀ request status answerRef,
      g { request with status := status, answerRef := answerRef } = g request) :
    (interaction.answer data).requests.map g = interaction.requests.map g :=
  map_updateFirst fun request _ => hg request _ _

theorem answer {data : CanonicalHITLResponseData} (h : interaction.Consistent) :
    (interaction.answer data).Consistent where
  listed := by
    rw [map_answer fun _ _ _ => rfl]
    exact h.listed
  distinct := by
    rw [map_answer fun _ _ _ => rfl]
    exact h.distinct
  counted := by
    obtain ⟨count, hcounted⟩ := h.counted
    refine ⟨count, ?_⟩
    intro request hmem
    rcases mem_updateFirst hmem with hmem | ⟨before, hfind, rfl⟩
    · exact hcounted request hmem
    · exact hcounted before (List.mem_of_find?_eq_some hfind)
  indexes := by
    rw [map_answer fun _ _ _ => rfl]
    exact h.indexes

end HITLInteractionProjection.Consistent

/-! ## What keeps the questionnaires -/

theorem TurnProjection.findInteraction_updateInteraction {turn : TurnProjection} {id : String}
    {f : HITLInteractionProjection → HITLInteractionProjection}
    (hf : ∀ interaction, (f interaction).interactionId = interaction.interactionId)
    (other : String) :
    (turn.updateInteraction id f).findInteraction other =
      if other = id then (turn.findInteraction id).map f else turn.findInteraction other := by
  unfold findInteraction updateInteraction
  split
  · rename_i hsame
    subst hsame
    apply find?_updateFirst
    intro interaction hinteraction
    simpa [hf] using hinteraction
  · rename_i hne
    apply find?_updateFirst_of_ne
    intro interaction hinteraction
    have hid : interaction.interactionId = id := by simpa using hinteraction
    simp [hf, hid, Ne.symm hne]

namespace Questions

variable {turn : TurnProjection}

theorem consistent_updateInteraction {id : String} {interaction : HITLInteractionProjection}
    {f : HITLInteractionProjection → HITLInteractionProjection} (h : Questions turn)
    (hfind : turn.findInteraction id = some interaction) (hf : (f interaction).Consistent) :
    ∀ other ∈ (turn.updateInteraction id f).hitlInteractions, other.Consistent := by
  intro other hmem
  rcases mem_updateFirst hmem with hmem | ⟨before, hbefore, rfl⟩
  · exact h.consistent other hmem
  · have hsame : turn.findInteraction id = some before := hbefore
    rw [hfind] at hsame
    cases hsame
    exact hf

theorem updateInteraction {id : String} {interaction : HITLInteractionProjection}
    {f : HITLInteractionProjection → HITLInteractionProjection} (h : Questions turn)
    (hid : ∀ interaction, (f interaction).interactionId = interaction.interactionId)
    (hstate : ∀ interaction, (f interaction).state = interaction.state)
    (hfind : turn.findInteraction id = some interaction) (hf : (f interaction).Consistent) :
    Questions (turn.updateInteraction id f) where
  consistent := h.consistent_updateInteraction hfind hf
  active active hactive := by
    obtain ⟨hnamed, before, hbefore, hwaiting⟩ := h.active active hactive
    refine ⟨hnamed, ?_⟩
    rw [TurnProjection.findInteraction_updateInteraction hid]
    split
    · rename_i hsame
      rw [hsame] at hbefore
      rw [hbefore]
      exact ⟨f before, rfl, (hstate before).trans hwaiting⟩
    · exact ⟨before, hbefore, hwaiting⟩
  awaiting := h.awaiting

theorem append {interaction : HITLInteractionProjection} (h : Questions turn)
    (hconsistent : interaction.Consistent) :
    Questions { turn with hitlInteractions := turn.hitlInteractions ++ [interaction] } where
  consistent other hmem := by
    rcases List.mem_append.mp hmem with hmem | hmem
    · exact h.consistent other hmem
    · rw [List.mem_singleton.mp hmem]
      exact hconsistent
  active active hactive := by
    obtain ⟨hnamed, before, hbefore, hwaiting⟩ := h.active active hactive
    refine ⟨hnamed, before, ?_, hwaiting⟩
    have hfound : turn.hitlInteractions.find? (·.interactionId = active) = some before := hbefore
    show (turn.hitlInteractions ++ [interaction]).find? (·.interactionId = active) = some before
    rw [List.find?_append, hfound]
    rfl
  awaiting := h.awaiting

end Questions

end Hybro.TurnLifecycle
