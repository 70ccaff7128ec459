import Hybro.TurnLifecycle.Absorption

/-! # How a Turn grows

What an event has left in a Turn is still there after every later one: internal Turns, Tools
and questions are never taken away, what was closed stays closed, and a closed Assistant is
never opened again.
-/

namespace Hybro.TurnLifecycle

open OrderedMap

/-! ## The parts of a Turn -/

def TurnProjection.lists (turn : TurnProjection) (internalTurnId messageId : String) : Bool :=
  (turn.findInternal internalTurnId).any (·.messageIds.contains messageId)

structure InternalTurnProjection.Grows (before after : InternalTurnProjection) : Prop where
  messages : before.messageIds ⊆ after.messageIds
  closed : before.status ≠ .active → after.status ≠ .active

structure ToolActivity.Grows (before after : ToolActivity) : Prop where
  updates : before.updateIndex ≤ after.updateIndex
  closed : before.status.isOpen = false → after.status.isOpen = false

structure HITLInteractionProjection.Grows (before after : HITLInteractionProjection) : Prop where
  requestIds : before.requestIds <+: after.requestIds
  request : ∀ id request, before.requests.find? (·.requestId = id) = some request →
    ∃ other, after.requests.find? (·.requestId = id) = some other ∧
      (request.status ≠ .requested → other.status ≠ .requested)
  indexes : after.requestIds = before.requestIds →
    after.requests.map (·.questionIndex) = before.requests.map (·.questionIndex)
  counts : after.requestIds = before.requestIds →
    after.requests.map (·.questionCount) = before.requests.map (·.questionCount)
  responded : after.requestIds = before.requestIds →
    (∀ request ∈ before.requests, request.status = .responded) →
    ∀ request ∈ after.requests, request.status = .responded

namespace TurnProjection

variable (turn after : TurnProjection)

def InternalsGrow : Prop :=
  ∀ id internal, turn.findInternal id = some internal →
    ∃ other, after.findInternal id = some other ∧ internal.Grows other

def ToolsGrow : Prop :=
  ∀ id tool, turn.findTool id = some tool →
    ∃ other, after.findTool id = some other ∧ tool.Grows other

def NotesGrow : Prop :=
  (∀ id, turn.activity.any (·.isRetryWith id) = true →
      after.activity.any (·.isRetryWith id) = true) ∧
    ∀ id, turn.activity.any (·.isDecisionWith id) = true →
      after.activity.any (·.isDecisionWith id) = true

def InteractionsGrow : Prop :=
  ∀ id interaction, turn.findInteraction id = some interaction →
    ∃ other, after.findInteraction id = some other ∧ interaction.Grows other

/-- The open Assistant was open before, or belongs to a message that was not listed yet. -/
def AssistantGrows : Prop :=
  ∀ current, after.currentAssistant = some current →
    (∃ before, turn.currentAssistant = some before ∧ before.messageId = current.messageId ∧
        before.internalTurnId = current.internalTurnId ∧
        before.nextDeltaIndex ≤ current.nextDeltaIndex) ∨
      turn.lists current.internalTurnId current.messageId = false ∧
        after.lists current.internalTurnId current.messageId = true

/-- Every event leaves a Turn that has grown. -/
structure Grows : Prop where
  root : after.clientRequestId = turn.clientRequestId
  settled : turn.state.settled = true → after.state.settled = true
  internals : turn.InternalsGrow after
  tools : turn.ToolsGrow after
  notes : turn.NotesGrow after
  interactions : turn.InteractionsGrow after
  assistant : turn.AssistantGrows after

variable {turn after}

theorem internalsGrow_of_eq (h : after.internalTurns = turn.internalTurns) :
    turn.InternalsGrow after := by
  intro id internal hfind
  refine ⟨internal, ?_, List.Subset.refl _, fun hclosed => hclosed⟩
  rw [findInternal, h]
  exact hfind

theorem toolsGrow_of_eq (h : after.tools = turn.tools) : turn.ToolsGrow after := by
  intro id tool hfind
  refine ⟨tool, ?_, Nat.le_refl _, fun hclosed => hclosed⟩
  rw [findTool, h]
  exact hfind

theorem notesGrow_of_eq (h : after.activity = turn.activity) : turn.NotesGrow after := by
  unfold NotesGrow
  rw [h]
  exact ⟨fun _ hretry => hretry, fun _ hdecision => hdecision⟩

theorem interactionsGrow_of_eq (h : after.hitlInteractions = turn.hitlInteractions) :
    turn.InteractionsGrow after := by
  intro id interaction hfind
  refine ⟨interaction, ?_, ⟨List.prefix_refl _, ?_, fun _ => rfl, fun _ => rfl, fun _ hall => hall⟩⟩
  · rw [findInteraction, h]
    exact hfind
  · intro requestId request hrequest
    exact ⟨request, hrequest, fun hanswered => hanswered⟩

theorem assistantGrows_of_eq (h : after.currentAssistant = turn.currentAssistant) :
    turn.AssistantGrows after := by
  intro current hcurrent
  rw [h] at hcurrent
  exact .inl ⟨current, hcurrent, rfl, rfl, Nat.le_refl _⟩

theorem assistantGrows_of_none (h : after.currentAssistant = none) :
    turn.AssistantGrows after := by
  intro current hcurrent
  rw [h] at hcurrent
  cases hcurrent

theorem internalsGrow_updateInternal {id : String}
    {f : InternalTurnProjection → InternalTurnProjection}
    (hid : ∀ internal, (f internal).internalTurnId = internal.internalTurnId)
    (hf : ∀ internal : InternalTurnProjection, internal.Grows (f internal)) :
    turn.InternalsGrow (turn.updateInternal id f) := by
  intro other internal hfind
  rw [findInternal_updateInternal hid]
  split
  · next hsame =>
      rw [hsame] at hfind
      rw [hfind]
      exact ⟨f internal, rfl, hf internal⟩
  · exact ⟨internal, hfind, List.Subset.refl _, fun hclosed => hclosed⟩

theorem internalsGrow_append (internal : InternalTurnProjection) :
    turn.InternalsGrow { turn with internalTurns := turn.internalTurns ++ [internal] } := by
  intro other found hfind
  rw [findInternal_append, hfind]
  exact ⟨found, rfl, List.Subset.refl _, fun hclosed => hclosed⟩

theorem toolsGrow_pushActivity (item : TurnActivityItem) :
    turn.ToolsGrow (turn.pushActivity item) := by
  intro id tool hfind
  refine ⟨tool, ?_, Nat.le_refl _, fun hclosed => hclosed⟩
  unfold findTool tools pushActivity at *
  rw [List.filterMap_append, List.find?_append, hfind]
  rfl

theorem notesGrow_pushActivity (item : TurnActivityItem) :
    turn.NotesGrow (turn.pushActivity item) := by
  unfold NotesGrow pushActivity
  constructor
  · intro id hretry
    simp [hretry]
  · intro id hdecision
    simp [hdecision]

theorem findTool_updateTool {id : String} {f : ToolActivity → ToolActivity}
    (hid : ∀ tool, (f tool).toolCallId = tool.toolCallId) (other : String) :
    (turn.updateTool id f).findTool other =
      if other = id then (turn.findTool id).map f else turn.findTool other := by
  unfold findTool
  rw [tools_updateTool]
  split
  · next hsame =>
      subst hsame
      apply find?_updateFirst
      intro tool htool
      simpa [hid] using htool
  · next hne =>
      apply find?_updateFirst_of_ne
      intro tool htool
      have hsame : tool.toolCallId = id := by simpa using htool
      simp [hid, hsame, Ne.symm hne]

theorem toolsGrow_updateTool {id : String} {f : ToolActivity → ToolActivity}
    (hid : ∀ tool, (f tool).toolCallId = tool.toolCallId)
    (hf : ∀ tool, turn.findTool id = some tool → tool.Grows (f tool)) :
    turn.ToolsGrow (turn.updateTool id f) := by
  intro other tool hfind
  rw [findTool_updateTool hid]
  split
  · next hsame =>
      rw [hsame] at hfind
      rw [hfind]
      exact ⟨f tool, rfl, hf tool hfind⟩
  · exact ⟨tool, hfind, Nat.le_refl _, fun hclosed => hclosed⟩

theorem notesGrow_updateTool (id : String) (f : ToolActivity → ToolActivity) :
    turn.NotesGrow (turn.updateTool id f) := by
  constructor
  · intro note hretry
    obtain ⟨item, hmem, hitem⟩ := List.any_eq_true.mp hretry
    have hnot : item.isToolWith id = false := by
      cases item with
      | retry _ => rfl
      | tool _ => cases hitem
      | assistant _ => cases hitem
      | decision _ => cases hitem
    exact List.any_eq_true.mpr ⟨item, mem_updateFirst_of_ne hmem hnot, hitem⟩
  · intro note hdecision
    obtain ⟨item, hmem, hitem⟩ := List.any_eq_true.mp hdecision
    have hnot : item.isToolWith id = false := by
      cases item with
      | decision _ => rfl
      | tool _ => cases hitem
      | assistant _ => cases hitem
      | retry _ => cases hitem
    exact List.any_eq_true.mpr ⟨item, mem_updateFirst_of_ne hmem hnot, hitem⟩

theorem interactionsGrow_updateInteraction {id : String}
    {f : HITLInteractionProjection → HITLInteractionProjection}
    (hid : ∀ interaction, (f interaction).interactionId = interaction.interactionId)
    (hf : ∀ interaction, turn.findInteraction id = some interaction →
      interaction.Grows (f interaction)) :
    turn.InteractionsGrow (turn.updateInteraction id f) := by
  intro other interaction hfind
  rw [findInteraction_updateInteraction hid]
  split
  · next hsame =>
      rw [hsame] at hfind
      rw [hfind]
      exact ⟨f interaction, rfl, hf interaction hfind⟩
  · exact interactionsGrow_of_eq rfl other interaction hfind

theorem interactionsGrow_append (interaction : HITLInteractionProjection) :
    turn.InteractionsGrow
      { turn with hitlInteractions := turn.hitlInteractions ++ [interaction] } := by
  intro id found hfind
  have hstays : turn.InteractionsGrow turn := interactionsGrow_of_eq rfl
  obtain ⟨same, hsame, hgrows⟩ := hstays id found hfind
  refine ⟨same, ?_, hgrows⟩
  unfold findInteraction at hsame ⊢
  rw [List.find?_append, hsame]
  rfl

end TurnProjection

/-! ## Questions -/

namespace HITLInteractionProjection

variable {interaction other : HITLInteractionProjection}

theorem grows_of_same (hids : other.requestIds = interaction.requestIds)
    (hrequests : other.requests = interaction.requests) : interaction.Grows other where
  requestIds := hids ▸ List.prefix_refl _
  request := by
    intro id request hfind
    rw [hrequests]
    exact ⟨request, hfind, fun hanswered => hanswered⟩
  indexes := by simp [hrequests]
  counts := by simp [hrequests]
  responded := by
    intro _ hall
    rwa [hrequests]

theorem grows_push (question : HITLQuestionProjection) :
    interaction.Grows (interaction.push question) := by
  have hlonger : (interaction.push question).requestIds ≠ interaction.requestIds := by
    intro hsame
    have hlength := congrArg List.length hsame
    simp [push] at hlength
  constructor
  · exact List.prefix_append _ _
  · intro id request hfind
    refine ⟨request, ?_, fun hanswered => hanswered⟩
    unfold push
    rw [List.find?_append, hfind]
    rfl
  · exact fun hsame => absurd hsame hlonger
  · exact fun hsame => absurd hsame hlonger
  · exact fun hsame => absurd hsame hlonger

theorem grows_answer {data : CanonicalHITLResponseData} {request : HITLQuestionProjection}
    (hrequest : interaction.answered data = some request) (hopen : request.status = .requested) :
    interaction.Grows (interaction.answer data) := by
  have hfind := (Option.filter_eq_some_iff.mp hrequest).1
  constructor
  · exact List.prefix_refl _
  · intro id found hfound
    by_cases hid : id = data.requestId
    · subst hid
      refine ⟨{ found with status := data.status.requestStatus, answerRef := data.answerRef },
        ?_, fun _ => ?_⟩
      · unfold answer
        rw [find?_updateFirst, hfound, Option.map_some]
        exact fun request hrequest => hrequest
      · cases data.status <;> nofun
    · refine ⟨found, ?_, fun hanswered => hanswered⟩
      unfold answer
      rw [find?_updateFirst_of_ne]
      · exact hfound
      · intro request hrequest
        have hsame : request.requestId = data.requestId := by simpa using hrequest
        simp [hsame, Ne.symm hid]
  · exact fun _ => Consistent.map_answer fun _ _ _ => rfl
  · exact fun _ => Consistent.map_answer fun _ _ _ => rfl
  · intro _ hall
    have hresponded := hall request (List.mem_of_find?_eq_some hfind)
    rw [hopen] at hresponded
    cases hresponded

theorem grows_endAs {data : CanonicalHITLResponseData} {request : HITLQuestionProjection}
    (hrequest : interaction.answered data = some request) (hopen : request.status = .requested)
    (state : InteractionState) : interaction.Grows (interaction.endAs data state) := by
  have hgrows := grows_answer hrequest hopen
  exact ⟨hgrows.requestIds, hgrows.request, hgrows.indexes, hgrows.counts, hgrows.responded⟩

end HITLInteractionProjection

/-! ## One event -/

section Events

open TurnProjection

variable {turn after : TurnProjection}

theorem foldTurnStart_grows {payload : TurnStartPayload}
    (hfold : foldTurnStart turn payload = .changed after) : turn.Grows after := by
  unfold foldTurnStart at hfold
  split at hfold
  · split at hfold <;> cases hfold
  · split at hfold
    · cases hfold
    · cases hfold
      exact ⟨rfl, fun h => h, internalsGrow_append _, toolsGrow_of_eq rfl, notesGrow_of_eq rfl,
        interactionsGrow_of_eq rfl, assistantGrows_of_eq rfl⟩

theorem pushActivity_grows (item : TurnActivityItem) : turn.Grows (turn.pushActivity item) :=
  ⟨rfl, fun h => h, internalsGrow_of_eq rfl, toolsGrow_pushActivity item,
    notesGrow_pushActivity item, interactionsGrow_of_eq rfl, assistantGrows_of_eq rfl⟩

theorem foldRetryScheduled_grows {eventId : String} {order : Nat}
    {payload : RetryScheduledPayload}
    (hfold : foldRetryScheduled turn eventId order payload = .changed after) :
    turn.Grows after := by
  unfold foldRetryScheduled at hfold
  split at hfold
  · cases hfold
  · split at hfold
    · cases hfold
    · cases hfold
      exact pushActivity_grows _

theorem foldModelDecision_grows {eventId : String} {order : Nat} {payload : ModelDecisionPayload}
    (hfold : foldModelDecision turn eventId order payload = .changed after) :
    turn.Grows after := by
  unfold foldModelDecision at hfold
  split at hfold
  · cases hfold
  · split at hfold
    · cases hfold
    · cases hfold
      exact pushActivity_grows _

theorem foldRunWaitingInput_grows {payload : RunWaitingInputPayload}
    (hopen : turn.state.settled = false)
    (hfold : foldRunWaitingInput turn payload = .changed after) : turn.Grows after := by
  unfold foldRunWaitingInput at hfold
  repeat' split at hfold
  all_goals cases hfold
  have hquestions : turn.InteractionsGrow
      (turn.updateInteraction payload.interactionId (·.awaited payload.requestedAt)) :=
    interactionsGrow_updateInteraction (fun _ => rfl)
      fun _ _ => HITLInteractionProjection.grows_of_same rfl rfl
  exact ⟨rfl, by simp [hopen], internalsGrow_of_eq rfl, toolsGrow_of_eq rfl, notesGrow_of_eq rfl,
    hquestions, assistantGrows_of_eq rfl⟩

theorem foldRunResumed_grows {payload : RunResumedPayload} (hopen : turn.state.settled = false)
    (hfold : foldRunResumed turn payload = .changed after) : turn.Grows after := by
  unfold foldRunResumed at hfold
  repeat' split at hfold
  all_goals cases hfold
  have hquestions : turn.InteractionsGrow
      (turn.updateInteraction payload.interactionId (·.resumed payload.resumedAt)) :=
    interactionsGrow_updateInteraction (fun _ => rfl)
      fun _ _ => HITLInteractionProjection.grows_of_same rfl rfl
  exact ⟨rfl, by simp [hopen], internalsGrow_of_eq rfl, toolsGrow_of_eq rfl, notesGrow_of_eq rfl,
    hquestions, assistantGrows_of_eq rfl⟩

theorem settle_grows (payload : RunSettledPayload) : turn.Grows (turn.settle payload) :=
  ⟨rfl, fun _ => by cases hstatus : payload.status <;> simp [settle, hstatus] <;> rfl,
    internalsGrow_of_eq rfl, toolsGrow_of_eq rfl, notesGrow_of_eq rfl, interactionsGrow_of_eq rfl,
    assistantGrows_of_eq rfl⟩

theorem foldRunSettled_grows {payload : RunSettledPayload}
    (hfold : foldRunSettled turn payload = .changed after) :
    turn.Grows after ∧ after.state.settled = true := by
  have hsettled : (turn.settle payload).state.settled = true := by
    cases hstatus : payload.status <;> simp [settle, hstatus] <;> rfl
  unfold foldRunSettled at hfold
  repeat' split at hfold
  all_goals cases hfold
  all_goals exact ⟨settle_grows payload, hsettled⟩

theorem foldMessageStart_grows {internal : InternalTurnProjection} {order : Nat}
    {payload : MessageStartPayload}
    (hinternal : turn.findInternal payload.internalTurnId = some internal)
    (hfold : foldMessageStart turn internal order payload = .changed after) :
    turn.Grows after := by
  unfold foldMessageStart at hfold
  split at hfold
  · cases hfold
  · split at hfold
    · split at hfold <;> cases hfold
    · split at hfold
      · cases hfold
      · next hnew =>
          cases hfold
          have hinternals : turn.InternalsGrow (turn.updateInternal payload.internalTurnId
              (·.pushMessage payload.messageId)) :=
            internalsGrow_updateInternal (fun _ => rfl)
              fun _ => ⟨List.subset_append_left _ _, fun hclosed => hclosed⟩
          refine ⟨rfl, fun h => h, hinternals, toolsGrow_of_eq rfl, notesGrow_of_eq rfl,
            interactionsGrow_of_eq rfl, ?_⟩
          intro current hcurrent
          cases hcurrent
          right
          constructor
          · simpa [lists, hinternal] using hnew
          · have hfound : (turn.updateInternal payload.internalTurnId
                (·.pushMessage payload.messageId)).findInternal payload.internalTurnId =
                  some (internal.pushMessage payload.messageId) := by
              rw [findInternal_updateInternal]
              · rw [if_pos rfl, hinternal]
                rfl
              · exact fun _ => rfl
            have hlisted : (turn.updateInternal payload.internalTurnId
                (·.pushMessage payload.messageId)).lists payload.internalTurnId
                  payload.messageId = true := by
              rw [lists, hfound]
              simp [InternalTurnProjection.pushMessage]
            exact hlisted

theorem foldMessageUpdate_grows {payload : MessageUpdatePayload}
    (hfold : foldMessageUpdate turn payload = .changed after) : turn.Grows after := by
  unfold foldMessageUpdate at hfold
  dsimp only at hfold
  split at hfold
  · cases hfold
  · next current hmatch =>
      obtain ⟨hcurrent, -, -⟩ := matched_current hmatch
      repeat' split at hfold
      all_goals cases hfold
      refine ⟨rfl, fun h => h, internalsGrow_of_eq rfl, toolsGrow_of_eq rfl, notesGrow_of_eq rfl,
        interactionsGrow_of_eq rfl, ?_⟩
      intro assistant hassistant
      cases hassistant
      exact .inl ⟨current, hcurrent, rfl, rfl, Nat.le_succ _⟩

theorem foldMessageEnd_grows {order : Nat} {payload : MessageEndPayload}
    (hfold : foldMessageEnd turn order payload = .changed after) :
    turn.Grows after ∧ after.currentAssistant = none := by
  unfold foldMessageEnd at hfold
  split at hfold
  · split at hfold <;> cases hfold
  · split at hfold
    · cases hfold
    · split at hfold
      · split at hfold
        · cases hfold
        · cases hfold
          exact ⟨⟨rfl, fun h => h, internalsGrow_of_eq rfl, toolsGrow_of_eq rfl,
            notesGrow_of_eq rfl, interactionsGrow_of_eq rfl, assistantGrows_of_none rfl⟩, rfl⟩
      · split at hfold
        · cases hfold
          exact ⟨⟨rfl, fun h => h, internalsGrow_of_eq rfl, toolsGrow_of_eq rfl,
            notesGrow_of_eq rfl, interactionsGrow_of_eq rfl, assistantGrows_of_none rfl⟩, rfl⟩
        · cases hfold
          have hpushed : turn.Grows (turn.pushActivity (.assistant (assistantRow order payload))) :=
            pushActivity_grows _
          exact ⟨⟨rfl, fun h => h, internalsGrow_of_eq rfl, hpushed.tools, hpushed.notes,
            interactionsGrow_of_eq rfl, assistantGrows_of_none rfl⟩, rfl⟩

theorem foldToolExecutionStart_grows {internal : InternalTurnProjection} {order : Nat}
    {payload : ToolExecutionStartPayload}
    (hfold : foldToolExecutionStart turn internal order payload = .changed after) :
    turn.Grows after := by
  unfold foldToolExecutionStart at hfold
  split at hfold
  · split at hfold <;> cases hfold
  · split at hfold
    · cases hfold
    · cases hfold
      have hinternals : turn.InternalsGrow (turn.updateInternal payload.internalTurnId
          (·.pushTool payload.toolCallId)) :=
        internalsGrow_updateInternal (fun _ => rfl)
          fun _ => ⟨List.Subset.refl _, fun hclosed => hclosed⟩
      have hpushed : turn.Grows (turn.pushActivity (.tool (newTool order payload))) :=
        pushActivity_grows _
      exact ⟨rfl, fun h => h, hinternals, hpushed.tools, hpushed.notes,
        interactionsGrow_of_eq rfl, assistantGrows_of_eq rfl⟩

theorem updateTool_grows {toolCallId : String} {f : ToolActivity → ToolActivity}
    {tool : ToolActivity} (hid : ∀ tool, (f tool).toolCallId = tool.toolCallId)
    (hfind : turn.findTool toolCallId = some tool) (hf : tool.Grows (f tool)) :
    turn.Grows (turn.updateTool toolCallId f) := by
  have htools : turn.ToolsGrow (turn.updateTool toolCallId f) := by
    apply toolsGrow_updateTool hid
    intro other hother
    rw [hfind] at hother
    cases hother
    exact hf
  exact ⟨rfl, fun h => h, internalsGrow_of_eq rfl, htools, notesGrow_updateTool _ _,
    interactionsGrow_of_eq rfl, assistantGrows_of_eq rfl⟩

theorem foldToolExecutionUpdate_grows {payload : ToolExecutionUpdatePayload}
    (hfold : foldToolExecutionUpdate turn payload = .changed after) : turn.Grows after := by
  unfold foldToolExecutionUpdate at hfold
  split at hfold
  · cases hfold
  · next tool hmatch =>
      obtain ⟨htool, -⟩ := matched_tool hmatch
      split at hfold
      · cases hfold
      · next hopen =>
          split at hfold
          · cases hfold
          · next hnewer =>
              repeat' split at hfold
              all_goals cases hfold
              have hlater : tool.updateIndex ≤ payload.updateIndex := by omega
              have hgrows : tool.Grows (tool.updated payload) :=
                ⟨hlater, fun hclosed => absurd hclosed hopen⟩
              refine updateTool_grows ?_ htool hgrows
              exact fun _ => rfl

theorem foldToolExecutionEnd_grows {payload : ToolExecutionEndPayload}
    (hfold : foldToolExecutionEnd turn payload = .changed after) : turn.Grows after := by
  unfold foldToolExecutionEnd at hfold
  split at hfold
  · cases hfold
  · next tool hmatch =>
      obtain ⟨htool, -⟩ := matched_tool hmatch
      split at hfold
      · split at hfold <;> cases hfold
      · repeat' split at hfold
        all_goals cases hfold
        have hgrows : tool.Grows (tool.ended payload) :=
          ⟨Nat.le_refl _, fun _ => ToolOutcome.isOpen_toolStatus payload.outcome⟩
        refine updateTool_grows ?_ htool hgrows
        exact fun _ => rfl

theorem foldTurnEnd_grows {internal : InternalTurnProjection} {payload : TurnEndPayload}
    (hfold : foldTurnEnd turn internal payload = .changed after) : turn.Grows after := by
  unfold foldTurnEnd at hfold
  split at hfold
  · split at hfold <;> cases hfold
  · repeat' split at hfold
    all_goals cases hfold
    have hinternals : turn.InternalsGrow (turn.updateInternal payload.internalTurnId
        ({ · with status := payload.status.internalStatus })) :=
      internalsGrow_updateInternal (fun _ => rfl)
        fun _ => ⟨List.Subset.refl _, fun _ => payload.status.internalStatus_ne_active⟩
    exact ⟨rfl, fun h => h, hinternals, toolsGrow_of_eq rfl, notesGrow_of_eq rfl,
      interactionsGrow_of_eq rfl, assistantGrows_of_eq rfl⟩

theorem foldTurnEvent_grows {eventId : String} {order : Nat} {payload : CanonicalPayload}
    (hopen : turn.state.settled = false)
    (hfold : foldTurnEvent turn eventId order payload = .changed after) : turn.Grows after := by
  cases payload with
  | runStarted payload => cases hfold
  | turnStart payload => exact foldTurnStart_grows hfold
  | retryScheduled payload => exact foldRetryScheduled_grows hfold
  | modelDecision payload => exact foldModelDecision_grows hfold
  | runWaitingInput payload => exact foldRunWaitingInput_grows hopen hfold
  | runResumed payload => exact foldRunResumed_grows hopen hfold
  | runSettled payload => exact (foldRunSettled_grows hfold).1
  | messageStart payload =>
      obtain ⟨internal, hinternal, hfold⟩ := inInternal_changed hfold
      exact foldMessageStart_grows hinternal hfold
  | messageUpdate payload =>
      obtain ⟨-, -, hfold⟩ := inInternal_changed hfold
      exact foldMessageUpdate_grows hfold
  | messageEnd payload =>
      obtain ⟨-, -, hfold⟩ := inInternal_changed hfold
      exact (foldMessageEnd_grows hfold).1
  | toolExecutionStart payload =>
      obtain ⟨internal, -, hfold⟩ := inInternal_changed hfold
      exact foldToolExecutionStart_grows hfold
  | toolExecutionUpdate payload =>
      obtain ⟨-, -, hfold⟩ := inInternal_changed hfold
      exact foldToolExecutionUpdate_grows hfold
  | toolExecutionEnd payload =>
      obtain ⟨-, -, hfold⟩ := inInternal_changed hfold
      exact foldToolExecutionEnd_grows hfold
  | turnEnd payload =>
      obtain ⟨internal, -, hfold⟩ := inInternal_changed hfold
      exact foldTurnEnd_grows hfold

theorem foldHITLQuestion_grows {data : CanonicalHITLRequestData}
    (hfold : foldHITLQuestion turn data = .changed after) : turn.Grows after := by
  unfold foldHITLQuestion at hfold
  split at hfold
  · cases hfold
    exact ⟨rfl, fun h => h, internalsGrow_of_eq rfl, toolsGrow_of_eq rfl, notesGrow_of_eq rfl,
      interactionsGrow_append _, assistantGrows_of_eq rfl⟩
  · repeat' split at hfold
    all_goals cases hfold
    have hquestions : turn.InteractionsGrow
        (turn.updateInteraction data.interactionId (·.push (questionOf data))) :=
      interactionsGrow_updateInteraction (fun _ => rfl)
        fun _ _ => HITLInteractionProjection.grows_push _
    exact ⟨rfl, fun h => h, internalsGrow_of_eq rfl, toolsGrow_of_eq rfl, notesGrow_of_eq rfl,
      hquestions, assistantGrows_of_eq rfl⟩

theorem foldHITLAnswer_grows {data : CanonicalHITLResponseData}
    (hfold : foldHITLAnswer turn data = .changed after) : turn.Grows after := by
  unfold foldHITLAnswer at hfold
  split at hfold
  · cases hfold
  · next interaction hinteraction =>
      split at hfold
      · cases hfold
      · next request hrequest =>
          split at hfold
          · split at hfold <;> cases hfold
          · next hstatus =>
              have hopen : request.status = .requested := by simpa using hstatus
              have hfound : ∀ other, turn.findInteraction data.interactionId = some other →
                  other = interaction := by
                intro other hother
                rw [hinteraction] at hother
                exact (Option.some.inj hother).symm
              split at hfold
              · cases hfold
                have hquestions : turn.InteractionsGrow
                    (turn.updateInteraction data.interactionId (·.answer data)) := by
                  refine interactionsGrow_updateInteraction ?_ ?_
                  · exact fun _ => rfl
                  · intro other hother
                    rw [hfound other hother]
                    exact HITLInteractionProjection.grows_answer hrequest hopen
                exact ⟨rfl, fun h => h, internalsGrow_of_eq rfl, toolsGrow_of_eq rfl,
                  notesGrow_of_eq rfl, hquestions, assistantGrows_of_eq rfl⟩
              · next state _ =>
                  cases hfold
                  have hquestions : turn.InteractionsGrow
                      (turn.updateInteraction data.interactionId (·.endAs data state)) := by
                    refine interactionsGrow_updateInteraction ?_ ?_
                    · exact fun _ => rfl
                    · intro other hother
                      rw [hfound other hother]
                      exact HITLInteractionProjection.grows_endAs hrequest hopen state
                  exact ⟨rfl, fun h => h, internalsGrow_of_eq rfl, toolsGrow_of_eq rfl,
                    notesGrow_of_eq rfl, hquestions, assistantGrows_of_eq rfl⟩

theorem commitFinal_grows {data : AgentResponseData}
    (hfold : commitFinal turn data = .changed after) : turn.Grows after := by
  unfold commitFinal at hfold
  split at hfold
  · split at hfold <;> cases hfold
  · cases hfold
    exact ⟨rfl, fun h => h, internalsGrow_of_eq rfl, toolsGrow_of_eq rfl, notesGrow_of_eq rfl,
      interactionsGrow_of_eq rfl, assistantGrows_of_eq rfl⟩

end Events

end Hybro.TurnLifecycle
