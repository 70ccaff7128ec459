import Hybro.TurnLifecycle.Fold

/-! # The inventories of a Turn

Every row of the activity and every Assistant belongs to an internal Turn that lists
it. The rules are stated with the owner that `findInternal` returns.
-/

namespace Hybro.TurnLifecycle

open OrderedMap

/-! ## Reading a Turn after a change -/

namespace TurnProjection

variable {turn : TurnProjection}

theorem findInternal_updateInternal {id : String}
    {f : InternalTurnProjection → InternalTurnProjection}
    (hf : ∀ internal, (f internal).internalTurnId = internal.internalTurnId) (other : String) :
    (turn.updateInternal id f).findInternal other =
      if other = id then (turn.findInternal id).map f else turn.findInternal other := by
  unfold findInternal updateInternal
  split
  · rename_i hsame
    subst hsame
    apply find?_updateFirst
    intro internal hinternal
    simpa [hf] using hinternal
  · rename_i hne
    apply find?_updateFirst_of_ne
    intro internal hinternal
    have hid : internal.internalTurnId = id := by simpa using hinternal
    simp [hf, hid, Ne.symm hne]

theorem findInternal_append {internal : InternalTurnProjection} (other : String) :
    TurnProjection.findInternal
        { turn with internalTurns := turn.internalTurns ++ [internal] } other =
      (turn.findInternal other).or
        (if internal.internalTurnId = other then some internal else none) := by
  unfold findInternal
  rw [List.find?_append]
  congr 1
  by_cases h : internal.internalTurnId = other
  · simp [h]
  · simp [h]

theorem findInternal_id {id : String} {internal : InternalTurnProjection}
    (h : turn.findInternal id = some internal) : internal.internalTurnId = id := by
  simpa using List.find?_some h

theorem findInternal_of_mem {internal : InternalTurnProjection}
    (hdistinct : (turn.internalTurns.map (·.internalTurnId)).Nodup)
    (hmem : internal ∈ turn.internalTurns) :
    turn.findInternal internal.internalTurnId = some internal :=
  find?_of_nodup hdistinct hmem

theorem ids_updateInternal {id : String} {f : InternalTurnProjection → InternalTurnProjection}
    (hf : ∀ internal, (f internal).internalTurnId = internal.internalTurnId) :
    (turn.updateInternal id f).internalTurns.map (·.internalTurnId) =
      turn.internalTurns.map (·.internalTurnId) :=
  map_updateFirst fun internal _ => hf internal

theorem tools_updateTool (id : String) (f : ToolActivity → ToolActivity) :
    (turn.updateTool id f).tools = updateFirst (·.toolCallId = id) f turn.tools := by
  unfold tools updateTool
  generalize turn.activity = activity
  dsimp only
  induction activity with
  | nil => rfl
  | cons item rest ih =>
      cases item with
      | tool tool =>
          by_cases h : tool.toolCallId = id
          · simp [updateFirst, TurnActivityItem.isToolWith, TurnActivityItem.asTool, h]
          · simpa [updateFirst, TurnActivityItem.isToolWith, TurnActivityItem.asTool, h] using ih
      | assistant _ =>
          simpa [updateFirst, TurnActivityItem.isToolWith, TurnActivityItem.asTool] using ih
      | retry _ =>
          simpa [updateFirst, TurnActivityItem.isToolWith, TurnActivityItem.asTool] using ih
      | decision _ =>
          simpa [updateFirst, TurnActivityItem.isToolWith, TurnActivityItem.asTool] using ih

theorem toolRows_pushActivity (item : TurnActivityItem) (id : String) :
    (turn.pushActivity item).toolRows id =
      turn.toolRows id ++ (item.asTool.toList.filter (·.internalTurnId = id)) := by
  unfold toolRows tools pushActivity
  rw [List.filterMap_append, List.filter_append]
  cases item <;> rfl

theorem mem_tools {tool : ToolActivity} : tool ∈ turn.tools ↔ .tool tool ∈ turn.activity := by
  unfold tools
  rw [List.mem_filterMap]
  constructor
  · rintro ⟨item, hmem, htool⟩
    cases item with
    | tool item =>
        cases htool
        exact hmem
    | assistant _ => cases htool
    | retry _ => cases htool
    | decision _ => cases htool
  · intro hmem
    exact ⟨.tool tool, hmem, rfl⟩

theorem rows_updateTool {id internalTurnId : String} {f : ToolActivity → ToolActivity}
    (howner : ∀ tool, (f tool).internalTurnId = tool.internalTurnId)
    (hcall : ∀ tool, (f tool).toolCallId = tool.toolCallId) :
    ((turn.updateTool id f).toolRows internalTurnId).map (·.toolCallId) =
      (turn.toolRows internalTurnId).map (·.toolCallId) := by
  unfold toolRows
  rw [tools_updateTool]
  have hkeys : (updateFirst (·.toolCallId = id) f turn.tools).filterMap (fun tool =>
        if tool.internalTurnId = internalTurnId then some tool.toolCallId else none) =
      turn.tools.filterMap fun tool =>
        if tool.internalTurnId = internalTurnId then some tool.toolCallId else none :=
    filterMap_updateFirst (by simp [howner, hcall])
  have hrows : ∀ tools : List ToolActivity,
      (tools.filter (·.internalTurnId = internalTurnId)).map (·.toolCallId) =
        tools.filterMap fun tool =>
          if tool.internalTurnId = internalTurnId then some tool.toolCallId else none := by
    intro tools
    induction tools with
    | nil => rfl
    | cons tool rest ih =>
        by_cases h : tool.internalTurnId = internalTurnId
        · simp [h, ih]
        · simp [h, ih]
  rw [hrows, hrows, hkeys]

theorem mem_rows_updateTool {id internalTurnId : String} {f : ToolActivity → ToolActivity}
    {tool : ToolActivity} (h : tool ∈ (turn.updateTool id f).toolRows internalTurnId) :
    tool ∈ turn.toolRows internalTurnId ∨ ∃ before, turn.findTool id = some before ∧
      tool = f before ∧ (f before).internalTurnId = internalTurnId := by
  unfold toolRows at h ⊢
  rw [tools_updateTool] at h
  obtain ⟨hmem, howner⟩ := List.mem_filter.mp h
  rcases mem_updateFirst hmem with hmem | ⟨before, hfind, htool⟩
  · exact .inl (List.mem_filter.mpr ⟨hmem, howner⟩)
  · subst htool
    exact .inr ⟨before, hfind, rfl, by simpa using howner⟩

theorem mem_activity_updateTool {id : String} {f : ToolActivity → ToolActivity}
    {item : TurnActivityItem} (h : item ∈ (turn.updateTool id f).activity) :
    item ∈ turn.activity ∨ ∃ before, .tool before ∈ turn.activity ∧ item = .tool (f before) := by
  rcases mem_updateFirst h with hmem | ⟨before, hfind, hitem⟩
  · exact .inl hmem
  · have hmem := List.mem_of_find?_eq_some hfind
    have htool := List.find?_some hfind
    cases before with
    | tool tool => exact .inr ⟨tool, hmem, hitem⟩
    | assistant _ => cases htool
    | retry _ => cases htool
    | decision _ => cases htool

end TurnProjection

/-! ## The rules -/

def TurnActivityItem.OwnedBy (owner : InternalTurnProjection) : TurnActivityItem → Prop
  | .assistant item => item.id ∈ owner.messageIds
  | .tool item => item.toolCallId ∈ owner.toolCallIds
  | .retry _ => owner.status.broken = true
  | .decision _ => True

structure Inventory (turn : TurnProjection) : Prop where
  distinct : (turn.internalTurns.map (·.internalTurnId)).Nodup
  owned : ∀ item ∈ turn.activity, ∃ owner,
    turn.findInternal item.internalTurnId = some owner ∧ item.OwnedBy owner
  rows : ∀ id internal, turn.findInternal id = some internal →
    (turn.toolRows id).map (·.toolCallId) = internal.toolCallIds
  closed : ∀ id internal, turn.findInternal id = some internal → internal.status ≠ .active →
    ∀ tool ∈ turn.toolRows id, tool.status.isOpen = false
  current : ∀ current, turn.currentAssistant = some current → current.status = .streaming ∧
    ∃ owner, turn.findInternal current.internalTurnId = some owner ∧ owner.status = .active ∧
      current.messageId ∈ owner.messageIds
  final : ∀ final, turn.finalAnswer = some final → final.status = .completed ∧
    ∃ owner, turn.findInternal final.internalTurnId = some owner ∧
      final.messageId ∈ owner.messageIds
  committed : turn.finalCommitted = true → turn.finalAnswer.isSome = true

namespace Inventory

variable {turn : TurnProjection}

/-! ## What keeps the inventories -/

theorem grow {id : String} {f : InternalTurnProjection → InternalTurnProjection}
    (h : Inventory turn) (hid : ∀ internal, (f internal).internalTurnId = internal.internalTurnId)
    (hstatus : ∀ internal, (f internal).status = internal.status)
    (hcalls : ∀ internal, (f internal).toolCallIds = internal.toolCallIds)
    (hmessages : ∀ internal, internal.messageIds ⊆ (f internal).messageIds) :
    Inventory (turn.updateInternal id f) := by
  have hfind : ∀ other owner, turn.findInternal other = some owner →
      (turn.updateInternal id f).findInternal other = some (if other = id then f owner else owner) := by
    intro other owner howner
    rw [TurnProjection.findInternal_updateInternal hid]
    split
    · rename_i hsame
      rw [← hsame, howner]
      rfl
    · exact howner
  have hback : ∀ other owner, (turn.updateInternal id f).findInternal other = some owner →
      ∃ before, turn.findInternal other = some before ∧ owner.status = before.status ∧
        owner.toolCallIds = before.toolCallIds := by
    intro other owner howner
    rw [TurnProjection.findInternal_updateInternal hid] at howner
    split at howner
    · rename_i hsame
      obtain ⟨before, hbefore, rfl⟩ := Option.map_eq_some_iff.mp howner
      exact ⟨before, hsame ▸ hbefore, hstatus before, hcalls before⟩
    · exact ⟨owner, howner, rfl, rfl⟩
  constructor
  · rw [TurnProjection.ids_updateInternal hid]
    exact h.distinct
  · intro item hitem
    obtain ⟨owner, howner, howned⟩ := h.owned item hitem
    refine ⟨_, hfind _ owner howner, ?_⟩
    split
    · cases item with
      | assistant item => exact hmessages owner howned
      | tool item =>
          show item.toolCallId ∈ (f owner).toolCallIds
          rw [hcalls]
          exact howned
      | retry item =>
          show (f owner).status.broken = true
          rw [hstatus]
          exact howned
      | decision item => trivial
    · exact howned
  · intro other internal hinternal
    obtain ⟨before, hbefore, -, hsame⟩ := hback other internal hinternal
    rw [hsame]
    exact h.rows other before hbefore
  · intro other internal hinternal hclosed
    obtain ⟨before, hbefore, hsame, -⟩ := hback other internal hinternal
    rw [hsame] at hclosed
    exact h.closed other before hbefore hclosed
  · intro current hcurrent
    obtain ⟨hstreaming, owner, howner, hactive, hmem⟩ := h.current current hcurrent
    refine ⟨hstreaming, _, hfind _ owner howner, ?_⟩
    split
    · exact ⟨(hstatus owner).trans hactive, hmessages owner hmem⟩
    · exact ⟨hactive, hmem⟩
  · intro final hfinal
    obtain ⟨hcompleted, owner, howner, hmem⟩ := h.final final hfinal
    refine ⟨hcompleted, _, hfind _ owner howner, ?_⟩
    split
    · exact hmessages owner hmem
    · exact hmem
  · exact h.committed

theorem withCurrent {current : Option AssistantProjection} (h : Inventory turn)
    (hcurrent : ∀ assistant, current = some assistant → assistant.status = .streaming ∧
      ∃ owner, turn.findInternal assistant.internalTurnId = some owner ∧ owner.status = .active ∧
        assistant.messageId ∈ owner.messageIds) :
    Inventory { turn with currentAssistant := current } :=
  ⟨h.distinct, h.owned, h.rows, h.closed, hcurrent, h.final, h.committed⟩

theorem withoutCurrent (h : Inventory turn) : Inventory { turn with currentAssistant := none } :=
  h.withCurrent fun assistant hassistant => by cases hassistant

theorem pushActivity {item : TurnActivityItem} {owner : InternalTurnProjection}
    (h : Inventory turn) (howner : turn.findInternal item.internalTurnId = some owner)
    (howned : item.OwnedBy owner) (hitem : item.asTool = none) :
    Inventory (turn.pushActivity item) := by
  have hrows : ∀ id, (turn.pushActivity item).toolRows id = turn.toolRows id := by
    intro id
    rw [TurnProjection.toolRows_pushActivity, hitem]
    simp
  constructor
  · exact h.distinct
  · intro other hother
    rcases List.mem_append.mp hother with hother | hother
    · exact h.owned other hother
    · rw [List.mem_singleton.mp hother]
      exact ⟨owner, howner, howned⟩
  · intro id internal hinternal
    rw [hrows]
    exact h.rows id internal hinternal
  · intro id internal hinternal
    rw [hrows]
    exact h.closed id internal hinternal
  · exact h.current
  · exact h.final
  · exact h.committed

theorem updateTool {id : String} {f : ToolActivity → ToolActivity} (h : Inventory turn)
    (howner : ∀ tool, (f tool).internalTurnId = tool.internalTurnId)
    (hcall : ∀ tool, (f tool).toolCallId = tool.toolCallId)
    (hopen : ∀ tool, turn.findTool id = some tool → tool.status.isOpen = true) :
    Inventory (turn.updateTool id f) := by
  constructor
  · exact h.distinct
  · intro item hitem
    rcases TurnProjection.mem_activity_updateTool hitem with hitem | ⟨before, hbefore, hitem⟩
    · exact h.owned item hitem
    · subst hitem
      obtain ⟨owner, howner', howned⟩ := h.owned _ hbefore
      refine ⟨owner, ?_, ?_⟩
      · show turn.findInternal (f before).internalTurnId = some owner
        rw [howner]
        exact howner'
      · show (f before).toolCallId ∈ owner.toolCallIds
        rw [hcall]
        exact howned
  · intro other internal hinternal
    rw [TurnProjection.rows_updateTool howner hcall]
    exact h.rows other internal hinternal
  · intro other internal hinternal hclosed tool htool
    rcases TurnProjection.mem_rows_updateTool htool with htool | ⟨before, hbefore, rfl, hrow⟩
    · exact h.closed other internal hinternal hclosed tool htool
    · have hmem : before ∈ turn.toolRows other := by
        apply List.mem_filter.mpr
        rw [howner] at hrow
        exact ⟨List.mem_of_find?_eq_some hbefore, by simpa using hrow⟩
      have hbeforeClosed := h.closed other internal hinternal hclosed before hmem
      rw [hopen before hbefore] at hbeforeClosed
      cases hbeforeClosed
  · exact h.current
  · exact h.final
  · exact h.committed

theorem startTurn {internal : InternalTurnProjection} (h : Inventory turn)
    (hnew : turn.findInternal internal.internalTurnId = none) (hactive : internal.status = .active)
    (hcalls : internal.toolCallIds = []) :
    Inventory { turn with internalTurns := turn.internalTurns ++ [internal] } := by
  have hfind : ∀ other owner, turn.findInternal other = some owner →
      TurnProjection.findInternal
        { turn with internalTurns := turn.internalTurns ++ [internal] } other = some owner := by
    intro other owner howner
    rw [TurnProjection.findInternal_append, howner]
    rfl
  have hback : ∀ other owner, TurnProjection.findInternal
      { turn with internalTurns := turn.internalTurns ++ [internal] } other = some owner →
      turn.findInternal other = some owner ∨ other = internal.internalTurnId ∧ owner = internal := by
    intro other owner howner
    rw [TurnProjection.findInternal_append] at howner
    cases hold : turn.findInternal other with
    | some before =>
        rw [hold] at howner
        exact .inl howner
    | none =>
        rw [hold, Option.none_or] at howner
        split at howner
        · rename_i hsame
          cases howner
          exact .inr ⟨hsame.symm, rfl⟩
        · cases howner
  constructor
  · rw [List.map_append]
    apply List.nodup_append.mpr
    refine ⟨h.distinct, List.nodup_singleton _, ?_⟩
    rintro id hid other hother rfl
    obtain ⟨before, hbefore, hsame⟩ := List.mem_map.mp hid
    have hfound := TurnProjection.findInternal_of_mem h.distinct hbefore
    rw [hsame, List.mem_singleton.mp hother] at hfound
    dsimp only at hfound
    rw [hnew] at hfound
    cases hfound
  · intro item hitem
    obtain ⟨owner, howner, howned⟩ := h.owned item hitem
    exact ⟨owner, hfind _ owner howner, howned⟩
  · intro other owner howner
    rcases hback other owner howner with howner | ⟨rfl, rfl⟩
    · exact h.rows other owner howner
    · rw [hcalls]
      apply List.map_eq_nil_iff.mpr
      apply List.filter_eq_nil_iff.mpr
      intro tool htool hrow
      have hrow : tool.internalTurnId = owner.internalTurnId := by simpa using hrow
      obtain ⟨before, hbefore, -⟩ := h.owned _ (TurnProjection.mem_tools.mp htool)
      rw [show TurnActivityItem.internalTurnId (.tool tool) = owner.internalTurnId from hrow,
        hnew] at hbefore
      cases hbefore
  · intro other owner howner hclosed
    rcases hback other owner howner with howner | ⟨rfl, rfl⟩
    · exact h.closed other owner howner hclosed
    · exact absurd hactive hclosed
  · intro current hcurrent
    obtain ⟨hstreaming, owner, howner, hrest⟩ := h.current current hcurrent
    exact ⟨hstreaming, owner, hfind _ owner howner, hrest⟩
  · intro final hfinal
    obtain ⟨hcompleted, owner, howner, hmem⟩ := h.final final hfinal
    exact ⟨hcompleted, owner, hfind _ owner howner, hmem⟩
  · exact h.committed

theorem startTool {tool : ToolActivity} {internal : InternalTurnProjection} (h : Inventory turn)
    (hinternal : turn.findInternal tool.internalTurnId = some internal)
    (hactive : internal.status = .active) :
    Inventory ((turn.updateInternal tool.internalTurnId (·.pushTool tool.toolCallId)).pushActivity
      (.tool tool)) := by
  have hid := TurnProjection.findInternal_id hinternal
  have hfind : ∀ other, TurnProjection.findInternal
      ((turn.updateInternal tool.internalTurnId (·.pushTool tool.toolCallId)).pushActivity
        (.tool tool)) other =
      if other = tool.internalTurnId then some (internal.pushTool tool.toolCallId)
      else turn.findInternal other := by
    intro other
    show (turn.updateInternal tool.internalTurnId (·.pushTool tool.toolCallId)).findInternal other = _
    rw [TurnProjection.findInternal_updateInternal]
    · rw [hinternal]
      rfl
    · exact fun _ => rfl
  have hrows : ∀ other, TurnProjection.toolRows
      ((turn.updateInternal tool.internalTurnId (·.pushTool tool.toolCallId)).pushActivity
        (.tool tool)) other =
      turn.toolRows other ++ if tool.internalTurnId = other then [tool] else [] := by
    intro other
    rw [TurnProjection.toolRows_pushActivity]
    congr 1
    by_cases hsame : tool.internalTurnId = other
    · simp [TurnActivityItem.asTool, hsame]
    · simp [TurnActivityItem.asTool, hsame]
  -- the other internal Turns keep their rows, and this one gets the row that it lists
  have hkept : ∀ other owner, turn.findInternal other = some owner →
      ∃ later, TurnProjection.findInternal
        ((turn.updateInternal tool.internalTurnId (·.pushTool tool.toolCallId)).pushActivity
          (.tool tool)) other = some later ∧ later.messageIds = owner.messageIds ∧
        later.status = owner.status ∧ owner.toolCallIds ⊆ later.toolCallIds := by
    intro other owner howner
    rw [hfind]
    split
    · rename_i hsame
      rw [hsame, hinternal] at howner
      cases howner
      exact ⟨_, rfl, rfl, rfl, List.subset_append_left _ _⟩
    · exact ⟨owner, howner, rfl, rfl, List.Subset.refl _⟩
  constructor
  · show ((turn.updateInternal tool.internalTurnId
      (·.pushTool tool.toolCallId)).internalTurns.map (·.internalTurnId)).Nodup
    rw [TurnProjection.ids_updateInternal]
    · exact h.distinct
    · exact fun _ => rfl
  · intro item hitem
    rcases List.mem_append.mp hitem with hitem | hitem
    · obtain ⟨owner, howner, howned⟩ := h.owned item hitem
      obtain ⟨later, hlater, hmessages, hstatus, hcalls⟩ := hkept _ owner howner
      refine ⟨later, hlater, ?_⟩
      cases item with
      | assistant item =>
          show item.id ∈ later.messageIds
          rw [hmessages]
          exact howned
      | tool item => exact hcalls howned
      | retry item =>
          show later.status.broken = true
          rw [hstatus]
          exact howned
      | decision item => trivial
    · rw [List.mem_singleton.mp hitem]
      refine ⟨_, (hfind tool.internalTurnId).trans (if_pos rfl), ?_⟩
      exact List.mem_append_right _ (List.mem_singleton_self _)
  · intro other owner howner
    rw [hfind] at howner
    rw [hrows]
    split at howner
    · rename_i hsame
      cases howner
      rw [if_pos hsame.symm, List.map_append, hsame, h.rows _ internal hinternal]
      rfl
    · rename_i hne
      rw [if_neg (Ne.symm hne), List.append_nil]
      exact h.rows other owner howner
  · intro other owner howner hclosed row hrow
    rw [hfind] at howner
    rw [hrows] at hrow
    split at howner
    · cases howner
      exact absurd hactive hclosed
    · rename_i hne
      rw [if_neg (Ne.symm hne), List.append_nil] at hrow
      exact h.closed other owner howner hclosed row hrow
  · intro current hcurrent
    obtain ⟨hstreaming, owner, howner, hactive, hmem⟩ := h.current current hcurrent
    obtain ⟨later, hlater, hmessages, hstatus, -⟩ := hkept _ owner howner
    exact ⟨hstreaming, later, hlater, hstatus.trans hactive, hmessages ▸ hmem⟩
  · intro final hfinal
    obtain ⟨hcompleted, owner, howner, hmem⟩ := h.final final hfinal
    obtain ⟨later, hlater, hmessages, -, -⟩ := hkept _ owner howner
    exact ⟨hcompleted, later, hlater, hmessages ▸ hmem⟩
  · exact h.committed

theorem endTurn {id : String} {internal : InternalTurnProjection} {status : InternalTurnStatus}
    (h : Inventory turn) (hinternal : turn.findInternal id = some internal)
    (hactive : internal.status = .active)
    (htools : ∀ tool ∈ turn.toolRows id, tool.status.isOpen = false)
    (hassistant : ∀ current, turn.currentAssistant = some current → current.internalTurnId ≠ id) :
    Inventory (turn.updateInternal id ({ · with status := status })) := by
  have hfind : ∀ other, (turn.updateInternal id ({ · with status := status })).findInternal other =
      if other = id then some { internal with status := status } else turn.findInternal other := by
    intro other
    rw [TurnProjection.findInternal_updateInternal]
    · rw [hinternal]
      rfl
    · exact fun _ => rfl
  constructor
  · rw [TurnProjection.ids_updateInternal]
    · exact h.distinct
    · exact fun _ => rfl
  · intro item hitem
    obtain ⟨owner, howner, howned⟩ := h.owned item hitem
    rw [hfind]
    split
    · rename_i hsame
      rw [hsame, hinternal] at howner
      cases howner
      refine ⟨_, rfl, ?_⟩
      cases item with
      | assistant item => exact howned
      | tool item => exact howned
      | retry item =>
          have hbroken : internal.status.broken = true := howned
          rw [hactive] at hbroken
          cases hbroken
      | decision item => trivial
    · exact ⟨owner, howner, howned⟩
  · intro other owner howner
    rw [hfind] at howner
    split at howner
    · rename_i hsame
      cases howner
      exact h.rows other internal (hsame ▸ hinternal)
    · exact h.rows other owner howner
  · intro other owner howner hclosed tool htool
    rw [hfind] at howner
    split at howner
    · rename_i hsame
      exact htools tool (hsame ▸ htool)
    · exact h.closed other owner howner hclosed tool htool
  · intro current hcurrent
    obtain ⟨hstreaming, owner, howner, hrest⟩ := h.current current hcurrent
    rw [hfind, if_neg (hassistant current hcurrent)]
    exact ⟨hstreaming, owner, howner, hrest⟩
  · intro final hfinal
    obtain ⟨hcompleted, owner, howner, hmem⟩ := h.final final hfinal
    refine ⟨hcompleted, ?_⟩
    rw [hfind]
    split
    · rename_i hsame
      rw [hsame, hinternal] at howner
      cases howner
      exact ⟨_, rfl, hmem⟩
    · exact ⟨owner, howner, hmem⟩
  · exact h.committed

theorem endFinal {current final : AssistantProjection} (h : Inventory turn)
    (hcurrent : turn.currentAssistant = some current)
    (hmessage : final.messageId = current.messageId)
    (hinternal : final.internalTurnId = current.internalTurnId)
    (hcompleted : final.status = .completed) :
    Inventory { turn with finalAnswer := some final, currentAssistant := none } := by
  obtain ⟨-, owner, howner, -, hmem⟩ := h.current current hcurrent
  constructor
  · exact h.distinct
  · exact h.owned
  · exact h.rows
  · exact h.closed
  · intro assistant hassistant
    cases hassistant
  · intro other hother
    cases hother
    refine ⟨hcompleted, owner, ?_, ?_⟩
    · show turn.findInternal final.internalTurnId = some owner
      rw [hinternal]
      exact howner
    · rw [hmessage]
      exact hmem
  · exact fun _ => rfl

theorem commit {text : String} (h : Inventory turn) (hfinal : turn.finalAnswer.isSome = true) :
    Inventory { turn with
      finalAnswer := turn.finalAnswer.map ({ · with text := text })
      finalCommitted := true } := by
  constructor
  · exact h.distinct
  · exact h.owned
  · exact h.rows
  · exact h.closed
  · exact h.current
  · intro final hcommitted
    obtain ⟨before, hbefore, rfl⟩ := Option.map_eq_some_iff.mp hcommitted
    exact h.final before hbefore
  · intro _
    show (turn.finalAnswer.map _).isSome = true
    rw [Option.isSome_map]
    exact hfinal

end Inventory

end Hybro.TurnLifecycle
