import Hybro.TurnSnapshot.Alike

/-! # Run events taken alike

Each run event that the server takes and that meets the condition is taken by the
client too, and the projection goes on showing what the record does.
-/

namespace Hybro.TurnSnapshot

open OrderedMap TurnLifecycle

def taken (turn : TurnProjection) : TurnOutcome → Option TurnProjection
  | .unchanged => some turn
  | .changed after => some after
  | .failed _ => none

variable {conversationId key : String} {turn : TurnProjection} {record after : RoomSnapshotTurn}

/-! ## Reading both sides -/

namespace Alike

variable (h : Alike conversationId key turn record)

include h

theorem findInternal (id : String) : turn.findInternal id = record.findInternal id := by
  unfold TurnProjection.findInternal RoomSnapshotTurn.findInternal
  rw [h.internalTurns]

theorem any_activity {p : TurnActivityItem → Bool} {q : RoomSnapshotActivityItem → Bool}
    (htest : ∀ item : RoomSnapshotActivityItem, p item.projection = q item) :
    turn.activity.any p = record.activity.any q := by
  rw [h.activity, List.any_map]
  congr 1
  funext item
  exact htest item

theorem any_retryWith (id : String) :
    turn.activity.any (·.isRetryWith id) = record.activity.any (·.isRetryWith id) :=
  h.any_activity fun item => by cases item <;> rfl

theorem any_decisionWith (id : String) :
    turn.activity.any (·.isDecisionWith id) = record.activity.any (·.isDecisionWith id) :=
  h.any_activity fun item => by cases item <;> rfl

theorem any_retryOf (id : String) :
    turn.activity.any (·.isRetryOf id) = record.activity.any (·.isRetryOf id) :=
  h.any_activity fun item => by cases item <;> rfl

theorem tools : turn.tools = record.tools.map (·.projection) := by
  unfold TurnProjection.tools RoomSnapshotTurn.tools
  rw [h.activity, List.filterMap_map, List.map_filterMap]
  congr 1
  funext item
  cases item <;> rfl

theorem findTool (id : String) : turn.findTool id = (record.findTool id).map (·.projection) := by
  unfold TurnProjection.findTool RoomSnapshotTurn.findTool
  rw [h.tools, List.find?_map]
  rfl

theorem toolRows (id : String) :
    turn.toolRows id = (record.toolRows id).map (·.projection) := by
  unfold TurnProjection.toolRows RoomSnapshotTurn.toolRows
  rw [h.tools, List.filter_map]
  rfl

theorem findInteraction (id : String) :
    (turn.findInteraction id).map interactionShown =
      (record.findInteraction id).map (interactionShown ·.projection) := by
  apply find?_of_map_eq h.interactions
  intro interaction other hsame
  have hid := congrArg HITLInteractionProjection.interactionId hsame
  simp only [interactionShown, RoomSnapshotInteraction.projection] at hid
  rw [hid]

/-! ## Writing both sides -/

theorem pushActivity (item : RoomSnapshotActivityItem) :
    Alike conversationId key (turn.pushActivity item.projection) (record.pushActivity item) :=
  { h with
    activity := by
      simp [TurnProjection.pushActivity, RoomSnapshotTurn.pushActivity, h.activity] }

theorem updateInternal (id : String) (f : InternalTurnProjection → InternalTurnProjection) :
    Alike conversationId key (turn.updateInternal id f) (record.updateInternal id f) :=
  { h with
    internalTurns := by
      simp [TurnProjection.updateInternal, RoomSnapshotTurn.updateInternal, h.internalTurns] }

end Alike

theorem find?_activity {id : String} {tool : RoomSnapshotTool} {items : List RoomSnapshotActivityItem}
    (hfind : items.find? (·.isToolWith id) = some (.tool tool)) :
    (items.filterMap (·.asTool)).find? (·.toolCallId = id) = some tool := by
  induction items with
  | nil => cases hfind
  | cons item rest ih =>
      cases item with
      | tool other =>
          by_cases hid : other.toolCallId = id
          · simpa [RoomSnapshotActivityItem.isToolWith, RoomSnapshotActivityItem.asTool, hid]
              using hfind
          · have hrest : rest.find? (·.isToolWith id) = some (.tool tool) := by
              simpa [RoomSnapshotActivityItem.isToolWith, hid] using hfind
            simpa [RoomSnapshotActivityItem.asTool, hid] using ih hrest
      | assistant _ =>
          exact ih (by simpa [RoomSnapshotActivityItem.isToolWith] using hfind)
      | retry _ =>
          exact ih (by simpa [RoomSnapshotActivityItem.isToolWith] using hfind)
      | decision _ =>
          exact ih (by simpa [RoomSnapshotActivityItem.isToolWith] using hfind)

theorem isToolWith_projection (id : String) (item : RoomSnapshotActivityItem) :
    item.projection.isToolWith id = item.isToolWith id := by
  cases item <;> rfl

theorem Alike.updateTool {id : String} {f : ToolActivity → ToolActivity}
    {g : RoomSnapshotTool → RoomSnapshotTool} (h : Alike conversationId key turn record)
    (hupdate : ∀ tool, record.findTool id = some tool → f tool.projection = (g tool).projection) :
    Alike conversationId key (turn.updateTool id f) (record.updateTool id g) := by
  refine { h with activity := ?_ }
  unfold TurnProjection.updateTool RoomSnapshotTurn.updateTool
  rw [h.activity]
  apply updateFirst_map (isToolWith_projection id)
  intro item hfind
  cases item with
  | tool tool => exact congrArg TurnActivityItem.tool (hupdate tool (find?_activity hfind))
  | assistant _ => rfl
  | retry _ => rfl
  | decision _ => rfl

/-! ## The events, one by one -/

/-- The client takes the event, to a projection that shows what the record does. -/
def TakenTo (conversationId key : String) (turn : TurnProjection) (outcome : TurnOutcome)
    (after : RoomSnapshotTurn) : Prop :=
  ∃ next, taken turn outcome = some next ∧ Alike conversationId key next after

theorem foldTurnStart_alike {payload : TurnStartPayload}
    (h : Alike conversationId key turn record)
    (hcondition : record.takesAlike (.turnStart payload) = true)
    (hstep : record.foldTurnStart payload = some after) :
    TakenTo conversationId key turn (foldTurnStart turn payload) after := by
  have hnew : record.findInternal payload.internalTurnId = none := Option.isNone_iff_eq_none.mp hcondition
  unfold RoomSnapshotTurn.foldTurnStart at hstep
  split at hstep
  · cases hstep
  · rename_i hactive
    cases hstep
    unfold TakenTo foldTurnStart
    rw [h.findInternal, hnew, h.internalTurns]
    dsimp only
    rw [if_neg hactive]
    exact ⟨_, rfl, { h with internalTurns := rfl }⟩

theorem foldRetryScheduled_alike {payload : RetryScheduledPayload} {eventId : String} {order : Nat}
    (h : Alike conversationId key turn record)
    (hstep : record.foldRetryScheduled eventId order payload = some after) :
    TakenTo conversationId key turn (foldRetryScheduled turn eventId order payload) after := by
  unfold RoomSnapshotTurn.foldRetryScheduled at hstep
  split at hstep
  · cases hstep
  · rename_i hbroken
    split at hstep
    · cases hstep
    · rename_i hnew
      cases hstep
      unfold TakenTo foldRetryScheduled
      rw [h.findInternal, if_neg hbroken, h.any_retryWith, if_neg hnew]
      exact ⟨_, rfl, h.pushActivity (.retry _)⟩

theorem foldModelDecision_alike {payload : ModelDecisionPayload} {eventId : String} {order : Nat}
    (h : Alike conversationId key turn record)
    (hcondition : record.takesAlike (.modelDecision payload) = true)
    (hstep : record.foldModelDecision eventId order payload = some after) :
    TakenTo conversationId key turn (foldModelDecision turn eventId order payload) after := by
  have hactive : (record.findInternal payload.internalTurnId).any (·.status = .active) = true :=
    hcondition
  unfold RoomSnapshotTurn.foldModelDecision at hstep
  split at hstep
  · cases hstep
  · split at hstep
    · cases hstep
    · split at hstep
      · cases hstep
      · rename_i hnew
        cases hstep
        unfold TakenTo foldModelDecision
        rw [h.findInternal, hactive, if_neg Bool.noConfusion, h.any_decisionWith, if_neg hnew]
        exact ⟨_, rfl, h.pushActivity (.decision _)⟩

theorem foldMessageStart_alike {payload : MessageStartPayload} {order : Nat}
    {internal : InternalTurnProjection} (h : Alike conversationId key turn record)
    (hinternal : record.findInternal payload.internalTurnId = some internal)
    (hcondition : record.takesAlike (.messageStart payload) = true)
    (hstep : record.foldMessageStart order payload = some after) :
    TakenTo conversationId key turn (foldMessageStart turn internal order payload) after := by
  unfold RoomSnapshotTurn.takesAlike at hcondition
  dsimp only at hcondition
  rw [hinternal] at hcondition
  obtain ⟨hactive, hnew⟩ := Bool.and_eq_true_iff.mp hcondition
  have hactive : internal.status = .active := by simpa using hactive
  have hnew : internal.messageIds.contains payload.messageId = false := by simpa using hnew
  unfold RoomSnapshotTurn.foldMessageStart at hstep
  split at hstep
  · cases hstep
  · rename_i hnone
    have hnone : record.currentAssistant = none := by simpa using hnone
    cases hstep
    have hcurrent : turn.currentAssistant = none := by rw [h.current, hnone]; rfl
    unfold TakenTo foldMessageStart
    rw [hcurrent, hnew, if_neg (not_not_intro hactive)]
    exact ⟨_, rfl, { h.updateInternal payload.internalTurnId (·.pushMessage payload.messageId) with
      current := rfl }⟩

theorem Alike.matched_current {payloadId internalTurnId : String} {current : RoomSnapshotAssistant}
    (h : Alike conversationId key turn record)
    (howns : record.ownsOpen internalTurnId = true)
    (hcurrent : record.currentAssistant.filter (·.messageId = payloadId) = some current) :
    record.currentAssistant = some current ∧ current.messageId = payloadId ∧
      current.internalTurnId = internalTurnId ∧
      (turn.currentAssistant.filter fun current =>
        current.messageId = payloadId && current.internalTurnId = internalTurnId) =
        some current.projection := by
  obtain ⟨hsome, hid⟩ := Option.filter_eq_some_iff.mp hcurrent
  have hid : current.messageId = payloadId := by simpa using hid
  unfold RoomSnapshotTurn.ownsOpen at howns
  rw [hsome] at howns
  have howner : current.internalTurnId = internalTurnId := by simpa using howns
  refine ⟨hsome, hid, howner, ?_⟩
  rw [h.current, hsome]
  apply Option.filter_eq_some_iff.mpr
  constructor
  · rfl
  · simp [RoomSnapshotAssistant.projection, hid, howner]

theorem foldMessageUpdate_alike {payload : MessageUpdatePayload}
    (h : Alike conversationId key turn record)
    (hcondition : record.takesAlike (.messageUpdate payload) = true)
    (hstep : record.foldMessageUpdate payload = some after) :
    TakenTo conversationId key turn (foldMessageUpdate turn payload) after := by
  unfold RoomSnapshotTurn.foldMessageUpdate at hstep
  dsimp only at hstep
  cases hmatch : record.currentAssistant.filter (·.messageId = payload.messageId) with
  | none =>
      rw [hmatch] at hstep
      cases hstep
  | some current =>
      obtain ⟨-, -, -, hopen⟩ := h.matched_current hcondition hmatch
      rw [hmatch] at hstep
      dsimp only at hstep
      split at hstep
      · cases hstep
      · rename_i hplace
        simp only [not_or, Decidable.not_not] at hplace
        obtain ⟨hcontents, hindex, hoffset⟩ := hplace
        split at hstep
        · cases hstep
        · cases hstep
          have hcontent : current.projection.contentIndex =
              payload.assistantMessageEvent.contentIndex := by
            simp [RoomSnapshotAssistant.projection, hcontents]
          have hnext : current.projection.nextDeltaIndex =
              payload.assistantMessageEvent.deltaIndex := by
            simp [RoomSnapshotAssistant.projection, hindex]
          have hend : current.projection.endOffset =
              payload.assistantMessageEvent.startOffset := by
            simp [RoomSnapshotAssistant.projection, hoffset]
          unfold TakenTo foldMessageUpdate
          dsimp only
          rw [hopen]
          dsimp only
          rw [hcontent, hnext, hend, if_neg (not_not_intro rfl), if_neg (Nat.lt_irrefl _),
            if_neg (by simp)]
          refine ⟨_, rfl, { h with current := ?_ }⟩
          simp [RoomSnapshotAssistant.projection, hcontents, hindex]

theorem Alike.closeAssistant {payload : MessageEndPayload} {order : Nat}
    {row : RoomSnapshotActivityItem} (h : Alike conversationId key turn record)
    (hrow : row.projection = .assistant (assistantRow order payload))
    (hstep : (if payload.text = "" then some { record with currentAssistant := none }
      else some { record.pushActivity row with currentAssistant := none }) = some after) :
    TakenTo conversationId key turn
      (if payload.text = "" then .changed { turn with currentAssistant := none }
        else .changed { turn.pushActivity (.assistant (assistantRow order payload)) with
          currentAssistant := none }) after := by
  unfold TakenTo
  split at hstep
  · rename_i hempty
    cases hstep
    rw [if_pos hempty]
    exact ⟨_, rfl, { h with current := rfl }⟩
  · rename_i hsome
    cases hstep
    rw [if_neg hsome, ← hrow]
    exact ⟨_, rfl, { h.pushActivity row with current := rfl }⟩

theorem foldMessageEnd_alike {payload : MessageEndPayload} {order : Nat}
    (h : Alike conversationId key turn record) (hfinal : record.finalAnswer = none)
    (hcondition : record.takesAlike (.messageEnd payload) = true)
    (hstep : record.foldMessageEnd order payload = some after) :
    TakenTo conversationId key turn (foldMessageEnd turn order payload) after := by
  have hnofinal : turn.finalAnswer = none := by
    have hshown := h.final
    rw [hfinal] at hshown
    exact Option.map_eq_none_iff.mp hshown
  unfold RoomSnapshotTurn.foldMessageEnd at hstep
  cases hmatch : record.currentAssistant.filter (·.messageId = payload.messageId) with
  | none =>
      rw [hmatch] at hstep
      cases hstep
  | some current =>
      obtain ⟨-, hid, howner, hopen⟩ := h.matched_current hcondition hmatch
      rw [hmatch] at hstep
      dsimp only at hstep
      split at hstep
      · cases hstep
      · rename_i htext
        have htext : ¬(0 < current.projection.nextDeltaIndex ∧
            current.projection.text ≠ payload.text) := by
          intro hboth
          exact htext ⟨hboth.1, Ne.symm hboth.2⟩
        have hrow : ∀ internalTurnId, internalTurnId = payload.internalTurnId →
            (RoomSnapshotTurn.closedRow internalTurnId current.messageId order
              payload).projection = .assistant (assistantRow order payload) := by
          rintro internalTurnId rfl
          rw [hid]
          rfl
        unfold foldMessageEnd
        rw [hopen]
        dsimp only
        rw [if_neg htext]
        cases hdisposition : payload.disposition with
        | final =>
            rw [hdisposition] at hstep
            cases hstep
            have hnoconflict : (turn.finalAnswer.any fun final =>
                final.messageId ≠ payload.messageId ||
                  final.internalTurnId ≠ payload.internalTurnId || final.text ≠ payload.text) =
                false := by
              rw [hnofinal]
              rfl
            rw [if_pos rfl, hnoconflict, if_neg Bool.false_ne_true]
            refine ⟨_, rfl, { h with current := rfl, final := ?_ }⟩
            simp [finalShown, AssistantProjection.checkpoint, RoomSnapshotAssistant.projection,
              Disposition.assistantStatus, hdisposition, howner]
        | commentary =>
            rw [hdisposition] at hstep
            rw [if_neg Disposition.noConfusion]
            exact h.closeAssistant (hrow _ howner) hstep
        | error =>
            rw [hdisposition] at hstep
            rw [if_neg Disposition.noConfusion]
            exact h.closeAssistant (hrow _ rfl) hstep
        | aborted =>
            rw [hdisposition] at hstep
            rw [if_neg Disposition.noConfusion]
            exact h.closeAssistant (hrow _ rfl) hstep

theorem targetName_of_shape {kind : Option ExecutionKind} {target : Option ExecutionTarget}
    (hshape : executionShape kind target = true) :
    (if kind.getD .tool = .agent then (target.map (·.name)).filter (· ≠ "") else none) =
      target.map (·.name) := by
  unfold executionShape at hshape
  cases hkind : kind.getD .tool with
  | tool =>
      rw [hkind] at hshape
      have hnone : target = none := by simpa using hshape
      simp [hnone]
  | agent =>
      rw [hkind] at hshape
      obtain ⟨given, hgiven, hlabel⟩ := (Option.any_eq_true _ _).mp hshape
      have hname : given.name ≠ "" := by
        intro hempty
        rw [hempty] at hlabel
        revert hlabel
        decide
      simp [hgiven, Option.filter, hname]

theorem newTool_projection {payload : ToolExecutionStartPayload} (order : Nat)
    (hshape : executionShape payload.executionKind payload.target = true) :
    (RoomSnapshotTurn.newTool order payload).projection = newTool order payload := by
  unfold RoomSnapshotTurn.newTool RoomSnapshotTool.projection newTool
  dsimp only
  rw [targetName_of_shape hshape]
  rfl

theorem findTool_eq_none {toolCallId : String}
    (h : record.activity.any (·.isToolWith toolCallId) = false) :
    record.findTool toolCallId = none := by
  apply List.find?_eq_none.mpr
  intro tool htool
  obtain ⟨item, hitem, hsame⟩ := List.mem_filterMap.mp htool
  have hother := List.any_eq_false.mp h item hitem
  cases item with
  | tool other =>
      cases hsame
      simpa [RoomSnapshotActivityItem.isToolWith] using hother
  | assistant _ => cases hsame
  | retry _ => cases hsame
  | decision _ => cases hsame

theorem foldToolExecutionStart_alike {payload : ToolExecutionStartPayload} {order : Nat}
    {internal : InternalTurnProjection} (h : Alike conversationId key turn record)
    (hshape : executionShape payload.executionKind payload.target = true)
    (hinternal : record.findInternal payload.internalTurnId = some internal)
    (hcondition : record.takesAlike (.toolExecutionStart payload) = true)
    (hstep : record.foldToolExecutionStart order payload = some after) :
    TakenTo conversationId key turn (foldToolExecutionStart turn internal order payload) after := by
  have hactive : internal.status = .active := by
    have hcondition : (record.findInternal payload.internalTurnId).any (·.status = .active) =
      true := hcondition
    rw [hinternal] at hcondition
    simpa using hcondition
  unfold RoomSnapshotTurn.foldToolExecutionStart at hstep
  split at hstep
  · cases hstep
  · rename_i hnew
    cases hstep
    have hnone : turn.findTool payload.toolCallId = none := by
      rw [h.findTool, findTool_eq_none (by simpa using hnew)]
      rfl
    unfold TakenTo foldToolExecutionStart
    rw [hnone]
    dsimp only
    rw [if_neg (not_not_intro hactive), ← newTool_projection order hshape]
    exact ⟨_, rfl, (h.updateInternal payload.internalTurnId
      (·.pushTool payload.toolCallId)).pushActivity (.tool _)⟩

theorem Alike.matched_tool {toolCallId internalTurnId : String} {target : Option ExecutionTarget}
    {tool : RoomSnapshotTool} (h : Alike conversationId key turn record)
    (hnames : record.namesTool toolCallId internalTurnId target = true)
    (htool : record.findTool toolCallId = some tool) :
    (turn.findTool toolCallId).filter (·.internalTurnId = internalTurnId) = some tool.projection ∧
      target.any (fun target => some target.name ≠ tool.projection.targetName) = false := by
  unfold RoomSnapshotTurn.namesTool at hnames
  rw [htool] at hnames
  obtain ⟨howner, htarget⟩ := Bool.and_eq_true_iff.mp hnames
  have howner : tool.internalTurnId = internalTurnId := by simpa using howner
  constructor
  · rw [h.findTool, htool]
    apply Option.filter_eq_some_iff.mpr
    exact ⟨rfl, decide_eq_true howner⟩
  · cases target with
    | none => rfl
    | some target =>
        have hname : some target.name = tool.targetName := by simpa using htarget
        have hname : some target.name = tool.projection.targetName := hname
        simp [hname]

theorem kind_unchanged {kind : Option ExecutionKind} {tool : RoomSnapshotTool}
    (hkind : ¬some (kind.getD .tool) ≠ tool.executionKind) :
    kind.any (· ≠ tool.projection.executionKind) = false := by
  have hsame : tool.executionKind = some (kind.getD .tool) := (Decidable.not_not.mp hkind).symm
  cases kind with
  | none => rfl
  | some kind => simp [RoomSnapshotTool.projection, hsame]

theorem foldToolExecutionUpdate_alike {payload : ToolExecutionUpdatePayload}
    (h : Alike conversationId key turn record)
    (hcondition : record.takesAlike (.toolExecutionUpdate payload) = true)
    (hstep : record.foldToolExecutionUpdate payload = some after) :
    TakenTo conversationId key turn (foldToolExecutionUpdate turn payload) after := by
  obtain ⟨hnames, hopen⟩ := Bool.and_eq_true_iff.mp hcondition
  unfold RoomSnapshotTurn.foldToolExecutionUpdate at hstep
  cases htool : record.findTool payload.toolCallId with
  | none =>
      rw [htool] at hstep
      cases hstep
  | some tool =>
      rw [htool] at hstep hopen
      dsimp only at hstep
      obtain ⟨hfind, htarget⟩ := h.matched_tool hnames htool
      split at hstep
      · cases hstep
      · rename_i hindex
        split at hstep
        · cases hstep
        · rename_i hkind
          cases hstep
          have hopen : tool.projection.status.isOpen = true := hopen
          have hindex : ¬payload.updateIndex ≤ tool.projection.updateIndex := hindex
          unfold TakenTo foldToolExecutionUpdate
          rw [hfind]
          dsimp only
          rw [hopen, if_neg Bool.noConfusion, if_neg hindex, kind_unchanged hkind,
            if_neg Bool.noConfusion, htarget, if_neg Bool.noConfusion]
          exact ⟨_, rfl, h.updateTool fun _ _ => rfl⟩

theorem ended_projection {payload : ToolExecutionEndPayload} {tool : RoomSnapshotTool}
    (haccepted : payload.accepted = true) (hreason : payload.failureReason = none)
    (hunfailed : tool.errorCode = none ∧ tool.errorMessage = none) :
    tool.projection.ended payload = (tool.ended payload).projection := by
  have hdetails : payload.outcome = .failed ∨
      payload.errorCode = none ∧ payload.errorMessage = none := by
    unfold ToolExecutionEndPayload.accepted ToolExecutionEndPayload.closedShape at haccepted
    simp only [Bool.and_eq_true, Bool.or_eq_true, decide_eq_true_eq,
      Option.isNone_iff_eq_none] at haccepted
    exact haccepted.2.1.2
  obtain ⟨hcode, hmessage⟩ := hunfailed
  unfold ToolActivity.ended RoomSnapshotTool.ended RoomSnapshotTool.projection
  rcases hdetails with hfailed | ⟨hnocode, hnomessage⟩
  · simp [hreason, hfailed, hcode, hmessage]
  · simp [hreason, hnocode, hnomessage, hcode, hmessage]

theorem foldToolExecutionEnd_alike {payload : ToolExecutionEndPayload} (hproper : Proper record)
    (h : Alike conversationId key turn record) (haccepted : payload.accepted = true)
    (hcondition : record.takesAlike (.toolExecutionEnd payload) = true)
    (hstep : record.foldToolExecutionEnd payload = some after) :
    TakenTo conversationId key turn (foldToolExecutionEnd turn payload) after := by
  obtain ⟨hnames, hreason⟩ := Bool.and_eq_true_iff.mp hcondition
  have hreason : payload.failureReason = none := Option.isNone_iff_eq_none.mp hreason
  unfold RoomSnapshotTurn.foldToolExecutionEnd at hstep
  cases htool : record.findTool payload.toolCallId with
  | none =>
      rw [htool] at hstep
      cases hstep
  | some tool =>
      rw [htool] at hstep
      dsimp only at hstep
      obtain ⟨hfind, htarget⟩ := h.matched_tool hnames htool
      split at hstep
      · cases hstep
      · rename_i hopen
        split at hstep
        · cases hstep
        · rename_i hkind
          cases hstep
          have hunfailed := hproper.unfailed tool (List.mem_of_find?_eq_some htool)
            (by simpa using hopen)
          have hopen : ¬tool.projection.status.isOpen = false := hopen
          unfold TakenTo foldToolExecutionEnd
          rw [hfind]
          dsimp only
          rw [if_neg hopen, kind_unchanged hkind, if_neg Bool.noConfusion, htarget,
            if_neg Bool.noConfusion]
          refine ⟨_, rfl, h.updateTool ?_⟩
          intro other hother
          rw [htool] at hother
          cases hother
          exact ended_projection haccepted hreason hunfailed

theorem foldTurnEnd_alike {payload : TurnEndPayload} {internal : InternalTurnProjection}
    (h : Alike conversationId key turn record)
    (hinternal : record.findInternal payload.internalTurnId = some internal)
    (hcondition : record.takesAlike (.turnEnd payload) = true)
    (hstep : record.foldTurnEnd internal payload = some after) :
    TakenTo conversationId key turn (foldTurnEnd turn internal payload) after := by
  have hcondition : (record.findInternal payload.internalTurnId).any (fun internal =>
      internal.status = .active || internal.status = payload.status.internalStatus) = true :=
    hcondition
  rw [hinternal] at hcondition
  unfold RoomSnapshotTurn.foldTurnEnd at hstep
  dsimp only at hstep
  split at hstep
  · cases hstep
  · rename_i hclosed
    simp only [not_or, Decidable.not_not] at hclosed
    obtain ⟨hcalls, hopen, hmessage⟩ := hclosed
    cases hstep
    unfold TakenTo foldTurnEnd
    by_cases hactive : internal.status = .active
    · have hrows : turn.toolsClosedAs payload = true := by
        unfold TurnProjection.toolsClosedAs
        dsimp only
        rw [h.toolRows, List.map_map, List.all_map, Bool.and_eq_true]
        constructor
        · apply List.all_eq_true.mpr
          intro tool htool
          have hshut := List.any_eq_false.mp (by simpa using hopen) tool htool
          simpa [RoomSnapshotTool.projection] using hshut
        · exact decide_eq_true hcalls
      rw [if_neg (not_not_intro hactive), hrows, if_neg Bool.noConfusion,
        if_neg (not_not_intro hmessage)]
      exact ⟨_, rfl, h.updateInternal payload.internalTurnId _⟩
    · have hstatus : internal.status = payload.status.internalStatus := by
        simpa [hactive] using hcondition
      rw [if_pos hactive, if_pos hstatus]
      refine ⟨_, rfl, { h with internalTurns := ?_ }⟩
      rw [h.internalTurns]
      exact (updateFirst_of_eq hinternal (by rw [← hstatus])).symm

/-! ## Questionnaires -/

/-- What an interaction and the row that it shows agree on. -/
structure SameInteraction (interaction : HITLInteractionProjection)
    (row : RoomSnapshotInteraction) : Prop where
  interactionId : interaction.interactionId = row.interactionId
  state : interaction.state = row.state
  requestIds : interaction.requestIds = row.requestIds
  requests : interaction.requests.map questionShown = row.requests.map (questionShown ·.projection)
  resumedAt : interaction.resumedAt = row.resumedAt

theorem sameInteraction_iff {interaction : HITLInteractionProjection}
    {row : RoomSnapshotInteraction} :
    interactionShown interaction = interactionShown row.projection ↔
      SameInteraction interaction row := by
  unfold interactionShown RoomSnapshotInteraction.projection
  simp only [HITLInteractionProjection.mk.injEq, List.map_map]
  constructor
  · rintro ⟨hid, hstate, hids, hrequests, -, hresumed⟩
    exact ⟨hid, hstate, hids, hrequests, hresumed⟩
  · intro h
    exact ⟨h.interactionId, h.state, h.requestIds, h.requests, trivial, h.resumedAt⟩

namespace SameInteraction

variable {interaction : HITLInteractionProjection} {row : RoomSnapshotInteraction}
  (h : SameInteraction interaction row)

include h

theorem length : interaction.requests.length = row.requests.length := by
  simpa using congrArg List.length h.requests

theorem any_requests {p : HITLQuestionProjection → Bool} {q : RoomSnapshotRequest → Bool}
    (htest : ∀ question request, questionShown question = questionShown request.projection →
      p question = q request) :
    interaction.requests.any p = row.requests.any q :=
  any_of_map_eq h.requests htest

theorem questionIndexes (hrow : ProperInteraction row) :
    row.requests.map (·.questionIndex) =
      (interaction.requests.map (·.questionIndex)).map Int.ofNat := by
  have hshown := congrArg (List.map (·.questionIndex)) h.requests
  simp only [List.map_map] at hshown
  have hindexes : interaction.requests.map (·.questionIndex) =
      row.requests.map fun request => request.questionIndex.toNat := hshown
  rw [hindexes, List.map_map]
  apply List.map_congr_left
  intro request hrequest
  have hnumbered := (hrow.numbered request hrequest).1
  simp [hnumbered]

theorem questionCounts (hrow : ProperInteraction row) :
    (interaction.requests.all (·.questionCount = interaction.requests.length)) =
      row.requests.all (·.questionCount = row.requests.length) := by
  have hshown := congrArg (List.map (·.questionCount)) h.requests
  simp only [List.map_map] at hshown
  have hcounts : interaction.requests.map (·.questionCount) =
      row.requests.map fun request => request.questionCount.toNat := hshown
  have hleft : (interaction.requests.all (·.questionCount = interaction.requests.length)) =
      (interaction.requests.map (·.questionCount)).all (· = interaction.requests.length) := by
    rw [List.all_map]
    rfl
  rw [hleft, hcounts, List.all_map, h.length, Bool.eq_iff_iff, List.all_eq_true, List.all_eq_true]
  apply forall₂_congr
  intro request hrequest
  have hnumbered := (hrow.numbered request hrequest).2
  simp only [Function.comp_apply, decide_eq_true_eq]
  omega

theorem complete (hrow : ProperInteraction row) : interaction.complete = row.complete := by
  unfold HITLInteractionProjection.complete RoomSnapshotInteraction.complete
  rw [h.questionCounts hrow, h.questionIndexes hrow, Bool.and_comm, h.length,
    ← List.map_insertionSort (r := (· ≤ ·)) (s := (· ≤ ·)) Int.ofNat _ (by simp)]
  congr 1
  rw [decide_eq_decide]
  constructor
  · intro hsorted
    rw [hsorted]
  · intro hsorted
    exact List.map_injective_iff.mpr (fun a b hab => Int.ofNat.inj hab) hsorted

end SameInteraction

theorem Alike.findInteraction_some {id : String} {row : RoomSnapshotInteraction}
    (h : Alike conversationId key turn record) (hrow : record.findInteraction id = some row) :
    ∃ interaction, turn.findInteraction id = some interaction ∧ SameInteraction interaction row := by
  have hshown := h.findInteraction id
  rw [hrow] at hshown
  obtain ⟨interaction, hfind, hsame⟩ := Option.map_eq_some_iff.mp hshown
  exact ⟨interaction, hfind, sameInteraction_iff.mp hsame⟩

theorem Alike.findInteraction_none {id : String} (h : Alike conversationId key turn record)
    (hrow : record.findInteraction id = none) : turn.findInteraction id = none := by
  have hshown := h.findInteraction id
  rw [hrow] at hshown
  exact Option.map_eq_none_iff.mp hshown

theorem interactionId_of_find {id : String} {row : RoomSnapshotInteraction}
    (hrow : record.findInteraction id = some row) : row.interactionId = id := by
  simpa using List.find?_some hrow

theorem Proper.interaction {id : String} {row : RoomSnapshotInteraction} (h : Proper record)
    (hrow : record.findInteraction id = some row) : ProperInteraction row :=
  h.interactions row (List.mem_of_find?_eq_some hrow)

theorem Alike.updateInteraction {id : String}
    {f : HITLInteractionProjection → HITLInteractionProjection}
    {g : RoomSnapshotInteraction → RoomSnapshotInteraction}
    (h : Alike conversationId key turn record)
    (hupdate : ∀ interaction row, record.findInteraction id = some row →
      SameInteraction interaction row → SameInteraction (f interaction) (g row)) :
    Alike conversationId key (turn.updateInteraction id f) (record.updateInteraction id g) := by
  refine { h with interactions := ?_ }
  apply updateFirst_of_map_eq h.interactions
  · intro interaction row hsame
    rw [(sameInteraction_iff.mp hsame).interactionId]
  · intro interaction row _ hrow hsame
    exact sameInteraction_iff.mpr (hupdate interaction row hrow (sameInteraction_iff.mp hsame))

theorem foldRunWaitingInput_alike {payload : RunWaitingInputPayload} (hproper : Proper record)
    (h : Alike conversationId key turn record)
    (hcondition : record.takesAlike (.runWaitingInput payload) = true)
    (hstep : record.foldRunWaitingInput payload = some after) :
    TakenTo conversationId key turn (foldRunWaitingInput turn payload) after := by
  unfold RoomSnapshotTurn.foldRunWaitingInput at hstep
  cases hrow : record.findInteraction payload.interactionId with
  | none =>
      rw [hrow] at hstep
      cases hstep
  | some row =>
      rw [hrow] at hstep
      dsimp only at hstep
      obtain ⟨interaction, hfind, hsame⟩ := h.findInteraction_some hrow
      have hrowProper := hproper.interaction hrow
      have hid : interaction.interactionId = payload.interactionId := by
        rw [hsame.interactionId, interactionId_of_find hrow]
      split at hstep
      · cases hstep
      · rename_i hids
        split at hstep
        · cases hstep
        · rename_i hcomplete
          cases hstep
          have hfull : ¬(interaction.requests.length ≠ interaction.requestIds.length ∨
              interaction.complete = false) := by
            rw [hsame.complete hrowProper, hsame.length, hsame.requestIds, ← hrowProper.listed]
            simpa using hcomplete
          unfold TakenTo foldRunWaitingInput
          rw [hfind]
          dsimp only
          rw [hsame.requestIds, if_neg hids, ← hsame.requestIds, if_neg hfull, hid, h.active, h.state]
          rcases Bool.or_eq_true_iff.mp hcondition with hactive | hidle
          · have hactive : record.activeInteractionId = some payload.interactionId := by
              simpa using hactive
            have hstate : record.state = .awaitingInput := by
              apply hproper.awaiting
              rw [hactive]
              rfl
            rw [if_pos ⟨hactive, hstate⟩]
            refine ⟨turn, rfl, { h with state := ?_, active := ?_, interactions := ?_ }⟩
            · rw [h.state, hstate]
            · rw [h.interactions]
              symm
              apply map_updateFirst
              intro other hother
              rfl
            · rw [h.active, hactive]
          · obtain ⟨hnone, hwaits⟩ := Bool.and_eq_true_iff.mp hidle
            have hnone : record.activeInteractionId = none := Option.isNone_iff_eq_none.mp hnone
            rw [hrow] at hwaits
            have hwaits : row.state = .awaitingInput := by simpa using hwaits
            rw [hnone, if_neg (by simp), if_neg (by simp [truthy])]
            have hupdated : Alike conversationId key
                (turn.updateInteraction payload.interactionId (·.awaited payload.requestedAt))
                (record.updateInteraction payload.interactionId
                  (·.askedAt payload.requestedAt)) := by
              apply h.updateInteraction
              intro other otherRow hotherRow hother
              rw [hrow] at hotherRow
              cases hotherRow
              exact ⟨hother.interactionId, hwaits.symm, hother.requestIds, hother.requests,
                hother.resumedAt⟩
            exact ⟨_, rfl, { hupdated with state := rfl, active := rfl }⟩

theorem foldRunResumed_alike {payload : RunResumedPayload}
    (h : Alike conversationId key turn record)
    (hstep : record.foldRunResumed payload = some after) :
    TakenTo conversationId key turn (foldRunResumed turn payload) after := by
  unfold RoomSnapshotTurn.foldRunResumed at hstep
  split at hstep
  · cases hstep
  · rename_i hactive
    have hactive : record.activeInteractionId = some payload.interactionId :=
      Decidable.not_not.mp hactive
    cases hrow : record.findInteraction payload.interactionId with
    | none =>
        rw [hrow] at hstep
        cases hstep
    | some row =>
        rw [hrow] at hstep
        dsimp only at hstep
        obtain ⟨interaction, hfind, hsame⟩ := h.findInteraction_some hrow
        have hid : interaction.interactionId = payload.interactionId := by
          rw [hsame.interactionId, interactionId_of_find hrow]
        split at hstep
        · cases hstep
        · rename_i hresolved
          simp only [not_or, Decidable.not_not] at hresolved
          obtain ⟨hids, hstatuses⟩ := hresolved
          cases hstep
          have hanswered : interaction.requests.any (·.status ≠ .responded) =
              row.requests.any (·.status ≠ .responded) := by
            apply hsame.any_requests
            intro question request hshown
            have hstatus : question.status = request.status :=
              congrArg HITLQuestionProjection.status hshown
            rw [hstatus]
          unfold TakenTo foldRunResumed
          rw [hfind]
          dsimp only
          rw [hanswered, hid, hsame.requestIds, h.active]
          have htaken : ¬(record.activeInteractionId ≠ some payload.interactionId ∨
              row.requestIds ≠ payload.resolvedRequestIds ∨
              row.requests.any (·.status ≠ .responded) = true) := by
            rintro (hother | hother | hother)
            · exact hother hactive
            · exact hother hids
            · exact hstatuses hother
          rw [if_neg htaken]
          have hupdated : Alike conversationId key
              (turn.updateInteraction payload.interactionId (·.resumed payload.resumedAt))
              (record.updateInteraction payload.interactionId (·.resumed payload.resumedAt)) := by
            apply h.updateInteraction
            intro other otherRow _ hother
            exact ⟨hother.interactionId, rfl, hother.requestIds, hother.requests, rfl⟩
          exact ⟨_, rfl, { hupdated with state := rfl, active := rfl }⟩

/-! ## Settlement -/

theorem Alike.hasOpenChildren (hproper : Proper record)
    (h : Alike conversationId key turn record) :
    turn.hasOpenChildren = record.openChildren := by
  have hactive : truthy turn.activeInteractionId = record.activeInteractionId.isSome := by
    rw [h.active]
    cases hid : record.activeInteractionId with
    | none => rfl
    | some id => simpa [truthy] using (hproper.active id hid).1
  have htools : turn.activity.any (·.isOpenTool) = record.activity.any (·.isOpenTool) :=
    h.any_activity fun item => by cases item <;> rfl
  unfold TurnProjection.hasOpenChildren RoomSnapshotTurn.openChildren
  rw [hactive, htools, h.current, h.internalTurns, Option.isSome_map]

theorem Alike.finalClosure (finalMessageId : Option String)
    (h : Alike conversationId key turn record) :
    turn.finalClosure finalMessageId = record.finalClosure finalMessageId := by
  have hclosed : turn.earlierTurnsClosed = record.earlierClosed := by
    unfold TurnProjection.earlierTurnsClosed RoomSnapshotTurn.earlierClosed
    rw [h.internalTurns]
    congr 1
    funext item
    rw [h.any_retryOf]
  have hfinal := h.final
  unfold TurnProjection.finalClosure RoomSnapshotTurn.finalClosure
  rw [h.internalTurns, hclosed, h.committed]
  cases hrecord : record.finalAnswer with
  | none =>
      rw [hrecord] at hfinal
      rw [Option.map_eq_none_iff.mp hfinal]
  | some final =>
      rw [hrecord] at hfinal
      obtain ⟨shownFinal, hturn, hsame⟩ := Option.map_eq_some_iff.mp hfinal
      have hmessage : shownFinal.messageId = final.messageId :=
        congrArg AssistantProjection.messageId hsame
      have howner : shownFinal.internalTurnId = final.internalTurnId :=
        congrArg AssistantProjection.internalTurnId hsame
      rw [hturn]
      cases record.internalTurns.getLast? with
      | none => rfl
      | some lastInternal =>
          dsimp only
          rw [hmessage, howner]

theorem Alike.settle {payload : RunSettledPayload} (hproper : Proper record)
    (h : Alike conversationId key turn record) (haccepted : payload.closedShape = true)
    (hunsettled : record.state.settled = false) :
    Alike conversationId key (turn.settle payload) (record.settle payload) := by
  obtain ⟨hcode, hsummary⟩ := hproper.unsettled hunsettled
  have hnocode : turn.terminalCode = none := by rw [h.terminalCode, hcode]
  have hnosummary : turn.terminalSummary = none := by rw [h.terminalSummary, hsummary]
  unfold RunSettledPayload.closedShape at haccepted
  refine { h with state := rfl, settledAt := rfl, durationMs := rfl, terminalCode := ?_,
                  terminalSummary := ?_ }
  · unfold TurnProjection.settle RoomSnapshotTurn.settle
    cases hstatus : payload.status with
    | completed =>
        rw [hstatus] at haccepted
        simp only [Bool.and_eq_true, Option.isNone_iff_eq_none] at haccepted
        simp [hnocode, haccepted.1.1.2, haccepted.2]
    | failed =>
        rw [hstatus] at haccepted
        simp only [Bool.and_eq_true, Option.isNone_iff_eq_none] at haccepted
        simp [haccepted.2]
    | canceled =>
        rw [hstatus] at haccepted
        simp only [Bool.and_eq_true, Option.isNone_iff_eq_none] at haccepted
        simp [haccepted.1.1.2]
  · unfold TurnProjection.settle RoomSnapshotTurn.settle
    cases hstatus : payload.status with
    | completed =>
        rw [hstatus] at haccepted
        simp only [Bool.and_eq_true, Option.isNone_iff_eq_none] at haccepted
        simp [hnosummary, haccepted.1.2]
    | failed => rfl
    | canceled =>
        rw [hstatus] at haccepted
        simp only [Bool.and_eq_true, Option.isNone_iff_eq_none] at haccepted
        simp [hnosummary, haccepted.1.2]

theorem foldRunSettled_alike {payload : RunSettledPayload} (hproper : Proper record)
    (h : Alike conversationId key turn record) (haccepted : payload.closedShape = true)
    (hunsettled : record.state.settled = false)
    (hstep : record.foldRunSettled payload = some after) :
    TakenTo conversationId key turn (foldRunSettled turn payload) after := by
  have hsettled := h.settle hproper haccepted hunsettled
  unfold RoomSnapshotTurn.foldRunSettled at hstep
  unfold TakenTo foldRunSettled
  rw [h.hasOpenChildren hproper, h.finalClosure, h.internalTurns]
  split at hstep
  · cases hstep
  · rename_i hopen
    rw [if_neg hopen]
    cases hstatus : payload.status with
    | completed =>
        rw [hstatus, if_pos rfl] at hstep
        split at hstep
        · rename_i hclosure
          cases hstep
          dsimp only
          rw [if_pos hclosure]
          exact ⟨_, rfl, hsettled⟩
        · cases hstep
    | failed =>
        rw [hstatus, if_neg SettlementStatus.noConfusion] at hstep
        split at hstep
        · rename_i hbroken
          cases hstep
          dsimp only
          rw [if_pos hbroken]
          exact ⟨_, rfl, hsettled⟩
        · cases hstep
    | canceled =>
        rw [hstatus, if_neg SettlementStatus.noConfusion] at hstep
        split at hstep
        · rename_i hbroken
          cases hstep
          dsimp only
          rw [if_pos hbroken]
          exact ⟨_, rfl, hsettled⟩
        · cases hstep

end Hybro.TurnSnapshot
