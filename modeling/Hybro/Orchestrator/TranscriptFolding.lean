import Hybro.Orchestrator.Transcript
import Hybro.Orchestrator.ModelTurn

/-! # Folding the tool messages of a call

The second loop keeps one tool message for a call, in the place of the first, when every
tool message it reads follows its call.
-/

namespace Hybro.Orchestrator

open OrderedMap

/-! ## One tool message for each call -/

theorem updateFirst_eq_map {α : Type} {p : α → Bool} {f : α → α} {items : List α}
    (h : items.countP p ≤ 1) :
    updateFirst p f items = items.map fun x => if p x then f x else x := by
  induction items with
  | nil => rfl
  | cons x rest ih =>
      rw [List.countP_cons] at h
      cases hx : p x with
      | true =>
          have hnone : rest.countP p = 0 := by
            simp only [hx, if_true] at h
            omega
          have hrest : rest.map (fun y => if p y then f y else y) = rest := by
            refine List.map_congr_left (g := id) ?_ |>.trans (List.map_id _)
            intro y hy
            exact if_neg (List.countP_eq_zero.mp hnone y hy)
          simp [updateFirst, hx, hrest]
      | false =>
          simp only [hx, Bool.false_eq_true, if_false, Nat.add_zero] at h
          simp [updateFirst, hx, ih h]

def mergeAll : List ModelToolResultPart → Option ModelToolResultPart
  | [] => none
  | part :: rest => some (rest.foldl ModelToolResultPart.merge part)

theorem foldl_merge (part : ModelToolResultPart) (rest : List ModelToolResultPart) :
    rest.foldl ModelToolResultPart.merge part = {
      callId := part.callId
      toolName := part.toolName
      text := String.intercalate "\n\n" (part.text :: rest.map (·.text))
      isError := part.isError || rest.any (·.isError) } := by
  induction rest generalizing part with
  | nil =>
      rw [List.any_nil, Bool.or_false]
      rfl
  | cons next rest ih =>
      rw [List.foldl_cons, ih, List.any_cons, ← Bool.or_assoc]
      rfl

theorem mergeAll_append {parts : List ModelToolResultPart} (part : ModelToolResultPart) :
    mergeAll (parts ++ [part]) =
      some (match mergeAll parts with
        | none => part
        | some existing => existing.merge part) := by
  cases parts with
  | nil => rfl
  | cons first rest => simp [mergeAll]

def keptParts (failed : List String) (messages : List ModelMessage) (callId : String) :
    List ModelToolResultPart :=
  (messages.filterMap ModelMessage.toolPart?).filter fun part =>
    part.callId = callId && kept failed part.callId part.toolName

theorem mergeAll_callId {failed : List String} {messages : List ModelMessage} {callId : String}
    {part : ModelToolResultPart} (h : mergeAll (keptParts failed messages callId) = some part) :
    part.callId = callId := by
  cases hparts : keptParts failed messages callId with
  | nil => simp [hparts, mergeAll] at h
  | cons first rest =>
      rw [hparts] at h
      cases h
      have hmem : first ∈ keptParts failed messages callId := hparts ▸ List.mem_cons_self
      rw [foldl_merge]
      unfold keptParts at hmem
      simp only [List.mem_filter, Bool.and_eq_true, decide_eq_true_eq] at hmem
      exact hmem.2.1

/-! ## The invariant of the second loop -/

def Calls (messages : List ModelMessage) (callId toolName : String) : Prop :=
  ∃ content arguments, .assistant content ∈ messages ∧ .toolCall callId toolName arguments ∈ content

structure FoldInv (failed : List String) (done : List ModelMessage) (s : FoldState) : Prop where
  once : ∀ callId, s.folded.countP (·.isToolOf callId) ≤ 1
  blocks : ∀ callId, get s.toolBlocks callId = mergeAll (keptParts failed done callId)
  stored : ∀ part, .tool part ∈ s.folded ↔ get s.toolBlocks part.callId = some part
  assistants : ∀ content, .assistant content ∈ s.folded ↔
    content ≠ [] ∧ ∃ whole, .assistant whole ∈ done ∧ content = whole.filter (·.kept failed)
  ordered : ∀ before part after, s.folded = before ++ .tool part :: after →
    ∃ toolName, Calls before part.callId toolName

variable {failed : List String} {done : List ModelMessage} {s : FoldState}

theorem FoldInv.start : FoldInv failed [] {} where
  once := fun _ => Nat.zero_le _
  blocks := fun _ => rfl
  stored := fun _ => iff_of_false nofun nofun
  assistants := by
    intro content
    refine iff_of_false nofun ?_
    rintro ⟨-, whole, hwhole, -⟩
    cases hwhole
  ordered := by
    intro before part after h
    cases before <;> cases h

theorem FoldInv.plain (h : FoldInv failed done s) {message : ModelMessage}
    {added : List ModelMessage} (hadded : added = [] ∨ ∃ other, added = [other])
    (hmessage : message.toolPart? = none) (hnone : ∀ part, .tool part ∉ added)
    (hassistants : ∀ content, .assistant content ∈ added ↔
      content ≠ [] ∧ ∃ whole, message = .assistant whole ∧ content = whole.filter (·.kept failed)) :
    FoldInv failed (done ++ [message]) { s with folded := s.folded ++ added } where
  once := by
    intro callId
    have hzero : added.countP (·.isToolOf callId) = 0 := by
      rw [List.countP_eq_zero]
      intro other hother
      cases other with
      | tool part => exact absurd hother (hnone part)
      | user text => simp [ModelMessage.isToolOf]
      | assistant content => simp [ModelMessage.isToolOf]
    rw [List.countP_append, hzero]
    exact h.once callId
  blocks := by
    intro callId
    have hsame : keptParts failed (done ++ [message]) callId = keptParts failed done callId := by
      simp [keptParts, hmessage]
    rw [hsame]
    exact h.blocks callId
  stored := by
    intro part
    rw [List.mem_append, or_iff_left (hnone part)]
    exact h.stored part
  assistants := by
    intro content
    rw [List.mem_append, h.assistants, hassistants]
    constructor
    · rintro (⟨hne, whole, hwhole, hcontent⟩ | ⟨hne, whole, rfl, hcontent⟩)
      · exact ⟨hne, whole, List.mem_append_left _ hwhole, hcontent⟩
      · exact ⟨hne, whole, List.mem_append_right _ List.mem_cons_self, hcontent⟩
    · rintro ⟨hne, whole, hwhole, hcontent⟩
      rcases List.mem_append.mp hwhole with hwhole | hwhole
      · exact .inl ⟨hne, whole, hwhole, hcontent⟩
      · exact .inr ⟨hne, whole, (List.mem_singleton.mp hwhole).symm, hcontent⟩
  ordered := by
    intro before part after hsplit
    rcases hadded with rfl | ⟨other, rfl⟩
    · rw [List.append_nil] at hsplit
      exact h.ordered before part after hsplit
    · rcases List.eq_nil_or_concat after with rfl | ⟨front, last, rfl⟩
      · have hlast := (List.append_inj' hsplit rfl).2
        exact absurd (hlast ▸ List.mem_cons_self) (hnone part)
      · rw [List.concat_eq_append, ← List.cons_append, ← List.append_assoc] at hsplit
        exact h.ordered before part front (List.append_inj' hsplit rfl).1

/-- What the second loop reads of a list: the parts of each call, and the assistants. -/
theorem keptParts_tool (part : ModelToolResultPart) (callId : String) :
    keptParts failed (done ++ [.tool part]) callId = keptParts failed done callId ++
      if part.callId = callId ∧ kept failed part.callId part.toolName = true then [part] else [] := by
  have hone : [ModelMessage.tool part].filterMap ModelMessage.toolPart? = [part] := rfl
  simp only [keptParts, List.filterMap_append, List.filter_append, hone]
  by_cases hpart : part.callId = callId ∧ kept failed part.callId part.toolName = true
  · rw [if_pos hpart, List.filter_cons_of_pos (by simpa using hpart), List.filter_nil]
  · rw [if_neg hpart, List.filter_cons_of_neg (by simpa using hpart), List.filter_nil]

theorem assistants_tool {part : ModelToolResultPart} {content : List AssistantPart} :
    (∃ whole, ModelMessage.assistant whole ∈ done ++ [.tool part] ∧
      content = whole.filter (·.kept failed)) ↔
    ∃ whole, ModelMessage.assistant whole ∈ done ∧ content = whole.filter (·.kept failed) := by
  simp

theorem FoldInv.dropped (h : FoldInv failed done s) {part : ModelToolResultPart}
    (hdropped : kept failed part.callId part.toolName = false) :
    FoldInv failed (done ++ [.tool part]) s where
  once := h.once
  blocks := by
    intro callId
    rw [keptParts_tool, if_neg (by simp [hdropped]), List.append_nil]
    exact h.blocks callId
  stored := h.stored
  assistants := by
    intro content
    rw [assistants_tool]
    exact h.assistants content
  ordered := h.ordered

theorem FoldInv.first (h : FoldInv failed done s) {part : ModelToolResultPart}
    (hkept : kept failed part.callId part.toolName = true)
    (hnone : get s.toolBlocks part.callId = none)
    (hcalled : ∃ toolName, Calls s.folded part.callId toolName) :
    FoldInv failed (done ++ [.tool part])
      { folded := s.folded ++ [.tool part], toolBlocks := put s.toolBlocks part.callId part } where
  once := by
    intro callId
    rw [List.countP_append]
    by_cases hsame : part.callId = callId
    · have hzero : s.folded.countP (·.isToolOf callId) = 0 := by
        rw [List.countP_eq_zero]
        intro message hmessage
        cases message with
        | user text => simp [ModelMessage.isToolOf]
        | assistant content => simp [ModelMessage.isToolOf]
        | tool other =>
            have hstored := (h.stored other).mp hmessage
            simp only [ModelMessage.isToolOf, decide_eq_true_eq]
            rintro rfl
            rw [hsame] at hnone
            rw [hnone] at hstored
            cases hstored
      rw [hzero, Nat.zero_add]
      exact List.countP_le_length
    · have hzero : [ModelMessage.tool part].countP (·.isToolOf callId) = 0 := by
        simp [ModelMessage.isToolOf, hsame]
      rw [hzero]
      exact h.once callId
  blocks := by
    intro callId
    rw [keptParts_tool]
    by_cases hsame : callId = part.callId
    · subst hsame
      have hblock := h.blocks part.callId
      rw [hnone] at hblock
      rw [get_put_self, if_pos ⟨rfl, hkept⟩, mergeAll_append, ← hblock]
    · rw [get_put_of_ne _ hsame, if_neg (fun hboth => hsame hboth.1.symm), List.append_nil]
      exact h.blocks callId
  stored := by
    intro other
    rw [List.mem_append, List.mem_singleton, h.stored]
    by_cases hsame : other.callId = part.callId
    · rw [hsame, get_put_self, hnone]
      constructor
      · rintro (hother | hother)
        · cases hother
        · cases hother
          rfl
      · intro hother
        cases hother
        exact .inr rfl
    · rw [get_put_of_ne _ hsame]
      constructor
      · rintro (hother | hother)
        · exact hother
        · cases hother
          exact absurd rfl hsame
      · exact .inl
  assistants := by
    intro content
    rw [assistants_tool, ← h.assistants]
    simp
  ordered := by
    intro before other after hsplit
    rcases List.eq_nil_or_concat after with rfl | ⟨front, last, rfl⟩
    · obtain ⟨rfl, hlast⟩ := List.append_inj' hsplit rfl
      cases hlast
      exact hcalled
    · rw [List.concat_eq_append, ← List.cons_append, ← List.append_assoc] at hsplit
      exact h.ordered before other front (List.append_inj' hsplit rfl).1

def ModelMessage.replaceTool (part : ModelToolResultPart) (message : ModelMessage) : ModelMessage :=
  if message.isToolOf part.callId then .tool part else message

theorem replaceTool_isToolOf (part : ModelToolResultPart) (message : ModelMessage)
    (callId : String) :
    (message.replaceTool part).isToolOf callId = message.isToolOf callId := by
  unfold ModelMessage.replaceTool
  split
  · next hsame =>
      cases message with
      | user text => cases hsame
      | assistant content => cases hsame
      | tool other =>
          have hcallId : other.callId = part.callId := by simpa [ModelMessage.isToolOf] using hsame
          simp [ModelMessage.isToolOf, hcallId]
  · rfl

theorem replaceTool_assistant {part : ModelToolResultPart} {message : ModelMessage}
    {content : List AssistantPart} :
    message.replaceTool part = .assistant content ↔ message = .assistant content := by
  unfold ModelMessage.replaceTool
  cases message with
  | user text => simp [ModelMessage.isToolOf]
  | assistant other => simp [ModelMessage.isToolOf]
  | tool other => split <;> simp

theorem FoldInv.merged (h : FoldInv failed done s) {part existing : ModelToolResultPart}
    (hkept : kept failed part.callId part.toolName = true)
    (hexisting : get s.toolBlocks part.callId = some existing) :
    FoldInv failed (done ++ [.tool part])
      { folded := s.folded.map (·.replaceTool (existing.merge part))
        toolBlocks := put s.toolBlocks part.callId (existing.merge part) } := by
  have hcallId : existing.callId = part.callId := by
    have hblock := h.blocks part.callId
    rw [hexisting] at hblock
    exact mergeAll_callId hblock.symm
  have hupdated : (existing.merge part).callId = part.callId := hcallId
  constructor
  · intro callId
    rw [List.countP_map]
    have hsame : (fun message : ModelMessage => message.isToolOf callId) ∘
        (fun message : ModelMessage => message.replaceTool (existing.merge part)) =
          fun message => message.isToolOf callId := by
      funext message
      exact replaceTool_isToolOf _ _ _
    rw [hsame]
    exact h.once callId
  · intro callId
    rw [keptParts_tool]
    by_cases hsame : callId = part.callId
    · subst hsame
      have hblock := h.blocks part.callId
      rw [hexisting] at hblock
      rw [get_put_self, if_pos ⟨rfl, hkept⟩, mergeAll_append, ← hblock]
    · rw [get_put_of_ne _ hsame, if_neg (fun hboth => hsame hboth.1.symm), List.append_nil]
      exact h.blocks callId
  · intro other
    rw [List.mem_map]
    by_cases hsame : other.callId = part.callId
    · rw [hsame, get_put_self]
      constructor
      · rintro ⟨message, hmessage, hreplaced⟩
        have htool := replaceTool_isToolOf (existing.merge part) message part.callId
        rw [hreplaced] at htool
        have hother : message.isToolOf part.callId = true := by
          rw [← htool]
          simp [ModelMessage.isToolOf, hsame]
        unfold ModelMessage.replaceTool at hreplaced
        rw [hupdated, if_pos hother] at hreplaced
        cases hreplaced
        rfl
      · intro hother
        cases hother
        refine ⟨.tool existing, (h.stored existing).mpr (hcallId ▸ hexisting), ?_⟩
        unfold ModelMessage.replaceTool
        exact if_pos (by simp [ModelMessage.isToolOf, hcallId, hupdated])
    · rw [get_put_of_ne _ hsame, ← h.stored]
      constructor
      · rintro ⟨message, hmessage, hreplaced⟩
        unfold ModelMessage.replaceTool at hreplaced
        split at hreplaced
        · cases hreplaced
          exact absurd hupdated hsame
        · rw [← hreplaced]
          exact hmessage
      · intro hother
        refine ⟨.tool other, hother, ?_⟩
        unfold ModelMessage.replaceTool
        refine if_neg ?_
        simp only [ModelMessage.isToolOf, hupdated, decide_eq_true_eq]
        exact hsame
  · intro content
    rw [assistants_tool, ← h.assistants, List.mem_map]
    constructor
    · rintro ⟨message, hmessage, hreplaced⟩
      rw [← replaceTool_assistant.mp hreplaced]
      exact hmessage
    · intro hcontent
      exact ⟨_, hcontent, replaceTool_assistant.mpr rfl⟩
  · intro before other after hsplit
    obtain ⟨first, rest, hfolded, hfirst, hrest⟩ := List.map_eq_append_iff.mp hsplit
    obtain ⟨message, last, hcons, hmessage, -⟩ := List.map_eq_cons_iff.mp hrest
    subst hcons
    have htool : message.isToolOf other.callId = true := by
      rw [← replaceTool_isToolOf (existing.merge part), hmessage]
      simp [ModelMessage.isToolOf]
    cases message with
    | user text => cases htool
    | assistant content => cases htool
    | tool old =>
        have hold : old.callId = other.callId := by simpa [ModelMessage.isToolOf] using htool
        obtain ⟨toolName, content, arguments, hcontent, hcall⟩ := h.ordered first old last hfolded
        refine ⟨toolName, content, arguments, ?_, hold ▸ hcall⟩
        rw [← hfirst]
        exact List.mem_map.mpr ⟨_, hcontent, replaceTool_assistant.mpr rfl⟩

def Paired (messages : List ModelMessage) : Prop :=
  ∀ before part after, messages = before ++ .tool part :: after →
    Calls before part.callId part.toolName

theorem FoldInv.calls (h : FoldInv failed done s) {callId toolName : String}
    (hkept : kept failed callId toolName = true) (hcalls : Calls done callId toolName) :
    Calls s.folded callId toolName := by
  obtain ⟨whole, arguments, hwhole, hcall⟩ := hcalls
  have hmem : AssistantPart.toolCall callId toolName arguments ∈ whole.filter (·.kept failed) :=
    List.mem_filter.mpr ⟨hcall, hkept⟩
  exact ⟨_, arguments, (h.assistants _).mpr ⟨List.ne_nil_of_mem hmem, whole, hwhole, rfl⟩, hmem⟩

theorem FoldInv.step (h : FoldInv failed done s) (message : ModelMessage)
    (hpaired : ∀ part, message = .tool part → Calls done part.callId part.toolName) :
    FoldInv failed (done ++ [message]) (s.step failed message) := by
  cases message with
  | user text =>
      refine h.plain (.inr ⟨_, rfl⟩) rfl ?_ ?_
      · simp
      · simp
  | assistant content =>
      unfold FoldState.step
      by_cases hnone : content.filter (·.kept failed) = []
      · simp only [hnone, if_true]
        have hplain := @FoldInv.plain _ _ _ h (.assistant content) [] (.inl rfl) rfl nofun ?_
        · simpa using hplain
        · intro other
          refine iff_of_false nofun ?_
          rintro ⟨hne, whole, hwhole, rfl⟩
          cases hwhole
          exact hne hnone
      · simp only [hnone, if_false]
        refine h.plain (.inr ⟨_, rfl⟩) rfl (by simp) ?_
        intro other
        rw [List.mem_singleton]
        constructor
        · intro hother
          cases hother
          exact ⟨hnone, content, rfl, rfl⟩
        · rintro ⟨-, whole, hwhole, rfl⟩
          cases hwhole
          rfl
  | tool part =>
      unfold FoldState.step
      dsimp only
      by_cases hdropped : kept failed part.callId part.toolName = false
      · rw [if_pos hdropped]
        exact h.dropped hdropped
      · have hkept : kept failed part.callId part.toolName = true := by simpa using hdropped
        have hcalls := h.calls hkept (hpaired part rfl)
        rw [if_neg hdropped]
        cases hblock : get s.toolBlocks part.callId with
        | none => exact h.first hkept hblock ⟨_, hcalls⟩
        | some existing =>
            have hcallId : existing.callId = part.callId := by
              have hmerged := h.blocks part.callId
              rw [hblock] at hmerged
              exact mergeAll_callId hmerged.symm
            have hreplaced : (updateFirst (fun message : ModelMessage => message.isToolOf part.callId)
                (fun _ => ModelMessage.tool (existing.merge part)) s.folded.reverse).reverse =
                s.folded.map fun message => message.replaceTool (existing.merge part) := by
              rw [updateFirst_eq_map (by rw [List.countP_reverse]; exact h.once part.callId),
                List.map_reverse, List.reverse_reverse]
              refine List.map_congr_left ?_
              intro message _
              unfold ModelMessage.replaceTool
              rw [show (existing.merge part).callId = part.callId from hcallId]
            dsimp only
            rw [hreplaced]
            exact h.merged hkept hblock

theorem foldl_step_inv {rest : List ModelMessage} (h : FoldInv failed done s)
    (hpaired : Paired (done ++ rest)) :
    FoldInv failed (done ++ rest) (rest.foldl (FoldState.step failed) s) := by
  induction rest generalizing done s with
  | nil => rwa [List.append_nil]
  | cons message rest ih =>
      have hstep := h.step message fun part hpart => hpaired done part rest (by rw [hpart])
      have hsplit : done ++ message :: rest = done ++ [message] ++ rest := by simp
      rw [hsplit] at hpaired ⊢
      exact ih hstep hpaired

theorem foldMessages_inv {messages : List ModelMessage} (hpaired : Paired messages) :
    FoldInv failed messages (foldMessages failed messages) :=
  @foldl_step_inv failed [] _ _ .start hpaired

end Hybro.Orchestrator
