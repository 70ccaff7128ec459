import Hybro.Orchestrator.TranscriptFolding

/-! # Calls and answers of the provider messages

What the first loop renders answers an earlier call. Folding keeps that: the returned
messages pair every kept call with one tool message that tells all its answers.
-/

namespace Hybro.Orchestrator

open OrderedMap

/-! ## The first loop -/

variable {dumps : JsonValue → String} {context : RenderContext} {messages : List AgentMessage}

theorem addCalls_ok {calls added : List String} {toolCalls : List ToolCall}
    (h : addCalls calls toolCalls = .ok added) :
    ∀ callId, callId ∈ added ↔ callId ∈ calls ∨ ∃ call ∈ toolCalls, call.callId = callId := by
  induction toolCalls generalizing calls with
  | nil =>
      cases h
      simp
  | cons call rest ih =>
      unfold addCalls at h
      split at h
      · cases h
      · intro callId
        rw [ih h, List.mem_cons]
        simp only [List.mem_cons, exists_eq_or_imp]
        constructor
        · rintro ((rfl | hold) | hrest)
          · exact .inr (.inl rfl)
          · exact .inl hold
          · exact .inr (.inr hrest)
        · rintro (hold | rfl | hrest)
          · exact .inl (.inr hold)
          · exact .inl (.inl rfl)
          · exact .inr hrest

/-- What the first loop makes of a transcript. -/
structure Rendered (dumps : JsonValue → String) (context : RenderContext) (calls : List String)
    (messages : List AgentMessage) (rendered : List ModelMessage) : Prop where
  parts : rendered.filterMap ModelMessage.toolPart? = messages.filterMap (toolPart dumps context)
  assistants : ∀ content, .assistant content ∈ rendered ↔
    ∃ message, .assistant message ∈ messages ∧ content = assistantParts dumps context message
  follows : ∀ before part after, rendered = before ++ .tool part :: after →
    part.callId ∈ calls ∨ ∃ toolName, Calls before part.callId toolName

theorem Calls.mono {before before' : List ModelMessage} {callId toolName : String}
    (h : Calls before callId toolName) (hsub : ∀ message ∈ before, message ∈ before') :
    Calls before' callId toolName := by
  obtain ⟨content, arguments, hcontent, hcall⟩ := h
  exact ⟨content, arguments, hsub _ hcontent, hcall⟩

theorem Rendered.silent {calls : List String} {rendered added : List ModelMessage}
    (h : Rendered dumps context calls messages rendered) {message : AgentMessage}
    (hadded : ∀ other ∈ added, ∃ text, other = .user text)
    (hpart : toolPart dumps context message = none)
    (hassistant : ∀ other, message ≠ .assistant other) :
    Rendered dumps context calls (message :: messages) (added ++ rendered) where
  parts := by
    have hnone : added.filterMap ModelMessage.toolPart? = [] := by
      rw [List.filterMap_eq_nil_iff]
      intro other hother
      obtain ⟨text, rfl⟩ := hadded other hother
      rfl
    rw [List.filterMap_append, hnone, List.nil_append, h.parts, List.filterMap_cons, hpart]
  assistants := by
    intro content
    have hnone : ModelMessage.assistant content ∉ added := by
      intro hmem
      obtain ⟨text, htext⟩ := hadded _ hmem
      cases htext
    rw [List.mem_append, or_iff_right hnone, h.assistants]
    constructor
    · rintro ⟨other, hother, hcontent⟩
      exact ⟨other, List.mem_cons_of_mem _ hother, hcontent⟩
    · rintro ⟨other, hother, hcontent⟩
      rcases List.mem_cons.mp hother with hsame | hother
      · exact absurd hsame.symm (hassistant other)
      · exact ⟨other, hother, hcontent⟩
  follows := by
    intro before part after hsplit
    rcases List.append_eq_append_iff.mp hsplit with ⟨front, rfl, hrest⟩ | ⟨front, hfront, hrest⟩
    · refine (h.follows front part after hrest).imp_right ?_
      rintro ⟨toolName, hcalls⟩
      exact ⟨toolName, hcalls.mono fun message hmessage => List.mem_append_right _ hmessage⟩
    · cases front with
      | nil =>
          rw [List.append_nil] at hfront
          rw [List.nil_append] at hrest
          subst hfront
          refine (h.follows [] part after hrest.symm).imp_right ?_
          rintro ⟨toolName, hcalls⟩
          exact ⟨toolName, hcalls.mono nofun⟩
      | cons first front =>
          have hfirst : ModelMessage.tool part = first := (List.cons.inj hrest).1
          obtain ⟨text, htext⟩ := hadded first (hfront ▸ by simp)
          rw [htext] at hfirst
          cases hfirst

variable (dumps context) in
theorem mem_assistantParts {message : AssistantMessage} {callId toolName : String} :
    (∃ arguments, .toolCall callId toolName arguments ∈ assistantParts dumps context message) ↔
      ∃ call ∈ message.toolCalls, call.callId = callId ∧ call.toolName = toolName := by
  unfold assistantParts
  dsimp only
  constructor
  · rintro ⟨arguments, hmem⟩
    rcases List.mem_append.mp hmem with hmem | hmem
    · split at hmem <;> simp at hmem
    · obtain ⟨call, hcall, hpart⟩ := List.mem_map.mp hmem
      unfold callPart at hpart
      cases hpart
      exact ⟨call, hcall, rfl, rfl⟩
  · rintro ⟨call, hcall, rfl, rfl⟩
    exact ⟨_, List.mem_append_right _ (List.mem_map.mpr ⟨call, hcall, rfl⟩)⟩

theorem Rendered.assistant {calls added : List String} {rendered : List ModelMessage}
    (h : Rendered dumps context added messages rendered) {message : AssistantMessage}
    (hadded : addCalls calls message.toolCalls = .ok added) :
    Rendered dumps context calls (.assistant message :: messages)
      (.assistant (assistantParts dumps context message) :: rendered) where
  parts := h.parts
  assistants := by
    intro content
    rw [List.mem_cons, h.assistants]
    constructor
    · rintro (hcontent | ⟨other, hother, hcontent⟩)
      · cases hcontent
        exact ⟨message, List.mem_cons_self, rfl⟩
      · exact ⟨other, List.mem_cons_of_mem _ hother, hcontent⟩
    · rintro ⟨other, hother, hcontent⟩
      rcases List.mem_cons.mp hother with hsame | hother
      · cases hsame
        exact .inl (congrArg _ hcontent)
      · exact .inr ⟨other, hother, hcontent⟩
  follows := by
    intro before part after hsplit
    cases before with
    | nil => cases (List.cons.inj hsplit).1
    | cons first before =>
        obtain ⟨hfirst, hrest⟩ := List.cons.inj hsplit
        rcases h.follows before part after hrest with hknown | ⟨toolName, hcalls⟩
        · rcases (addCalls_ok hadded part.callId).mp hknown with hold | ⟨call, hcall, hcallId⟩
          · exact .inl hold
          · obtain ⟨arguments, hmem⟩ := (mem_assistantParts dumps context).mpr ⟨call, hcall, hcallId, rfl⟩
            exact .inr ⟨call.toolName, _, arguments, hfirst ▸ List.mem_cons_self, hmem⟩
        · exact .inr ⟨toolName, hcalls.mono fun _ hmessage => List.mem_cons_of_mem _ hmessage⟩

theorem Rendered.tool {calls : List String} {rendered : List ModelMessage}
    (h : Rendered dumps context calls messages rendered) {message : AgentMessage}
    {part : ModelToolResultPart} (hpart : toolPart dumps context message = some part)
    (hassistant : ∀ other, message ≠ .assistant other) (hknown : part.callId ∈ calls) :
    Rendered dumps context calls (message :: messages) (.tool part :: rendered) where
  parts := by
    rw [List.filterMap_cons, List.filterMap_cons, hpart, h.parts]
    rfl
  assistants := by
    intro content
    rw [List.mem_cons, or_iff_right nofun, h.assistants]
    constructor
    · rintro ⟨other, hother, hcontent⟩
      exact ⟨other, List.mem_cons_of_mem _ hother, hcontent⟩
    · rintro ⟨other, hother, hcontent⟩
      rcases List.mem_cons.mp hother with hsame | hother
      · exact absurd hsame.symm (hassistant other)
      · exact ⟨other, hother, hcontent⟩
  follows := by
    intro before other after hsplit
    cases before with
    | nil =>
        cases (List.cons.inj hsplit).1
        exact .inl hknown
    | cons first before =>
        refine (h.follows before other after (List.cons.inj hsplit).2).imp_right ?_
        rintro ⟨toolName, hcalls⟩
        exact ⟨toolName, hcalls.mono fun _ hmessage => List.mem_cons_of_mem _ hmessage⟩

theorem renderMessages_rendered {calls results : List String} {rendered : List ModelMessage}
    (h : renderMessages dumps context calls results messages = .ok rendered) :
    Rendered dumps context calls messages rendered := by
  induction messages generalizing calls results rendered with
  | nil =>
      cases h
      refine ⟨rfl, ?_, ?_⟩
      · intro content
        refine iff_of_false nofun ?_
        rintro ⟨message, hmessage, -⟩
        cases hmessage
      · intro before part after hsplit
        cases before <;> cases hsplit
  | cons message rest ih =>
      cases message with
      | user message =>
          simp only [renderMessages, bind_eq_ok] at h
          obtain ⟨later, hlater, hrendered⟩ := h
          cases hrendered
          exact @Rendered.silent _ _ _ _ _ [_] (ih hlater) _ (by simp) rfl nofun
      | assistant message =>
          simp only [renderMessages, bind_eq_ok] at h
          obtain ⟨added, hadded, later, hlater, hrendered⟩ := h
          cases hrendered
          exact (ih hlater).assistant hadded
      | toolResult message =>
          simp only [renderMessages] at h
          split_ifs at h with horphan hduplicate
          rw [bind_eq_ok] at h
          obtain ⟨later, hlater, hrendered⟩ := h
          cases hrendered
          exact (ih hlater).tool rfl nofun horphan
      | toolInteraction message =>
          simp only [renderMessages] at h
          split_ifs at h with horphan
          rw [bind_eq_ok] at h
          obtain ⟨later, hlater, hrendered⟩ := h
          cases hrendered
          exact (ih hlater).tool rfl nofun horphan
      | sessionNotice message =>
          simp only [renderMessages, bind_eq_ok] at h
          obtain ⟨later, hlater, hrendered⟩ := h
          cases hrendered
          refine (ih hlater).silent ?_ rfl nofun
          intro other hother
          split at hother
          · exact ⟨_, List.mem_singleton.mp hother⟩
          · cases hother

/-! ## The answers of a transcript -/

def AgentMessage.answered : AgentMessage → Option (String × String)
  | .toolResult message => some (message.callId, message.toolName)
  | .toolInteraction message => some (message.callId, message.toolName)
  | _ => none

def CalledAs (messages : List AgentMessage) (callId toolName : String) : Prop :=
  ∃ message, .assistant message ∈ messages ∧
    ∃ call ∈ message.toolCalls, call.callId = callId ∧ call.toolName = toolName

def NamesAgree (messages : List AgentMessage) : Prop :=
  ∀ message ∈ messages, ∀ callId answeredName, message.answered = some (callId, answeredName) →
    ∀ toolName, CalledAs messages callId toolName → toolName = answeredName

def CallFailed (messages : List AgentMessage) (callId : String) : Prop :=
  ∃ message, .toolResult message ∈ messages ∧ message.callId = callId ∧ message.isError = true

def observations (dumps : JsonValue → String) (context : RenderContext)
    (messages : List AgentMessage) (callId : String) : List ModelToolResultPart :=
  (messages.filterMap (toolPart dumps context)).filter fun part => part.callId = callId

theorem toolPart_answered {message : AgentMessage} {part : ModelToolResultPart}
    (h : toolPart dumps context message = some part) :
    message.answered = some (part.callId, part.toolName) := by
  cases message with
  | user message => cases h
  | assistant message => cases h
  | sessionNotice message => cases h
  | toolResult message =>
      cases h
      rfl
  | toolInteraction message =>
      cases h
      rfl

variable (dumps context) in
theorem answered_toolPart {message : AgentMessage} {callId toolName : String}
    (h : message.answered = some (callId, toolName)) :
    ∃ part, toolPart dumps context message = some part ∧ part.callId = callId ∧
      part.toolName = toolName := by
  cases message with
  | user message => cases h
  | assistant message => cases h
  | sessionNotice message => cases h
  | toolResult message =>
      cases h
      exact ⟨_, rfl, rfl, rfl⟩
  | toolInteraction message =>
      cases h
      exact ⟨_, rfl, rfl, rfl⟩

variable (dumps context) in
theorem any_isError {callId : String} :
    (observations dumps context messages callId).any (·.isError) = true ↔
      CallFailed messages callId := by
  simp only [observations, List.any_eq_true, List.mem_filter, List.mem_filterMap,
    decide_eq_true_eq]
  constructor
  · rintro ⟨part, ⟨⟨message, hmessage, hpart⟩, hcallId⟩, herror⟩
    cases message with
    | user message => cases hpart
    | assistant message => cases hpart
    | sessionNotice message => cases hpart
    | toolResult message =>
        cases hpart
        exact ⟨message, hmessage, hcallId, herror⟩
    | toolInteraction message =>
        cases hpart
        cases herror
  · rintro ⟨message, hmessage, hcallId, herror⟩
    exact ⟨_, ⟨⟨_, hmessage, rfl⟩, hcallId⟩, herror⟩

variable {rendered : List ModelMessage}

theorem Rendered.calledAs {calls : List String}
    (h : Rendered dumps context calls messages rendered) {callId toolName : String} :
    Calls rendered callId toolName ↔ CalledAs messages callId toolName := by
  constructor
  · rintro ⟨content, arguments, hcontent, hcall⟩
    obtain ⟨message, hmessage, rfl⟩ := (h.assistants content).mp hcontent
    exact ⟨message, hmessage, (mem_assistantParts dumps context).mp ⟨arguments, hcall⟩⟩
  · rintro ⟨message, hmessage, hcall⟩
    obtain ⟨arguments, hpart⟩ :=
      (mem_assistantParts dumps context).mpr hcall
    exact ⟨_, arguments, (h.assistants _).mpr ⟨message, hmessage, rfl⟩, hpart⟩

theorem Rendered.names {calls : List String}
    (h : Rendered dumps context calls messages rendered) (hagree : NamesAgree messages)
    {part : ModelToolResultPart} (hpart : part ∈ rendered.filterMap ModelMessage.toolPart?)
    {toolName : String} (hcalls : Calls rendered part.callId toolName) :
    toolName = part.toolName := by
  rw [h.parts, List.mem_filterMap] at hpart
  obtain ⟨message, hmessage, hpart⟩ := hpart
  exact hagree message hmessage _ _ (toolPart_answered hpart) _ (h.calledAs.mp hcalls)

theorem mem_toolParts {part : ModelToolResultPart} :
    part ∈ rendered.filterMap ModelMessage.toolPart? ↔ .tool part ∈ rendered := by
  rw [List.mem_filterMap]
  constructor
  · rintro ⟨message, hmessage, hpart⟩
    cases message with
    | user text => cases hpart
    | assistant content => cases hpart
    | tool other =>
        cases hpart
        exact hmessage
  · intro hpart
    exact ⟨_, hpart, rfl⟩

theorem Rendered.paired (h : Rendered dumps context [] messages rendered)
    (hagree : NamesAgree messages) : Paired rendered := by
  intro before part after hsplit
  rcases h.follows before part after hsplit with hnone | ⟨toolName, hcalls⟩
  · cases hnone
  · have hpart : part ∈ rendered.filterMap ModelMessage.toolPart? := by
      rw [mem_toolParts, hsplit]
      exact List.mem_append_right _ List.mem_cons_self
    have hsame := h.names hagree hpart (hcalls.mono fun message hmessage => by
      rw [hsplit]
      exact List.mem_append_left _ hmessage)
    rwa [← hsame]

theorem Rendered.failed_iff (h : Rendered dumps context [] messages rendered)
    (hagree : NamesAgree messages) {callId : String}
    (hcalled : CalledAs messages callId surfaceAgentQuestions) :
    callId ∈ failedSurfaceCalls rendered ↔ CallFailed messages callId := by
  rw [← any_isError dumps context]
  unfold failedSurfaceCalls observations
  rw [h.parts]
  simp only [List.mem_filterMap (f := fun part : ModelToolResultPart => _), List.any_eq_true,
    List.mem_filter, decide_eq_true_eq]
  constructor
  · rintro ⟨part, hpart, hsome⟩
    split at hsome
    · rename_i hsurface
      cases hsome
      exact ⟨part, ⟨hpart, rfl⟩, hsurface.2⟩
    · cases hsome
  · rintro ⟨part, ⟨hpart, hcallId⟩, herror⟩
    have hname := h.names hagree (h.parts ▸ hpart) (hcallId ▸ h.calledAs.mpr hcalled)
    refine ⟨part, hpart, ?_⟩
    rw [if_pos ⟨hname.symm, herror⟩, hcallId]

theorem Rendered.kept (h : Rendered dumps context [] messages rendered)
    (hagree : NamesAgree messages) {callId toolName : String}
    (hcalled : CalledAs messages callId toolName) :
    kept (failedSurfaceCalls rendered) callId toolName = true ↔
      toolName ≠ surfaceAgentQuestions ∨ CallFailed messages callId := by
  unfold Orchestrator.kept
  rw [Bool.or_eq_true, bne_iff_ne, List.contains_iff_mem]
  by_cases hsurface : toolName = surfaceAgentQuestions
  · subst hsurface
    rw [h.failed_iff hagree hcalled]
  · simp [hsurface]

/-! ## The returned messages -/

def Answered (messages : List AgentMessage) (callId : String) : Prop :=
  ∃ message ∈ messages, message.answeredCall = some callId

structure WellPaired (dumps : JsonValue → String) (context : RenderContext)
    (messages : List AgentMessage) (returned : List ModelMessage) : Prop where
  once : ∀ callId, returned.countP (·.isToolOf callId) ≤ 1
  answers : Paired returned
  answered : ∀ callId toolName, Calls returned callId toolName → Answered messages callId →
    ∃ part, .tool part ∈ returned ∧ part.callId = callId
  text : ∀ part, .tool part ∈ returned → part.text =
    String.intercalate "\n\n" ((observations dumps context messages part.callId).map (·.text))
  error : ∀ part, .tool part ∈ returned → (part.isError = true ↔ CallFailed messages part.callId)
  calls : ∀ callId toolName, Calls returned callId toolName ↔ CalledAs messages callId toolName ∧
    (toolName ≠ surfaceAgentQuestions ∨ CallFailed messages callId)
  surfaced : ∀ callId, CalledAs messages callId surfaceAgentQuestions → Answered messages callId →
    ((∃ part, .tool part ∈ returned ∧ part.callId = callId) ↔ CallFailed messages callId)

theorem answered_of_answeredCall {message : AgentMessage} {callId : String}
    (h : message.answeredCall = some callId) :
    ∃ toolName, message.answered = some (callId, toolName) := by
  cases message with
  | user message => cases h
  | assistant message => cases h
  | sessionNotice message => cases h
  | toolResult message =>
      cases h
      exact ⟨_, rfl⟩
  | toolInteraction message =>
      cases h
      exact ⟨_, rfl⟩

section Folded

variable {s : FoldState} (hrendered : Rendered dumps context [] messages rendered)
  (hagree : NamesAgree messages) (hfold : FoldInv (failedSurfaceCalls rendered) rendered s)

include hrendered hagree hfold

theorem folded_calls (callId toolName : String) :
    Calls s.folded callId toolName ↔ CalledAs messages callId toolName ∧
      (toolName ≠ surfaceAgentQuestions ∨ CallFailed messages callId) := by
  constructor
  · rintro ⟨content, arguments, hcontent, hcall⟩
    obtain ⟨-, whole, hwhole, rfl⟩ := (hfold.assistants content).mp hcontent
    obtain ⟨hcall, hkept⟩ := List.mem_filter.mp hcall
    have hcalled := hrendered.calledAs.mp ⟨whole, arguments, hwhole, hcall⟩
    exact ⟨hcalled, (hrendered.kept hagree hcalled).mp hkept⟩
  · rintro ⟨hcalled, hkept⟩
    exact hfold.calls ((hrendered.kept hagree hcalled).mpr hkept) (hrendered.calledAs.mpr hcalled)

theorem keptParts_eq {callId toolName : String} (hcalls : Calls s.folded callId toolName) :
    keptParts (failedSurfaceCalls rendered) rendered callId =
      observations dumps context messages callId := by
  have hcalled := (folded_calls hrendered hagree hfold callId toolName).mp hcalls
  have hkept := (hrendered.kept hagree hcalled.1).mpr hcalled.2
  unfold keptParts observations
  rw [← hrendered.parts]
  apply List.filter_congr
  intro part hpart
  by_cases hsame : part.callId = callId
  · have hname := hrendered.names hagree hpart (hsame ▸ hrendered.calledAs.mpr hcalled.1)
    rw [hsame, ← hname, hkept, Bool.and_true]
  · simp [hsame]

theorem folded_tool {part : ModelToolResultPart} (hpart : .tool part ∈ s.folded) :
    ∃ first rest, observations dumps context messages part.callId = first :: rest ∧
      part = rest.foldl ModelToolResultPart.merge first := by
  obtain ⟨before, after, hsplit⟩ := List.append_of_mem hpart
  obtain ⟨toolName, hcalls⟩ := hfold.ordered before part after hsplit
  have hcalled : Calls s.folded part.callId toolName :=
    hcalls.mono fun message hmessage => hsplit ▸ List.mem_append_left _ hmessage
  have hblock := (hfold.stored part).mp hpart
  rw [hfold.blocks, keptParts_eq hrendered hagree hfold hcalled] at hblock
  cases hparts : observations dumps context messages part.callId with
  | nil => simp [hparts, mergeAll] at hblock
  | cons first rest =>
      rw [hparts] at hblock
      exact ⟨first, rest, rfl, (Option.some.inj hblock).symm⟩

theorem folded_answered {callId toolName : String} (hcalls : Calls s.folded callId toolName)
    (hanswered : Answered messages callId) : ∃ part, .tool part ∈ s.folded ∧ part.callId = callId := by
  obtain ⟨message, hmessage, hcallId⟩ := hanswered
  obtain ⟨answeredName, hname⟩ := answered_of_answeredCall hcallId
  obtain ⟨part, hpart, hsame, -⟩ :=
    answered_toolPart dumps context hname
  have hmem : part ∈ observations dumps context messages callId := by
    unfold observations
    rw [List.mem_filter, List.mem_filterMap]
    exact ⟨⟨message, hmessage, hpart⟩, by simpa using hsame⟩
  have hblock := hfold.blocks callId
  cases hparts : observations dumps context messages callId with
  | nil =>
      rw [hparts] at hmem
      cases hmem
  | cons first rest =>
      have hmerged : mergeAll (keptParts (failedSurfaceCalls rendered) rendered callId) =
          some (rest.foldl ModelToolResultPart.merge first) := by
        rw [keptParts_eq hrendered hagree hfold hcalls, hparts]
        rfl
      have hcall := mergeAll_callId hmerged
      refine ⟨_, (hfold.stored _).mpr ?_, hcall⟩
      rw [hcall, hblock, hmerged]

theorem folded_wellPaired : WellPaired dumps context messages s.folded where
  once := hfold.once
  answers := by
    intro before part after hsplit
    have hpart : .tool part ∈ s.folded := by
      rw [hsplit]
      exact List.mem_append_right _ List.mem_cons_self
    obtain ⟨first, rest, hparts, hmerged⟩ := folded_tool hrendered hagree hfold hpart
    obtain ⟨toolName, hcalls⟩ := hfold.ordered before part after hsplit
    have hcalled : Calls s.folded part.callId toolName :=
      hcalls.mono fun message hmessage => hsplit ▸ List.mem_append_left _ hmessage
    have hfirst : first ∈ observations dumps context messages part.callId :=
      hparts ▸ List.mem_cons_self
    unfold observations at hfirst
    rw [← hrendered.parts, List.mem_filter, decide_eq_true_eq] at hfirst
    have hknown := ((folded_calls hrendered hagree hfold _ _).mp hcalled).1
    have hname := hrendered.names hagree hfirst.1 (hfirst.2 ▸ hrendered.calledAs.mpr hknown)
    have hsame : part.toolName = first.toolName := by
      rw [hmerged, foldl_merge]
    rwa [hsame, ← hname]
  answered := fun _ _ => folded_answered hrendered hagree hfold
  text := by
    intro part hpart
    obtain ⟨first, rest, hparts, hmerged⟩ := folded_tool hrendered hagree hfold hpart
    rw [hparts, hmerged, foldl_merge]
    rfl
  error := by
    intro part hpart
    obtain ⟨first, rest, hparts, hmerged⟩ := folded_tool hrendered hagree hfold hpart
    rw [← any_isError dumps context, hparts, hmerged, foldl_merge]
    rfl
  calls := folded_calls hrendered hagree hfold
  surfaced := by
    intro callId hcalled hanswered
    constructor
    · rintro ⟨part, hpart, rfl⟩
      obtain ⟨before, after, hsplit⟩ := List.append_of_mem hpart
      obtain ⟨toolName, hcalls⟩ := hfold.ordered before part after hsplit
      have hkept := (folded_calls hrendered hagree hfold _ _).mp
        (hcalls.mono fun message hmessage => hsplit ▸ List.mem_append_left _ hmessage)
      -- both names are the one that the answer carries
      obtain ⟨message, hmessage, hcallId⟩ := hanswered
      obtain ⟨answeredName, hname⟩ := answered_of_answeredCall hcallId
      have hsurface := hagree message hmessage _ _ hname _ hcalled
      have hsame := hagree message hmessage _ _ hname _ hkept.1
      refine hkept.2.resolve_left ?_
      rw [not_not, hsame, hsurface]
    · intro hfailed
      exact folded_answered hrendered hagree hfold
        ((folded_calls hrendered hagree hfold _ _).mpr ⟨hcalled, .inr hfailed⟩) hanswered

end Folded

/-- The returned messages pair the calls with their answers. -/
theorem agentMessagesToModel_wellPaired {includeNotices prepareOrchestrationContext : Bool}
    {returned : List ModelMessage}
    (h : agentMessagesToModel dumps includeNotices prepareOrchestrationContext messages =
      .ok returned) (hagree : NamesAgree messages) :
    WellPaired dumps (renderContext includeNotices prepareOrchestrationContext messages)
      messages returned := by
  unfold agentMessagesToModel at h
  rw [bind_eq_ok] at h
  obtain ⟨rendered, hok, hreturned⟩ := h
  cases hreturned
  have hrendered := renderMessages_rendered hok
  exact folded_wellPaired hrendered hagree (foldMessages_inv (hrendered.paired hagree))

def surfacedTranscript : List AgentMessage :=
  [.assistant {
      messageId := "m1"
      content := [.text "Asking."]
      toolCalls := [⟨"c1", "ask_agent", []⟩, ⟨"c2", surfaceAgentQuestions, []⟩]
      finishReason := .toolCalls
      usage := none
      createdAt := 1 },
    .toolInteraction {
      messageId := "m2"
      callId := "c1"
      toolName := "ask_agent"
      interactionId := "i1"
      interactionFingerprint := "f1"
      createdAt := 2 },
    .toolResult {
      messageId := "m3"
      callId := "c2"
      toolName := surfaceAgentQuestions
      status := .failed
      content := []
      artifactRefs := []
      isError := true
      createdAt := 3 },
    .toolResult {
      messageId := "m4"
      callId := "c1"
      toolName := "ask_agent"
      status := .completed
      content := [.text "Done."]
      artifactRefs := []
      isError := false
      createdAt := 4 }]

def surfacedModel : List ModelMessage :=
  [.assistant [.text "Asking.", .toolCall "c1" "ask_agent" [],
      .toolCall "c2" surfaceAgentQuestions []],
    .tool ⟨"c1", "ask_agent",
      "[agent input request; already answered, the Agent's result follows; " ++
        "do not ask it again]\n\n\nDone.", false⟩,
    .tool ⟨"c2", surfaceAgentQuestions, "", true⟩]

theorem surfacedTranscript_names : NamesAgree surfacedTranscript := by
  intro message hmessage callId answeredName hanswered toolName hcalled
  obtain ⟨called, hassistant, call, hcall, rfl, rfl⟩ := hcalled
  simp only [surfacedTranscript, List.mem_cons, List.not_mem_nil, or_false, reduceCtorEq,
    AgentMessage.assistant.injEq] at hassistant
  subst hassistant
  simp only [List.mem_cons, List.not_mem_nil, or_false] at hcall
  simp only [surfacedTranscript, List.mem_cons, List.not_mem_nil, or_false] at hmessage
  rcases hmessage with rfl | rfl | rfl | rfl <;> rcases hcall with rfl | rfl <;>
    simp_all [AgentMessage.answered]

theorem agentMessagesToModel_wellPaired_surfaced :
    WellPaired (fun _ => "") (renderContext true false surfacedTranscript) surfacedTranscript
      surfacedModel :=
  agentMessagesToModel_wellPaired (by decide +kernel) surfacedTranscript_names

end Hybro.Orchestrator
