import Hybro.Orchestrator.ContextGroups
import Hybro.Library.PythonList

/-! # The context that is sent

The estimates of the parts bound the estimate of the whole. The groups are tried from the
last to the first: a group that is kept has the calls of its answers, and a group that
calls has their results.
-/

namespace Hybro.Orchestrator

open JsonText OrderedMap

/-! ## Estimates -/

@[simp] theorem compactDumps_arr (items : List JsonValue) :
    compactDumps (.arr items) = array (items.map compactDumps) := by
  have hitems : compactDumpsItems items = items.map compactDumps := by
    induction items with
    | nil => rfl
    | cons item rest ih => rw [compactDumpsItems, ih, List.map_cons]
  rw [compactDumps, hitems]

theorem estimateText_array_append (first second : List String) :
    estimateText (array (first ++ second)) ≤
      estimateText (array first) + estimateText (array second) := by
  have hsize := array_size_append first second
  unfold estimateText
  omega

/-- Rounding up and the least estimate of one token never make the whole the dearer. -/
theorem estimateMessages_append (first second : List ModelMessage) :
    estimateMessages (first ++ second) ≤ estimateMessages first + estimateMessages second := by
  have htext := estimateText_array_append
    ((first.map ModelMessage.modelDump).map compactDumps)
    ((second.map ModelMessage.modelDump).map compactDumps)
  unfold estimateMessages
  simp only [compactDumps_arr, List.map_append, List.length_append]
  omega

/-! ## Sorted indexes -/

theorem mem_sortedIndexes {group selected : List Nat} {index : Nat} :
    index ∈ sortedIndexes group selected ↔ index ∈ group ∨ index ∈ selected := by
  rw [sortedIndexes, List.mem_insertionSort, List.mem_dedup, List.mem_append]

theorem sortedIndexes_pairwise (group selected : List Nat) :
    (sortedIndexes group selected).Pairwise (· < ·) := by
  have hnodup : (sortedIndexes group selected).Nodup :=
    (List.perm_insertionSort _ _).nodup_iff.mpr (List.nodup_dedup _)
  have hsorted : (sortedIndexes group selected).Pairwise (· ≤ ·) :=
    List.pairwise_insertionSort _ _
  refine (hsorted.and hnodup).imp ?_
  rintro i j ⟨hle, hne⟩
  exact Nat.lt_of_le_of_ne hle hne

/-! ## User messages -/

variable {dumps : JsonValue → String}

theorem FoldState.step_user {failed : List String} {s : FoldState} {text : String}
    (message : ModelMessage) (h : .user text ∈ s.folded) :
    .user text ∈ (s.step failed message).folded := by
  cases message with
  | user other => exact List.mem_append_left _ h
  | assistant content =>
      simp only [FoldState.step]
      split
      · exact h
      · exact List.mem_append_left _ h
  | tool part =>
      simp only [FoldState.step]
      split
      · exact h
      · split
        · rw [List.mem_reverse]
          exact mem_updateFirst_of_ne (List.mem_reverse.mpr h) rfl
        · exact List.mem_append_left _ h

theorem mem_foldMessages_user {failed : List String} {messages : List ModelMessage} {text : String}
    (h : .user text ∈ messages) : .user text ∈ (foldMessages failed messages).folded := by
  obtain ⟨before, after, rfl⟩ := List.append_of_mem h
  rw [foldMessages, List.foldl_append, List.foldl_cons]
  refine List.foldlRecOn (motive := fun s : FoldState => .user text ∈ s.folded) after _ ?_ ?_
  · exact List.mem_append_right _ (List.mem_singleton.mpr rfl)
  · intro s hs message _
    exact s.step_user message hs

theorem mem_renderMessages_user {context : RenderContext} {calls results : List String}
    {messages : List AgentMessage} {rendered : List ModelMessage} {message : UserMessage}
    (h : renderMessages dumps context calls results messages = .ok rendered)
    (hmessage : .user message ∈ messages) :
    .user (contentText dumps message.content) ∈ rendered := by
  obtain ⟨before, after, rfl⟩ := List.append_of_mem hmessage
  induction before generalizing calls results rendered with
  | nil =>
      simp only [List.nil_append, renderMessages, bind_eq_ok] at h
      obtain ⟨later, -, hrendered⟩ := h
      cases hrendered
      exact List.mem_cons_self
  | cons other before ih =>
      have hafter : AgentMessage.user message ∈ before ++ .user message :: after :=
        List.mem_append_right _ List.mem_cons_self
      rw [List.cons_append] at h
      cases other with
      | user other =>
          simp only [renderMessages, bind_eq_ok] at h
          obtain ⟨later, hlater, hrendered⟩ := h
          cases hrendered
          exact List.mem_cons_of_mem _ (ih hlater hafter)
      | assistant other =>
          simp only [renderMessages, bind_eq_ok] at h
          obtain ⟨added, -, later, hlater, hrendered⟩ := h
          cases hrendered
          exact List.mem_cons_of_mem _ (ih hlater hafter)
      | toolResult other =>
          simp only [renderMessages] at h
          split_ifs at h
          rw [bind_eq_ok] at h
          obtain ⟨later, hlater, hrendered⟩ := h
          cases hrendered
          exact List.mem_append_right _ (ih hlater hafter)
      | toolInteraction other =>
          simp only [renderMessages] at h
          split_ifs at h
          rw [bind_eq_ok] at h
          obtain ⟨later, hlater, hrendered⟩ := h
          cases hrendered
          exact List.mem_append_right _ (ih hlater hafter)
      | sessionNotice other =>
          simp only [renderMessages, bind_eq_ok] at h
          obtain ⟨later, hlater, hrendered⟩ := h
          cases hrendered
          exact List.mem_append_right _ (ih hlater hafter)

theorem mem_contextMessages_user {messages : List AgentMessage} {converted : List ModelMessage}
    {message : UserMessage} (h : contextMessages dumps messages = .ok converted)
    (hmessage : .user message ∈ messages) :
    .user (contentText dumps message.content) ∈ converted := by
  unfold contextMessages agentMessagesToModel at h
  rw [bind_eq_ok] at h
  obtain ⟨rendered, hrendered, hconverted⟩ := h
  cases hconverted
  exact mem_foldMessages_user (mem_renderMessages_user hrendered hmessage)

/-! ## The selection -/

/-- The group is passed over: it holds the first user message. -/
def passedOver (firstUser : Option Nat) (group : List Nat) : Bool :=
  firstUser.any group.contains

/-- What holds after the groups `done`, which are later than those to come. -/
structure Selecting (dumps : JsonValue → String) (transcript : List AgentMessage)
    (available : Int) (firstUser : Option Nat) (done : List (List Nat)) (s : Selection) :
    Prop where
  sorted : s.selected.Pairwise (· < ·)
  converted : contextMessages dumps (transcriptAt transcript s.selected) = .ok s.selectedMessages
  fits : (estimateMessages s.selectedMessages : Int) ≤ available
  user : ∀ index, firstUser = some index → index ∈ s.selected
  chosen : ∀ index ∈ s.selected, firstUser = some index ∨ ∃ group ∈ done,
    passedOver firstUser group = false ∧ index ∈ group ∧ ∀ other ∈ group, other ∈ s.selected
  answered : ∀ group ∈ done, passedOver firstUser group = false → ∀ index ∈ group, ∀ callId,
    AnswersAt transcript index callId → ∃ call ∈ group, CallsAt transcript call callId

section Selecting

variable {transcript : List AgentMessage} {available : Int} {firstUser : Option Nat}
  {done : List (List Nat)} {s t : Selection} {group : List Nat}

theorem Selecting.candidate (h : Selecting dumps transcript available firstUser done s)
    {candidate : List ModelMessage}
    (hcandidate : contextMessages dumps
      (transcriptAt transcript (sortedIndexes group s.selected)) = .ok candidate)
    (hbefore : ∀ later ∈ done, ∀ i ∈ group, ∀ j ∈ later, i < j)
    (huser : ∀ index callId, firstUser = some index → ¬CallsAt transcript index callId)
    {index : Nat} {callId : String} (hindex : index ∈ group)
    (hanswers : AnswersAt transcript index callId) :
    ∃ call ∈ group, CallsAt transcript call callId := by
  obtain ⟨call, hcall, hlt, hcalls⟩ := selected_called (sortedIndexes_pairwise group s.selected)
    hcandidate (mem_sortedIndexes.mpr (.inl hindex)) hanswers
  rcases mem_sortedIndexes.mp hcall with hcall | hcall
  · exact ⟨call, hcall, hcalls⟩
  · rcases h.chosen call hcall with hfirst | ⟨later, hlater, -, hmem, -⟩
    · exact absurd hcalls (huser call callId hfirst)
    · have hgt := hbefore later hlater index hindex call hmem
      omega

theorem Selecting.skip (h : Selecting dumps transcript available firstUser done s)
    (hanswered : passedOver firstUser group = false → ∀ index ∈ group, ∀ callId,
      AnswersAt transcript index callId → ∃ call ∈ group, CallsAt transcript call callId) :
    Selecting dumps transcript available firstUser (done ++ [group]) s where
  sorted := h.sorted
  converted := h.converted
  fits := h.fits
  user := h.user
  chosen := by
    intro index hindex
    refine (h.chosen index hindex).imp_right ?_
    rintro ⟨other, hother, hrest⟩
    exact ⟨other, List.mem_append_left _ hother, hrest⟩
  answered := by
    intro other hother
    rcases List.mem_append.mp hother with hother | hother
    · exact h.answered other hother
    · rw [List.mem_singleton.mp hother]
      exact hanswered

theorem Selecting.choose (h : Selecting dumps transcript available firstUser done s)
    {candidate : List ModelMessage}
    (hcandidate : contextMessages dumps
      (transcriptAt transcript (sortedIndexes group s.selected)) = .ok candidate)
    (hover : passedOver firstUser group = false)
    (hfits : (estimateMessages candidate : Int) ≤ available)
    (hanswered : ∀ index ∈ group, ∀ callId, AnswersAt transcript index callId →
      ∃ call ∈ group, CallsAt transcript call callId) :
    Selecting dumps transcript available firstUser (done ++ [group])
      { selected := sortedIndexes group s.selected, selectedMessages := candidate } where
  sorted := sortedIndexes_pairwise group s.selected
  converted := hcandidate
  fits := hfits
  user := by
    intro index hfirst
    exact mem_sortedIndexes.mpr (.inr (h.user index hfirst))
  chosen := by
    intro index hindex
    rcases mem_sortedIndexes.mp hindex with hindex | hindex
    · refine .inr ⟨group, List.mem_append_right _ List.mem_cons_self, hover, hindex, ?_⟩
      intro other hother
      exact mem_sortedIndexes.mpr (.inl hother)
    · refine (h.chosen index hindex).imp_right ?_
      rintro ⟨other, hother, hpassed, hmem, hwhole⟩
      refine ⟨other, List.mem_append_left _ hother, hpassed, hmem, ?_⟩
      intro member hmember
      exact mem_sortedIndexes.mpr (.inr (hwhole member hmember))
  answered := (h.skip fun _ => hanswered).answered

theorem Selecting.step (h : Selecting dumps transcript available firstUser done s)
    (hstep : selectGroup dumps transcript available firstUser s group = .ok t)
    (hbefore : ∀ later ∈ done, ∀ i ∈ group, ∀ j ∈ later, i < j)
    (huser : ∀ index callId, firstUser = some index → ¬CallsAt transcript index callId) :
    Selecting dumps transcript available firstUser (done ++ [group]) t := by
  unfold selectGroup at hstep
  cases hover : firstUser.any group.contains with
  | true =>
      rw [if_pos hover] at hstep
      cases hstep
      refine h.skip ?_
      intro hfalse
      cases hover.symm.trans hfalse
  | false =>
      rw [if_neg (Bool.eq_false_iff.mp hover), bind_eq_ok] at hstep
      obtain ⟨candidate, hcandidate, hstep⟩ := hstep
      have hanswered : ∀ index ∈ group, ∀ callId, AnswersAt transcript index callId →
          ∃ call ∈ group, CallsAt transcript call callId := by
        intro index hindex callId hanswers
        exact h.candidate hcandidate hbefore huser hindex hanswers
      split at hstep
      · cases hstep
        exact h.skip fun _ => hanswered
      · rename_i hfits
        cases hstep
        exact h.choose hcandidate hover (Int.not_lt.mp hfits) hanswered

theorem selecting_groups
    (h : Selecting dumps transcript available firstUser [] s)
    (hrun : (pairSafeTailIndexes transcript).reverse.foldlM
      (selectGroup dumps transcript available firstUser) s = .ok t)
    (huser : ∀ index callId, firstUser = some index → ¬CallsAt transcript index callId) :
    Selecting dumps transcript available firstUser (pairSafeTailIndexes transcript).reverse t := by
  have hordered : (pairSafeTailIndexes transcript).reverse.Pairwise fun later earlier =>
      ∀ i ∈ earlier, ∀ j ∈ later, i < j := by
    rw [List.pairwise_reverse]
    exact (pairSafe_ordered transcript).2
  refine PythonList.foldlM_done h ?_ hrun
  intro done group rest s t hitems hdone hstep
  refine hdone.step hstep ?_ huser
  intro later hlater
  rw [hitems, List.pairwise_append] at hordered
  exact hordered.2.2 later hlater group List.mem_cons_self

end Selecting

/-! ## Ready contexts -/

/-- An index in the group that is passed over with a summary. -/
def InUserGroup (transcript : List AgentMessage) (index : Nat) : Prop :=
  ∃ group ∈ pairSafeTailIndexes transcript,
    passedOver (transcript.findIdx? AgentMessage.isUser) group = true ∧ index ∈ group

variable {Tool : Type}

structure ReadyContext (dumps : JsonValue → String) (modelDump : Tool → JsonValue)
    (run : ContextRun) (tools : List Tool) (background : List ModelMessage)
    (summary : Option String) (context : CompiledContext) : Prop where
  reserved : context.reservedOutputTokens = run.maxOutputTokens
  budget : estimateText run.renderedSystemPrompt + estimateTools modelDump tools +
    estimateMessages context.messages + context.reservedOutputTokens ≤ run.contextWindow
  increasing : context.retainedTranscriptIndexes.Pairwise (· < ·)
  within : ∀ index ∈ context.retainedTranscriptIndexes, index < run.transcript.length
  results : ∀ call ∈ context.retainedTranscriptIndexes, ∀ callId,
    CallsAt run.transcript call callId → ∀ index, ResultAt run.transcript index callId →
      index ∈ context.retainedTranscriptIndexes
  /-- Interactions in the group of the first user message are left out with that group. -/
  interactions : ∀ call ∈ context.retainedTranscriptIndexes, ∀ callId,
    CallsAt run.transcript call callId → ∀ index, AnswersAt run.transcript index callId →
      index ∈ context.retainedTranscriptIndexes ∨
        summary.isSome ∧ InUserGroup run.transcript index
  called : ∀ index ∈ context.retainedTranscriptIndexes, ∀ callId,
    AnswersAt run.transcript index callId → ∃ call ∈ context.retainedTranscriptIndexes,
      call < index ∧ CallsAt run.transcript call callId
  messages : ∃ converted,
    contextMessages dumps (transcriptAt run.transcript context.retainedTranscriptIndexes) =
      .ok converted ∧
    context.messages = background ++ (summary.map summaryMessage).toList ++ converted
  user : ∀ index, run.transcript.findIdx? AgentMessage.isUser = some index →
    index ∈ context.retainedTranscriptIndexes ∧ ∃ message,
      run.transcript[index]? = some (.user message) ∧
        .user (contentText dumps message.content) ∈ context.messages

theorem findUser_eq_some {transcript : List AgentMessage} {index : Nat}
    (h : transcript.findIdx? AgentMessage.isUser = some index) :
    ∃ message, transcript[index]? = some (.user message) := by
  obtain ⟨hlt, huser, -⟩ := List.findIdx?_eq_some_iff_getElem.mp h
  cases hmessage : transcript[index] with
  | user message => exact ⟨message, by rw [List.getElem?_eq_getElem hlt, hmessage]⟩
  | assistant _ | toolResult _ | toolInteraction _ | sessionNotice _ =>
      rw [hmessage] at huser
      cases huser

theorem findUser_not_calls {transcript : List AgentMessage} {index : Nat} {callId : String}
    (h : transcript.findIdx? AgentMessage.isUser = some index) :
    ¬CallsAt transcript index callId := by
  obtain ⟨message, hmessage⟩ := findUser_eq_some h
  rintro ⟨other, hother, hcallId⟩
  rw [hmessage] at hother
  cases hother
  cases hcallId

theorem kept_user_mem {transcript : List AgentMessage} {indexes : List Nat} {index : Nat}
    {converted front : List ModelMessage} (hindex : index ∈ indexes)
    (h : contextMessages dumps (transcriptAt transcript indexes) = .ok converted)
    (huser : transcript.findIdx? AgentMessage.isUser = some index) :
    ∃ message, transcript[index]? = some (.user message) ∧
      .user (contentText dumps message.content) ∈ front ++ converted := by
  obtain ⟨message, hmessage⟩ := findUser_eq_some huser
  refine ⟨message, hmessage, List.mem_append_right _ ?_⟩
  exact mem_contextMessages_user h (mem_transcriptAt.mpr ⟨index, hindex, hmessage⟩)

section Ready

variable {modelDump : Tool → JsonValue} {run : ContextRun} {tools : List Tool}
  {background : List ModelMessage} {context : CompiledContext}

theorem readyContext_whole {converted : List ModelMessage}
    (h : contextMessages dumps run.transcript = .ok converted)
    (hfits : mandatoryTokens modelDump run tools background + estimateMessages converted ≤
      run.contextWindow)
    (hmessages : context.messages = background ++ converted)
    (hreserved : context.reservedOutputTokens = run.maxOutputTokens)
    (hretained : context.retainedTranscriptIndexes = List.range run.transcript.length) :
    ReadyContext dumps modelDump run tools background none context := by
  have hkept : ∀ {index callId}, AnswersAt run.transcript index callId →
      index ∈ context.retainedTranscriptIndexes := by
    rintro index callId ⟨message, hmessage, -⟩
    rw [hretained, List.mem_range]
    exact (List.getElem?_eq_some_iff.mp hmessage).1
  have hconverted : contextMessages dumps
      (transcriptAt run.transcript context.retainedTranscriptIndexes) = .ok converted := by
    rw [hretained, transcriptAt_range, h]
  have hincreasing : context.retainedTranscriptIndexes.Pairwise (· < ·) := by
    rw [hretained]
    exact List.pairwise_lt_range
  refine {
    reserved := hreserved
    budget := ?_
    increasing := hincreasing
    within := ?_
    results := ?_
    interactions := ?_
    called := ?_
    messages := ⟨converted, hconverted, by simpa using hmessages⟩
    user := ?_ }
  · have happend := estimateMessages_append background converted
    unfold mandatoryTokens at hfits
    rw [hmessages, hreserved]
    omega
  · intro index hindex
    rwa [hretained, List.mem_range] at hindex
  · intro call _ callId _ index hresult
    exact hkept hresult.answersAt
  · intro call _ callId _ index hanswers
    exact .inl (hkept hanswers)
  · intro index hindex callId hanswers
    exact selected_called hincreasing hconverted hindex hanswers
  · intro index huser
    have hindex : index ∈ context.retainedTranscriptIndexes := by
      obtain ⟨message, hmessage⟩ := findUser_eq_some huser
      rw [hretained, List.mem_range]
      exact (List.getElem?_eq_some_iff.mp hmessage).1
    rw [hmessages]
    exact ⟨hindex, kept_user_mem hindex hconverted huser⟩

theorem Selecting.results {transcript : List AgentMessage} {available : Int}
    {firstUser : Option Nat} {s : Selection}
    (h : Selecting dumps transcript available firstUser (pairSafeTailIndexes transcript).reverse s)
    (haccepted : Accepted transcript)
    (huser : ∀ index callId, firstUser = some index → ¬CallsAt transcript index callId)
    {call index : Nat} {callId : String} (hcall : call ∈ s.selected)
    (hcalls : CallsAt transcript call callId) (hresult : ResultAt transcript index callId) :
    index ∈ s.selected := by
  rcases h.chosen call hcall with hfirst | ⟨group, hgroup, -, hmem, hwhole⟩
  · exact absurd hcalls (huser call callId hfirst)
  · exact hwhole index (pairSafe_closed haccepted (List.mem_reverse.mp hgroup) hmem hcalls hresult)

/-- The group of an answer is the one of its call, or it was passed over. -/
theorem Selecting.interactions {transcript : List AgentMessage} {available : Int}
    {firstUser : Option Nat} {s : Selection}
    (h : Selecting dumps transcript available firstUser (pairSafeTailIndexes transcript).reverse s)
    (haccepted : Accepted transcript)
    (huser : ∀ index callId, firstUser = some index → ¬CallsAt transcript index callId)
    {call index : Nat} {callId : String} (hcall : call ∈ s.selected)
    (hcalls : CallsAt transcript call callId) (hanswers : AnswersAt transcript index callId) :
    index ∈ s.selected ∨ ∃ group ∈ pairSafeTailIndexes transcript,
      passedOver firstUser group = true ∧ index ∈ group := by
  rcases h.chosen call hcall with hfirst | ⟨group, hgroup, -, hmem, hwhole⟩
  · exact absurd hcalls (huser call callId hfirst)
  · have hlt : index < transcript.length := by
      obtain ⟨message, hmessage, -⟩ := hanswers
      exact (List.getElem?_eq_some_iff.mp hmessage).1
    obtain ⟨other, hother, hindex⟩ := exists_pairSafe hlt
    cases hover : passedOver firstUser other with
    | true => exact .inr ⟨other, hother, hover, hindex⟩
    | false =>
        obtain ⟨again, hagain, hcallsAgain⟩ :=
          h.answered other (List.mem_reverse.mpr hother) hover index hindex callId hanswers
        obtain rfl := haccepted.calledOnce hcalls hcallsAgain
        have hsame := pairSafe_unique (List.mem_reverse.mp hgroup) hother hmem hagain
        rw [hsame] at hwhole
        exact .inl (hwhole index hindex)

theorem compileSummary_ready {mandatory : Nat} {summary : String}
    (h : compileSummary dumps run background mandatory summary = .ok context)
    (hready : context.kind = .ready) :
    ∃ s : Selection,
      Selecting dumps run.transcript
        ((run.contextWindow : Int) - mandatory - estimateMessages [summaryMessage summary])
        (run.transcript.findIdx? AgentMessage.isUser)
        (pairSafeTailIndexes run.transcript).reverse s ∧
      context.messages = background ++ summaryMessage summary :: s.selectedMessages ∧
      context.reservedOutputTokens = run.maxOutputTokens ∧
      context.retainedTranscriptIndexes = s.selected := by
  unfold compileSummary at h
  dsimp only at h
  split at h
  · cases h
    cases hready
  · rw [bind_eq_ok] at h
    obtain ⟨first, hfirst, h⟩ := h
    split at h
    · cases h
      cases hready
    · rename_i hfits
      rw [bind_eq_ok] at h
      obtain ⟨s, hrun, h⟩ := h
      cases h
      refine ⟨s, selecting_groups ?_ hrun fun index callId => findUser_not_calls, rfl, rfl, rfl⟩
      have hstart : contextMessages dumps (transcriptAt run.transcript
          (run.transcript.findIdx? AgentMessage.isUser).toList) = .ok first := by
        cases huser : run.transcript.findIdx? AgentMessage.isUser with
        | none =>
            rw [huser] at hfirst
            cases hfirst
            rfl
        | some index =>
            rw [huser] at hfirst
            exact hfirst
      refine ⟨?_, hstart, Int.not_lt.mp hfits, ?_, ?_, nofun⟩
      · cases run.transcript.findIdx? AgentMessage.isUser <;> simp
      · intro index huser
        simp [huser]
      · intro index hindex
        exact .inl (Option.mem_toList.mp hindex)

theorem readyContext_summary {summary : String}
    (h : compileSummary dumps run background (mandatoryTokens modelDump run tools background)
      summary = .ok context)
    (haccepted : Accepted run.transcript) (hready : context.kind = .ready) :
    ReadyContext dumps modelDump run tools background (some summary) context := by
  obtain ⟨s, hs, hmessages, hreserved, hretained⟩ := compileSummary_ready h hready
  have hnot : ∀ index callId, run.transcript.findIdx? AgentMessage.isUser = some index →
      ¬CallsAt run.transcript index callId := fun index callId => findUser_not_calls
  refine {
    reserved := hreserved
    budget := ?_
    increasing := ?_
    within := ?_
    results := ?_
    interactions := ?_
    called := ?_
    messages := ⟨s.selectedMessages, ?_, ?_⟩
    user := ?_ }
  · have hfits := hs.fits
    have hrest := estimateMessages_append [summaryMessage summary] s.selectedMessages
    have hall := estimateMessages_append background
      ([summaryMessage summary] ++ s.selectedMessages)
    unfold mandatoryTokens at hfits
    rw [hmessages, hreserved]
    simp only [List.cons_append, List.nil_append] at hrest hall
    omega
  · rw [hretained]
    exact hs.sorted
  · intro index hindex
    rw [hretained] at hindex
    rcases hs.chosen index hindex with huser | ⟨group, hgroup, -, hmem, -⟩
    · obtain ⟨message, hmessage⟩ := findUser_eq_some huser
      exact (List.getElem?_eq_some_iff.mp hmessage).1
    · have hflat : index ∈ (pairSafeTailIndexes run.transcript).flatten :=
        List.mem_flatten.mpr ⟨group, List.mem_reverse.mp hgroup, hmem⟩
      rwa [flatten_pairSafeTailIndexes, List.mem_range] at hflat
  · intro call hcall callId hcalls index hresult
    rw [hretained] at hcall ⊢
    exact hs.results haccepted hnot hcall hcalls hresult
  · intro call hcall callId hcalls index hanswers
    rw [hretained] at hcall ⊢
    exact (hs.interactions haccepted hnot hcall hcalls hanswers).imp_right fun hgroup => ⟨rfl, hgroup⟩
  · intro index hindex callId hanswers
    rw [hretained] at hindex ⊢
    exact selected_called hs.sorted hs.converted hindex hanswers
  · rw [hretained]
    exact hs.converted
  · simpa using hmessages
  · intro index huser
    have hindex := hs.user index huser
    have hsplit : context.messages =
        (background ++ [summaryMessage summary]) ++ s.selectedMessages := by
      simpa using hmessages
    rw [hretained, hsplit]
    exact ⟨hindex, kept_user_mem hindex hs.converted huser⟩

variable {summary : Option String}

/-- A ready context fits the window, pairs what it keeps and holds what it must. -/
theorem compile_ready
    (h : compile dumps modelDump run tools background summary = .ok context)
    (hready : context.kind = .ready) :
    ReadyContext dumps modelDump run tools background summary context := by
  unfold compile at h
  split at h
  · cases h
  · dsimp only at h
    split at h
    · cases h
      cases hready
    · rw [bind_eq_ok] at h
      obtain ⟨converted, hconverted, h⟩ := h
      cases summary with
      | none =>
          cases h
          by_cases hfits : mandatoryTokens modelDump run tools background - run.maxOutputTokens +
              estimateMessages converted + run.maxOutputTokens ≤ run.contextWindow
          · refine readyContext_whole hconverted ?_ rfl rfl rfl
            unfold mandatoryTokens at hfits ⊢
            omega
          · simp only [if_neg hfits] at hready
            cases hready
      | some summary => exact readyContext_summary h (contextMessages_accepted hconverted) hready

theorem ReadyContext.interactions_of_user_first
    (h : ReadyContext dumps modelDump run tools background summary context)
    {message : UserMessage} {rest : List AgentMessage}
    (hfirst : run.transcript = .user message :: rest) {call index : Nat} {callId : String}
    (hcall : call ∈ context.retainedTranscriptIndexes)
    (hcalls : CallsAt run.transcript call callId)
    (hanswers : AnswersAt run.transcript index callId) :
    index ∈ context.retainedTranscriptIndexes := by
  rcases h.interactions call hcall callId hcalls index hanswers with hkept | ⟨-, hgroup⟩
  · exact hkept
  · obtain ⟨group, hgroup, hover, hindex⟩ := hgroup
    have huser : run.transcript.findIdx? AgentMessage.isUser = some 0 := by
      rw [hfirst]
      rfl
    have hzero : 0 ∈ group := by simpa [passedOver, huser] using hover
    have hhead : [0] ∈ pairSafeTailIndexes run.transcript := by
      rw [hfirst]
      exact List.mem_cons_self
    have hsame := pairSafe_unique hgroup hhead hzero List.mem_cons_self
    rw [hsame, List.mem_singleton] at hindex
    obtain ⟨other, hother, hanswered⟩ := hanswers
    rw [hindex, hfirst] at hother
    cases hother
    cases hanswered

end Ready

/-! ## A user message inside a group -/

def agentCall (messageId callId : String) : AgentMessage :=
  .assistant {
    messageId := messageId
    content := []
    toolCalls := [⟨callId, "ask_agent", []⟩]
    finishReason := .toolCalls
    usage := none
    createdAt := 1 }

def agentAnswer (messageId callId : String) : AgentMessage :=
  .toolResult {
    messageId := messageId
    callId := callId
    toolName := "ask_agent"
    status := .completed
    content := [.text "Done."]
    artifactRefs := []
    isError := false
    createdAt := 1 }

def userRequest (messageId : String) : AgentMessage :=
  .user { messageId := messageId, content := [.text "Compare both."], createdAt := 1 }

/-- The user speaks while `c2` runs, and an interaction of `c1` comes after its result. -/
def interruptedRun : ContextRun where
  transcript := [agentCall "m1" "c1", agentAnswer "m2" "c1", agentCall "m3" "c2",
    userRequest "m4",
    .toolInteraction {
      messageId := "m5"
      callId := "c1"
      toolName := "ask_agent"
      interactionId := "i1"
      interactionFingerprint := "f1"
      createdAt := 1 },
    agentAnswer "m6" "c2"]
  renderedSystemPrompt := "Answer."
  contextWindow := 1000
  maxOutputTokens := 100

/-- The interaction is dropped with the group of the user message, its call is kept. -/
theorem interruptedRun_interaction_dropped :
    ∃ context, compile compactDumps JsonValue.str interruptedRun [] [] (some "So far.") =
        .ok context ∧
      context.kind = .ready ∧ unresolvedCallIds interruptedRun.transcript = [] ∧
      (∃ converted, contextMessages compactDumps interruptedRun.transcript = .ok converted) ∧
      0 ∈ context.retainedTranscriptIndexes ∧ CallsAt interruptedRun.transcript 0 "c1" ∧
      AnswersAt interruptedRun.transcript 4 "c1" ∧ 4 ∉ context.retainedTranscriptIndexes := by
  have hkept : (compile compactDumps JsonValue.str interruptedRun [] [] (some "So far.")).map
      (fun context => (context.kind, context.retainedTranscriptIndexes)) =
        .ok (.ready, [0, 1, 3]) := by decide +kernel
  have hconverted : (contextMessages compactDumps interruptedRun.transcript).isOk = true := by
    decide +kernel
  cases hcontext : compile compactDumps JsonValue.str interruptedRun [] [] (some "So far.") with
  | error message =>
      rw [hcontext] at hkept
      cases hkept
  | ok context =>
      rw [hcontext] at hkept
      have hpair := Except.ok.inj hkept
      have hkind : context.kind = .ready := congrArg Prod.fst hpair
      have hindexes : context.retainedTranscriptIndexes = [0, 1, 3] := congrArg Prod.snd hpair
      refine ⟨context, rfl, hkind, by decide +kernel, ?_, by simp [hindexes], ?_, ?_,
        by simp [hindexes]⟩
      · cases hmessages : contextMessages compactDumps interruptedRun.transcript with
        | error message =>
            rw [hmessages] at hconverted
            cases hconverted
        | ok converted => exact ⟨converted, rfl⟩
      · exact ⟨agentCall "m1" "c1", rfl, List.mem_singleton.mpr rfl⟩
      · exact ⟨_, rfl, rfl⟩

/-- The same calls behind the request, of which only the last fits beside the summary. -/
def longRun : ContextRun where
  transcript := [userRequest "m1", agentCall "m2" "c1", agentAnswer "m3" "c1",
    agentCall "m4" "c2", agentAnswer "m5" "c2"]
  renderedSystemPrompt := "Answer."
  contextWindow := 300
  maxOutputTokens := 100

def longRunContext : CompiledContext where
  kind := .ready
  messages := [.user "[summary] So far.", .user "Compare both.",
    .assistant [.toolCall "c2" "ask_agent" []],
    .tool ⟨"c2", "ask_agent",
      "[agent observation: verified completed result; usable as evidence]\nDone.", false⟩]
  estimatedInputTokens := 176
  reservedOutputTokens := 100
  retainedTranscriptIndexes := [0, 3, 4]
  compacted := true

theorem compile_ready_longRun :
    ReadyContext compactDumps JsonValue.str longRun [] [] (some "So far.") longRunContext :=
  compile_ready (by decide +kernel) rfl

end Hybro.Orchestrator
