import Hybro.Orchestrator.Context
import Hybro.Orchestrator.TranscriptPairing

/-! # Groups of an accepted transcript

Every answer of a transcript that the conversion accepts follows its one call. The groups
of the transcript are intervals, and each holds the results of the calls in it.
-/

namespace Hybro.Orchestrator

/-! ## Calls and answers by index -/

def AgentMessage.resultCall : AgentMessage → Option String
  | .toolResult message => some message.callId
  | _ => none

def CallsAt (messages : List AgentMessage) (index : Nat) (callId : String) : Prop :=
  ∃ message, messages[index]? = some message ∧ callId ∈ message.callIds

def AnswersAt (messages : List AgentMessage) (index : Nat) (callId : String) : Prop :=
  ∃ message, messages[index]? = some message ∧ message.answeredCall = some callId

def ResultAt (messages : List AgentMessage) (index : Nat) (callId : String) : Prop :=
  ∃ message, messages[index]? = some message ∧ message.resultCall = some callId

theorem ResultAt.answersAt {messages : List AgentMessage} {index : Nat} {callId : String}
    (h : ResultAt messages index callId) : AnswersAt messages index callId := by
  obtain ⟨message, hmessage, hcall⟩ := h
  refine ⟨message, hmessage, ?_⟩
  cases message with
  | toolResult result => exact hcall
  | user _ | assistant _ | toolInteraction _ | sessionNotice _ => cases hcall

theorem ResultAt.cons_succ {message : AgentMessage} {rest : List AgentMessage} {index : Nat}
    {callId : String} : ResultAt (message :: rest) (index + 1) callId ↔
      ResultAt rest index callId := by
  simp [ResultAt]

theorem CallsAt.cons_succ {message : AgentMessage} {rest : List AgentMessage} {index : Nat}
    {callId : String} : CallsAt (message :: rest) (index + 1) callId ↔
      CallsAt rest index callId := by
  simp [CallsAt]

theorem ResultAt.drop {messages : List AgentMessage} {skip index : Nat} {callId : String} :
    ResultAt (messages.drop skip) index callId ↔ ResultAt messages (skip + index) callId := by
  simp [ResultAt]

theorem CallsAt.drop {messages : List AgentMessage} {skip index : Nat} {callId : String} :
    CallsAt (messages.drop skip) index callId ↔ CallsAt messages (skip + index) callId := by
  simp [CallsAt]

/-! ## What the first loop accepts -/

variable {dumps : JsonValue → String} {context : RenderContext} {messages : List AgentMessage}

theorem addCalls_fresh {calls added : List String} {toolCalls : List ToolCall}
    (h : addCalls calls toolCalls = .ok added) :
    ∀ call ∈ toolCalls, call.callId ∉ calls := by
  induction toolCalls generalizing calls with
  | nil => simp
  | cons call rest ih =>
      unfold addCalls at h
      split at h
      · cases h
      · rename_i hfresh
        intro other hother
        rcases List.mem_cons.mp hother with rfl | hother
        · exact hfresh
        · intro hknown
          exact ih h other hother (List.mem_cons_of_mem _ hknown)

/-- The first loop behind a prefix, with the calls and the results of that prefix. -/
theorem renderMessages_append {calls results : List String} {before after : List AgentMessage}
    {rendered : List ModelMessage}
    (h : renderMessages dumps context calls results (before ++ after) = .ok rendered) :
    ∃ calls' results' later, renderMessages dumps context calls' results' after = .ok later ∧
      (∀ callId, callId ∈ calls' ↔
        callId ∈ calls ∨ callId ∈ before.flatMap AgentMessage.callIds) ∧
      ∀ callId, callId ∈ results' ↔
        callId ∈ results ∨ callId ∈ before.filterMap AgentMessage.resultCall := by
  induction before generalizing calls results rendered with
  | nil => exact ⟨calls, results, rendered, h, by simp, by simp⟩
  | cons message before ih =>
      rw [List.cons_append] at h
      cases message with
      | user message =>
          simp only [renderMessages, bind_eq_ok] at h
          obtain ⟨rest, hrest, -⟩ := h
          obtain ⟨calls', results', later, hlater, hcalls, hresults⟩ := ih hrest
          refine ⟨calls', results', later, hlater, ?_, ?_⟩
          · simpa [AgentMessage.callIds] using hcalls
          · simpa [AgentMessage.resultCall] using hresults
      | assistant message =>
          simp only [renderMessages, bind_eq_ok] at h
          obtain ⟨added, hadded, rest, hrest, -⟩ := h
          obtain ⟨calls', results', later, hlater, hcalls, hresults⟩ := ih hrest
          refine ⟨calls', results', later, hlater, ?_, ?_⟩
          · intro callId
            rw [hcalls, addCalls_ok hadded]
            simp [AgentMessage.callIds, or_assoc]
          · simpa [AgentMessage.resultCall] using hresults
      | toolResult message =>
          simp only [renderMessages] at h
          split_ifs at h with horphan hduplicate
          rw [bind_eq_ok] at h
          obtain ⟨rest, hrest, -⟩ := h
          obtain ⟨calls', results', later, hlater, hcalls, hresults⟩ := ih hrest
          refine ⟨calls', results', later, hlater, ?_, ?_⟩
          · simpa [AgentMessage.callIds] using hcalls
          · intro callId
            rw [hresults]
            simp only [List.filterMap_cons, AgentMessage.resultCall, List.mem_cons]
            tauto
      | toolInteraction message =>
          simp only [renderMessages] at h
          split_ifs at h with horphan
          rw [bind_eq_ok] at h
          obtain ⟨rest, hrest, -⟩ := h
          obtain ⟨calls', results', later, hlater, hcalls, hresults⟩ := ih hrest
          refine ⟨calls', results', later, hlater, ?_, ?_⟩
          · simpa [AgentMessage.callIds] using hcalls
          · simpa [AgentMessage.resultCall] using hresults
      | sessionNotice message =>
          simp only [renderMessages, bind_eq_ok] at h
          obtain ⟨rest, hrest, -⟩ := h
          obtain ⟨calls', results', later, hlater, hcalls, hresults⟩ := ih hrest
          refine ⟨calls', results', later, hlater, ?_, ?_⟩
          · simpa [AgentMessage.callIds] using hcalls
          · simpa [AgentMessage.resultCall] using hresults

structure Admissible (calls results : List String) (message : AgentMessage) : Prop where
  called : ∀ callId, message.answeredCall = some callId → callId ∈ calls
  fresh : ∀ callId ∈ message.callIds, callId ∉ calls
  unanswered : ∀ callId, message.resultCall = some callId → callId ∉ results

theorem renderMessages_head {calls results : List String} {message : AgentMessage}
    {rest : List AgentMessage} {rendered : List ModelMessage}
    (h : renderMessages dumps context calls results (message :: rest) = .ok rendered) :
    Admissible calls results message := by
  cases message with
  | user message | sessionNotice message =>
      exact ⟨by simp [AgentMessage.answeredCall], by simp [AgentMessage.callIds],
        by simp [AgentMessage.resultCall]⟩
  | assistant message =>
      simp only [renderMessages, bind_eq_ok] at h
      obtain ⟨added, hadded, -⟩ := h
      refine ⟨by simp [AgentMessage.answeredCall], ?_, by simp [AgentMessage.resultCall]⟩
      intro callId hcallId
      obtain ⟨call, hcall, rfl⟩ := List.mem_map.mp hcallId
      exact addCalls_fresh hadded call hcall
  | toolResult message =>
      simp only [renderMessages] at h
      split_ifs at h with horphan hduplicate
      refine ⟨?_, by simp [AgentMessage.callIds], ?_⟩
      · intro callId hcallId
        cases hcallId
        exact horphan
      · intro callId hcallId
        cases hcallId
        exact hduplicate
  | toolInteraction message =>
      simp only [renderMessages] at h
      split_ifs at h with horphan
      refine ⟨?_, by simp [AgentMessage.callIds], by simp [AgentMessage.resultCall]⟩
      intro callId hcallId
      cases hcallId
      exact horphan

theorem contextMessages_admissible {before after : List AgentMessage} {message : AgentMessage}
    {converted : List ModelMessage}
    (h : contextMessages dumps (before ++ message :: after) = .ok converted) :
    Admissible (before.flatMap AgentMessage.callIds) (before.filterMap AgentMessage.resultCall)
      message := by
  unfold contextMessages agentMessagesToModel at h
  rw [bind_eq_ok] at h
  obtain ⟨rendered, hrendered, -⟩ := h
  obtain ⟨calls, results, later, hlater, hcalls, hresults⟩ := renderMessages_append hrendered
  have hhead := renderMessages_head hlater
  simp only [List.not_mem_nil, false_or] at hcalls hresults
  refine ⟨?_, ?_, ?_⟩
  · intro callId hcallId
    exact (hcalls callId).mp (hhead.called callId hcallId)
  · intro callId hcallId hknown
    exact hhead.fresh callId hcallId ((hcalls callId).mpr hknown)
  · intro callId hcallId hknown
    exact hhead.unanswered callId hcallId ((hresults callId).mpr hknown)

/-! ## Selected messages -/

theorem mem_transcriptAt {indexes : List Nat} {message : AgentMessage} :
    message ∈ transcriptAt messages indexes ↔ ∃ index ∈ indexes, messages[index]? = some message :=
  List.mem_filterMap

theorem transcriptAt_append (first second : List Nat) :
    transcriptAt messages (first ++ second) =
      transcriptAt messages first ++ transcriptAt messages second :=
  List.filterMap_append

theorem transcriptAt_range : transcriptAt messages (List.range messages.length) = messages := by
  induction messages with
  | nil => rfl
  | cons message rest ih =>
      rw [List.length_cons, List.range_succ_eq_map]
      unfold transcriptAt at ih ⊢
      simp only [List.filterMap_cons, List.getElem?_cons_zero, List.filterMap_map]
      exact congrArg _ ih

/-- The calls before an answer, and the messages that may not repeat a call or a result. -/
theorem selected_admissible {indexes : List Nat} {converted : List ModelMessage} {index : Nat}
    {message : AgentMessage} (hsorted : indexes.Pairwise (· < ·))
    (h : contextMessages dumps (transcriptAt messages indexes) = .ok converted)
    (hindex : index ∈ indexes) (hmessage : messages[index]? = some message) :
    ∃ before, (∀ other, other ∈ before ↔ other ∈ indexes ∧ other < index) ∧
      Admissible ((transcriptAt messages before).flatMap AgentMessage.callIds)
        ((transcriptAt messages before).filterMap AgentMessage.resultCall) message := by
  obtain ⟨before, after, rfl⟩ := List.append_of_mem hindex
  refine ⟨before, ?_, ?_⟩
  · intro other
    rw [List.pairwise_append, List.pairwise_cons] at hsorted
    obtain ⟨-, ⟨hafter, -⟩, hbefore⟩ := hsorted
    constructor
    · intro hother
      exact ⟨List.mem_append_left _ hother, hbefore other hother index List.mem_cons_self⟩
    · rintro ⟨hother, hlt⟩
      rcases List.mem_append.mp hother with hother | hother
      · exact hother
      · rcases List.mem_cons.mp hother with rfl | hother
        · exact absurd hlt (Nat.lt_irrefl _)
        · have hgt := hafter other hother
          omega
  · have hsplit : transcriptAt messages (before ++ index :: after) =
        transcriptAt messages before ++ message :: transcriptAt messages after := by
      rw [transcriptAt_append]
      congr 1
      exact List.filterMap_cons_some hmessage
    rw [hsplit] at h
    exact contextMessages_admissible h

theorem selected_called {indexes : List Nat} {converted : List ModelMessage} {index : Nat}
    {callId : String} (hsorted : indexes.Pairwise (· < ·))
    (h : contextMessages dumps (transcriptAt messages indexes) = .ok converted)
    (hindex : index ∈ indexes) (hanswers : AnswersAt messages index callId) :
    ∃ call ∈ indexes, call < index ∧ CallsAt messages call callId := by
  obtain ⟨message, hmessage, hanswered⟩ := hanswers
  obtain ⟨before, hbefore, hadmissible⟩ := selected_admissible hsorted h hindex hmessage
  have hknown := hadmissible.called callId hanswered
  obtain ⟨called, hcalled, hcallId⟩ := List.mem_flatMap.mp hknown
  obtain ⟨call, hcall, hat⟩ := mem_transcriptAt.mp hcalled
  have hmem := (hbefore call).mp hcall
  exact ⟨call, hmem.1, hmem.2, called, hat, hcallId⟩

/-! ## Accepted transcripts -/

structure Accepted (messages : List AgentMessage) : Prop where
  called : ∀ {index callId}, AnswersAt messages index callId →
    ∃ call < index, CallsAt messages call callId
  calledOnce : ∀ {i j callId}, CallsAt messages i callId → CallsAt messages j callId → i = j
  resultOnce : ∀ {i j callId}, ResultAt messages i callId → ResultAt messages j callId → i = j

theorem eq_of_not_lt {P : Nat → Prop} (h : ∀ i j, P i → P j → ¬i < j) {i j : Nat} (hi : P i)
    (hj : P j) : i = j := by
  have hij := h i j hi hj
  have hji := h j i hj hi
  omega

theorem contextMessages_accepted {converted : List ModelMessage}
    (h : contextMessages dumps messages = .ok converted) : Accepted messages := by
  have hrange : contextMessages dumps (transcriptAt messages (List.range messages.length)) =
      .ok converted := by rw [transcriptAt_range, h]
  have hmem : ∀ {index : Nat} {message : AgentMessage}, messages[index]? = some message →
      index ∈ List.range messages.length := by
    intro index message hmessage
    exact List.mem_range.mpr (List.getElem?_eq_some_iff.mp hmessage).1
  constructor
  · intro index callId hanswers
    obtain ⟨message, hmessage, -⟩ := id hanswers
    obtain ⟨call, -, hlt, hcalls⟩ :=
      selected_called List.pairwise_lt_range hrange (hmem hmessage) hanswers
    exact ⟨call, hlt, hcalls⟩
  · intro i j callId
    refine eq_of_not_lt (P := fun index => CallsAt messages index callId) ?_
    rintro i j ⟨first, hfirst, hcallFirst⟩ ⟨second, hsecond, hcallSecond⟩ hlt
    obtain ⟨before, hbefore, hadmissible⟩ :=
      selected_admissible List.pairwise_lt_range hrange (hmem hsecond) hsecond
    refine hadmissible.fresh callId hcallSecond (List.mem_flatMap.mpr ⟨first, ?_, hcallFirst⟩)
    exact mem_transcriptAt.mpr ⟨i, (hbefore i).mpr ⟨hmem hfirst, hlt⟩, hfirst⟩
  · intro i j callId
    refine eq_of_not_lt (P := fun index => ResultAt messages index callId) ?_
    rintro i j ⟨first, hfirst, hresultFirst⟩ ⟨second, hsecond, hresultSecond⟩ hlt
    obtain ⟨before, hbefore, hadmissible⟩ :=
      selected_admissible List.pairwise_lt_range hrange (hmem hsecond) hsecond
    refine hadmissible.unanswered callId hresultSecond
      (List.mem_filterMap.mpr ⟨first, ?_, hresultFirst⟩)
    exact mem_transcriptAt.mpr ⟨i, (hbefore i).mpr ⟨hmem hfirst, hlt⟩, hfirst⟩

/-! ## One group -/

theorem takeGroup_eq (callIds : List String) (index : Nat) (messages : List AgentMessage) :
    ∃ count ≤ messages.length, takeGroup callIds index messages =
      (List.range' index count, messages.drop count) := by
  induction messages generalizing callIds index with
  | nil => exact ⟨0, Nat.le_refl _, rfl⟩
  | cons current rest ih =>
      unfold takeGroup
      split
      · exact ⟨0, Nat.zero_le _, rfl⟩
      · obtain ⟨count, hcount, heq⟩ := ih (current.openCalls callIds) (index + 1)
        refine ⟨count + 1, Nat.succ_le_succ hcount, ?_⟩
        rw [heq, List.range'_succ, List.drop_succ_cons]

theorem mem_openCalls {callIds : List String} {callId : String} {message : AgentMessage}
    (h : callId ∈ callIds ∨ callId ∈ message.callIds) (hresult : message.resultCall ≠ some callId) :
    callId ∈ message.openCalls callIds := by
  cases message with
  | assistant message => simpa [AgentMessage.openCalls, AgentMessage.callIds, or_comm] using h
  | toolResult message =>
      have hmem : callId ∈ callIds := h.resolve_right nofun
      have hne : callId ≠ message.callId := by
        rintro rfl
        exact hresult rfl
      simp [AgentMessage.openCalls, hmem, hne]
  | user _ | toolInteraction _ | sessionNotice _ => exact h.resolve_right nofun

theorem takeGroup_result {callIds : List String} {callId : String} {position : Nat} (index : Nat)
    (hopen : callId ∈ callIds) (hresult : ResultAt messages position callId)
    (hfirst : ∀ earlier < position, ¬ResultAt messages earlier callId) :
    position < (takeGroup callIds index messages).1.length := by
  induction messages generalizing callIds index position with
  | nil =>
      obtain ⟨message, hmessage, -⟩ := hresult
      cases hmessage
  | cons current rest ih =>
      have hne : callIds ≠ [] := List.ne_nil_of_mem hopen
      unfold takeGroup
      rw [if_neg hne]
      cases position with
      | zero => exact Nat.succ_pos _
      | succ position =>
          have hcurrent : current.resultCall ≠ some callId := by
            intro hsame
            exact hfirst 0 (Nat.succ_pos _) ⟨current, rfl, hsame⟩
          refine Nat.succ_lt_succ (ih (index + 1) (mem_openCalls (.inl hopen) hcurrent)
            (ResultAt.cons_succ.mp hresult) ?_)
          intro earlier hearlier hat
          exact hfirst (earlier + 1) (Nat.succ_lt_succ hearlier) (ResultAt.cons_succ.mpr hat)

theorem takeGroup_closed {callIds : List String} {callId : String} {call position : Nat}
    (index : Nat) (hcall : call < (takeGroup callIds index messages).1.length)
    (hcalls : CallsAt messages call callId) (hlt : call < position)
    (hresult : ResultAt messages position callId)
    (hfirst : ∀ earlier < position, ¬ResultAt messages earlier callId) :
    position < (takeGroup callIds index messages).1.length := by
  induction messages generalizing callIds index call position with
  | nil =>
      obtain ⟨message, hmessage, -⟩ := hresult
      cases hmessage
  | cons current rest ih =>
      unfold takeGroup at hcall ⊢
      by_cases hnil : callIds = []
      · rw [if_pos hnil] at hcall
        cases hcall
      · rw [if_neg hnil] at hcall ⊢
        obtain ⟨position, rfl⟩ := Nat.exists_eq_succ_of_ne_zero (Nat.ne_zero_of_lt hlt)
        have hlater := ResultAt.cons_succ.mp hresult
        have hfirst' : ∀ earlier < position, ¬ResultAt rest earlier callId := by
          intro earlier hearlier hat
          exact hfirst (earlier + 1) (Nat.succ_lt_succ hearlier) (ResultAt.cons_succ.mpr hat)
        cases call with
        | zero =>
            obtain ⟨message, hmessage, hmem⟩ := hcalls
            cases hmessage
            have hcurrent : current.resultCall ≠ some callId := by
              intro hsame
              exact hfirst 0 (Nat.succ_pos _) ⟨current, rfl, hsame⟩
            have hopen : callId ∈ current.openCalls callIds := mem_openCalls (.inr hmem) hcurrent
            exact Nat.succ_lt_succ (takeGroup_result (index + 1) hopen hlater hfirst')
        | succ call =>
            exact Nat.succ_lt_succ (ih (index + 1) (Nat.lt_of_succ_lt_succ hcall)
              (CallsAt.cons_succ.mp hcalls) (Nat.lt_of_succ_lt_succ hlt) hlater hfirst')

/-! ## All groups -/

theorem flatten_groupsFrom {fuel : Nat} (index : Nat) (h : messages.length ≤ fuel) :
    (groupsFrom fuel index messages).flatten = List.range' index messages.length := by
  induction fuel generalizing index messages with
  | zero =>
      rw [List.eq_nil_of_length_eq_zero (Nat.le_zero.mp h)]
      rfl
  | succ fuel ih =>
      cases messages with
      | nil => rfl
      | cons message rest =>
          have hrest : rest.length ≤ fuel := Nat.le_of_succ_le_succ h
          unfold groupsFrom
          split
          · rw [List.flatten_cons, ih _ hrest, List.length_cons, List.range'_succ]
            rfl
          · obtain ⟨count, hcount, heq⟩ := takeGroup_eq message.callIds (index + 1) rest
            have hdrop : (rest.drop count).length ≤ fuel := by
              rw [List.length_drop]
              omega
            have hlength : count + (rest.length - count) = rest.length := by omega
            simp only [heq, List.flatten_cons, List.length_range', ih _ hdrop, List.length_drop,
              List.length_cons, List.range'_succ, List.cons_append]
            have happend := @List.range'_append (index + 1) count (rest.length - count) 1
            rw [Nat.one_mul, hlength] at happend
            rw [happend]

theorem le_of_mem_groupsFrom {fuel index other : Nat} {group : List Nat}
    (h : messages.length ≤ fuel) (hgroup : group ∈ groupsFrom fuel index messages)
    (hother : other ∈ group) : index ≤ other := by
  have hmem : other ∈ (groupsFrom fuel index messages).flatten :=
    List.mem_flatten.mpr ⟨group, hgroup, hother⟩
  rw [flatten_groupsFrom index h] at hmem
  exact (List.mem_range'_1.mp hmem).1

theorem takeGroup_first {message : AgentMessage} {rest : List AgentMessage} {callId : String}
    {call position : Nat} (index : Nat)
    (hcall : call ≤ (takeGroup message.callIds index rest).1.length)
    (hcalls : CallsAt (message :: rest) call callId) (hlt : call < position)
    (hresult : ResultAt (message :: rest) position callId)
    (hfirst : ∀ earlier < position, ¬ResultAt (message :: rest) earlier callId) :
    position ≤ (takeGroup message.callIds index rest).1.length := by
  obtain ⟨position, rfl⟩ := Nat.exists_eq_succ_of_ne_zero (Nat.ne_zero_of_lt hlt)
  have hlater := ResultAt.cons_succ.mp hresult
  have hfirst' : ∀ earlier < position, ¬ResultAt rest earlier callId := by
    intro earlier hearlier hat
    exact hfirst (earlier + 1) (Nat.succ_lt_succ hearlier) (ResultAt.cons_succ.mpr hat)
  cases call with
  | zero =>
      obtain ⟨called, hcalled, hcallId⟩ := hcalls
      cases hcalled
      exact takeGroup_result index hcallId hlater hfirst'
  | succ call =>
      exact takeGroup_closed index hcall (CallsAt.cons_succ.mp hcalls)
        (Nat.lt_of_succ_lt_succ hlt) hlater hfirst'

theorem groupsFrom_closed {fuel index call position : Nat} {callId : String} {group : List Nat}
    (h : messages.length ≤ fuel) (hgroup : group ∈ groupsFrom fuel index messages)
    (hcall : index + call ∈ group) (hcalls : CallsAt messages call callId) (hlt : call < position)
    (hresult : ResultAt messages position callId)
    (hfirst : ∀ earlier < position, ¬ResultAt messages earlier callId) :
    index + position ∈ group := by
  induction fuel generalizing index messages call position with
  | zero => cases hgroup
  | succ fuel ih =>
      cases messages with
      | nil => cases hgroup
      | cons message rest =>
          -- the groups after the first `skip` messages
          have hlater : ∀ skip, 0 < skip → skip ≤ rest.length + 1 →
              group ∈ groupsFrom fuel (index + skip) ((message :: rest).drop skip) →
              index + position ∈ group := by
            intro skip hskip hle hmem
            have hlength : ((message :: rest).drop skip).length ≤ fuel := by
              rw [List.length_drop]
              exact Nat.le_trans (Nat.sub_le_sub_right h skip) (by omega)
            have hge := le_of_mem_groupsFrom hlength hmem hcall
            obtain ⟨call, rfl⟩ := Nat.exists_eq_add_of_le (show skip ≤ call by omega)
            obtain ⟨position, rfl⟩ := Nat.exists_eq_add_of_le (show skip ≤ position by omega)
            rw [← Nat.add_assoc] at hcall ⊢
            refine ih hlength hmem hcall (CallsAt.drop.mpr hcalls) (by omega)
              (ResultAt.drop.mpr hresult) ?_
            intro earlier hearlier hat
            exact hfirst (skip + earlier) (by omega) (ResultAt.drop.mp hat)
          unfold groupsFrom at hgroup
          split at hgroup
          · rename_i hnone
            rcases List.mem_cons.mp hgroup with rfl | hgroup
            · have hsame := List.mem_singleton.mp hcall
              obtain rfl : call = 0 := by omega
              obtain ⟨called, hcalled, hcallId⟩ := hcalls
              cases hcalled
              rw [hnone] at hcallId
              cases hcallId
            · exact hlater 1 Nat.one_pos (by omega) hgroup
          · obtain ⟨count, hcount, heq⟩ := takeGroup_eq message.callIds (index + 1) rest
            have hclosed := @takeGroup_first message rest callId call position (index + 1)
            simp only [heq, List.length_range'] at hgroup hclosed
            rw [List.mem_cons] at hgroup
            rcases hgroup with rfl | hgroup
            · rw [← List.range'_succ, List.mem_range'_1] at hcall ⊢
              have hle := hclosed (by omega) hcalls hlt hresult hfirst
              omega
            · refine hlater (count + 1) (Nat.succ_pos _) (by omega) ?_
              rw [List.drop_succ_cons, show index + (count + 1) = index + 1 + count by omega]
              exact hgroup

theorem flatten_pairSafeTailIndexes (messages : List AgentMessage) :
    (pairSafeTailIndexes messages).flatten = List.range messages.length := by
  rw [pairSafeTailIndexes, flatten_groupsFrom 0 (Nat.le_refl _), List.range_eq_range']

theorem pairSafe_ordered (messages : List AgentMessage) :
    (∀ group ∈ pairSafeTailIndexes messages, group.Pairwise (· < ·)) ∧
      (pairSafeTailIndexes messages).Pairwise fun first second =>
        ∀ i ∈ first, ∀ j ∈ second, i < j := by
  rw [← List.pairwise_flatten, flatten_pairSafeTailIndexes]
  exact List.pairwise_lt_range

theorem exists_pairSafe {index : Nat} (h : index < messages.length) :
    ∃ group ∈ pairSafeTailIndexes messages, index ∈ group := by
  rw [← List.mem_range, ← flatten_pairSafeTailIndexes] at h
  exact List.mem_flatten.mp h

theorem pairSafe_unique {index : Nat} {first second : List Nat}
    (hfirst : first ∈ pairSafeTailIndexes messages) (hsecond : second ∈ pairSafeTailIndexes messages)
    (hinFirst : index ∈ first) (hinSecond : index ∈ second) : first = second := by
  have hordered := (pairSafe_ordered messages).2
  obtain ⟨i, hi⟩ := List.mem_iff_getElem?.mp hfirst
  obtain ⟨j, hj⟩ := List.mem_iff_getElem?.mp hsecond
  obtain ⟨hilt, rfl⟩ := List.getElem?_eq_some_iff.mp hi
  obtain ⟨hjlt, rfl⟩ := List.getElem?_eq_some_iff.mp hj
  rw [List.pairwise_iff_getElem] at hordered
  rcases Nat.lt_trichotomy i j with hlt | rfl | hlt
  · exact absurd (hordered i j hilt hjlt hlt index hinFirst index hinSecond) (Nat.lt_irrefl _)
  · rfl
  · exact absurd (hordered j i hjlt hilt hlt index hinSecond index hinFirst) (Nat.lt_irrefl _)

theorem pairSafe_closed (haccepted : Accepted messages) {call position : Nat} {callId : String}
    {group : List Nat} (hgroup : group ∈ pairSafeTailIndexes messages) (hcall : call ∈ group)
    (hcalls : CallsAt messages call callId) (hresult : ResultAt messages position callId) :
    position ∈ group := by
  obtain ⟨earlier, hlt, hearlier⟩ := haccepted.called hresult.answersAt
  obtain rfl := haccepted.calledOnce hcalls hearlier
  have hfirst : ∀ other < position, ¬ResultAt messages other callId := by
    intro other hother hat
    exact Nat.ne_of_lt hother (haccepted.resultOnce hat hresult)
  have hclosed := @groupsFrom_closed messages _ 0 call position callId group (Nat.le_refl _) hgroup
  simp only [Nat.zero_add] at hclosed
  exact hclosed hcall hcalls hlt hresult hfirst

end Hybro.Orchestrator
