import Hybro.Orchestrator.ModelTurn

/-! # The output of the surviving attempt

What the assembler holds after some accepted events: the text, the calls and the
arguments received since the output was last dropped, and nothing else.
-/

namespace Hybro.Orchestrator

/-! ## The events of the surviving attempt -/

/-- The events after the last `attempt_started`, or all of them when there is none. -/
def sinceLastStart : List ModelStreamEvent → List ModelStreamEvent
  | [] => []
  | event :: rest =>
      if rest.any (·.kind == .attemptStarted) then sinceLastStart rest
      else if event.kind == .attemptStarted then rest else event :: rest

def LastAttemptFailed (events : List ModelStreamEvent) : Prop :=
  ∃ event ∈ sinceLastStart events, event.kind = .attemptFailed

def startedCalls (events : List ModelStreamEvent) : List (String × String) :=
  events.filterMap fun event =>
    if event.kind = .toolCallStart then
      event.callId.bind fun callId => event.toolName.map fun toolName => (callId, toolName)
    else none

def endedCalls (events : List ModelStreamEvent) : List String :=
  events.filterMap fun event => if event.kind = .toolCallEnd then event.callId else none

def argumentTexts (events : List ModelStreamEvent) (callId : String) : List String :=
  events.filterMap fun event =>
    if event.kind = .toolCallArgumentsDelta ∧ event.callId = some callId then some event.text
    else none

variable {events first second : List ModelStreamEvent} {event : ModelStreamEvent}

theorem startedCalls_append :
    startedCalls (first ++ second) = startedCalls first ++ startedCalls second :=
  List.filterMap_append

theorem endedCalls_append : endedCalls (first ++ second) = endedCalls first ++ endedCalls second :=
  List.filterMap_append

theorem argumentTexts_append (callId : String) :
    argumentTexts (first ++ second) callId =
      argumentTexts first callId ++ argumentTexts second callId :=
  List.filterMap_append

theorem survivingEvents_of_not_failed (h : ¬LastAttemptFailed events) :
    survivingEvents events = sinceLastStart events := by
  induction events with
  | nil => rfl
  | cons event rest ih =>
      unfold LastAttemptFailed at h ih
      unfold sinceLastStart survivingEvents
      unfold sinceLastStart at h
      by_cases hstarted : rest.any (·.kind == .attemptStarted) = true
      · have hclears : rest.any ModelStreamEvent.clears = true := by
          obtain ⟨start, hmem, hkind⟩ := List.any_eq_true.mp hstarted
          exact List.any_eq_true.mpr ⟨start, hmem, by simp_all [ModelStreamEvent.clears]⟩
        rw [if_pos hstarted] at h ⊢
        rw [if_pos hclears]
        exact ih h
      · rw [if_neg hstarted] at h ⊢
        have hrest : ∀ later ∈ rest, later.kind ≠ .attemptFailed := by
          intro later hlater hkind
          refine h ?_
          split
          · exact ⟨later, hlater, hkind⟩
          · exact ⟨later, List.mem_cons_of_mem _ hlater, hkind⟩
        have hclears : ¬rest.any ModelStreamEvent.clears = true := by
          intro hany
          obtain ⟨later, hlater, hkind⟩ := List.any_eq_true.mp hany
          have hnot := hrest later hlater
          have hstart : later.kind ≠ .attemptStarted := by
            intro hlate
            exact hstarted (List.any_eq_true.mpr ⟨later, hlater, by simp [hlate]⟩)
          simp [ModelStreamEvent.clears, hstart, hnot] at hkind
        rw [if_neg hclears]
        by_cases hkind : event.kind = .attemptStarted
        · simp [ModelStreamEvent.clears, hkind]
        · have hfailed : event.kind ≠ .attemptFailed := by
            intro hfailed
            refine h ?_
            rw [if_neg (by simpa using hkind)]
            exact ⟨event, List.mem_cons_self, hfailed⟩
          simp [ModelStreamEvent.clears, hkind, hfailed]

/-! ## What the assembler holds -/

structure Holds (assembler : ModelStreamAssembler) (events : List ModelStreamEvent) : Prop where
  text : assembler.text = textDeltas events
  names : assembler.toolNames = startedCalls events
  closed : assembler.closedCalls = endedCalls events
  arguments : ∀ callId, assembler.toolArguments.lookup callId =
    ((startedCalls events).lookup callId).map fun _ => argumentTexts events callId
  silent : ∀ callId, (startedCalls events).lookup callId = none → argumentTexts events callId = []
  known : ∀ callId ∈ endedCalls events, ((startedCalls events).lookup callId).isSome

variable {assembler next : ModelStreamAssembler}

theorem Holds.nothing (htext : assembler.text = []) (hnames : assembler.toolNames = [])
    (hclosed : assembler.closedCalls = []) (harguments : assembler.toolArguments = []) :
    Holds assembler [] := by
  refine ⟨htext, hnames, hclosed, ?_, fun _ _ => rfl, nofun⟩
  intro callId
  rw [harguments]
  rfl

theorem Holds.extend (h : Holds assembler events)
    (htext : next.text = assembler.text ++ textDeltas [event])
    (hnames : next.toolNames = assembler.toolNames ++ startedCalls [event])
    (hclosed : next.closedCalls = assembler.closedCalls ++ endedCalls [event])
    (harguments : ∀ callId, next.toolArguments.lookup callId =
      ((startedCalls events ++ startedCalls [event]).lookup callId).map fun _ =>
        argumentTexts events callId ++ argumentTexts [event] callId)
    (hsilent : ∀ callId, (startedCalls events).lookup callId = none →
      argumentTexts [event] callId = [])
    (hknown : ∀ callId ∈ endedCalls [event], ((startedCalls events).lookup callId).isSome) :
    Holds next (events ++ [event]) where
  text := by rw [htext, h.text, textDeltas_append]
  names := by rw [hnames, h.names, startedCalls_append]
  closed := by rw [hclosed, h.closed, endedCalls_append]
  arguments := by
    intro callId
    rw [harguments, startedCalls_append, argumentTexts_append]
  silent := by
    intro callId hnone
    rw [startedCalls_append, List.lookup_append, Option.or_eq_none_iff] at hnone
    rw [argumentTexts_append, h.silent callId hnone.1, hsilent callId hnone.1]
    rfl
  known := by
    intro callId hmem
    rw [endedCalls_append, List.mem_append] at hmem
    rw [startedCalls_append, List.lookup_append]
    rcases hmem with hmem | hmem
    · simp [h.known callId hmem]
    · simp [hknown callId hmem]

theorem Holds.plain (h : Holds assembler events)
    (htext : next.text = assembler.text ++ textDeltas [event])
    (hnames : next.toolNames = assembler.toolNames)
    (hclosed : next.closedCalls = assembler.closedCalls)
    (harguments : next.toolArguments = assembler.toolArguments)
    (hkind : event.kind ≠ .toolCallStart ∧ event.kind ≠ .toolCallArgumentsDelta ∧
      event.kind ≠ .toolCallEnd) : Holds next (events ++ [event]) := by
  obtain ⟨hstart, hargument, hend⟩ := hkind
  have hstarted : startedCalls [event] = [] := by simp [startedCalls, hstart]
  have hended : endedCalls [event] = [] := by simp [endedCalls, hend]
  have hsilent : ∀ callId, argumentTexts [event] callId = [] := by
    intro callId
    simp [argumentTexts, hargument]
  refine h.extend htext ?_ ?_ ?_ (fun callId _ => hsilent callId) ?_
  · rw [hnames, hstarted, List.append_nil]
  · rw [hclosed, hended, List.append_nil]
  · intro callId
    rw [harguments, h.arguments, hstarted, hsilent, List.append_nil, List.append_nil]
  · rw [hended]
    nofun

theorem Holds.toolCallStart (h : Holds assembler events) (hkind : event.kind = .toolCallStart)
    (haccept : assembler.acceptToolCallStart event = .ok next) : Holds next (events ++ [event]) := by
  unfold ModelStreamAssembler.acceptToolCallStart at haccept
  cases hcall : event.callId with
  | none => simp [hcall] at haccept
  | some started =>
      cases htool : event.toolName with
      | none => simp [hcall, htool] at haccept
      | some toolName =>
          simp only [hcall, htool] at haccept
          split_ifs at haccept with hempty hduplicate
          cases haccept
          have hstarted : startedCalls [event] = [(started, toolName)] := by
            simp [startedCalls, hkind, hcall, htool]
          have hended : endedCalls [event] = [] := by simp [endedCalls, hkind]
          have hsilent : ∀ callId, argumentTexts [event] callId = [] := by
            intro callId
            simp [argumentTexts, hkind]
          refine h.extend ?_ ?_ ?_ ?_ (fun callId _ => hsilent callId) ?_
          · simp [textDeltas, hkind]
          · rw [hstarted]
          · rw [hended, List.append_nil]
          · intro callId
            simp only [List.lookup_append, h.arguments, hstarted, hsilent, List.append_nil]
            cases hold : (startedCalls events).lookup callId with
            | some old => simp
            | none =>
                by_cases hsame : callId = started
                · simp [hsame, h.silent started (hsame ▸ hold)]
                · have hother : (callId == started) = false := by simpa using hsame
                  simp [List.lookup_cons, hother]
          · rw [hended]
            intro callId hmem
            cases hmem

theorem lookup_map_snd {α β γ : Type} [BEq α] (f : α → β → γ) (key : α) (entries : List (α × β)) :
    (∀ a, (key == a) = true → key = a) →
    (entries.map fun (a, b) => (a, f a b)).lookup key = (entries.lookup key).map (f key) := by
  intro hsound
  induction entries with
  | nil => rfl
  | cons entry rest ih =>
      obtain ⟨a, b⟩ := entry
      simp only [List.map_cons, List.lookup_cons]
      cases hkey : key == a with
      | true =>
          rw [hsound a hkey]
          rfl
      | false => exact ih

theorem callId_of_known {entries : List (String × List String)}
    (h : ¬(event.callId.getD "" = "" ∨ (entries.lookup (event.callId.getD "")).isNone)) :
    ∃ callId, event.callId = some callId ∧ (entries.lookup callId).isSome := by
  obtain ⟨hnonempty, hknown⟩ := not_or.mp h
  cases hcall : event.callId with
  | none => simp [hcall] at hnonempty
  | some callId =>
      rw [hcall, Option.getD_some, Option.isNone_iff_eq_none] at hknown
      exact ⟨callId, rfl, Option.isSome_iff_ne_none.mpr hknown⟩

theorem Holds.toolCallArgumentsDelta (h : Holds assembler events)
    (hkind : event.kind = .toolCallArgumentsDelta)
    (haccept : assembler.acceptToolCallArgumentsDelta event = .ok next) :
    Holds next (events ++ [event]) := by
  simp only [ModelStreamAssembler.acceptToolCallArgumentsDelta] at haccept
  split_ifs at haccept with hunknown
  cases haccept
  obtain ⟨called, hcall, hknown⟩ := callId_of_known hunknown
  have htexts : ∀ callId, argumentTexts [event] callId =
      if callId = called then [event.text] else [] := by
    intro callId
    by_cases hsame : callId = called
    · simp [argumentTexts, hkind, hcall, hsame]
    · simp [argumentTexts, hkind, hcall, hsame, Ne.symm hsame]
  have hstarted : startedCalls [event] = [] := by simp [startedCalls, hkind]
  have hended : endedCalls [event] = [] := by simp [endedCalls, hkind]
  rw [hcall, Option.getD_some]
  refine h.extend ?_ ?_ ?_ ?_ ?_ ?_
  · simp [textDeltas, hkind]
  · rw [hstarted, List.append_nil]
  · rw [hended, List.append_nil]
  · intro callId
    rw [lookup_map_snd (fun id parts => if id = called then parts ++ [event.text] else parts)
      callId _ (by simp), h.arguments, hstarted, List.append_nil, htexts]
    cases (startedCalls events).lookup callId with
    | none => rfl
    | some toolName => by_cases hsame : callId = called <;> simp [hsame]
  · intro callId hnone
    rw [htexts, if_neg]
    rintro rfl
    rw [h.arguments, hnone] at hknown
    cases hknown
  · rw [hended]
    intro callId hmem
    cases hmem

theorem Holds.toolCallEnd (h : Holds assembler events) (hkind : event.kind = .toolCallEnd)
    (haccept : assembler.acceptToolCallEnd event = .ok next) : Holds next (events ++ [event]) := by
  simp only [ModelStreamAssembler.acceptToolCallEnd] at haccept
  split_ifs at haccept with hunknown hduplicate
  cases haccept
  obtain ⟨called, hcall, hknown⟩ := callId_of_known hunknown
  have hstarted : startedCalls [event] = [] := by simp [startedCalls, hkind]
  have hended : endedCalls [event] = [called] := by simp [endedCalls, hkind, hcall]
  have hsilent : ∀ callId, argumentTexts [event] callId = [] := by
    intro callId
    simp [argumentTexts, hkind]
  rw [hcall, Option.getD_some]
  refine h.extend ?_ ?_ ?_ ?_ (fun callId _ => hsilent callId) ?_
  · simp [textDeltas, hkind]
  · rw [hstarted, List.append_nil]
  · rw [hended]
  · intro callId
    rw [h.arguments, hstarted, hsilent, List.append_nil, List.append_nil]
  · intro callId hmem
    rw [hended, List.mem_singleton] at hmem
    subst hmem
    rw [h.arguments, Option.isSome_map] at hknown
    exact hknown

/-! ## Whole streams -/

theorem holds_cleared (hclears : event.clears = true) (haccept : assembler.accept event = .ok next) :
    Holds next [] := by
  unfold ModelStreamAssembler.accept at haccept
  split_ifs at haccept
  unfold ModelStreamAssembler.handle at haccept
  cases hkind : event.kind with
  | attemptStarted =>
      simp only [hkind, ModelStreamAssembler.acceptAttemptStarted] at haccept
      split_ifs at haccept
      cases haccept
      exact .nothing rfl rfl rfl rfl
  | attemptFailed =>
      simp only [hkind, ModelStreamAssembler.acceptAttemptFailed] at haccept
      split_ifs at haccept
      cases haccept
      exact .nothing rfl rfl rfl rfl
  | _ => simp [ModelStreamEvent.clears, hkind] at hclears

theorem Holds.accept (h : Holds assembler events) (hclears : event.clears = false)
    (haccept : assembler.accept event = .ok next) : Holds next (events ++ [event]) := by
  have htext := ModelStreamAssembler.accept_text haccept
  rw [hclears] at htext
  unfold ModelStreamAssembler.accept at haccept
  split_ifs at haccept
  have hstart : Holds { assembler with
      providerRequestId := event.providerRequestId <|> assembler.providerRequestId } events :=
    { h with }
  unfold ModelStreamAssembler.handle at haccept
  cases hkind : event.kind with
  | attemptStarted => simp [ModelStreamEvent.clears, hkind] at hclears
  | attemptFailed => simp [ModelStreamEvent.clears, hkind] at hclears
  | retryScheduled =>
      simp only [hkind, ModelStreamAssembler.acceptRetryScheduled] at haccept
      split_ifs at haccept
      cases haccept
      exact hstart.plain htext rfl rfl rfl (by simp [hkind])
  | textDelta =>
      simp only [hkind, ModelStreamAssembler.acceptTextDelta] at haccept
      split_ifs at haccept
      cases haccept
      exact hstart.plain htext rfl rfl rfl (by simp [hkind])
  | reasoningDelta =>
      simp only [hkind] at haccept
      cases haccept
      exact hstart.plain htext rfl rfl rfl (by simp [hkind])
  | toolCallStart =>
      simp only [hkind] at haccept
      exact hstart.toolCallStart hkind haccept
  | toolCallArgumentsDelta =>
      simp only [hkind] at haccept
      exact hstart.toolCallArgumentsDelta hkind haccept
  | toolCallEnd =>
      simp only [hkind] at haccept
      exact hstart.toolCallEnd hkind haccept
  | usage =>
      simp only [hkind, ModelStreamAssembler.acceptUsage] at haccept
      split at haccept
      · cases haccept
      · cases haccept
        refine hstart.plain htext ?_ ?_ ?_ (by simp [hkind]) <;> (split_ifs <;> rfl)
  | finish =>
      simp only [hkind, ModelStreamAssembler.acceptFinish] at haccept
      split at haccept
      · cases haccept
      · cases haccept
        exact hstart.plain htext rfl rfl rfl (by simp [hkind])
  | error =>
      simp only [hkind, ModelStreamAssembler.acceptError] at haccept
      split_ifs at haccept
      cases haccept
      exact hstart.plain htext rfl rfl rfl (by simp [hkind])

theorem Holds.acceptAll {later : List ModelStreamEvent} (h : Holds assembler events)
    (haccept : assembler.acceptAll later = .ok next) :
    Holds next (if later.any ModelStreamEvent.clears then survivingEvents later
      else events ++ later) := by
  induction later generalizing assembler events with
  | nil =>
      cases haccept
      simpa using h
  | cons event rest ih =>
      cases hstep : assembler.accept event with
      | error message =>
          simp only [ModelStreamAssembler.acceptAll, hstep] at haccept
          cases haccept
      | ok mid =>
          simp only [ModelStreamAssembler.acceptAll, hstep] at haccept
          cases hclears : event.clears with
          | true =>
              have hrest := ih (holds_cleared hclears hstep) haccept
              cases hany : rest.any ModelStreamEvent.clears <;>
                simpa [survivingEvents, hany, hclears] using hrest
          | false =>
              have hrest := ih (h.accept hclears hstep) haccept
              cases hany : rest.any ModelStreamEvent.clears <;>
                simpa [survivingEvents, hany, hclears] using hrest

theorem holds_surviving (haccept : ({} : ModelStreamAssembler).acceptAll events = .ok next) :
    Holds next (survivingEvents events) := by
  have hheld := (@Holds.nothing {} rfl rfl rfl rfl).acceptAll haccept
  cases hany : events.any ModelStreamEvent.clears with
  | true => simpa [hany] using hheld
  | false =>
      have hall : survivingEvents events = events := by
        cases events with
        | nil => rfl
        | cons event rest =>
            rw [List.any_cons, Bool.or_eq_false_iff] at hany
            simp [survivingEvents, hany.1, hany.2]
      simpa [hany, hall] using hheld

/-! ## The assistant message -/

variable {loads : String → Option JsonValue}

def rawArguments (texts : List String) : String :=
  if String.join texts = "" then "\x7b\x7d" else String.join texts

def MadeBy (loads : String → Option JsonValue) (events : List ModelStreamEvent)
    (call : ToolCall) : Prop :=
  (call.callId, call.toolName) ∈ startedCalls events ∧
    loads (rawArguments (argumentTexts events call.callId)) = some (.obj call.arguments)

theorem mem_of_lookup {entries : List (String × String)} {key value : String}
    (h : entries.lookup key = some value) : (key, value) ∈ entries := by
  induction entries with
  | nil => cases h
  | cons entry rest ih =>
      obtain ⟨other, current⟩ := entry
      rw [List.lookup_cons] at h
      cases hkey : key == other with
      | true =>
          rw [hkey] at h
          cases h
          rw [beq_iff_eq.mp hkey]
          exact List.mem_cons_self
      | false =>
          rw [hkey] at h
          exact List.mem_cons_of_mem _ (ih h)

theorem Holds.buildToolCall (h : Holds assembler events) {callId : String} {call : ToolCall}
    (hknown : ((startedCalls events).lookup callId).isSome)
    (hbuild : assembler.buildToolCall loads callId = .ok call) :
    call.callId = callId ∧ MadeBy loads events call := by
  obtain ⟨toolName, hlookup⟩ := Option.isSome_iff_exists.mp hknown
  have harguments := h.arguments callId
  rw [hlookup, Option.map_some] at harguments
  unfold ModelStreamAssembler.buildToolCall at hbuild
  simp only [harguments, Option.getD_some, h.names, hlookup] at hbuild
  split at hbuild
  · next arguments hloads =>
      cases hbuild
      exact ⟨rfl, mem_of_lookup hlookup, hloads⟩
  · cases hbuild
  · cases hbuild

theorem Holds.buildToolCalls (h : Holds assembler events) {callIds : List String}
    {calls : List ToolCall}
    (hknown : ∀ callId ∈ callIds, ((startedCalls events).lookup callId).isSome)
    (hbuild : assembler.buildToolCalls loads callIds = .ok calls) :
    calls.map (·.callId) = callIds ∧ ∀ call ∈ calls, MadeBy loads events call := by
  induction callIds generalizing calls with
  | nil =>
      cases hbuild
      exact ⟨rfl, nofun⟩
  | cons callId rest ih =>
      simp only [ModelStreamAssembler.buildToolCalls, bind_eq_ok] at hbuild
      obtain ⟨call, hcall, later, hlater, hcalls⟩ := hbuild
      cases hcalls
      obtain ⟨hid, hmade⟩ := h.buildToolCall (hknown callId List.mem_cons_self) hcall
      obtain ⟨hids, hall⟩ := ih (fun other hother => hknown other (List.mem_cons_of_mem _ hother)) hlater
      refine ⟨by rw [List.map_cons, hid, hids], ?_⟩
      intro other hother
      rcases List.mem_cons.mp hother with rfl | hother
      · exact hmade
      · exact hall other hother

theorem assistant_of_buildOutcome {messageId : String} {createdAt : Timestamp}
    {outcome : ModelAssemblyOutcome} {assistant : AssistantMessage}
    (hbuild : assembler.buildOutcome loads messageId createdAt = .ok outcome)
    (hassistant : outcome.assistant = some assistant) :
    (∀ entry ∈ assembler.toolNames, entry.1 ∈ assembler.closedCalls) ∧
    assistant.content =
      (if assembler.text = [] then [] else [.text (String.join assembler.text)]) ∧
    (assistant.finishReason = .toolCalls →
      assembler.buildToolCalls loads assembler.closedCalls = .ok assistant.toolCalls) ∧
    (assistant.finishReason ≠ .toolCalls → assistant.toolCalls = []) := by
  have hbuilt : ∀ reason, assembler.assistantOutcome loads messageId createdAt reason = .ok outcome →
      assistant.content =
        (if assembler.text = [] then [] else [.text (String.join assembler.text)]) ∧
      (assistant.finishReason = .toolCalls →
        assembler.buildToolCalls loads assembler.closedCalls = .ok assistant.toolCalls) ∧
      (assistant.finishReason ≠ .toolCalls → assistant.toolCalls = []) := by
    intro reason hreason
    unfold ModelStreamAssembler.assistantOutcome at hreason
    by_cases htools : reason = .toolCalls
    · rw [if_pos htools, bind_eq_ok] at hreason
      obtain ⟨calls, hcalls, hmade⟩ := hreason
      cases hmade
      cases hassistant
      exact ⟨rfl, fun _ => hcalls, fun hother => absurd htools hother⟩
    · rw [if_neg htools] at hreason
      cases hreason
      cases hassistant
      exact ⟨rfl, fun hother => absurd hother htools, fun _ => rfl⟩
  unfold ModelStreamAssembler.buildOutcome at hbuild
  split at hbuild
  · cases hbuild
    cases hassistant
  · split at hbuild
    · cases hbuild
    · cases hbuild
      cases hassistant
    · cases hbuild
      cases hassistant
    · cases hbuild
      cases hassistant
    · next reason _ _ _ _ =>
        split_ifs at hbuild with hopen
        refine ⟨?_, hbuilt reason hbuild⟩
        intro entry hentry
        by_contra hnot
        refine hopen (List.any_eq_true.mpr ⟨entry, hentry, ?_⟩)
        simpa using hnot

/-- The answer holds the output of the surviving attempt: all its text, and all its calls
when it ends with calls. An attempt that ends otherwise makes no call. -/
theorem assistant_of_surviving_attempt {messageId : String} {createdAt : Timestamp}
    {outcome : ModelAssemblyOutcome} {assistant : AssistantMessage}
    (haccept : ({} : ModelStreamAssembler).acceptAll events = .ok assembler)
    (hbuild : assembler.buildOutcome loads messageId createdAt = .ok outcome)
    (hassistant : outcome.assistant = some assistant) (hsurvives : ¬LastAttemptFailed events) :
    assistant.content =
      (if textDeltas (sinceLastStart events) = [] then []
        else [.text (String.join (textDeltas (sinceLastStart events)))]) ∧
    (∀ started ∈ startedCalls (sinceLastStart events),
      started.1 ∈ endedCalls (sinceLastStart events)) ∧
    (assistant.finishReason = .toolCalls →
      assistant.toolCalls.map (·.callId) = endedCalls (sinceLastStart events) ∧
      ∀ call ∈ assistant.toolCalls, MadeBy loads (sinceLastStart events) call) ∧
    (assistant.finishReason ≠ .toolCalls → assistant.toolCalls = []) := by
  have hheld := holds_surviving haccept
  rw [survivingEvents_of_not_failed hsurvives] at hheld
  obtain ⟨hclosed, hcontent, hcalls, hnone⟩ := assistant_of_buildOutcome hbuild hassistant
  rw [hheld.names, hheld.closed] at hclosed
  rw [hheld.text] at hcontent
  refine ⟨hcontent, hclosed, ?_, hnone⟩
  intro htools
  have hmade := hcalls htools
  rw [hheld.closed] at hmade
  exact hheld.buildToolCalls hheld.known hmade

/-- `json.loads` as far as the arguments of the runs below need it. -/
def loadsEmptyObject (raw : String) : Option JsonValue :=
  if raw = "\x7b\x7d" then some (.obj []) else none

def oneCall : List ModelStreamEvent :=
  [{ kind := .toolCallStart, callId := some "call", toolName := some "tool" },
    { kind := .toolCallEnd, callId := some "call" }]

/-- An attempt with one call that finishes for a reason, after it has failed or not. -/
def oneCallAttempt (failure : List ModelStreamEvent) (reason : String) : List ModelStreamEvent :=
  { kind := .attemptStarted, attempt := some 1 } :: (failure ++ oneCall ++
    [{ kind := .finish, finishReason := some reason }])

def firstFailure : ModelStreamEvent where
  kind := .attemptFailed
  attempt := some 1
  errorClass := some "network"
  retryable := some false

def assistantOf (events : List ModelStreamEvent) : Except String (Option AssistantMessage) := do
  let assembler ← ({} : ModelStreamAssembler).acceptAll events
  let outcome ← assembler.buildOutcome loadsEmptyObject "message" 0
  return outcome.assistant

/-- An attempt says a word and makes a call before it fails, and a second one does so too. -/
def secondAttempt : List ModelStreamEvent :=
  [{ kind := .attemptStarted, attempt := some 1 },
    { kind := .textDelta, delta := some "lost" },
    { kind := .toolCallStart, callId := some "lost-call", toolName := some "tool" },
    { kind := .toolCallEnd, callId := some "lost-call" },
    { firstFailure with retryable := some true },
    { firstFailure with kind := .retryScheduled, attempt := some 2, retryable := some true },
    { kind := .attemptStarted, attempt := some 2 },
    { kind := .textDelta, delta := some "done" }] ++ oneCall ++
    [{ kind := .finish, finishReason := some "tool_calls" }]

theorem assistant_of_surviving_attempt_secondAttempt :
    assistantOf secondAttempt =
      .ok (some ⟨"message", [.text "done"], [⟨"call", "tool", []⟩], .toolCalls, none, 0⟩) ∧
    textDeltas (sinceLastStart secondAttempt) = ["done"] ∧
    MadeBy loadsEmptyObject (sinceLastStart secondAttempt) ⟨"call", "tool", []⟩ := by
  have hrun : assistantOf secondAttempt =
      .ok (some ⟨"message", [.text "done"], [⟨"call", "tool", []⟩], .toolCalls, none, 0⟩) := by
    decide +kernel
  refine ⟨hrun, by decide, ?_⟩
  simp only [assistantOf, bind_eq_ok] at hrun
  obtain ⟨assembler, haccept, outcome, hbuild, hassistant⟩ := hrun
  have hsurvives : ¬LastAttemptFailed secondAttempt := by
    unfold LastAttemptFailed
    decide
  have hmade := assistant_of_surviving_attempt haccept hbuild (Except.ok.inj hassistant) hsurvives
  exact (hmade.2.2.1 rfl).2 _ List.mem_cons_self

/-- The message is made of the output of the surviving attempt only, and of all of it. -/
def SurvivorOnly (events : List ModelStreamEvent) (assistant : AssistantMessage) : Prop :=
  ¬LastAttemptFailed events ∧
    assistant.content =
      (if textDeltas (sinceLastStart events) = [] then []
        else [.text (String.join (textDeltas (sinceLastStart events)))]) ∧
    assistant.toolCalls.map (·.callId) = endedCalls (sinceLastStart events)

/-- The calls of an attempt that ends with `stop` are dropped, and a call that is started
after the failure of the attempt is kept. -/
theorem not_survivor_only :
    (∃ assistant, assistantOf (oneCallAttempt [] "stop") = .ok (some assistant) ∧
      ¬SurvivorOnly (oneCallAttempt [] "stop") assistant) ∧
    ∃ assistant, assistantOf (oneCallAttempt [firstFailure] "tool_calls") = .ok (some assistant) ∧
      ¬SurvivorOnly (oneCallAttempt [firstFailure] "tool_calls") assistant := by
  refine ⟨⟨⟨"message", [], [], .stop, none, 0⟩, by decide +kernel, ?_⟩,
    ⟨⟨"message", [], [⟨"call", "tool", []⟩], .toolCalls, none, 0⟩, by decide +kernel, ?_⟩⟩
  · rintro ⟨-, -, hcalls⟩
    revert hcalls
    decide
  · rintro ⟨hsurvives, -⟩
    revert hsurvives
    unfold LastAttemptFailed
    decide

end Hybro.Orchestrator
