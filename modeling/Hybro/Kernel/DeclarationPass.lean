import Hybro.Kernel.DeclarationSteps
import Hybro.Orchestrator.RunFactory

/-! # A pass over the declared calls

What the declaration loop has done when it returns: each declared call either rests, is to
be executed, or is to join a parked interaction. One spec for each branch of the loop body,
and the loop rule over them.
-/

namespace Hybro.Kernel

open Orchestrator Interleaving

/-! ## Checkpoints of a call -/

/-- The Run was returned as it is stored, and the entry of the call satisfies `P`. -/
def Arrives (ctx : BatchContext) (call : ToolCall) (entryIndex : Nat)
    (first : OrchestratorRunState) (P : ToolBatchEntry → Prop) (run : OrchestratorRunState)
    (t : Process) : Prop :=
  t.run = run ∧ ∃ entry, P entry ∧ Reached ctx call entryIndex first entry run

section Checkpoints

variable {answers : Answers} {ctx : BatchContext} {call : ToolCall} {entryIndex : Nat}
  {first : OrchestratorRunState} {entry : ToolBatchEntry} {s : Process} {label : String}
  {parts : List CommandPart} {commandId : CommandId} {update : EntryUpdate}
  {updates : OrchestratorRunState → OrchestratorRunState}

theorem yields_written {change : LocalChange} (h : Reached ctx call entryIndex first entry s.run)
    (hlocal : LocalCheckpoint change updates s) (hchange : h.Change change commandId) :
    Yields answers (Ready ctx) (checkpoint s.run updates commandId) s (Arrives ctx call entryIndex
      first fun entry' => entry' = change.entry ∨
        (entry' = entry ∧ commandId ∈ s.run.processedCommandIds)) := by
  refine (yields_checkpoint hlocal fun _ _ => hchange.committed.ready h.ready).conseq ?_
  intro run t hwritten
  obtain ⟨hrun, entry', hreached, hentry⟩ := h.written hchange hwritten
  exact ⟨hrun, entry', hentry, hreached⟩

theorem yields_updated (h : Reached ctx call entryIndex first entry s.run)
    (hmoves : Moves call.callId entry (update.apply entry) commandId) :
    Yields answers (Ready ctx) (updateEntry s.run ctx.batchIndex entryIndex update commandId) s
      (Arrives ctx call entryIndex first fun entry' => entry' = update.apply entry ∨
        (entry' = entry ∧ commandId ∈ s.run.processedCommandIds)) := by
  have hchange : h.Change (entryChange s.run ctx.batchIndex entryIndex (update.apply entry))
      commandId := ⟨rfl, rfl, hmoves, h.used⟩
  refine (yields_updateEntry h.ready.live h.located.entryAt
    fun _ _ => hchange.committed.ready h.ready).conseq ?_
  intro run t hwritten
  obtain ⟨hrun, entry', hreached, hentry⟩ := h.written hchange hwritten
  exact ⟨hrun, entry', hentry, hreached⟩

theorem yields_counters (used joins : Nat) (h : Reached ctx call entryIndex first entry s.run)
    (hupdates : updates s.run = { s.run with
      budget := { s.run.budget with agentCallsUsed := used }, consecutiveModelJoins := joins })
    (hused : used ≤ max first.budget.agentCallsUsed first.profile.maxAgentCalls)
    (hlabel : label ∉ missingLabel :: settlingLabels) :
    Yields answers (Ready ctx) (checkpoint s.run updates ⟨label, parts⟩) s
      (Arrives ctx call entryIndex first (· = entry)) := by
  have hlocal : LocalCheckpoint ⟨ctx.batchIndex, entryIndex, entry, used, joins⟩ updates s := by
    refine ⟨h.ready.live, ?_⟩
    rw [hupdates]
    unfold LocalChange.apply
    rw [withEntry_self h.located.entryAt]
  have hmoves : Moves call.callId entry entry ⟨label, parts⟩ :=
    Moves.keep rfl rfl rfl (fun _ => rfl) hlabel
  refine (yields_written h hlocal ⟨rfl, rfl, hmoves, hused⟩).conseq ?_
  rintro run t ⟨hrun, entry', hentry, hreached⟩
  exact ⟨hrun, entry', hentry.elim id And.left, hreached⟩

theorem yields_moved (h : Reached ctx call entryIndex first entry s.run)
    (hmoves : Moves call.callId entry (update.apply entry) commandId)
    (hsettles : settles entry.state call.callId commandId) :
    Yields answers (Ready ctx) (updateEntry s.run ctx.batchIndex entryIndex update commandId) s
      (Arrives ctx call entryIndex first (· = update.apply entry)) := by
  refine (yields_updated h hmoves).conseq ?_
  rintro run t ⟨hrun, entry', hentry, hreached⟩
  refine ⟨hrun, entry', hentry.resolve_right ?_, hreached⟩
  rintro ⟨-, hold⟩
  refine h.ready.fresh h.located _ hold ?_
  rwa [h.located.sameCall]

theorem yields_settle (h : Reached ctx call entryIndex first entry s.run)
    (hpending : entry.state = .pending) (hlabel : label ∈ settlingLabels)
    (hstate : update.state ≠ .pending) :
    Yields answers (Ready ctx) (ctx.settle s.run entryIndex call label update) s
      (Arrives ctx call entryIndex first (· = update.apply entry)) :=
  yields_moved h (Moves.settle hpending hlabel rfl rfl hstate) ⟨rfl, Or.inl ⟨hpending, hlabel⟩⟩

theorem yields_reject {code message : String} {invocation : Option ToolInvocation}
    (h : Reached ctx call entryIndex first entry s.run) (hpending : entry.state = .pending)
    (hlabel : label ∈ settlingLabels) :
    Yields answers (Ready ctx) (ctx.reject s.run entryIndex call label code message invocation) s
      (Arrives ctx call entryIndex first (·.state = .terminal)) := by
  refine (yields_settle h hpending hlabel (by simp)).conseq ?_
  rintro run t ⟨hrun, entry', rfl, hreached⟩
  exact ⟨hrun, _, rfl, hreached⟩

theorem yields_resetJoins (h : Reached ctx call entryIndex first entry s.run)
    (hlabel : label ∉ missingLabel :: settlingLabels) :
    Yields answers (Ready ctx) (BatchContext.resetJoins s.run label call) s
      (Arrives ctx call entryIndex first (· = entry)) := by
  unfold BatchContext.resetJoins
  split
  · exact yields_counters s.run.budget.agentCallsUsed 0 h rfl h.used hlabel
  · exact Returns.pure ⟨rfl, entry, rfl, h⟩

end Checkpoints

/-! ## What a call comes to -/

/-- States in which the loop leaves a call alone. -/
def rests : ToolBatchEntryState → Bool
  | .terminal | .waitingExternal | .inputRequired | .authRequired => true
  | _ => false

/-- A call joins the call that its own entry is suspended on, or the one that a presented
interaction of the same Tool waits on. -/
def JoinTarget (run : OrchestratorRunState) (call : ToolCall) (entry : ToolBatchEntry)
    (joinTarget : String) : Prop :=
  entry.suspendedCallRecordId = some joinTarget ∨ ∃ parked ∈ run.entries,
    isJoinTarget call.toolName parked = true ∧ parked.suspendedCallRecordId = some joinTarget

theorem findJoinTarget_parked {run : OrchestratorRunState} {toolName joinTarget : String}
    (h : findJoinTarget run toolName = some joinTarget) : ∃ parked ∈ run.entries,
      isJoinTarget toolName parked = true ∧ parked.suspendedCallRecordId = some joinTarget := by
  unfold findJoinTarget at h
  obtain ⟨parked, hlast, hcallRecord⟩ := Option.bind_eq_some_iff.mp h
  obtain ⟨hmem, hjoin⟩ := List.mem_filter.mp (List.mem_of_getLast? hlast)
  exact ⟨parked, hmem, hjoin, hcallRecord⟩

theorem isParked_of_isJoinTarget {toolName : String} {entry : ToolBatchEntry}
    (h : isJoinTarget toolName entry = true) : entry.state.isParked = true := by
  unfold isJoinTarget at h
  simp only [Bool.and_eq_true] at h
  exact h.1.1.2

theorem JoinTarget.mono {run run' : OrchestratorRunState} {call : ToolCall}
    {entry : ToolBatchEntry} {joinTarget : String} (h : JoinTarget run call entry joinTarget)
    (hparked : ∀ entry ∈ run.entries, entry.state.isParked = true → entry ∈ run'.entries) :
    JoinTarget run' call entry joinTarget := by
  rcases h with hown | ⟨parked, hmem, hjoin, hcallRecord⟩
  · exact Or.inl hown
  · have hkept := hparked parked hmem (isParked_of_isJoinTarget hjoin)
    exact Or.inr ⟨parked, hkept, hjoin, hcallRecord⟩

/-- How an entry of the Run stands, and what is listed for its call. -/
inductive Outcome (run : OrchestratorRunState) (call : ToolCall) (entry : ToolBatchEntry) :
    List (ToolCall × ToolInvocation × ToolAcceptance) →
    List (String × ToolInvocation × String) → Prop
  | resting (hstate : rests entry.state = true) : Outcome run call entry [] []
  | executed (invocation : ToolInvocation) (acceptance : ToolAcceptance)
      (hstate : entry.state = .accepted ∨ entry.state = .executing)
      (hinvocation : entry.invocation = some invocation)
      (hacceptance : entry.acceptance = some acceptance) :
      Outcome run call entry [(call, invocation, acceptance)] []
  | joined (invocation : ToolInvocation) (joinTarget : String)
      (hstate : entry.state = .accepted ∨ entry.state = .waitingExternal)
      (hinvocation : entry.invocation = some invocation)
      (htarget : JoinTarget run call entry joinTarget) :
      Outcome run call entry [] [(call.callId, invocation, joinTarget)]

def Handled (run : OrchestratorRunState) (d d' : Declarations) (call : ToolCall)
    (entry : ToolBatchEntry) : Prop :=
  ∃ executable joinCalls, Outcome run call entry executable joinCalls ∧
    d'.executable = d.executable ++ executable ∧ d'.joinCalls = d.joinCalls ++ joinCalls

/-- The budget does not allow the next call, for a reason that ends the Run. -/
def Exhausted (reason : BudgetExit) (s : Process) : Prop :=
  reason ≠ "tool_calls" ∧
    ∃ now, BudgetPolicy.beforeToolCall s.run.budget s.run.profile now = .error reason

/-- The loop goes on with the call dealt with, or ends with an exhausted budget. -/
def Deals (ctx : BatchContext) (call : ToolCall) (entryIndex : Nat)
    (first : OrchestratorRunState) (d : Declarations) : Declared → Process → Prop :=
  Proceeds (fun d' t => ∃ entry, Reached ctx call entryIndex first entry t.run ∧
    Handled t.run d d' call entry) Exhausted

section Branches

variable {answers : Answers} {ctx : BatchContext} {call : ToolCall} {entryIndex : Nat}
  {first run : OrchestratorRunState} {entry : ToolBatchEntry} {s t : Process}
  {d d' : Declarations} {entry' : ToolBatchEntry} {invocation : ToolInvocation}
  {joinTarget : String}

theorem handled_resting (hrests : rests entry.state = true)
    (hexecutable : d'.executable = d.executable) (hjoins : d'.joinCalls = d.joinCalls) :
    Handled run d d' call entry := by
  refine ⟨[], [], .resting hrests, ?_, ?_⟩
  · rw [hexecutable, List.append_nil]
  · rw [hjoins, List.append_nil]

theorem handled_executed {acceptance : ToolAcceptance}
    (hstate : entry.state = .accepted ∨ entry.state = .executing)
    (hinvocation : entry.invocation = some invocation)
    (hacceptance : entry.acceptance = some acceptance)
    (hexecutable : d'.executable = d.executable ++ [(call, invocation, acceptance)])
    (hjoins : d'.joinCalls = d.joinCalls) : Handled run d d' call entry := by
  refine ⟨_, [], .executed invocation acceptance hstate hinvocation hacceptance, hexecutable, ?_⟩
  rw [hjoins, List.append_nil]

theorem handled_joined (hstate : entry.state = .accepted ∨ entry.state = .waitingExternal)
    (hinvocation : entry.invocation = some invocation)
    (htarget : JoinTarget run call entry joinTarget) (hexecutable : d'.executable = d.executable)
    (hjoins : d'.joinCalls = d.joinCalls ++ [(call.callId, invocation, joinTarget)]) :
    Handled run d d' call entry := by
  refine ⟨[], _, .joined invocation joinTarget hstate hinvocation htarget, ?_, hjoins⟩
  rw [hexecutable, List.append_nil]

theorem deals_of_handled (h : Reached ctx call entryIndex first entry t.run)
    (hhandled : Handled t.run d d' call entry) : Deals ctx call entryIndex first d (.inl d') t :=
  ⟨entry, h, hhandled⟩

theorem deals_of_rests {P : ToolBatchEntry → Prop}
    (h : Arrives ctx call entryIndex first P run t) (hrests : ∀ entry, P entry → rests entry.state)
    (hexecutable : d'.executable = d.executable) (hjoins : d'.joinCalls = d.joinCalls) :
    Deals ctx call entryIndex first d (.inl d') t := by
  obtain ⟨rfl, entry, hentry, hreached⟩ := h
  exact deals_of_handled hreached (handled_resting (hrests entry hentry) hexecutable hjoins)

theorem rests_terminal (entry : ToolBatchEntry) (h : entry.state = .terminal) :
    rests entry.state := by
  rw [h]
  rfl

/-! ### Calling an Agent -/

theorem yields_declareJoin (h : Reached ctx call entryIndex first entry s.run)
    (hpending : entry.state = .pending)
    (hfound : findJoinTarget s.run call.toolName = some joinTarget) :
    Yields answers (Ready ctx) (ctx.declareJoin s.run entryIndex call invocation joinTarget d) s
      (Deals ctx call entryIndex first d) := by
  unfold BatchContext.declareJoin
  split
  · refine .bind ((yields_reject h hpending (by decide)).conseq ?_)
    intro limited t hlimited
    exact .bind (yields_port rfl (.pure (deals_of_rests hlimited rests_terminal rfl rfl)))
  · -- the entry that the call joins is parked, and stays
    have htarget : JoinTarget s.run call entry joinTarget := Or.inr (findJoinTarget_parked hfound)
    have hown := h.ready.reached h.located
    refine .bind ((yields_counters s.run.budget.agentCallsUsed
      (s.run.consecutiveModelJoins + 1) hown rfl hown.used (by decide)).conseq ?_)
    rintro counted t ⟨rfl, entry', rfl, hcounted⟩
    refine .bind ((yields_settle hcounted hpending (by decide) (by simp)).conseq ?_)
    rintro accepted u ⟨rfl, entry', rfl, haccepted⟩
    refine .pure (deals_of_handled (h.trans haccepted) (handled_joined (Or.inl rfl) rfl ?_ rfl rfl))
    exact (htarget.mono haccepted.parked).imp (fun hsuspended => hsuspended) id

theorem yields_declareNewTask (h : Reached ctx call entryIndex first entry s.run)
    (hpending : entry.state = .pending) :
    Yields answers (Ready ctx) (ctx.declareNewTask s.run entryIndex call invocation d) s
      (Deals ctx call entryIndex first d) := by
  have h : Reached ctx call entryIndex first entry s.tick.run := h
  unfold BatchContext.declareNewTask
  refine .bind (yields_port rfl ?_)
  split
  · refine .bind ((yields_reject h hpending (by decide)).conseq ?_)
    intro failed t hfailed
    exact .pure (deals_of_rests hfailed rests_terminal rfl rfl)
  · rename_i acceptance _
    refine .bind ((yields_settle h hpending (by decide) (by simp)).conseq ?_)
    rintro accepted t ⟨rfl, entry', rfl, haccepted⟩
    refine .bind ((yields_resetJoins haccepted (by decide)).conseq ?_)
    rintro settled u ⟨rfl, entry', rfl, hsettled⟩
    exact .pure (deals_of_handled hsettled
      (handled_executed (Or.inl rfl) rfl rfl rfl rfl))

theorem beforeToolCall_ok {budget : BudgetState} {profile : OrchestratorProfile} {now : Timestamp}
    (h : BudgetPolicy.beforeToolCall budget profile now = .ok ()) :
    budget.agentCallsUsed + 1 ≤ profile.maxAgentCalls := by
  unfold BudgetPolicy.beforeToolCall at h
  split_ifs at h with hdeadline hwrapUp hcalls
  omega

theorem yields_declareCharged {resolved : ResolvedTool}
    (h : Reached ctx call entryIndex first entry s.run) (hpending : entry.state = .pending) :
    Yields answers (Ready ctx) (ctx.declareCharged s.run entryIndex call resolved d) s
      (Deals ctx call entryIndex first d) := by
  have h : Reached ctx call entryIndex first entry s.tick.run := h
  unfold BatchContext.declareCharged
  refine .bind (yields_port rfl ?_)
  split
  · rename_i reason hbudget
    split
    · rename_i hreason
      exact .pure ⟨hreason, _, hbudget⟩
    · refine .bind ((yields_reject h hpending (by decide)).conseq ?_)
      intro exhausted t hexhausted
      exact .pure (deals_of_rests hexhausted rests_terminal rfl rfl)
  · rename_i hbudget
    have hused : s.run.budget.agentCallsUsed + 1 ≤
        max first.budget.agentCallsUsed first.profile.maxAgentCalls := by
      have hlimit := beforeToolCall_ok hbudget
      have hprofile : s.run.profile = first.profile := h.profile
      rw [hprofile] at hlimit
      exact Nat.le_trans hlimit (Nat.le_max_right ..)
    refine .bind ((yields_counters (s.run.budget.agentCallsUsed + 1)
      s.run.consecutiveModelJoins h rfl hused (by decide)).conseq ?_)
    rintro reserved t ⟨rfl, entry', rfl, hreserved⟩
    split
    · rename_i joinTarget hfound
      exact yields_declareJoin hreserved hpending hfound
    · exact yields_declareNewTask hreserved hpending

theorem yields_declareAgentCall (h : Reached ctx call entryIndex first entry s.run)
    (hpending : entry.state = .pending) :
    Yields answers (Ready ctx) (ctx.declareAgentCall s.run entryIndex call d) s
      (Deals ctx call entryIndex first d) := by
  unfold BatchContext.declareAgentCall
  split
  · exact .throw _ _ _
  · refine .bind ((yields_reject h hpending (by decide)).conseq ?_)
    intro rejected t hrejected
    exact .pure (deals_of_rests hrejected rests_terminal rfl rfl)
  · split
    · refine .bind ((yields_reject h hpending (by decide)).conseq ?_)
      intro rejected t hrejected
      exact .pure (deals_of_rests hrejected rests_terminal rfl rfl)
    · exact yields_declareCharged h hpending

/-! ### Asking the user, and forwarding questions -/

/-- A suspended call waits for input; a rejected one has ended. -/
def Suspends (ctx : BatchContext) (call : ToolCall) (entryIndex : Nat)
    (first : OrchestratorRunState) (result : Option OrchestratorRunState) (t : Process) : Prop :=
  (∀ suspended, result = some suspended → t.run = suspended) ∧
    ∃ entry, rests entry.state = true ∧ Reached ctx call entryIndex first entry t.run

theorem suspends_rejected (h : Arrives ctx call entryIndex first (·.state = .terminal) run t) :
    Suspends ctx call entryIndex first none t := by
  obtain ⟨rfl, entry, hentry, hreached⟩ := h
  refine ⟨?_, entry, rests_terminal entry hentry, hreached⟩
  intro suspended heq
  cases heq

theorem suspends_waiting (h : Arrives ctx call entryIndex first (·.state = .inputRequired) run t) :
    Suspends ctx call entryIndex first (some run) t := by
  obtain ⟨rfl, entry, hentry, hreached⟩ := h
  refine ⟨fun _ heq => Option.some.inj heq, entry, ?_, hreached⟩
  rw [hentry]
  rfl

theorem yields_rejected {label code message : String}
    (h : Reached ctx call entryIndex first entry s.run) (hpending : entry.state = .pending)
    (hlabel : label ∈ settlingLabels) :
    Yields answers (Ready ctx) (do
      let _ ← ctx.reject s.run entryIndex call label code message none
      return none) s (Suspends ctx call entryIndex first) := by
  refine .bind ((yields_reject h hpending hlabel).conseq ?_)
  intro rejected t hrejected
  exact .pure (suspends_rejected hrejected)

theorem yields_choicesOf {Q : List String → Process → Prop} (h : ∀ choices, Q choices s) :
    Yields answers (Ready ctx) (ctx.choicesOf call) s Q := by
  unfold BatchContext.choicesOf
  split
  · exact .pure (h _)
  · exact .throw _ _ _

theorem yields_suspendForSupervisorInput (h : Reached ctx call entryIndex first entry s.run)
    (hpending : entry.state = .pending) :
    Yields answers (Ready ctx) (ctx.suspendForSupervisorInput s.run entryIndex call) s
      (Suspends ctx call entryIndex first) := by
  unfold BatchContext.suspendForSupervisorInput
  split
  · exact yields_rejected h hpending (by decide)
  · refine .bind (yields_choicesOf fun choices => ?_)
    split
    · exact yields_rejected h hpending (by decide)
    · split
      · exact yields_rejected h hpending (by decide)
      · have h : Reached ctx call entryIndex first entry s.tick.run := h
        refine .bind (yields_port rfl ?_)
        split
        · exact .throw _ _ _
        · refine .bind ((yields_settle h hpending (by decide) (by simp)).conseq ?_)
          rintro suspended t ⟨rfl, entry', rfl, hsuspended⟩
          exact .pure (suspends_waiting ⟨rfl, _, rfl, hsuspended⟩)

theorem yields_emit {eventType : String} {payload : JsonObject} {Q : Unit → Process → Prop}
    (h : Q () s.tick) : Yields answers (Ready ctx) (emit eventType payload) s Q :=
  yields_port rfl h

theorem yields_asked (h : Reached ctx call entryIndex first entry t.run)
    (hrests : rests entry.state = true) :
    Yields answers (Ready ctx) (do
      let settled ← BatchContext.resetJoins t.run "join-reset-ask" call
      return .inl { d with run := settled }) t (Deals ctx call entryIndex first d) := by
  refine .bind ((yields_resetJoins h (by decide)).conseq ?_)
  rintro settled u ⟨rfl, entry', rfl, hsettled⟩
  exact .pure (deals_of_handled hsettled (handled_resting hrests rfl rfl))

theorem yields_declareAsk (h : Reached ctx call entryIndex first entry s.run)
    (hpending : entry.state = .pending) :
    Yields answers (Ready ctx) (ctx.declareAsk s.run entryIndex call d) s
      (Deals ctx call entryIndex first d) := by
  unfold BatchContext.declareAsk
  split
  · exact .throw _ _ _
  · refine .bind (yields_choicesOf fun choices => ?_)
    split
    · have h : Reached ctx call entryIndex first entry s.tick.run := h
      refine .bind (yields_emit ?_)
      refine .bind ((yields_suspendForSupervisorInput h hpending).conseq ?_)
      rintro result t ⟨hresult, entry', hrests, hreached⟩
      cases result with
      | none => exact .pure (deals_of_handled hreached (handled_resting hrests rfl rfl))
      | some suspended =>
          obtain rfl := hresult suspended rfl
          exact yields_asked hreached hrests
    · refine .bind ((yields_suspendForSupervisorInput h hpending).conseq ?_)
      rintro result t ⟨hresult, entry', hrests, hreached⟩
      cases result with
      | none => exact .pure (deals_of_handled hreached (handled_resting hrests rfl rfl))
      | some suspended =>
          obtain rfl := hresult suspended rfl
          exact yields_asked hreached hrests

theorem yields_publishSurface {parked : ToolBatchEntry} {parentCallRecordId interactionId : String}
    (h : Reached ctx call entryIndex first entry s.run) (hpending : entry.state = .pending) :
    Yields answers (Ready ctx)
      (ctx.publishSurface s.run entryIndex call parked parentCallRecordId interactionId) s
      (Suspends ctx call entryIndex first) := by
  unfold BatchContext.publishSurface
  refine .bind (yields_port rfl ?_)
  split
  · exact .throw _ _ _
  · have h : Reached ctx call entryIndex first entry s.tick.run := h
    exact yields_rejected h hpending (by decide)
  · refine .bind (yields_emit (.bind (yields_emit ?_)))
    have h : Reached ctx call entryIndex first entry s.tick.tick.tick.run := h
    refine .bind ((yields_settle h hpending (by decide) (by simp)).conseq ?_)
    rintro suspended t ⟨rfl, entry', rfl, hsuspended⟩
    exact .pure (suspends_waiting ⟨rfl, _, rfl, hsuspended⟩)

theorem yields_surfaceTarget {parked : ToolBatchEntry} {parentCallRecordId interactionId : String}
    (h : Reached ctx call entryIndex first entry s.run) (hpending : entry.state = .pending) :
    Yields answers (Ready ctx) (checkpoint s.run (withEntry ctx.batchIndex entryIndex
      (ctx.withSurfaceTarget s.run parked parentCallRecordId interactionId entry))
        ⟨"surface-target", [.text call.callId]⟩) s
      (Arrives ctx call entryIndex first (·.state = .pending)) := by
  have hmoves : Moves call.callId entry
      (ctx.withSurfaceTarget s.run parked parentCallRecordId interactionId entry)
      ⟨"surface-target", [.text call.callId]⟩ := by
    refine .keep rfl rfl rfl ?_ (by decide)
    rw [hpending]
    exact fun hparked => absurd hparked (by decide)
  refine (yields_written h (entryChange_checkpoint h.ready.live ctx.batchIndex entryIndex _)
    ⟨rfl, rfl, hmoves, h.used⟩).conseq ?_
  rintro run t ⟨hrun, entry', hentry, hreached⟩
  refine ⟨hrun, entry', ?_, hreached⟩
  rcases hentry with rfl | ⟨rfl, -⟩
  · exact hpending
  · exact hpending

theorem yields_suspendForSurfaceForward (h : Reached ctx call entryIndex first entry s.run)
    (hpending : entry.state = .pending) :
    Yields answers (Ready ctx) (ctx.suspendForSurfaceForward s.run entryIndex call) s
      (Suspends ctx call entryIndex first) := by
  unfold BatchContext.suspendForSurfaceForward
  split
  · exact yields_rejected h hpending (by decide)
  · split
    · exact yields_rejected h hpending (by decide)
    · split
      · exact yields_rejected h hpending (by decide)
      · split
        · exact yields_rejected h hpending (by decide)
        · exact yields_rejected h hpending (by decide)
        · refine .bind (yields_entryAt h.located.entryAt ?_)
          refine .bind ((yields_surfaceTarget h hpending).conseq ?_)
          rintro fenced t ⟨rfl, entry', hpending', hfenced⟩
          exact yields_publishSurface hfenced hpending'

theorem yields_declareSurface (h : Reached ctx call entryIndex first entry s.run)
    (hpending : entry.state = .pending) :
    Yields answers (Ready ctx) (ctx.declareSurface s.run entryIndex call d) s
      (Deals ctx call entryIndex first d) := by
  unfold BatchContext.declareSurface
  refine .bind ((yields_suspendForSurfaceForward h hpending).conseq ?_)
  rintro result t ⟨-, entry', hrests, hreached⟩
  cases result with
  | none => exact .pure (deals_of_handled hreached (handled_resting hrests rfl rfl))
  | some suspended => exact .pure (deals_of_handled hreached (handled_resting hrests rfl rfl))

/-! ### Calls that were accepted before -/

theorem yields_declareAccepted (h : Reached ctx call entryIndex first entry s.run)
    (hstate : entry.state = .accepted ∨ entry.state = .executing) :
    Yields answers (Ready ctx) (ctx.declareAccepted s.run entryIndex entry call d) s
      (Deals ctx call entryIndex first d) := by
  unfold BatchContext.declareAccepted
  split
  · rename_i invocation acceptance hinvocation hacceptance
    split
    · -- the repair keeps the state, the invocation and the acceptance
      have hnot : entry.state.isParked = true → EntryUpdate.apply
          { state := entry.state
            invocation := entry.invocation
            acceptance := entry.acceptance
            opaquePublicCallId :=
              some (opaquePublicCallId ctx.kernel s.run.runId entry.callId) } entry = entry := by
        rcases hstate with hstate | hstate <;> rw [hstate] <;>
          exact fun hparked => absurd hparked (by decide)
      refine .bind ((yields_updated h (Moves.keep rfl rfl rfl hnot (by decide))).conseq ?_)
      rintro repaired t ⟨rfl, entry', hentry, hreached⟩
      have hsame : entry'.state = entry.state ∧ entry'.invocation = entry.invocation ∧
          entry'.acceptance = entry.acceptance := by
        rcases hentry with rfl | ⟨rfl, -⟩
        · simp [EntryUpdate.apply, hinvocation, hacceptance]
        · exact ⟨rfl, rfl, rfl⟩
      obtain ⟨hsame, hinvocation', hacceptance'⟩ := hsame
      refine .bind (yields_entryAt hreached.located.entryAt ?_)
      rw [hinvocation', hinvocation, hacceptance', hacceptance]
      refine .pure (deals_of_handled hreached (handled_executed ?_ ?_ ?_ rfl rfl))
      · rwa [hsame]
      · rw [hinvocation', hinvocation]
      · rw [hacceptance', hacceptance]
    · exact .pure (deals_of_handled h
        (handled_executed hstate hinvocation hacceptance rfl rfl))
  · exact .throw _ _ _

theorem yields_declareJoinAgain (h : Reached ctx call entryIndex first entry s.run)
    (hstate : entry.state = .accepted ∨ entry.state = .waitingExternal)
    (hinvocation : entry.invocation = some invocation) :
    Yields answers (Ready ctx) (ctx.declareJoinAgain s.run entryIndex entry invocation call d) s
      (Deals ctx call entryIndex first d) := by
  unfold BatchContext.declareJoinAgain
  split
  · rw [h.located.sameCall]
    have hopen : entry.state ≠ .terminal ∧ entry.state.isParked = false := by
      rcases hstate with hstate | hstate <;> rw [hstate] <;> decide
    refine .bind ((yields_moved h (Moves.missing hopen.2 rfl rfl rfl)
      ⟨rfl, Or.inr ⟨hopen.1, rfl⟩⟩).conseq ?_)
    rintro updated t ⟨rfl, entry', rfl, hreached⟩
    exact .pure (deals_of_handled hreached (handled_resting rfl rfl rfl))
  · rename_i joinTarget hfound
    have htarget : JoinTarget s.run call entry joinTarget := by
      unfold BatchContext.joinTargetOf at hfound
      split at hfound
      · exact Or.inl hfound
      · rw [h.located.sameTool] at hfound
        exact Or.inr (findJoinTarget_parked hfound)
    rw [h.located.sameCall]
    exact .pure (deals_of_handled h (handled_joined hstate hinvocation htarget rfl rfl))

/-! ### The loop body -/

theorem yields_resting {state : ToolBatchEntryState}
    (h : Reached ctx call entryIndex first entry s.run) (hstate : entry.state = state)
    (hrests : rests state = true) :
    Yields answers (Ready ctx) (pure (.inl { d with run := s.run })) s
      (Deals ctx call entryIndex first d) :=
  .pure (deals_of_handled h (handled_resting (hstate ▸ hrests) rfl rfl))

theorem yields_declareEntry (h : Reached ctx call entryIndex first entry s.run) :
    Yields answers (Ready ctx) (ctx.declareEntry s.run entryIndex entry call d) s
      (Deals ctx call entryIndex first d) := by
  unfold BatchContext.declareEntry
  split
  · rename_i hskip
    refine .bind ((yields_reject h hskip.2 (by decide)).conseq ?_)
    intro skipped t hskipped
    exact .pure (deals_of_rests hskipped rests_terminal rfl rfl)
  · split
    · rename_i hstate hinvocation _
      exact yields_declareJoinAgain h (Or.inl hstate) hinvocation
    · rename_i hstate hinvocation _
      exact yields_declareJoinAgain h (Or.inr hstate) hinvocation
    · rename_i hstate
      exact yields_resting h hstate rfl
    · rename_i hstate _
      exact yields_resting h hstate rfl
    · rename_i hstate
      exact yields_resting h hstate rfl
    · rename_i hstate
      exact yields_resting h hstate rfl
    · rename_i hpending
      split
      · exact yields_declareAsk h hpending
      · split
        · exact yields_declareSurface h hpending
        · exact yields_declareAgentCall h hpending
    · rename_i hstate _
      exact yields_declareAccepted h (Or.inl hstate)
    · rename_i hstate
      exact yields_declareAccepted h (Or.inr hstate)
    · exact .throw _ _ _
    · exact .throw _ _ _
    · exact .throw _ _ _

theorem withEntryFlags_executable (entry : ToolBatchEntry) (d : Declarations) :
    (BatchContext.withEntryFlags entry d).executable = d.executable := by
  unfold BatchContext.withEntryFlags
  split_ifs <;> repeat' split
  all_goals rfl

theorem withEntryFlags_joinCalls (entry : ToolBatchEntry) (d : Declarations) :
    (BatchContext.withEntryFlags entry d).joinCalls = d.joinCalls := by
  unfold BatchContext.withEntryFlags
  split_ifs <;> repeat' split
  all_goals rfl

theorem Handled.of_flags (h : Handled run (BatchContext.withEntryFlags entry d) d' call entry') :
    Handled run d d' call entry' := by
  unfold Handled at h
  rwa [withEntryFlags_executable, withEntryFlags_joinCalls] at h

theorem yields_declareCall (hready : Ready ctx s.run) (hcall : call ∈ ctx.assistant.toolCalls) :
    Yields answers (Ready ctx) (ctx.declareCall call d) s fun next t =>
      ∃ entryIndex, Deals ctx call entryIndex s.run d next t := by
  obtain ⟨entryIndex, entry, hlocated⟩ := hready.located hcall
  obtain ⟨batch, hbatch, hindex, hentry⟩ := hlocated.batch
  have hreached := hready.reached hlocated
  unfold BatchContext.declareCall
  refine .bind (yields_load ?_)
  simp only [hbatch, hindex]
  refine .bind (yields_entryAt hlocated.entryAt ((yields_declareEntry hreached).conseq ?_))
  intro next t hdeals
  refine ⟨entryIndex, ?_⟩
  cases next with
  | inl d' =>
      obtain ⟨entry', hreached', hhandled⟩ := hdeals
      exact ⟨entry', hreached', hhandled.of_flags⟩
  | inr reason => exact hdeals

end Branches

/-! ## The whole pass -/

def Declarations.executableOf (d : Declarations) (callId : String) :
    List (ToolCall × ToolInvocation × ToolAcceptance) :=
  d.executable.filter (·.1.callId = callId)

def Declarations.joinsOf (d : Declarations) (callId : String) :
    List (String × ToolInvocation × String) :=
  d.joinCalls.filter (·.1 = callId)

/-- The calls of `done` have been dealt with. -/
structure Passed (ctx : BatchContext) (first : OrchestratorRunState) (done rest : List ToolCall)
    (d : Declarations) (s : Process) : Prop where
  calls : done ++ rest = ctx.assistant.toolCalls
  ready : Ready ctx s.run
  dealt : ∀ call ∈ done, ∃ entryIndex entry, Located ctx s.run call entryIndex entry ∧
    Outcome s.run call entry (d.executableOf call.callId) (d.joinsOf call.callId)
  executable : (d.executable.map (·.1)).Sublist done
  joins : (d.joinCalls.map (·.1)).Sublist (done.map (·.callId))
  profile : s.run.profile = first.profile
  used : s.run.budget.agentCallsUsed ≤ max first.budget.agentCallsUsed first.profile.maxAgentCalls

section Pass

variable {answers : Answers} {ctx : BatchContext} {first run run' : OrchestratorRunState}
  {call other : ToolCall} {done rest : List ToolCall} {entryIndex : Nat}
  {entry entry' : ToolBatchEntry} {d d' : Declarations} {s t : Process}

variable {executable : List (ToolCall × ToolInvocation × ToolAcceptance)}
  {joinCalls : List (String × ToolInvocation × String)}

theorem Outcome.mono (h : Outcome run call entry executable joinCalls)
    (hparked : ∀ entry ∈ run.entries, entry.state.isParked = true → entry ∈ run'.entries) :
    Outcome run' call entry executable joinCalls := by
  cases h with
  | resting hstate => exact .resting hstate
  | executed invocation acceptance hstate hinvocation hacceptance =>
      exact .executed invocation acceptance hstate hinvocation hacceptance
  | joined invocation joinTarget hstate hinvocation htarget =>
      exact .joined invocation joinTarget hstate hinvocation (htarget.mono hparked)

theorem Outcome.listed (h : Outcome run call entry executable joinCalls) :
    (executable.map (·.1)).Sublist [call] ∧ (joinCalls.map (·.1)).Sublist [call.callId] ∧
    (∀ item ∈ executable, item.1.callId = call.callId) ∧
    ∀ item ∈ joinCalls, item.1 = call.callId := by
  cases h <;> simp

theorem Passed.distinct (h : Passed ctx first done (call :: rest) d s) :
    call.callId ∉ done.map (·.callId) := by
  have hdistinct := h.ready.distinct
  rw [← h.calls, List.map_append, List.nodup_append] at hdistinct
  intro hmem
  exact hdistinct.2.2 _ hmem _ List.mem_cons_self rfl

theorem Passed.executable_ids (h : Passed ctx first done rest d s) :
    (d.executable.map (·.1.callId)).Sublist (done.map (·.callId)) := by
  have hids := h.executable.map (·.callId)
  rwa [List.map_map] at hids

theorem Passed.step (h : Passed ctx first done (call :: rest) d s)
    (hdeals : Deals ctx call entryIndex s.run d (.inl d') t) :
    Passed ctx first (done ++ [call]) rest d' t := by
  obtain ⟨entry, hreached, executable, joinCalls, houtcome, hexecutable, hjoins⟩ := hdeals
  obtain ⟨hlistedCalls, hlistedJoins, hownCalls, hownJoins⟩ := houtcome.listed
  have hnew := h.distinct
  refine ⟨by rw [List.append_assoc]; exact h.calls, hreached.ready, ?_, ?_, ?_,
    hreached.profile.trans h.profile, ?_⟩
  · intro other hmem
    rcases List.mem_append.mp hmem with hmem | hmem
    · -- nothing is listed under the id of another call
      have hne : other.callId ≠ call.callId :=
        fun heq => hnew (heq ▸ List.mem_map.mpr ⟨other, hmem, rfl⟩)
      obtain ⟨otherIndex, otherEntry, hlocated, hdealt⟩ := h.dealt other hmem
      have hdealt := hdealt.mono hreached.parked
      refine ⟨otherIndex, otherEntry, hreached.others _ _ _ hne hlocated, ?_⟩
      have hcalls : executable.filter (·.1.callId = other.callId) = [] :=
        List.filter_eq_nil_iff.mpr fun item hitem => by simp [hownCalls item hitem, Ne.symm hne]
      have hcallJoins : joinCalls.filter (·.1 = other.callId) = [] :=
        List.filter_eq_nil_iff.mpr fun item hitem => by simp [hownJoins item hitem, Ne.symm hne]
      unfold Declarations.executableOf Declarations.joinsOf at hdealt ⊢
      rwa [hexecutable, hjoins, List.filter_append, List.filter_append, hcalls, hcallJoins,
        List.append_nil, List.append_nil]
    · obtain rfl := List.mem_singleton.mp hmem
      refine ⟨entryIndex, entry, hreached.located, ?_⟩
      have hcalls : d.executable.filter (·.1.callId = other.callId) = [] := by
        refine List.filter_eq_nil_iff.mpr fun item hitem hid => hnew ?_
        exact h.executable_ids.subset (List.mem_map.mpr ⟨item, hitem, of_decide_eq_true hid⟩)
      have hcallJoins : d.joinCalls.filter (·.1 = other.callId) = [] := by
        refine List.filter_eq_nil_iff.mpr fun item hitem hid => hnew ?_
        exact h.joins.subset (List.mem_map.mpr ⟨item, hitem, of_decide_eq_true hid⟩)
      have howned : executable.filter (·.1.callId = other.callId) = executable :=
        List.filter_eq_self.mpr fun item hitem => by simp [hownCalls item hitem]
      have hjoinsOwned : joinCalls.filter (·.1 = other.callId) = joinCalls :=
        List.filter_eq_self.mpr fun item hitem => by simp [hownJoins item hitem]
      unfold Declarations.executableOf Declarations.joinsOf
      rwa [hexecutable, hjoins, List.filter_append, List.filter_append, hcalls, hcallJoins, howned,
        hjoinsOwned]
  · rw [hexecutable, List.map_append]
    exact h.executable.append hlistedCalls
  · rw [hjoins, List.map_append, List.map_append]
    exact h.joins.append hlistedJoins
  · have hused := hreached.used
    have hbefore := h.used
    rw [h.profile] at hused
    omega

theorem yields_declareCalls (hready : Ready ctx s.run) :
    Yields answers (Ready ctx) (ctx.declareCalls { run := s.run }) s
      (Proceeds (Passed ctx s.run ctx.assistant.toolCalls []) Exhausted) := by
  unfold BatchContext.declareCalls
  refine Returns.forEach (Passed ctx s.run) ?_ [] ctx.assistant.toolCalls _ s ?_
  · intro done call rest d u h
    have hcall : call ∈ ctx.assistant.toolCalls := by
      rw [← h.calls]
      exact List.mem_append_right _ List.mem_cons_self
    refine (yields_declareCall h.ready hcall).conseq ?_
    rintro next t ⟨entryIndex, hdeals⟩
    cases next with
    | inl d' => exact h.step hdeals
    | inr reason => exact hdeals
  · exact ⟨rfl, hready, fun _ hmem => absurd hmem List.not_mem_nil, List.Sublist.refl _,
      List.Sublist.refl _, rfl, Nat.le_max_left ..⟩

end Pass

/-- What a pass from `first` has come to: each call rests, is to be executed as its entry was
accepted, or is to join an interaction, and only one of them; the lists keep the declared order;
and no more calls are charged than the profile allows. -/
structure Dealt (ctx : BatchContext) (first : OrchestratorRunState) (d : Declarations)
    (run : OrchestratorRunState) : Prop where
  calls : ∀ call ∈ ctx.assistant.toolCalls, ∃ entryIndex entry,
    Located ctx run call entryIndex entry ∧
    Outcome run call entry (d.executableOf call.callId) (d.joinsOf call.callId)
  executable : (d.executable.map (·.1)).Sublist ctx.assistant.toolCalls
  joins : (d.joinCalls.map (·.1)).Sublist (ctx.assistant.toolCalls.map (·.callId))
  used : run.budget.agentCallsUsed ≤ max first.budget.agentCallsUsed first.profile.maxAgentCalls

def agentTool (name : String) : FrozenToolCatalogEntry :=
  ⟨⟨name, "Agent", "", .obj [], .sequential⟩, ⟨"binding", "digest"⟩, []⟩

def twoAgents : FrozenToolCatalogSnapshot := ⟨"catalog", [agentTool "agent_a", agentTool "agent_b"]⟩

/-- A call to be executed, one to join what Agent A asks, and one that forwards its question. -/
def threeCalls : AssistantMessage where
  messageId := "assistant"
  content := []
  toolCalls :=
    [⟨"call-1", "agent_b", []⟩, ⟨"call-2", "agent_a", []⟩,
      ⟨"call-3", surfaceAgentQuestionsToolName, []⟩]
  finishReason := .toolCalls
  usage := none
  createdAt := 0

/-- A kernel whose hash is the text itself. -/
def threeCallsContext : BatchContext where
  kernel :=
    { toolCatalog := ⟨twoAgents, fun _ entry => entry.definition⟩
      supervisorHitlBound := true
      schemaErrors := fun _ _ => []
      sha256 := id
      repr := fun _ => "" }
  assistant := threeCalls
  batchIndex := 1

/-- Agent A waits for an answer, as the model has been told. -/
def askedBatch : ToolCallBatch where
  assistantMessageId := "earlier"
  entries :=
    [{ callId := "call-0"
       assistantMessageId := "earlier"
       sourceIndex := 0
       toolName := "agent_a"
       state := .inputRequired
       presented := true
       suspendedCallRecordId := some "record-0"
       interactionId := some "interaction-0" }]

def declaredRun : OrchestratorRunState :=
  { sampleRun with
    status := .running
    toolCatalog := some twoAgents
    toolBatches := [askedBatch, newToolBatch threeCalls none] }

def failOnce : Answers
  | .load, _ => declaredRun
  | .now, _ => 1
  | .casMutate .., _ => .error "not used"
  | .emit .., _ => ()
  | .accept invocation, _ =>
      .ok ⟨"acceptance", invocation.invocationId, invocation.idempotencyKey, 1⟩
  | .publishParkedInteraction .., exchanges =>
      if exchanges < 10 then .raised "store unavailable" else .published
  | .supervisorHitl .., _ => .ok ()

theorem declaredRun_ready : Ready threeCallsContext declaredRun where
  live := ⟨rfl, rfl⟩
  declared :=
    ⟨newToolBatch threeCalls none, rfl, rfl, fun _ _ _ hmem => absurd hmem List.not_mem_nil⟩
  distinct := by decide

def passFrom (s : Process) : Except KernelError Declared × Process :=
  exec failOnce (threeCallsContext.declareCalls { run := s.run }) s

def brokenOff : Process := (passFrom ⟨declaredRun, 0⟩).2

def raises : Except KernelError Declared → Bool
  | .error (.raised message) => message = "store unavailable"
  | _ => false

def lists (executable : List String) (joins : List (String × String)) :
    Except KernelError Declared → Bool
  | .ok (.inl d) =>
      d.executable.map (·.1.callId) = executable ∧ d.joinCalls.map (fun j => (j.1, j.2.2)) = joins
  | _ => false

end Hybro.Kernel
