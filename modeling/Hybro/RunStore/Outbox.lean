import Hybro.RunStore.OutboxRules

/-! # The projection outbox under every interleaving

Workers, settlements, terminal commits and other mutations take legal steps of
the outbox log only, so the log's guarantees hold however they are interleaved.
-/

namespace Hybro.RunStore

open Orchestrator Interleaving

variable {i : Nat} {c : ProjectionCall} {K : Database ProjectionCall → Prop}

/-! ## Calls of the store -/

theorem triple_claimProjectionIntent {intentId ownerId : String} {expectedStateVersion : Nat}
    {leaseExpiresAt : Timestamp} (hK : Persistent outboxes K) :
    (outboxes.contract i c).Triple K
      (claimProjectionIntent intentId expectedStateVersion ownerId leaseExpiresAt)
      (KnownResult K) := by
  unfold claimProjectionIntent
  exact triple_intentMutation hK fun hdone => by cases hdone

theorem triple_completeProjectionIntent {intentId ownerId : String} {expectedStateVersion : Nat}
    (hK : Persistent outboxes K) (hprojected : ∀ s, K s → Projected intentId s.log) :
    (outboxes.contract i c).Triple K
      (completeProjectionIntent intentId expectedStateVersion ownerId) (KnownResult K) := by
  refine Contract.Triple.bind _ (triple_load outboxFacts hK.frame) ?_
  intro run
  cases hitem : findIntent run intentId with
  | none =>
      simp only
      exact triple_returned hK
  | some item =>
      simp only
      exact triple_guarded _ hK fun _ => hprojected

theorem triple_blockProjectionIntent {intentId ownerId reason : String}
    {expectedStateVersion : Nat} (hK : Persistent outboxes K) :
    (outboxes.contract i c).Triple K
      (blockProjectionIntent intentId expectedStateVersion ownerId reason) (KnownResult K) := by
  refine Contract.Triple.bind _ (triple_load outboxFacts hK.frame) ?_
  intro run
  cases hitem : findIntent run intentId with
  | none =>
      simp only
      exact triple_returned hK
  | some item =>
      simp only
      exact triple_guarded _ hK fun hdone => by cases hdone

theorem triple_releaseProjectionIntent {intentId ownerId : String} {expectedStateVersion : Nat}
    {nextAttemptAt now : Timestamp} (hK : Persistent outboxes K) :
    (outboxes.contract i c).Triple K
      (releaseProjectionIntent intentId expectedStateVersion ownerId nextAttemptAt now)
      (KnownResult K) := by
  refine Contract.Triple.bind _ (triple_load outboxFacts hK.frame) ?_
  intro run
  cases hitem : findIntent run intentId with
  | none =>
      simp only
      exact triple_returned hK
  | some item =>
      simp only
      by_cases hstatus : item.status = .claimed
      · simp only [hstatus, ne_eq, not_true_eq_false, if_false]
        exact triple_guarded _ hK fun hdone => by cases hdone
      · simp only [hstatus, ne_eq, not_false_eq_true, if_true]
        exact triple_returned hK

/-! ## Settlement -/

theorem evaluateProjectionSettlement_settled {intents : List ProjectionIntent}
    (h : evaluateProjectionSettlement intents = .settled) : RequiredCompleted intents := by
  intro item hitem hrequired
  unfold evaluateProjectionSettlement at h
  simp only at h
  split_ifs at h with hnone hblocked hopen
  by_contra hne
  refine hopen (List.any_eq_true.mpr ⟨item, List.mem_filter.mpr ⟨hitem, hrequired⟩, ?_⟩)
  simpa using hne

theorem transitionProjectionSettlement_accepted {run : OrchestratorRunState} {version : Nat}
    {now : Timestamp}
    (h : (transitionProjectionSettlement run version now).outcome = .accepted) :
    ∃ state, (transitionProjectionSettlement run version now).run =
      { run with
        projectionState := state
        stateVersion := run.stateVersion + 1
        updatedAt := now } ∧
      (state = .settled → RequiredCompleted run.projectionOutbox) := by
  unfold transitionProjectionSettlement at h ⊢
  simp only at h ⊢
  split_ifs at h ⊢ with hversion hterminal hmandatory hsame hsame
  · exact ⟨_, rfl, evaluateProjectionSettlement_settled⟩
  · exact ⟨_, rfl, fun hsettled => by cases hsettled⟩

theorem triple_settleRun {run : OrchestratorRunState} {now : Timestamp}
    (hK : Persistent outboxes K) (hknown : ∀ s, K s → Known run s) :
    (outboxes.contract i c).Triple K (settleRun run now) (fun settled s => K s ∧ Known settled s) := by
  unfold settleRun
  simp only
  split
  · exact triple_done hK.frame fun s _ h => ⟨h, hknown s h⟩
  · next houtcome =>
      obtain ⟨state, hrun, hsettled⟩ :=
        transitionProjectionSettlement_accepted (not_not.mp houtcome)
      refine Contract.Triple.bind _ (triple_casMutate_change hK ?_) ?_
      · intro s document _ h hdocument hexpected _
        obtain ⟨houtbox, -, hstatus⟩ := (hknown s h).current hdocument hexpected
        rw [hrun]
        refine .settle (by simp [hexpected]) houtbox.symm ?_ hstatus.symm
        exact hsettled
      · intro result
        have hP := hK.and (outboxFacts.returnedPersistent result.run)
        refine triple_done hP.frame ?_
        intro s _ h
        refine ⟨h.1, ?_⟩
        cases hresult : result.run with
        | none => exact hknown s h.1
        | some settled => exact h.2 settled hresult

theorem triple_settlingDriver {now : Timestamp} :
    (outboxes.contract i c).Triple (fun _ => True) (settlingDriver now) (fun _ _ => True) := by
  refine Contract.Triple.bind _ (triple_load outboxFacts (Persistent.const True).frame) ?_
  intro loaded
  cases loaded with
  | none => exact triple_raise
  | some run =>
      have hK : Persistent outboxes (Known run) := persistent_known run
      have hsettle : (outboxes.contract i c).Triple (Known run) (settleRun run now)
          (fun settled s => Known run s ∧ Known settled s) := triple_settleRun hK fun _ h => h
      exact hsettle.conseq (fun _ _ h => h.2 run rfl) fun _ _ _ _ => trivial

/-! ## The worker -/

namespace ProjectionOutboxWorker

variable {worker : ProjectionOutboxWorker} {run : OrchestratorRunState}
  {intent : ProjectionIntent} {now : Timestamp}

theorem findIntent_mem {intentId : String} (h : findIntent (some run) intentId = some intent) :
    intent ∈ run.projectionOutbox ∧ intent.intentId = intentId := by
  have hfind : run.projectionOutbox.find? (·.intentId == intentId) = some intent := h
  have hid := List.find?_some hfind
  exact ⟨List.mem_of_find?_eq_some hfind, by simpa using hid⟩

theorem kind_of_known {taken : OrchestratorRunState} {own : ProjectionIntent}
    {s : Database ProjectionCall} (hs : OutboxInv s) (hrun : Known run s) (htaken : Known taken s)
    (hintent : intent ∈ run.projectionOutbox) (hown : own ∈ taken.projectionOutbox)
    (hid : own.intentId = intent.intentId) : own.kind = intent.kind := by
  obtain ⟨document, hdocument, hfollows⟩ := hrun
  obtain ⟨document', hdocument', hfollows'⟩ := htaken
  obtain ⟨stored, hstored, hinv⟩ := hs.stored
  rw [hstored] at hdocument hdocument'
  cases hdocument
  cases hdocument'
  obtain ⟨b, hb, hmoves⟩ := exists_moved (hfollows.grows (List.ne_nil_of_mem hintent)) hintent
  obtain ⟨b', hb', hmoves'⟩ := exists_moved (hfollows'.grows (List.ne_nil_of_mem hown)) hown
  have hsame : b' = b := by
    refine List.inj_on_of_nodup_map hinv.distinct hb' hb ?_
    rw [hmoves.same.intentId, hmoves'.same.intentId, hid]
  rw [← hmoves.same.kind, ← hmoves'.same.kind, hsame]

theorem othersCompleted_of_known {s : Database ProjectionCall} (hrun : Known run s)
    (hintent : intent ∈ run.projectionOutbox) (hkind : intent.kind = settlementKind)
    (hawaits : awaitsOthers run intent = false) :
    OthersCompleted intent.intentId s.stored.outbox := by
  obtain ⟨document, hdocument, hfollows⟩ := hrun
  have houtbox : s.stored.outbox = document.projectionOutbox := by
    simp [Stored.outbox, hdocument]
  have hread : ∀ item ∈ run.projectionOutbox, item.required = true →
      item.intentId ≠ intent.intentId → item.status = .completed := by
    intro item hitem hrequired hne
    simp only [awaitsOthers, hkind, beq_self_eq_true, Bool.true_and, List.any_eq_false,
      Bool.and_eq_true, bne_iff_ne, ne_eq, not_and, not_not] at hawaits
    exact hawaits item hitem ⟨hrequired, hne⟩
  rw [houtbox]
  intro item hitem hrequired hne
  refine completed_of_movesTo (P := fun item => item.required = true ∧
    item.intentId ≠ intent.intentId) (hfollows.grows (List.ne_nil_of_mem hintent)) ?_ ?_
    item hitem ⟨hrequired, hne⟩
  · rintro a b hmoves ⟨hb, hbne⟩
    rw [hmoves.same.required] at hb
    rw [hmoves.same.intentId] at hbne
    exact ⟨hb, hbne⟩
  · exact fun a ha h => hread a ha h.1 h.2

theorem triple_callProjector (hK : Persistent outboxes K)
    (hlast : intent.kind = settlementKind → ∀ s, OutboxInv s → K s →
      OthersCompleted intent.intentId s.stored.outbox) :
    (outboxes.contract i c).Triple K (worker.callProjector intent run)
      (fun outcome s => K s ∧ (outcome = .accepted ∨ outcome = .replayed →
        Projected intent.intentId s.log)) := by
  unfold callProjector
  split
  · refine triple_done hK.frame ?_
    intro s _ h
    exact ⟨h, fun hacc => by rcases hacc with h | h <;> cases h⟩
  · have hP : ∀ outcome : StoreOutcome, Persistent outboxes (fun s => K s ∧
        (outcome = .accepted ∨ outcome = .replayed → Projected intent.intentId s.log)) :=
      fun outcome => hK.and (persistent_projected intent.intentId).imp
    refine triple_act (fun reply s => K s ∧ (reply.succeeded = true →
      Projected intent.intentId s.log)) hK.frame ?_ ?_
    · intro s reply s' hs hKs hexec
      have hsame : s'.stored = s.stored := by
        have houtcome := hexec.outcome
        simp only [StoreOp.outcomes, List.mem_cons, Prod.mk.injEq, List.not_mem_nil,
          or_false] at houtcome
        rcases houtcome with h | h | h | h | h <;> exact h.2
      have hlast' : PublishesLast (entryOf i c (.project intent run) reply s s') := by
        intro intent' reply' hprojection hkind
        cases hprojection
        exact hlast hkind s hs hKs
      have hlegal : OutboxStep (entryOf i c (.project intent run) reply s s') s s' :=
        ⟨hexec.log, rfl, rfl, Or.inl (by rw [hsame]), hlast'⟩
      refine ⟨hlegal, hK.step s s' _ hs hlegal hKs, ?_⟩
      intro hsucceeded
      rw [hexec.log]
      exact ⟨_, List.mem_cons_self, intent, reply, rfl, rfl, hsucceeded⟩
    · intro reply
      cases reply with
      | returned outcome =>
          refine (triple_done (hP outcome).frame fun _ _ h => h).pre ?_
          intro s _ h
          refine ⟨h.1, fun hacc => h.2 ?_⟩
          rcases hacc with rfl | rfl <;> rfl
      | raised =>
          refine (triple_done (hP .error).frame fun _ _ h => h).pre ?_
          intro s _ h
          exact ⟨h.1, fun hacc => by rcases hacc with h | h <;> cases h⟩

theorem triple_acknowledge (hK : Persistent outboxes K) (hknown : ∀ s, K s → Known run s)
    (hprojected : ∀ s, K s → Projected intent.intentId s.log) :
    (outboxes.contract i c).Triple K (worker.acknowledge run intent now) (fun _ _ => True) := by
  -- whichever Run is settled, it is a known one
  have hsettle : ∀ latest : OrchestratorRunState,
      (outboxes.contract i c).Triple (fun s => K s ∧ Known latest s) (do
        let settled ← settleRun latest now
        if intent.kind ≠ settlementKind ∧ settled.projectionState = .settled ∧
            worker.afterProject then
          .act (.afterProject intent settled) fun reply => answered reply fun _ => .done true
        else
          return true) (fun _ _ => True) := by
    intro latest
    have hP := hK.and (persistent_known latest)
    refine Contract.Triple.bind _ (triple_settleRun hP fun s h => h.2) ?_
    intro settled
    split
    · refine triple_act (fun _ _ => True) (hP.and (persistent_known settled)).frame ?_ ?_
      · intro s reply s' _ _ hexec
        have hsame : s'.stored = s.stored := (mem_answers.mp hexec.outcome).1
        exact ⟨outboxes.quiet rfl hexec hsame, trivial⟩
      · intro reply
        cases reply with
        | answer value => exact triple_anyResult
        | unavailable => exact triple_raise
    · exact triple_anyResult
  refine Contract.Triple.bind _ (triple_completeProjectionIntent hK hprojected) ?_
  rintro ⟨outcome, result⟩
  have hP := hK.and (outboxFacts.returnedPersistent result)
  have hconfirmed : ∀ latest, result = some latest → ∀ s, K s ∧ outboxFacts.returned result s →
      K s ∧ Known latest s := fun latest hresult s h => ⟨h.1, h.2 latest hresult⟩
  have hreload := triple_load (i := i) (c := c) outboxFacts hP.frame
  have hreloaded : ∀ loaded s, (K s ∧ outboxFacts.returned result s) ∧
      outboxFacts.returned loaded s → K s ∧ Known (loaded.getD run) s := by
    intro loaded s h
    refine ⟨h.1.1, ?_⟩
    cases loaded with
    | none => exact hknown s h.1.1
    | some latest => exact h.2 latest rfl
  have hlost := Contract.Triple.bind _ hreload fun loaded =>
    (hsettle (loaded.getD run)).pre fun s _ h => hreloaded loaded s h
  cases result with
  | none => cases outcome <;> exact hlost
  | some latest =>
      cases outcome with
      | accepted => exact (hsettle latest).pre fun s _ h => hconfirmed latest rfl s h
      | replayed => exact (hsettle latest).pre fun s _ h => hconfirmed latest rfl s h
      | conflict => exact hlost
      | error => exact hlost

theorem triple_giveBack (hK : Persistent outboxes K) (hknown : ∀ s, K s → Known run s) :
    (outboxes.contract i c).Triple K (worker.giveBack run intent now) (fun _ _ => True) := by
  unfold giveBack
  split
  · refine Contract.Triple.bind _ (triple_blockProjectionIntent hK) ?_
    intro blocked
    have hP := hK.and (outboxFacts.returnedPersistent blocked.run)
    refine Contract.Triple.bind _ (triple_settleRun hP ?_) fun _ => triple_anyResult
    intro s h
    cases hblocked : blocked.run with
    | none => exact hknown s h.1
    | some latest => exact h.2 latest hblocked
  · exact Contract.Triple.bind _ (triple_releaseProjectionIntent hK) fun _ => triple_anyResult

theorem triple_projectPending (hintent : intent ∈ run.projectionOutbox) :
    (outboxes.contract i c).Triple (Known run) (worker.projectPending run intent now)
      (fun _ _ => True) := by
  unfold projectPending
  by_cases hstatus : intent.status = .pending
  · simp only [hstatus, ne_eq, not_true_eq_false, if_false]
    cases hawaits : awaitsOthers run intent with
    | true => exact triple_anyResult
    | false =>
        simp only [Bool.false_eq_true, if_false]
        refine Contract.Triple.bind _ (triple_claimProjectionIntent (persistent_known run)) ?_
        rintro ⟨outcome, claimed⟩
        cases claimed with
        | none => exact triple_anyResult
        | some taken =>
            simp only
            split
            · exact triple_anyResult
            · cases hown : findIntent (some taken) intent.intentId with
              | none => exact triple_anyResult
              | some own =>
                  obtain ⟨hmem, hid⟩ := findIntent_mem hown
                  have hK := (persistent_known run).and (persistent_known taken)
                  simp only
                  split
                  · exact triple_anyResult
                  · refine Contract.Triple.pre (P := fun s => Known run s ∧ Known taken s) ?_
                      fun s _ h => ⟨h.1, h.2 taken rfl⟩
                    refine Contract.Triple.bind _ (triple_callProjector hK ?_) ?_
                    · intro hkind s hs h
                      rw [hid]
                      have hsame := kind_of_known hs h.1 h.2 hintent hmem hid
                      exact othersCompleted_of_known h.1 hintent (hsame.symm.trans hkind) hawaits
                    · intro answer
                      split
                      · next hanswer =>
                          have hP := hK.and (persistent_projected own.intentId)
                          refine (triple_acknowledge hP (fun s h => h.1.2) fun s h => h.2).pre ?_
                          exact fun s _ h => ⟨h.1, h.2 hanswer⟩
                      · exact (triple_giveBack hK fun s h => h.2).pre fun s _ h => h.1
  · simp only [hstatus, ne_eq, not_false_eq_true, if_true]
    exact triple_anyResult

theorem triple_processIntent {intentId : String} :
    (outboxes.contract i c).Triple (fun _ => True) (worker.processIntent intentId now)
      (fun _ _ => True) := by
  refine Contract.Triple.bind _ (triple_load outboxFacts (Persistent.const True).frame) ?_
  intro loaded
  cases loaded with
  | none => exact triple_anyResult
  | some run =>
      cases hintent : findIntent (some run) intentId with
      | none =>
          simp only [hintent]
          exact triple_anyResult
      | some intent =>
          have hmem := (findIntent_mem hintent).1
          simp only [hintent]
          split
          · exact triple_anyResult
          · split
            · split
              · exact triple_anyResult
              · have hnothing : Persistent outboxes (fun _ => True) := Persistent.const True
                refine Contract.Triple.bind _
                  ((triple_releaseProjectionIntent hnothing).pre fun _ _ _ => trivial) ?_
                rintro ⟨outcome, released⟩
                cases released with
                | none => exact triple_anyResult
                | some latest =>
                    cases hfreed : findIntent (some latest) intentId with
                    | none =>
                        simp only [hfreed]
                        exact triple_anyResult
                    | some freed =>
                        simp only [hfreed]
                        refine (triple_projectPending (findIntent_mem hfreed).1).pre ?_
                        exact fun s _ h => h.2 latest rfl
            · exact (triple_projectPending hmem).pre fun s _ h => h.2 run rfl

theorem triple_processDue {due : List String} :
    (outboxes.contract i c).Triple (fun _ => True) (worker.processDue now due)
      (fun _ _ => True) := by
  induction due with
  | nil => exact triple_anyResult
  | cons intentId rest ih =>
      refine Contract.Triple.bind _ triple_processIntent fun _ => ?_
      exact Contract.Triple.bind _ ih fun _ => triple_anyResult

theorem triple_runOnce :
    (outboxes.contract i c).Triple (fun _ => True) (worker.runOnce now) (fun _ _ => True) := by
  have hnothing : Frame outboxes i (fun _ => True) := (Persistent.const True).frame
  refine Contract.Triple.bind (fun _ _ => True) ?_ fun due => triple_processDue
  unfold listDueProjectionIntents
  split
  · exact triple_anyResult
  · refine triple_act (fun _ _ => True) hnothing ?_ ?_
    · intro s reply s' _ _ hexec
      have hsame : s'.stored = s.stored := (mem_answers.mp hexec.outcome).1
      exact ⟨outboxes.quiet rfl hexec hsame, trivial⟩
    · intro reply
      cases reply with
      | answer value => exact triple_anyResult
      | unavailable => exact triple_raise

end ProjectionOutboxWorker

/-! ## The other mutations -/

theorem triple_mutateRun {mutation : RunMutation} :
    (outboxes.contract i c).Triple (fun _ => True) (mutateRun mutation) (fun _ _ => True) := by
  refine Contract.Triple.bind _ (triple_load outboxFacts (Persistent.const True).frame) ?_
  intro loaded
  cases loaded with
  | none => exact triple_anyResult
  | some run =>
      refine Contract.Triple.pre ?_ fun s _ h => h.2 run rfl
      refine (triple_casMutate_change (persistent_known run) ?_).post fun _ _ _ _ => trivial
      intro s document _ h hdocument hexpected hversion
      obtain ⟨houtbox, hstate, hstatus⟩ := h.current hdocument hexpected
      refine .keep (by omega) ?_ ?_ ?_
      · rw [mutation.keepsOutbox, houtbox]
      · rw [mutation.keepsProjectionState, hstate]
      · rw [hstatus]
        exact mutation.keepsTerminal run

/-- A commit that is computed from the loaded Run and stored when it is accepted. -/
theorem triple_commit {T : Type} {run : OrchestratorRunState} {check : Except String T}
    {outcome : T → StoreOutcome} {candidate : T → OrchestratorRunState} {commandId : CommandId}
    (hcommit : ∀ transition, check = .ok transition → outcome transition = .accepted →
      ∃ intents, run.status.isTerminal = false ∧ (candidate transition).status.isTerminal ∧
        (candidate transition).projectionState = .pending ∧
        (candidate transition).projectionOutbox = run.projectionOutbox ++ intents ∧
        (∀ item ∈ intents, item.status = .pending) ∧ (intents.map (·.intentId)).Nodup) :
    (outboxes.contract i c).Triple (Known run)
      (checked check >>= fun transition =>
        if outcome transition ≠ .accepted then pure ⟨outcome transition, some run⟩
        else casMutate (candidate transition) run.stateVersion commandId) (fun _ _ => True) := by
  refine Contract.Triple.bind _ (triple_checked (persistent_known run).frame) ?_
  intro transition
  refine Contract.Triple.given fun htransition => ?_
  split
  · exact triple_anyResult
  · next houtcome =>
      obtain ⟨intents, hlive, hterminal, hstate, hminted, hpending, hdistinct⟩ :=
        hcommit transition htransition (not_not.mp houtcome)
      refine (triple_casMutate_change (persistent_known run) ?_).post fun _ _ _ _ => trivial
      intro s document _ h hdocument hexpected hversion
      obtain ⟨houtbox, -, hstatus⟩ := h.current hdocument hexpected
      rw [← hstatus] at hlive
      rw [← houtbox] at hminted
      exact .mint (by omega) hlive hterminal hstate intents hminted hpending hdistinct

theorem triple_completeRun {facts : TerminalDecisionFacts} {request : TerminalCommitRequest} :
    (outboxes.contract i c).Triple (fun _ => True) (completeRun facts request)
      (fun _ _ => True) := by
  refine Contract.Triple.bind _ (triple_load outboxFacts (Persistent.const True).frame) ?_
  intro loaded
  cases loaded with
  | none => exact triple_anyResult
  | some run =>
      refine Contract.Triple.pre (triple_commit ?_) fun s _ h => h.2 run rfl
      intro transition hcommit haccepted
      obtain ⟨hready, hdistinct, event, hrun⟩ := commitTerminalDecision_accepted hcommit haccepted
      have hlive := (evaluateTerminalDecision_ready hready).1
      rw [hrun]
      refine ⟨_, hlive, rfl, rfl, rfl, ?_, hdistinct⟩
      intro item hitem
      simp only [completionIntents, List.mem_cons, List.not_mem_nil, or_false] at hitem
      rcases hitem with rfl | rfl | rfl <;> rfl

theorem triple_terminateRun {request : TerminalStatusCommitRequest} :
    (outboxes.contract i c).Triple (fun _ => True) (terminateRun request) (fun _ _ => True) := by
  refine Contract.Triple.bind _ (triple_load outboxFacts (Persistent.const True).frame) ?_
  intro loaded
  cases loaded with
  | none => exact triple_anyResult
  | some run =>
      refine Contract.Triple.pre (triple_commit ?_) fun s _ h => h.2 run rfl
      intro transition hcommit haccepted
      obtain ⟨hlive, hdistinct, event, hrun⟩ := commitTerminalStatus_accepted hcommit haccepted
      rw [hrun]
      refine ⟨_, hlive, request.status.runStatus_isTerminal, rfl, rfl, ?_, hdistinct⟩
      intro item hitem
      simp only [statusIntents, List.mem_cons, List.not_mem_nil, or_false] at hitem
      rcases hitem with rfl | rfl <;> rfl

/-! ## Every interleaving -/

def projectionBody : ProjectionCall → StoreProg Unit
  | .pass worker now => do
      let _ ← worker.runOnce now
      return ()
  | .settle now => do
      let _ ← settlingDriver now
      return ()
  | .mutate mutation => do
      let _ ← mutateRun mutation
      return ()
  | .complete facts request => do
      let _ ← completeRun facts request
      return ()
  | .terminate request => do
      let _ ← terminateRun request
      return ()

structure NotMinted (s : Database ProjectionCall) : Prop where
  run : ∃ run, s.stored.run = some run ∧ run.projectionOutbox = [] ∧
    run.projectionState = .pending
  log : s.log = []

def projectionSystem : System StoreOp StoreOp.Res where
  State := Database ProjectionCall
  Call := ProjectionCall
  Result := Unit
  exec := Executes
  environment := RecoveryElsewhere
  admits _ _ := True
  body _ := projectionBody
  initial := NotMinted

theorem projection_proof :
    projectionSystem.Proof OutboxInv outboxes.guarantee (fun _ _ => True)
      (fun _ _ _ _ => True) where
  starts := by
    intro s hs
    obtain ⟨run, hrun, houtbox, hstate⟩ := hs.run
    refine ⟨⟨⟨run, hrun, ?_⟩, ?_, ?_⟩, fun _ => trivial⟩
    · exact ⟨by simp [houtbox], by simp [houtbox], by simp [houtbox], by simp [hstate]⟩
    · simp [hs.log]
    · simp [hs.log]
  environment := fun s s' hs henv => henv.keeps hs
  staysFresh := fun _ _ _ _ _ _ _ => trivial
  body := by
    intro i c
    have hcall : ∀ {α : Type} {p : StoreProg α},
        (outboxes.contract i c).Triple (fun _ => True) p (fun _ _ => True) →
        (projectionSystem.contract OutboxInv outboxes.guarantee i c).Triple
          (fun s => True ∧ projectionSystem.admits s c) (do let _ ← p; return ())
          (fun _ _ => True) := by
      intro α p h
      exact (Contract.Triple.bind _ h fun _ => triple_anyResult).pre fun _ _ _ => trivial
    cases c with
    | pass worker now => exact hcall ProjectionOutboxWorker.triple_runOnce
    | settle now => exact hcall triple_settlingDriver
    | mutate mutation => exact hcall triple_mutateRun
    | complete facts request => exact hcall triple_completeRun
    | terminate request => exact hcall triple_terminateRun
  staysReturned := fun _ _ _ _ _ _ _ _ _ => trivial

/-- What the outbox promises, of the stored Run and of everything that was asked of it. -/
structure OutboxCorrect (s : Database ProjectionCall) : Prop where
  /-- Completed only after an accepted or replayed projector call. -/
  completed : ∀ item ∈ s.stored.outbox, item.status = .completed → Projected item.intentId s.log
  /-- The outbox at any time before is the one now, with the intents that were not
  final moved on. -/
  kept : ∀ e ∈ s.log, OutboxGrows e.after.outbox s.stored.outbox
  distinct : (s.stored.outbox.map (·.intentId)).Nodup
  publishesLast : ∀ e ∈ s.log, PublishesLast e
  settled : ∀ run, s.stored.run = some run → run.projectionState = .settled →
    RequiredCompleted run.projectionOutbox

theorem outbox_correct {cfg : Config projectionSystem} (hreach : projectionSystem.Reachable cfg) :
    OutboxCorrect cfg.shared := by
  have hinv := (hreach.sound projection_proof).shared
  obtain ⟨run, hrun, hstored⟩ := hinv.stored
  have houtbox : cfg.shared.stored.outbox = run.projectionOutbox := by
    simp [Stored.outbox, hrun]
  refine ⟨?_, hinv.history, ?_, hinv.publishes, ?_⟩
  · rw [houtbox]
    exact hstored.projected
  · rw [houtbox]
    exact hstored.distinct
  · intro run' hrun'
    rw [hrun] at hrun'
    cases hrun'
    exact hstored.settled

def projectionStepper : projectionSystem.Stepper where
  admits _ _ := true
  outcomes i c op s := s.outcomes i c op
  environment n s := { s with clock := s.clock + n }
  admits_sound := fun _ _ _ => trivial
  outcomes_sound := fun _ _ _ _ _ _ h => Database.outcomes_executes h
  environment_sound := fun _ _ => ⟨rfl, Or.inl rfl⟩

def closedTurnConfig : Config projectionSystem where
  shared := ⟨⟨some closedTurnRun, none⟩, 0, []⟩
  threads := fun _ => .unborn
  returned := []

theorem closedTurnConfig_reachable : projectionSystem.Reachable closedTurnConfig :=
  .init _ ⟨⟨⟨closedTurnRun, rfl, rfl, rfl⟩, rfl⟩, fun _ => rfl, rfl⟩

def completeThenPass : List (System.Move ProjectionCall) :=
  let worker : ProjectionOutboxWorker :=
    { projectors :=
        ["append_orchestrator_event", "deliver_final_message", "project_terminal_run_status"] }
  let projected := [0, 0, 0, 0, 0, 0, 1, 0, 0, 0, 0, 0, 0, 0, 0, 1, 0]
  [.start 0 (.complete { finalMessageId := "answer" } completionRequest)] ++
    [0, 0, 0, 0, 1, 0].map (.act 0) ++ [.finish 0, .start 1 (.pass worker 5)] ++
    ([0] ++ projected ++ projected ++ projected ++ [0, 0, 1, 0]).map (.act 1) ++ [.finish 1]

theorem outbox_correct_completeThenPass :
    ∃ cfg, projectionSystem.Reachable cfg ∧ OutboxCorrect cfg.shared ∧
      cfg.shared.stored.run.any (·.projectionState == .settled) = true := by
  obtain ⟨cfg, hreach, hcheck⟩ := System.Stepper.exists_of_play projectionStepper completeThenPass
    (fun cfg => cfg.shared.stored.run.any (·.projectionState == .settled))
    closedTurnConfig_reachable (by decide +kernel)
  exact ⟨cfg, hreach, outbox_correct hreach, hcheck⟩

end Hybro.RunStore
