import Hybro.RunStore.OutboxLog
import Hybro.RunStore.StoreRules

/-! # Rules for the outbox programs

The discipline of the outbox log, and the rules for the store pieces that a
projection worker and the other mutations of a Run are made of.
-/

namespace Hybro.RunStore

open Orchestrator Interleaving

theorem publishesLast_of_isProject {i : Nat} {c : ProjectionCall} {op : StoreOp} {reply : op.Res}
    {s s' : Database ProjectionCall} (h : op.isProject = false) :
    PublishesLast (entryOf i c op reply s s') := by
  intro intent answer hprojection
  cases op with
  | project _ _ => cases h
  | findRun => cases hprojection
  | findLease => cases hprojection
  | replaceRun _ _ => cases hprojection
  | mirrorClaim _ => cases hprojection
  | claimLease _ _ => cases hprojection
  | updateLease _ _ => cases hprojection
  | scheduleLease _ _ => cases hprojection
  | insertLease _ => cases hprojection
  | upsertLease _ => cases hprojection
  | listDueIntents _ _ => cases hprojection
  | afterProject _ _ => cases hprojection
  | raise _ => cases hprojection

def outboxes : Discipline ProjectionCall where
  inv := OutboxInv
  legal := OutboxStep
  environment := RecoveryElsewhere
  keeps := fun hs hstep => hstep.keeps hs
  quiet := fun hop hexec hsame =>
    ⟨hexec.log, rfl, rfl, Or.inl (by rw [hsame]), publishesLast_of_isProject hop⟩

variable {i : Nat} {c : ProjectionCall} {K : Database ProjectionCall → Prop}

/-! ## Assertions that survive the others -/

/-- What a Run that was read says of the database for ever after. -/
def Known (run : OrchestratorRunState) (s : Database ProjectionCall) : Prop :=
  ∃ document, s.stored.run = some document ∧ Follows run document

theorem persistent_known (run : OrchestratorRunState) : Persistent outboxes (Known run) := by
  constructor
  · intro s s' henv hknown
    obtain ⟨document, hdocument, hfollows⟩ := hknown
    obtain ⟨claim, hafter⟩ := RecoveryElsewhere.follows henv hdocument
    exact ⟨_, hafter, hfollows.version, hfollows.outbox, hfollows.state, hfollows.status,
      hfollows.grows⟩
  · intro s s' e hs hstep hknown
    obtain ⟨document, hdocument, hfollows⟩ := hknown
    obtain ⟨before, after, hbefore, hafter, hnext, -⟩ := OutboxStep.follows hstep hs
    rw [hdocument] at hbefore
    cases hbefore
    exact ⟨after, hafter, hfollows.trans hnext⟩

theorem persistent_projected (intentId : String) :
    Persistent outboxes (fun s => Projected intentId s.log) := by
  constructor
  · intro s s' henv hprojected
    have hlog := RecoveryElsewhere.log henv
    rwa [hlog]
  · intro s s' e _ hstep hprojected
    have hlog := OutboxStep.log hstep
    rw [hlog]
    exact hprojected.mono e

def outboxFacts : StoreFacts outboxes where
  document := Known
  row := fun _ _ => True
  documentPersistent := persistent_known
  rowPersistent := fun _ => Persistent.const True
  documentRead := by
    intro s s' e run _ _ hsame hrun
    exact ⟨run, by rw [hsame, hrun], .refl run⟩
  rowRead := fun _ _ _ _ => trivial
  overlay := by
    rintro run claim s ⟨document, hdocument, hfollows⟩ -
    exact ⟨document, hdocument, hfollows.version, hfollows.outbox, hfollows.state,
      hfollows.status, hfollows.grows⟩

theorem Known.current {run document : OrchestratorRunState} {s : Database ProjectionCall}
    (h : Known run s) (hdocument : s.stored.run = some document)
    (hversion : document.stateVersion = run.stateVersion) :
    document.projectionOutbox = run.projectionOutbox ∧
      document.projectionState = run.projectionState ∧ document.status = run.status := by
  obtain ⟨document', hdocument', hfollows⟩ := h
  rw [hdocument] at hdocument'
  cases hdocument'
  exact ⟨hfollows.outbox hversion, hfollows.state hversion, hfollows.status hversion⟩

/-! ## Writing the Run document -/

theorem triple_mirrorClaim {claim : RecoveryClaim} (hK : Persistent outboxes K) :
    (outboxes.contract i c).Triple K (mirrorRecoveryClaim claim) (fun _ => K) := by
  refine triple_act (fun _ => K) hK.frame ?_ ?_
  · intro s reply s' hs hKs hexec
    have hrun : s'.stored.run = s.stored.run ∨ ∃ document candidate,
        s.stored.run = some document ∧ s'.stored.run = some candidate ∧
          OutboxChange s.log document candidate := by
      rcases mem_conditionalWrite.mp hexec.outcome with ⟨-, hafter⟩ | ⟨-, hsame, -⟩
      · have hcases : s'.stored.run = s.stored.run.map ({ · with recoveryClaim := claim }) ∨
            s'.stored.run = s.stored.run := by
          rcases hafter with ⟨-, h⟩ | ⟨-, h | h⟩ <;> simp [h]
        rcases hcases with h | h
        · obtain ⟨run, hrun, -⟩ := hs.stored
          rw [hrun] at h
          exact Or.inr ⟨run, _, hrun, h, .mirror claim rfl⟩
        · exact Or.inl h
      · exact Or.inl (by rw [hsame])
    have hlegal : OutboxStep (entryOf i c (.mirrorClaim claim) reply s s') s s' :=
      ⟨hexec.log, rfl, rfl, hrun, publishesLast_of_isProject rfl⟩
    exact ⟨hlegal, hK.step s s' _ hs hlegal hKs⟩
  · intro reply
    cases reply with
    | counted matched => exact triple_done hK.frame fun _ _ h => h
    | duplicateKey => exact triple_raise
    | unavailable => exact triple_raise

theorem triple_mirrorReplaced {candidate : OrchestratorRunState} (hK : Persistent outboxes K) :
    (outboxes.contract i c).Triple (fun s => K s ∧ Known candidate s)
      (mirrorAfterReplace candidate) (MutationPost outboxFacts K (Known candidate)) := by
  have hP : Persistent outboxes (fun s => K s ∧ Known candidate s) :=
    hK.and (persistent_known candidate)
  have hdone : ∀ claim, (outboxes.contract i c).Triple (fun s => K s ∧ Known candidate s)
      (.done ⟨.accepted, some { candidate with recoveryClaim := claim }⟩)
      (MutationPost outboxFacts K (Known candidate)) := by
    intro claim
    refine triple_done hP.frame ?_
    intro s _ h
    refine ⟨h.1, fun _ => h.2, ?_⟩
    rintro r hr
    cases hr
    exact outboxFacts.overlay h.2 trivial
  refine Contract.Triple.bind (fun _ s => K s ∧ Known candidate s) ?_ ?_
  · have hread := triple_loadRecoveryClaim (D := outboxes) (i := i) (c := c)
      (fun _ _ => True) hP.frame (fun _ => Persistent.const True) fun _ _ _ _ _ _ _ => trivial
    exact hread.post fun _ _ _ h => h.1
  · intro row
    cases row with
    | none => exact hdone candidate.recoveryClaim
    | some claim =>
        simp only
        split
        · exact Contract.Triple.bind _ (triple_mirrorClaim hP) fun _ => hdone claim
        · exact hdone candidate.recoveryClaim

@[simp] theorem withCommand_projectionOutbox (run : OrchestratorRunState) (commandId : CommandId) :
    (withCommand run commandId).projectionOutbox = run.projectionOutbox := by
  unfold withCommand
  split <;> rfl

@[simp] theorem withCommand_projectionState (run : OrchestratorRunState) (commandId : CommandId) :
    (withCommand run commandId).projectionState = run.projectionState := by
  unfold withCommand
  split <;> rfl

@[simp] theorem withCommand_status (run : OrchestratorRunState) (commandId : CommandId) :
    (withCommand run commandId).status = run.status := by
  unfold withCommand
  split <;> rfl

theorem OutboxChange.withCommand {log : List ProjectionEntry}
    {before after : OrchestratorRunState} (h : OutboxChange log before after)
    (hversion : before.stateVersion < after.stateVersion) (commandId : CommandId) :
    OutboxChange log before (withCommand after commandId) := by
  cases h with
  | mirror claim h =>
      rw [h] at hversion
      exact absurd hversion (Nat.lt_irrefl _)
  | keep _ houtbox hstate hstatus =>
      exact .keep (by simpa) (by simpa) (by simpa) (by simpa)
  | move _ houtbox hstate hstatus =>
      exact .move (by simpa) (by simpa) (by simpa) (by simpa)
  | settle _ houtbox hstate hstatus =>
      exact .settle (by simpa) (by simpa) (by simpa) (by simpa)
  | mint _ hlive hterminal hstate intents houtbox hpending hdistinct =>
      exact .mint (by simpa) hlive (by simpa) (by simpa) intents (by simpa) hpending hdistinct

/-- `cas_mutate`, from what its candidate changes in a stored Run of the expected version. -/
theorem triple_casMutate_change {run : OrchestratorRunState} {expectedStateVersion : Nat}
    {commandId : CommandId} (hK : Persistent outboxes K)
    (hchange : ∀ s document, OutboxInv s → K s → s.stored.run = some document →
      document.stateVersion = expectedStateVersion →
      run.stateVersion = expectedStateVersion + 1 → OutboxChange s.log document run) :
    (outboxes.contract i c).Triple K (casMutate run expectedStateVersion commandId)
      (fun result s => K s ∧ outboxFacts.returned result.run s) := by
  have hcas : (outboxes.contract i c).Triple K (casMutate run expectedStateVersion commandId)
      (MutationPost outboxFacts K (Known (withCommand run commandId))) := by
    refine triple_casMutate outboxFacts hK ?_ (triple_mirrorReplaced hK)
    intro hversion s reply s' hs hKs hexec
    rcases replaceRun_cases hexec with ⟨hsame, hreply⟩ | ⟨hafter, document, hdocument, hexpected⟩
    · exact ⟨outboxes.quiet rfl hexec hsame, fun h => absurd h hreply⟩
    · have hstep := hchange s document hs hKs hdocument hexpected hversion
      have hlt : document.stateVersion < run.stateVersion := by omega
      have hstored : s'.stored.run = some (withCommand run commandId) := by rw [hafter]
      refine ⟨⟨hexec.log, rfl, rfl, ?_, publishesLast_of_isProject rfl⟩, ?_⟩
      · exact Or.inr ⟨document, _, hdocument, hstored, hstep.withCommand hlt commandId⟩
      · intro _
        exact ⟨_, hstored, .refl _⟩
  exact hcas.post fun _ _ _ h => ⟨h.1, h.2.2⟩

/-! ## Intent transitions -/

theorem transitionProjectionIntent_ok {update : IntentUpdate} {a b : ProjectionIntent}
    (h : update.apply a = .ok b) :
    SameIntent a b ∧ b.status = update.toStatus ∧ update.toStatus ∈ a.status.transitions := by
  simp only [IntentUpdate.apply, transitionProjectionIntent] at h
  by_cases hlegal : update.toStatus ∈ a.status.transitions
  · rw [if_neg (not_not.mpr hlegal)] at h
    by_cases hclaimed : update.toStatus = .claimed ∧
        (update.claimOwner = none ∨ update.claimExpiresAt = none)
    · rw [if_pos hclaimed] at h
      cases h
    · rw [if_neg hclaimed] at h
      by_cases hblocked : update.toStatus = .blocked ∧ truthy update.blockedReason = false
      · rw [if_pos hblocked] at h
        cases h
      · rw [if_neg hblocked] at h
        cases h
        exact ⟨⟨rfl, rfl, rfl, rfl, rfl, rfl, rfl, rfl, rfl⟩, rfl, hlegal⟩
  · rw [if_pos hlegal] at h
    cases h

theorem moveIntent_moved {log : List ProjectionEntry} {update : IntentUpdate} {intentId : String}
    (hprojected : update.toStatus = .completed → Projected intentId log)
    {outbox intents : List ProjectionIntent}
    (h : moveIntent update intentId outbox = some (.ok intents)) :
    OutboxMoved log outbox intents := by
  induction outbox generalizing intents with
  | nil => cases h
  | cons item rest ih =>
      simp only [moveIntent] at h
      split at h
      · next hid =>
          cases happly : update.apply item with
          | error message =>
              rw [happly] at h
              cases h
          | ok moved =>
              rw [happly] at h
              cases h
              obtain ⟨hsame, hstatus, hlegal⟩ := transitionProjectionIntent_ok happly
              refine .here item moved rest ⟨hsame, by rwa [hstatus], ?_⟩
              intro hdone
              rw [hsame.intentId, hid]
              exact hprojected (hstatus ▸ hdone)
      · obtain ⟨result, hresult, hmap⟩ := Option.map_eq_some_iff.mp h
        cases result with
        | error message => cases hmap
        | ok moved =>
            cases hmap
            exact .later item rest moved (ih hresult)

abbrev KnownResult (K : Database ProjectionCall → Prop) (result : MongoRunStoreResult)
    (s : Database ProjectionCall) : Prop :=
  K s ∧ outboxFacts.returned result.run s

theorem triple_returned {run : Option OrchestratorRunState} {outcome : StoreOutcome}
    (hK : Persistent outboxes K) :
    (outboxes.contract i c).Triple (fun s => K s ∧ outboxFacts.returned run s)
      (.done ⟨outcome, run⟩) (KnownResult K) :=
  triple_done (hK.and (outboxFacts.returnedPersistent run)).frame fun _ _ h => h

theorem triple_intentMutation {intentId : String} {expectedStateVersion : Nat}
    {update : IntentUpdate} {commandId : CommandId} (hK : Persistent outboxes K)
    (hprojected : update.toStatus = .completed → ∀ s, K s → Projected intentId s.log) :
    (outboxes.contract i c).Triple K
      (intentMutation intentId expectedStateVersion update commandId) (KnownResult K) := by
  refine Contract.Triple.bind _ (triple_load outboxFacts hK.frame) ?_
  intro loaded
  cases loaded with
  | none => exact triple_returned hK
  | some run =>
      simp only
      split
      · exact triple_returned hK
      · split
        · exact triple_returned hK
        · exact triple_raise
        · next intents hmoved =>
            have hread := hK.and (outboxFacts.returnedPersistent (some run))
            refine (triple_casMutate_change hread ?_).post fun _ _ _ h => ⟨h.1.1, h.2⟩
            intro s document _ h hdocument hexpected _
            obtain ⟨houtbox, hstate, hstatus⟩ := (h.2 run rfl).current hdocument hexpected
            refine .move (by simp [hexpected]) ?_ hstate.symm hstatus.symm
            rw [houtbox]
            exact moveIntent_moved (fun hdone => hprojected hdone s h.1) hmoved

theorem triple_guarded {intentId : String} {expectedStateVersion : Nat} {update : IntentUpdate}
    {commandId : CommandId} {run : Option OrchestratorRunState} (p : Prop) [Decidable p]
    (hK : Persistent outboxes K)
    (hprojected : update.toStatus = .completed → ∀ s, K s → Projected intentId s.log) :
    (outboxes.contract i c).Triple (fun s => K s ∧ outboxFacts.returned run s)
      (if p then .done ⟨.conflict, run⟩
        else intentMutation intentId expectedStateVersion update commandId) (KnownResult K) := by
  split
  · exact triple_returned hK
  · exact (triple_intentMutation hK hprojected).pre fun _ _ h => h.1

end Hybro.RunStore
