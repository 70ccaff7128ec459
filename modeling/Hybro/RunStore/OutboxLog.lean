import Mathlib.Data.List.Forall2
import Hybro.RunStore.OutboxWorker

/-! # The log of one projection outbox

How the outbox of a Run may grow and move on, step by step, and what follows for
every log of such steps: nothing is lost, doubled or reopened, completion follows
an accepted projection, and settlement follows completion.
-/

namespace Hybro.RunStore

open Orchestrator

inductive ProjectionCall
  | pass (worker : ProjectionOutboxWorker) (now : Timestamp)
  | settle (now : Timestamp)
  | mutate (mutation : RunMutation)
  | complete (facts : TerminalDecisionFacts) (request : TerminalCommitRequest)
  | terminate (request : TerminalStatusCommitRequest)

abbrev ProjectionEntry := LogEntry ProjectionCall

def Stored.outbox (stored : Stored) : List ProjectionIntent :=
  stored.run.elim [] (·.projectionOutbox)

def ProjectorReply.succeeded : ProjectorReply → Bool
  | .returned .accepted | .returned .replayed => true
  | _ => false

def LogEntry.projection : ProjectionEntry → Option (ProjectionIntent × ProjectorReply)
  | ⟨_, _, .project intent _, reply, _, _, _⟩ => some (intent, reply)
  | _ => none

/-- A projector call for the intent has returned `accepted` or `replayed`. -/
def Projected (intentId : String) (log : List ProjectionEntry) : Prop :=
  ∃ e ∈ log, ∃ intent reply, e.projection = some (intent, reply) ∧
    intent.intentId = intentId ∧ reply.succeeded = true

theorem Projected.mono {intentId : String} {log : List ProjectionEntry} (e : ProjectionEntry)
    (h : Projected intentId log) : Projected intentId (e :: log) := by
  obtain ⟨e', hmem, h⟩ := h
  exact ⟨e', List.mem_cons_of_mem e hmem, h⟩

/-! ## Intents that move on -/

/-- `completed` and `blocked` have no transitions. -/
def isFinal (status : ProjectionIntentStatus) : Bool := status.transitions.isEmpty

@[simp] theorem isFinal_completed : isFinal .completed = true := rfl

theorem not_final_of_transition {a b : ProjectionIntentStatus} (h : b ∈ a.transitions) :
    isFinal a = false := by
  cases ha : a.transitions with
  | nil =>
      rw [ha] at h
      cases h
  | cons next rest => simp [isFinal, ha]

structure SameIntent (a b : ProjectionIntent) : Prop where
  intentId : b.intentId = a.intentId
  kind : b.kind = a.kind
  target : b.target = a.target
  dedupeKey : b.dedupeKey = a.dedupeKey
  required : b.required = a.required
  eventId : b.eventId = a.eventId
  eventSequence : b.eventSequence = a.eventSequence
  causationId : b.causationId = a.causationId
  payload : b.payload = a.payload

theorem SameIntent.refl (a : ProjectionIntent) : SameIntent a a :=
  ⟨rfl, rfl, rfl, rfl, rfl, rfl, rfl, rfl, rfl⟩

theorem SameIntent.trans {a b c : ProjectionIntent} (hab : SameIntent a b)
    (hbc : SameIntent b c) : SameIntent a c where
  intentId := hbc.intentId.trans hab.intentId
  kind := hbc.kind.trans hab.kind
  target := hbc.target.trans hab.target
  dedupeKey := hbc.dedupeKey.trans hab.dedupeKey
  required := hbc.required.trans hab.required
  eventId := hbc.eventId.trans hab.eventId
  eventSequence := hbc.eventSequence.trans hab.eventSequence
  causationId := hbc.causationId.trans hab.causationId
  payload := hbc.payload.trans hab.payload

/-- The same intent later on: a final one has not changed at all. -/
structure MovesTo (a b : ProjectionIntent) : Prop where
  same : SameIntent a b
  final : isFinal a.status = true → b = a

theorem MovesTo.refl (a : ProjectionIntent) : MovesTo a a := ⟨.refl a, fun _ => rfl⟩

theorem MovesTo.trans {a b c : ProjectionIntent} (hab : MovesTo a b) (hbc : MovesTo b c) :
    MovesTo a c := by
  refine ⟨hab.same.trans hbc.same, ?_⟩
  intro hfinal
  have hb := hab.final hfinal
  rw [← hb] at hfinal
  exact (hbc.final hfinal).trans hb

/-! ## Outboxes that grow -/

/-- An outbox later on: the same intents in the same order, and new ones only if
there were none. -/
def OutboxGrows (before after : List ProjectionIntent) : Prop :=
  before ≠ [] → List.Forall₂ MovesTo before after

theorem OutboxGrows.of_nil (after : List ProjectionIntent) : OutboxGrows [] after :=
  fun h => absurd rfl h

theorem OutboxGrows.refl (outbox : List ProjectionIntent) : OutboxGrows outbox outbox :=
  fun _ => List.forall₂_same.mpr fun a _ => MovesTo.refl a

private theorem movesTo_trans {a b c : List ProjectionIntent} (hab : List.Forall₂ MovesTo a b)
    (hbc : List.Forall₂ MovesTo b c) : List.Forall₂ MovesTo a c := by
  induction hab generalizing c with
  | nil => exact hbc
  | cons hhead _ ih =>
      cases hbc with
      | cons hhead' htail' => exact .cons (hhead.trans hhead') (ih htail')

theorem OutboxGrows.trans {a b c : List ProjectionIntent} (hab : OutboxGrows a b)
    (hbc : OutboxGrows b c) : OutboxGrows a c := by
  intro ha
  have hfirst := hab ha
  have hb : b ≠ [] := by
    rintro rfl
    exact ha (List.forall₂_nil_right_iff.mp hfirst)
  exact movesTo_trans hfirst (hbc hb)

theorem exists_moved {before after : List ProjectionIntent} {a : ProjectionIntent}
    (h : List.Forall₂ MovesTo before after) (ha : a ∈ before) : ∃ b ∈ after, MovesTo a b := by
  induction h with
  | nil => cases ha
  | cons hhead _ ih =>
      rcases List.mem_cons.mp ha with rfl | ha
      · exact ⟨_, List.mem_cons_self, hhead⟩
      · obtain ⟨b, hb, hmoves⟩ := ih ha
        exact ⟨b, List.mem_cons_of_mem _ hb, hmoves⟩

theorem exists_origin {before after : List ProjectionIntent} {b : ProjectionIntent}
    (h : List.Forall₂ MovesTo before after) (hb : b ∈ after) : ∃ a ∈ before, MovesTo a b := by
  induction h with
  | nil => cases hb
  | cons hhead _ ih =>
      rcases List.mem_cons.mp hb with rfl | hb
      · exact ⟨_, List.mem_cons_self, hhead⟩
      · obtain ⟨a, ha, hmoves⟩ := ih hb
        exact ⟨a, List.mem_cons_of_mem _ ha, hmoves⟩

theorem ids_of_movesTo {before after : List ProjectionIntent}
    (h : List.Forall₂ MovesTo before after) :
    after.map (·.intentId) = before.map (·.intentId) := by
  induction h with
  | nil => rfl
  | cons hhead _ ih => simp only [List.map_cons, hhead.same.intentId, ih]

theorem completed_of_movesTo {P : ProjectionIntent → Prop} {before after : List ProjectionIntent}
    (h : List.Forall₂ MovesTo before after) (hP : ∀ a b, MovesTo a b → P b → P a)
    (hdone : ∀ a ∈ before, P a → a.status = .completed) :
    ∀ b ∈ after, P b → b.status = .completed := by
  intro b hb hPb
  obtain ⟨a, ha, hmoves⟩ := exists_origin h hb
  have hcompleted := hdone a ha (hP a b hmoves hPb)
  rw [hmoves.final (by rw [hcompleted]; rfl)]
  exact hcompleted

/-! ## One intent transition -/

/-- A legal transition; an intent is completed only after its projection. -/
structure IntentStep (log : List ProjectionEntry) (a b : ProjectionIntent) : Prop where
  same : SameIntent a b
  legal : b.status ∈ a.status.transitions
  projected : b.status = .completed → Projected b.intentId log

theorem IntentStep.movesTo {log : List ProjectionEntry} {a b : ProjectionIntent}
    (h : IntentStep log a b) : MovesTo a b := by
  refine ⟨h.same, ?_⟩
  intro hfinal
  rw [not_final_of_transition h.legal] at hfinal
  cases hfinal

inductive OutboxMoved (log : List ProjectionEntry) :
    List ProjectionIntent → List ProjectionIntent → Prop
  | here (a b : ProjectionIntent) (rest : List ProjectionIntent) (h : IntentStep log a b) :
      OutboxMoved log (a :: rest) (b :: rest)
  | later (a : ProjectionIntent) (rest rest' : List ProjectionIntent)
      (h : OutboxMoved log rest rest') : OutboxMoved log (a :: rest) (a :: rest')

theorem OutboxMoved.movesTo {log : List ProjectionEntry} {before after : List ProjectionIntent}
    (h : OutboxMoved log before after) : List.Forall₂ MovesTo before after := by
  induction h with
  | here a b rest h => exact .cons h.movesTo (List.forall₂_same.mpr fun a _ => MovesTo.refl a)
  | later a rest rest' _ ih => exact .cons (.refl a) ih

theorem OutboxMoved.completed {log : List ProjectionEntry} {before after : List ProjectionIntent}
    (h : OutboxMoved log before after) {b : ProjectionIntent} (hb : b ∈ after)
    (hdone : b.status = .completed) : b ∈ before ∨ Projected b.intentId log := by
  induction h with
  | here a b' rest h =>
      rcases List.mem_cons.mp hb with rfl | hb
      · exact Or.inr (h.projected hdone)
      · exact Or.inl (List.mem_cons_of_mem a hb)
  | later a rest rest' _ ih =>
      rcases List.mem_cons.mp hb with rfl | hb
      · exact Or.inl List.mem_cons_self
      · exact (ih hb).imp_left (List.mem_cons_of_mem a)

/-! ## Steps of the Run document -/

def RequiredCompleted (outbox : List ProjectionIntent) : Prop :=
  ∀ item ∈ outbox, item.required = true → item.status = .completed

/-- How one write may change the outbox of a Run and what goes with it. -/
inductive OutboxChange (log : List ProjectionEntry) (before after : OrchestratorRunState) : Prop
  | mirror (claim : RecoveryClaim) (h : after = { before with recoveryClaim := claim })
  | keep (hversion : before.stateVersion < after.stateVersion)
      (houtbox : after.projectionOutbox = before.projectionOutbox)
      (hstate : after.projectionState = before.projectionState)
      (hstatus : before.status.isTerminal → after.status = before.status)
  | move (hversion : before.stateVersion < after.stateVersion)
      (houtbox : OutboxMoved log before.projectionOutbox after.projectionOutbox)
      (hstate : after.projectionState = before.projectionState)
      (hstatus : after.status = before.status)
  | settle (hversion : before.stateVersion < after.stateVersion)
      (houtbox : after.projectionOutbox = before.projectionOutbox)
      (hstate : after.projectionState = .settled → RequiredCompleted after.projectionOutbox)
      (hstatus : after.status = before.status)
  | mint (hversion : before.stateVersion < after.stateVersion)
      (hlive : before.status.isTerminal = false) (hterminal : after.status.isTerminal)
      (hstate : after.projectionState = .pending) (intents : List ProjectionIntent)
      (houtbox : after.projectionOutbox = before.projectionOutbox ++ intents)
      (hpending : ∀ item ∈ intents, item.status = .pending)
      (hdistinct : (intents.map (·.intentId)).Nodup)

structure OutboxRunInv (log : List ProjectionEntry) (run : OrchestratorRunState) : Prop where
  distinct : (run.projectionOutbox.map (·.intentId)).Nodup
  terminal : run.projectionOutbox ≠ [] → run.status.isTerminal
  projected : ∀ item ∈ run.projectionOutbox, item.status = .completed →
    Projected item.intentId log
  settled : run.projectionState = .settled → RequiredCompleted run.projectionOutbox

theorem OutboxRunInv.mono {log : List ProjectionEntry} {run : OrchestratorRunState}
    (e : ProjectionEntry) (h : OutboxRunInv log run) : OutboxRunInv (e :: log) run :=
  ⟨h.distinct, h.terminal, fun item hitem hdone => (h.projected item hitem hdone).mono e, h.settled⟩

theorem OutboxRunInv.empty_of_live {log : List ProjectionEntry} {run : OrchestratorRunState}
    (h : OutboxRunInv log run) (hlive : run.status.isTerminal = false) :
    run.projectionOutbox = [] := by
  by_contra hne
  rw [h.terminal hne] at hlive
  cases hlive

theorem OutboxChange.keeps {log : List ProjectionEntry} {before after : OrchestratorRunState}
    (h : OutboxChange log before after) (hbefore : OutboxRunInv log before) :
    OutboxRunInv log after := by
  cases h with
  | mirror claim h =>
      rw [h]
      exact ⟨hbefore.distinct, hbefore.terminal, hbefore.projected, hbefore.settled⟩
  | keep _ houtbox hstate hstatus =>
      refine ⟨?_, ?_, ?_, ?_⟩
      · rw [houtbox]
        exact hbefore.distinct
      · rw [houtbox]
        intro hne
        have hterminal := hbefore.terminal hne
        rw [hstatus hterminal]
        exact hterminal
      · rw [houtbox]
        exact hbefore.projected
      · rw [houtbox, hstate]
        exact hbefore.settled
  | move _ houtbox hstate hstatus =>
      have hmoves := houtbox.movesTo
      refine ⟨?_, ?_, ?_, ?_⟩
      · rw [ids_of_movesTo hmoves]
        exact hbefore.distinct
      · intro hne
        rw [hstatus]
        refine hbefore.terminal ?_
        intro hnil
        rw [hnil] at hmoves
        exact hne (List.forall₂_nil_left_iff.mp hmoves)
      · intro item hitem hdone
        rcases houtbox.completed hitem hdone with hold | hprojected
        · exact hbefore.projected item hold hdone
        · exact hprojected
      · rw [hstate]
        intro hsettled
        refine completed_of_movesTo hmoves ?_ (hbefore.settled hsettled)
        intro a b hab hrequired
        rwa [← hab.same.required]
  | settle _ houtbox hstate hstatus =>
      refine ⟨?_, ?_, ?_, hstate⟩
      · rw [houtbox]
        exact hbefore.distinct
      · rw [houtbox, hstatus]
        exact hbefore.terminal
      · rw [houtbox]
        exact hbefore.projected
  | mint _ hlive hterminal hstate intents houtbox hpending hdistinct =>
      rw [hbefore.empty_of_live hlive, List.nil_append] at houtbox
      refine ⟨?_, fun _ => hterminal, ?_, ?_⟩
      · rw [houtbox]
        exact hdistinct
      · rw [houtbox]
        intro item hitem hdone
        rw [hpending item hitem] at hdone
        cases hdone
      · rw [hstate]
        intro h
        cases h

/-! ## What a Run that was read says later -/

structure Follows (run document : OrchestratorRunState) : Prop where
  version : run.stateVersion ≤ document.stateVersion
  outbox : document.stateVersion = run.stateVersion →
    document.projectionOutbox = run.projectionOutbox
  state : document.stateVersion = run.stateVersion →
    document.projectionState = run.projectionState
  status : document.stateVersion = run.stateVersion → document.status = run.status
  grows : OutboxGrows run.projectionOutbox document.projectionOutbox

theorem Follows.refl (run : OrchestratorRunState) : Follows run run :=
  ⟨Nat.le_refl _, fun _ => rfl, fun _ => rfl, fun _ => rfl, OutboxGrows.refl _⟩

theorem Follows.of_lt {before after : OrchestratorRunState}
    (hversion : before.stateVersion < after.stateVersion)
    (hgrows : OutboxGrows before.projectionOutbox after.projectionOutbox) :
    Follows before after :=
  ⟨by omega, fun h => absurd h (by omega), fun h => absurd h (by omega),
    fun h => absurd h (by omega), hgrows⟩

theorem Follows.trans {a b c : OrchestratorRunState} (hab : Follows a b) (hbc : Follows b c) :
    Follows a c := by
  have hsqueeze : c.stateVersion = a.stateVersion →
      b.stateVersion = a.stateVersion ∧ c.stateVersion = b.stateVersion := by
    have h1 := hab.version
    have h2 := hbc.version
    omega
  refine ⟨Nat.le_trans hab.version hbc.version, ?_, ?_, ?_, hab.grows.trans hbc.grows⟩
  · intro h
    exact (hbc.outbox (hsqueeze h).2).trans (hab.outbox (hsqueeze h).1)
  · intro h
    exact (hbc.state (hsqueeze h).2).trans (hab.state (hsqueeze h).1)
  · intro h
    exact (hbc.status (hsqueeze h).2).trans (hab.status (hsqueeze h).1)

theorem OutboxChange.follows {log : List ProjectionEntry} {before after : OrchestratorRunState}
    (h : OutboxChange log before after) (hbefore : OutboxRunInv log before) :
    Follows before after := by
  cases h with
  | mirror claim h =>
      rw [h]
      exact ⟨Nat.le_refl _, fun _ => rfl, fun _ => rfl, fun _ => rfl, OutboxGrows.refl _⟩
  | keep hversion houtbox _ _ =>
      refine .of_lt hversion ?_
      rw [houtbox]
      exact OutboxGrows.refl _
  | move hversion houtbox _ _ => exact .of_lt hversion fun _ => houtbox.movesTo
  | settle hversion houtbox _ _ =>
      refine .of_lt hversion ?_
      rw [houtbox]
      exact OutboxGrows.refl _
  | mint hversion hlive _ _ _ _ _ _ =>
      refine .of_lt hversion ?_
      rw [hbefore.empty_of_live hlive]
      exact OutboxGrows.of_nil _

/-! ## Legal steps and the invariant -/

def OthersCompleted (intentId : String) (outbox : List ProjectionIntent) : Prop :=
  ∀ item ∈ outbox, item.required = true → item.intentId ≠ intentId → item.status = .completed

/-- A settlement publication is handed to its projector last. -/
def PublishesLast (e : ProjectionEntry) : Prop :=
  ∀ intent reply, e.projection = some (intent, reply) →
    intent.kind = ProjectionOutboxWorker.settlementKind →
    OthersCompleted intent.intentId e.before.outbox

structure OutboxStep (e : ProjectionEntry) (s s' : Database ProjectionCall) : Prop where
  log : s'.log = e :: s.log
  before : e.before = s.stored
  after : e.after = s'.stored
  run : s'.stored.run = s.stored.run ∨ ∃ document candidate, s.stored.run = some document ∧
    s'.stored.run = some candidate ∧ OutboxChange s.log document candidate
  publishes : PublishesLast e

/-- Time passes, recovery moves the lease row, and the claim in the Run document is
refreshed from it. -/
structure RecoveryElsewhere (s s' : Database ProjectionCall) : Prop where
  log : s'.log = s.log
  run : s'.stored.run = s.stored.run ∨ ∃ document claim, s.stored.run = some document ∧
    s'.stored.run = some { document with recoveryClaim := claim }

structure OutboxInv (s : Database ProjectionCall) : Prop where
  stored : ∃ run, s.stored.run = some run ∧ OutboxRunInv s.log run
  history : ∀ e ∈ s.log, OutboxGrows e.after.outbox s.stored.outbox
  publishes : ∀ e ∈ s.log, PublishesLast e

theorem OutboxStep.follows {e : ProjectionEntry} {s s' : Database ProjectionCall}
    (h : OutboxStep e s s') (hs : OutboxInv s) :
    ∃ run run', s.stored.run = some run ∧ s'.stored.run = some run' ∧ Follows run run' ∧
      OutboxRunInv s.log run' := by
  obtain ⟨run, hrun, hinv⟩ := hs.stored
  rcases h.run with hsame | ⟨document, candidate, hdocument, hcandidate, hchange⟩
  · exact ⟨run, run, hrun, hsame.trans hrun, .refl run, hinv⟩
  · rw [hrun] at hdocument
    cases hdocument
    exact ⟨run, candidate, hrun, hcandidate, hchange.follows hinv, hchange.keeps hinv⟩

theorem OutboxStep.keeps {e : ProjectionEntry} {s s' : Database ProjectionCall}
    (h : OutboxStep e s s') (hs : OutboxInv s) : OutboxInv s' := by
  obtain ⟨run, run', hrun, hrun', hfollows, hinv⟩ := h.follows hs
  have hgrows : OutboxGrows s.stored.outbox s'.stored.outbox := by
    simpa [Stored.outbox, hrun, hrun'] using hfollows.grows
  refine ⟨⟨run', hrun', ?_⟩, ?_, ?_⟩
  · rw [h.log]
    exact hinv.mono e
  · rw [h.log]
    intro e' he'
    rcases List.mem_cons.mp he' with rfl | he'
    · rw [h.after]
      exact OutboxGrows.refl _
    · exact (hs.history e' he').trans hgrows
  · rw [h.log]
    intro e' he'
    rcases List.mem_cons.mp he' with rfl | he'
    · exact h.publishes
    · exact hs.publishes e' he'

theorem RecoveryElsewhere.follows {s s' : Database ProjectionCall} (h : RecoveryElsewhere s s')
    {run : OrchestratorRunState} (hrun : s.stored.run = some run) :
    ∃ claim, s'.stored.run = some { run with recoveryClaim := claim } := by
  rcases h.run with hsame | ⟨document, claim, hdocument, hafter⟩
  · exact ⟨run.recoveryClaim, hsame.trans hrun⟩
  · rw [hrun] at hdocument
    cases hdocument
    exact ⟨claim, hafter⟩

theorem RecoveryElsewhere.keeps {s s' : Database ProjectionCall} (h : RecoveryElsewhere s s')
    (hs : OutboxInv s) : OutboxInv s' := by
  obtain ⟨run, hrun, hinv⟩ := hs.stored
  obtain ⟨claim, hrun'⟩ := h.follows hrun
  refine ⟨⟨_, hrun', ?_⟩, ?_, ?_⟩
  · rw [h.log]
    exact ⟨hinv.distinct, hinv.terminal, hinv.projected, hinv.settled⟩
  · rw [h.log]
    have hsame : s'.stored.outbox = s.stored.outbox := by
      simp [Stored.outbox, hrun, hrun']
    rw [hsame]
    exact hs.history
  · rw [h.log]
    exact hs.publishes

end Hybro.RunStore
