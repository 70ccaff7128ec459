import Mathlib.Data.List.Perm.Subperm
import Hybro.A2ARuntime.OneDispatch
import Hybro.A2ARuntime.Agreement
import Hybro.A2ARuntime.Cancellation

/-! # A dispatch is sent at most once

What the invariant of a call says about the contacts in the record of a run, and two
runs that show where the promise ends.
-/

namespace Hybro.A2ARuntime

open Orchestrator Interleaving RunRecord

/-! ## The contacts of a run -/

/-- Every contact after a dispatch inspects it, or is another dispatch after this one has
raised `RecoverableTransportError`. -/
def ContactedOnce (record : List (Nat × CallNote)) : Prop :=
  Throughout (fun entry older => ∀ contact state, entry.2 = .contacted contact state →
    ∀ i command sent between before,
      older = between ++ (i, .contacted (.dispatch command) sent) :: before →
      (∃ inspected, contact = .inspect inspected) ∨
        ((∃ again, contact = .dispatch again) ∧
          ∃ failed, (i, CallNote.raised (.dispatch failed)) ∈ between)) record

/-- No dispatch is invoked while the call is to be canceled or has ended. -/
def NeverStopped (record : List (Nat × CallNote)) : Prop :=
  ∀ i command state, (i, CallNote.contacted (.dispatch command) state) ∈ record →
    state.isStopped = false

/-- The thread of a dispatch has marked the call and renewed its claim while the call was
still dispatching, and the call was not stopped before that renewal. -/
def RenewedUnstopped (s : SharedCall) : Prop :=
  Throughout (fun entry older => ∀ command state, entry.2 = .contacted (.dispatch command) state →
    ∃ before marked renewed, Marked entry.1 older before marked ∧
      (entry.1, .held renewed) ∈ older ∧ renewed.state = .dispatching ∧
      marked.stateVersion < renewed.stateVersion ∧ Known renewed s ∧
      ∀ record, Known record s → record.stateVersion ≤ renewed.stateVersion →
        record.state.isStopped = false) s.record

structure DispatchedOnce (terms : CallTerms) (s : SharedCall) : Prop where
  once : ContactedOnce s.record
  bounded : (s.record.filterMap sender).length ≤
    s.ledger.current.runtimePolicy.maxTransportAttempts
  renewed : RenewedUnstopped s
  named : ∀ i contact state, (i, .contacted contact state) ∈ s.record → contact.NamesCall terms

variable {terms : CallTerms} {s : SharedCall} {i : Nat} {command : A2ADispatchCommand}
  {state : AgentCallState}

theorem sender_eq_some {entry : Nat × CallNote} (h : sender entry = some i) :
    ∃ command state, entry = (i, .contacted (.dispatch command) state) := by
  obtain ⟨j, note⟩ := entry
  cases note with
  | contacted contact state =>
      cases contact with
      | dispatch command =>
          cases h
          exact ⟨command, state, rfl⟩
      | _ => cases h
  | _ => cases h

theorem mem_sender {record : List (Nat × CallNote)} :
    i ∈ record.filterMap sender ↔ Sent i record := by
  rw [List.mem_filterMap]
  constructor
  · rintro ⟨entry, hmem, hsender⟩
    obtain ⟨command, state, rfl⟩ := sender_eq_some hsender
    exact ⟨command, state, hmem⟩
  · rintro ⟨command, state, hmem⟩
    exact ⟨_, hmem, rfl⟩

theorem mem_marker {record : List (Nat × CallNote)} {before marked : AgentCallLedgerRecord}
    (h : Marked i record before marked) : i ∈ record.filterMap marker :=
  List.mem_filterMap.mpr ⟨_, h.1, if_pos h.2⟩

theorem Fenced.append {older newer : List (Nat × CallNote)} (h : Fenced i older) :
    Fenced i (newer ++ older) := by
  obtain ⟨before, marked, held, hmarked, hheld, hstate, hless⟩ := h
  exact ⟨before, marked, held, ⟨List.mem_append_right _ hmarked.1, hmarked.2⟩,
    List.mem_append_right _ hheld, hstate, hless⟩

theorem fenced_of_sent {record : List (Nat × CallNote)} (h : Throughout Proper record)
    (hsent : Sent i record) : Fenced i record := by
  obtain ⟨command, state, hmem⟩ := hsent
  obtain ⟨newer, older, rfl⟩ := List.append_of_mem hmem
  have hfenced : Fenced i older := (h newer _ older rfl).1
  have hall : Fenced i ((newer ++ [(i, .contacted (.dispatch command) state)]) ++ older) :=
    hfenced.append
  rwa [List.append_assoc] at hall

theorem nodup_sender {record : List (Nat × CallNote)} (h : Throughout Proper record) :
    (record.filterMap sender).Nodup := by
  induction record with
  | nil => exact List.nodup_nil
  | cons entry older ih =>
      obtain ⟨hentry, holder⟩ := throughout_cons.mp h
      cases hsender : sender entry with
      | none =>
          rw [List.filterMap_cons, hsender]
          exact ih holder
      | some j =>
          rw [List.filterMap_cons, hsender]
          refine List.nodup_cons.mpr ⟨?_, ih holder⟩
          intro hmem
          obtain ⟨command, state, rfl⟩ := sender_eq_some hsender
          have hapart : ∀ k, Sent k older → k ≠ j ∧ Unreached k older := hentry.2
          exact (hapart j (mem_sender.mp hmem)).1 rfl

theorem sent_le_marked {record : List (Nat × CallNote)} (h : Throughout Proper record) :
    (record.filterMap sender).length ≤ (record.filterMap marker).length := by
  have hsubset : record.filterMap sender ⊆ record.filterMap marker := by
    intro j hmem
    obtain ⟨before, marked, held, hmarked, -⟩ := fenced_of_sent h (mem_sender.mp hmem)
    exact mem_marker hmarked
  exact ((nodup_sender h).subperm hsubset).length_le

theorem raised_between {between before : List (Nat × CallNote)}
    (h : Throughout Proper (between ++ (i, .contacted (.dispatch command) state) :: before))
    (hraised : Unreached i (between ++ (i, .contacted (.dispatch command) state) :: before)) :
    ∃ failed, (i, CallNote.raised (.dispatch failed)) ∈ between := by
  have hown : Proper (i, .contacted (.dispatch command) state) before := h between _ before rfl
  obtain ⟨failed, hmem⟩ := hraised
  rcases List.mem_append.mp hmem with hbetween | hrest
  · exact ⟨failed, hbetween⟩
  · rcases List.mem_cons.mp hrest with heq | hbefore
    · cases heq
    · obtain ⟨newer, older, rfl⟩ := List.append_of_mem hbefore
      have hbelow := (throughout_cons.mp h.below).2
      have hsent : Sent i older := (throughout_cons.mp hbelow.below).1
      obtain ⟨first, sent, hmem⟩ := hsent
      have hapart : ∀ k, Sent k (newer ++ (i, .raised (.dispatch failed)) :: older) →
          k ≠ i ∧ Unreached k (newer ++ (i, .raised (.dispatch failed)) :: older) := hown.2
      refine absurd rfl (hapart i ⟨first, sent, ?_⟩).1
      exact List.mem_append_right _ (List.mem_cons_of_mem _ hmem)

theorem DispatchInv.contactedOnce (h : DispatchInv terms s) : ContactedOnce s.record := by
  rintro newer ⟨j, note⟩ older hrecord contact state rfl i command sent between before rfl
  have hbelow : Throughout Proper (between ++ (i, .contacted (.dispatch command) sent) :: before) := by
    have hall := h.proper
    rw [hrecord] at hall
    exact (throughout_cons.mp hall.below).2
  have hnames : contact.NamesCall terms := h.named j contact state (by rw [hrecord]; simp)
  have hproper : Proper (j, .contacted contact state) _ := h.proper newer _ _ hrecord
  cases contact with
  | dispatch again =>
      have hapart : ∀ k, Sent k _ → k ≠ j ∧ Unreached k _ := hproper.2
      have hsent : Sent i (between ++ (i, .contacted (.dispatch command) sent) :: before) :=
        ⟨command, sent, by simp⟩
      exact .inr ⟨⟨again, rfl⟩, raised_between hbelow (hapart i hsent).2⟩
  | inspect inspected => exact .inl ⟨inspected, rfl⟩
  | continueTask again => exact hnames.elim
  | inspectContinuation again => exact hnames.elim

theorem DispatchInv.renewedUnstopped (h : DispatchInv terms s) : RenewedUnstopped s := by
  rintro newer ⟨j, note⟩ older hrecord command state rfl
  have hproper : Proper (j, .contacted (.dispatch command) state) older :=
    h.proper newer _ older hrecord
  obtain ⟨before, marked, held, hmarked, hheld, hdispatching, hless⟩ := hproper.1
  have hknown : Known held s := h.held j held (by rw [hrecord]; simp [hheld])
  refine ⟨before, marked, held, hmarked, hheld, hdispatching, hless, hknown, ?_⟩
  intro record hrecorded hle
  refine Bool.eq_false_iff.mpr fun hstopped => ?_
  have hheldStopped := h.ledger.stopped record hrecorded held hknown hle hstopped
  rw [hdispatching] at hheldStopped
  cases hheldStopped

/-- In every interleaving of executions and recoveries of a call, where no two of them read the
same time under one worker id. -/
theorem dispatched_once {cfg : Config (dispatchSystem terms false)}
    (hreach : (dispatchSystem terms false).Reachable cfg) : DispatchedOnce terms cfg.shared := by
  have hinv := reachable_dispatchInv hreach
  refine ⟨hinv.contactedOnce, ?_, hinv.renewedUnstopped, hinv.named⟩
  calc (List.filterMap sender (SharedCall.record cfg.shared)).length
      ≤ (List.filterMap marker (SharedCall.record cfg.shared)).length := sent_le_marked hinv.proper
    _ ≤ (SharedCall.ledger cfg.shared).current.transportAttempts := hinv.counted
    _ ≤ _ := hinv.ledger.bounded

/-! ## Schedules -/

def acceptedCall : AgentCallLedgerRecord :=
  { workingCall with stateVersion := 0, state := .accepted, transportKind := .relay }

def sampleTerms : CallTerms where
  resultDigest := statusDigest
  stableDigest _ := "h"
  subjectDigest _ := "subject-1"
  invocationMatches _ _ := true
  acceptance := ⟨"acceptance-1", "invocation-1", "invocation-1", 100⟩
  snapshot := acceptedCall.dispatchSnapshot
  endpointScope := "scope-1"
  deadlineAt := 86400000

def Port.usual : (port : Port) → Except Raised port.Answer
  | .isAcceptanceCheckpointed => .ok true
  | .signalCancelled => .ok false
  | .verifyActive => .ok true
  | .readPrepared => .ok (some ⟨"subject", "binding-1", "digest-1"⟩)
  | .authorize => .ok .authorized
  | .materialize => .ok []
  | .loadRunStatus => .ok (some .running)
  | _ => .error .timeout

def CallOp.outcomes (repeats : Bool) (i : Nat) (s : SharedCall) :
    (op : CallOp) → List (op.Res × SharedCall)
  | .load => [(.ok (some s.ledger.current), s)]
  | .cas record expected =>
      if s.ledger.current = record then [(.ok .replayed, s.noted i [.held record])]
      else if s.ledger.current.stateVersion = expected ∧ record.stateVersion = expected + 1 then
        [(.ok .accepted, s.stored i record [.held record])]
      else [(.ok .conflict, s)]
  | .now workerId =>
      ((List.range 8).filter fun time =>
        repeats || s.record.all fun entry => entry.1 = i ∨ entry.2 ≠ .read workerId time).map
          fun time => (time, s.noted i [.read workerId time])
  | .ask port => [(port.usual, s)]
  | .reach contact => [({}, s.noted i [.contacted contact s.ledger.current.state])]
  | .awaitReply contact => [(.error .transport, s.noted i [.raised contact])]

theorem outcome_of_mem {repeats : Bool} {op : CallOp} {reply : op.Res} {s' : SharedCall}
    (h : (reply, s') ∈ op.outcomes repeats i s) : op.Outcome repeats i s reply s' := by
  cases op with
  | load =>
      cases List.mem_singleton.mp h
      exact .loaded
  | cas record expected =>
      simp only [CallOp.outcomes] at h
      split at h
      · next hcurrent =>
          cases List.mem_singleton.mp h
          exact .replayed record expected hcurrent
      · split at h
        · next hversions =>
            cases List.mem_singleton.mp h
            exact .written record expected .accepted hversions.1 hversions.2 rfl
        · cases List.mem_singleton.mp h
          exact .refused record expected .conflict rfl
  | now workerId =>
      obtain ⟨time, hmem, heq⟩ := List.mem_map.mp h
      obtain ⟨rfl, rfl⟩ := Prod.mk.inj heq
      have hfree := (List.mem_filter.mp hmem).2
      refine .now workerId _ ?_
      cases repeats with
      | true => exact .inl rfl
      | false =>
          refine .inr fun j hother hread => ?_
          simpa [hother] using List.all_eq_true.mp hfree _ hread
  | ask port =>
      cases List.mem_singleton.mp h
      exact .ask port _
  | reach contact =>
      cases List.mem_singleton.mp h
      exact .reach contact {}
  | awaitReply contact =>
      cases List.mem_singleton.mp h
      exact .raised contact

def canceledElsewhere (time : Timestamp) (s : SharedCall) : SharedCall :=
  let command := cancellationCommand sampleTerms.stableDigest s.ledger.current "stop" none time
  match transitionCall s.ledger.current .cancelPending time (cancellationUpdates command) with
  | .ok next => { s with ledger := s.ledger.write next }
  | .error _ =>
      let next := { s.ledger.current with stateVersion := s.ledger.current.stateVersion + 1 }
      { s with ledger := s.ledger.write next }

theorem canceledElsewhere_written (time : Timestamp) (s : SharedCall) :
    WrittenElsewhere s (canceledElsewhere time s) := by
  have hrenewed : Ordinary s.ledger.current
      { s.ledger.current with stateVersion := s.ledger.current.stateVersion + 1 } :=
    ordinary_of_state rfl rfl rfl rfl rfl
  unfold canceledElsewhere
  simp only
  split
  · next pending hmove => exact ⟨pending, transitionCall_ordinary hmove rfl nofun nofun, rfl⟩
  · exact ⟨_, hrenewed, rfl⟩

def dispatchStepper (repeats : Bool) : (dispatchSystem sampleTerms repeats).Stepper where
  admits _ _ := true
  outcomes i _ op s := op.outcomes repeats i s
  environment := canceledElsewhere
  admits_sound := fun _ _ _ => trivial
  outcomes_sound := fun _ _ _ _ _ _ h => outcome_of_mem h
  environment_sound := canceledElsewhere_written

def acceptedConfig (repeats : Bool) : Config (dispatchSystem sampleTerms repeats) where
  shared := ({ ledger := { current := acceptedCall } } : SharedCall)
  threads := fun _ => .unborn
  returned := []

theorem acceptedConfig_reachable (repeats : Bool) :
    (dispatchSystem sampleTerms repeats).Reachable (acceptedConfig repeats) := by
  have hmayAttempt : 0 < acceptedCall.runtimePolicy.maxTransportAttempts := by decide
  exact .init _ ⟨⟨rfl, rfl, rfl, rfl, rfl, hmayAttempt⟩, fun _ => rfl, rfl⟩

def sampleWorker : CallWorker where
  workerId := "worker-1"

def sampleExecution : DispatchCall :=
  .execute sampleWorker sampleInvocation sampleTerms.acceptance

/-- The outcomes up to the contact: every reading of the clock is a later one. -/
def upToContact : List Nat :=
  [0, 0, 0, 0, 0, 0, 0, 0, 0, 1, 0, 0, 0, 0, 2, 0, 0, 0, 3, 0, 4, 0, 5, 0, 0, 0, 0]

def canceledLate : List (System.Move DispatchCall) :=
  .start 0 sampleExecution :: upToContact.map (.act 0 ·) ++ [.environment 50, .act 0 0]

/-- Two processes of one worker read the same times and write the same records. -/
def twinExecutions : List (System.Move DispatchCall) :=
  [.start 0 sampleExecution, .start 1 sampleExecution] ++
    (upToContact ++ [0]).flatMap fun outcome => [.act 0 outcome, .act 1 outcome]

/-- The newest note is a dispatch of thread `i` while the call was in this state. -/
def dispatchedIn (i : Nat) (state : AgentCallState) : List (Nat × CallNote) → Bool
  | (j, .contacted (.dispatch _) state') :: _ => i = j ∧ state = state'
  | _ => false

theorem mem_of_dispatchedIn {record : List (Nat × CallNote)}
    (h : dispatchedIn i state record = true) :
    ∃ command older, record = (i, .contacted (.dispatch command) state) :: older := by
  unfold dispatchedIn at h
  split at h
  · next command state' older =>
      obtain ⟨rfl, rfl⟩ := of_decide_eq_true h
      exact ⟨command, older, rfl⟩
  · cases h

theorem not_contactedOnce {record : List (Nat × CallNote)} {j : Nat}
    (hlast : dispatchedIn i state record = true)
    (hfirst : dispatchedIn j state record.tail = true) : ¬ ContactedOnce record := by
  obtain ⟨again, older, rfl⟩ := mem_of_dispatchedIn hlast
  obtain ⟨command, before, rfl⟩ := mem_of_dispatchedIn hfirst
  intro honce
  rcases honce [] _ _ rfl _ _ rfl j command state [] before rfl with ⟨inspected, heq⟩ | ⟨-, hraised⟩
  · cases heq
  · obtain ⟨failed, hmem⟩ := hraised
    cases hmem

theorem dispatched_once_late : ∃ cfg : Config (dispatchSystem sampleTerms false),
    Sent 0 (SharedCall.record cfg.shared) ∧ DispatchedOnce sampleTerms cfg.shared := by
  obtain ⟨cfg, hreach, hcheck⟩ := System.Stepper.exists_of_play (dispatchStepper false) canceledLate
    (fun cfg => dispatchedIn 0 .cancelPending (SharedCall.record cfg.shared))
    (acceptedConfig_reachable false) (by decide +kernel)
  obtain ⟨command, older, hrecord⟩ := mem_of_dispatchedIn hcheck
  exact ⟨cfg, ⟨command, _, hrecord ▸ List.mem_cons_self ..⟩, dispatched_once hreach⟩

/-- A cancellation that is written after the last renewal does not keep the dispatch back, and
two processes of one worker whose clocks agree both make it. -/
theorem dispatched_stopped_or_twice :
    (∃ cfg : Config (dispatchSystem sampleTerms false),
      (dispatchSystem sampleTerms false).Reachable cfg ∧
        ¬ NeverStopped (SharedCall.record cfg.shared)) ∧
    (∃ cfg : Config (dispatchSystem sampleTerms true),
      (dispatchSystem sampleTerms true).Reachable cfg ∧
        ¬ ContactedOnce (SharedCall.record cfg.shared)) := by
  constructor
  · obtain ⟨cfg, hreach, hcheck⟩ := System.Stepper.exists_of_play (dispatchStepper false)
      canceledLate (fun cfg => dispatchedIn 0 .cancelPending (SharedCall.record cfg.shared))
      (acceptedConfig_reachable false) (by decide +kernel)
    obtain ⟨command, older, hrecord⟩ := mem_of_dispatchedIn hcheck
    refine ⟨cfg, hreach, fun hnever => ?_⟩
    have hstopped := hnever 0 command .cancelPending (hrecord ▸ List.mem_cons_self ..)
    cases hstopped
  · obtain ⟨cfg, hreach, hcheck⟩ := System.Stepper.exists_of_play (dispatchStepper true)
      twinExecutions (fun cfg => dispatchedIn 1 .dispatching (SharedCall.record cfg.shared) &&
        dispatchedIn 0 .dispatching (SharedCall.record cfg.shared).tail)
      (acceptedConfig_reachable true) (by decide +kernel)
    obtain ⟨hlast, hfirst⟩ := (Bool.and_eq_true _ _).mp hcheck
    exact ⟨cfg, hreach, not_contactedOnce hlast hfirst⟩

end Hybro.A2ARuntime
