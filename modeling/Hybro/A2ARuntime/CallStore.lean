import Hybro.Library.Interleaving
import Hybro.Orchestrator.Settlement
import Hybro.A2ARuntime.LedgerRules

/-! # The compare-and-swap store of one call

The record of one Agent call as any number of writers share it. Every accepted
write puts the record it replaced into the history. A write may be refused for
reasons of its own (an alias bound by another call), and a reply may be lost
with or without its effect.
-/

namespace Hybro.A2ARuntime

open Orchestrator Interleaving

/-! ## State and operations -/

structure CallLedger where
  current : AgentCallLedgerRecord
  /-- The records it replaced, newest first. -/
  earlier : List AgentCallLedgerRecord := []
  clock : Timestamp := 0

def CallLedger.history (s : CallLedger) : List AgentCallLedgerRecord :=
  s.current :: s.earlier

def CallLedger.write (s : CallLedger) (record : AgentCallLedgerRecord) : CallLedger :=
  { s with current := record, earlier := s.history }

inductive LedgerReply (α : Type)
  | answer (value : α)
  | unavailable

inductive LedgerOp
  | loadByRecordId
  | cas (record : AgentCallLedgerRecord) (expectedStateVersion : Nat)
  | now
  | raise (message : String)

/-- `raise` has no reply: the call stops there. -/
abbrev LedgerOp.Res : LedgerOp → Type
  | .loadByRecordId => LedgerReply (Option AgentCallLedgerRecord)
  | .cas .. => LedgerReply StoreOutcome
  | .now => Timestamp
  | .raise _ => Empty

def LedgerOp.outcomes : (op : LedgerOp) → CallLedger → List (op.Res × CallLedger)
  | .loadByRecordId, s => [(.answer (some s.current), s), (.answer none, s), (.unavailable, s)]
  | .cas record expectedStateVersion, s =>
      [(.answer .conflict, s), (.answer .error, s), (.unavailable, s)] ++
      (if s.current = record then [(.answer .replayed, s)] else []) ++
      (if s.current.stateVersion = expectedStateVersion ∧
          record.stateVersion = expectedStateVersion + 1 then
        [(.answer .accepted, s.write record), (.unavailable, s.write record)]
      else [])
  | .now, s => [(s.clock, s)]
  | .raise _, _ => []

abbrev LedgerProg := Prog LedgerOp LedgerOp.Res

def LedgerProg.raise {α : Type} (message : String) : LedgerProg α :=
  .act (.raise message) fun reply => nomatch reply

def answeredBy {α β : Type} (reply : LedgerReply α) (next : α → LedgerProg β) : LedgerProg β :=
  match reply with
  | .answer value => next value
  | .unavailable => LedgerProg.raise "RecoverableAdapterError"

def loadByRecordId : LedgerProg (Option AgentCallLedgerRecord) :=
  .act .loadByRecordId fun reply => answeredBy reply .done

def cas (record : AgentCallLedgerRecord) (expectedStateVersion : Nat) :
    LedgerProg StoreOutcome :=
  .act (.cas record expectedStateVersion) fun reply => answeredBy reply .done

def now : LedgerProg Timestamp := .act .now .done

def raising {α : Type} (result : Except LedgerError α) : LedgerProg α :=
  match result with
  | .ok value => .done value
  | .error error => LedgerProg.raise error.message

/-! ## What the history keeps -/

variable (resultDigest : ToolResult → String) (reserved : String → Bool)

def Unreserved (record : AgentCallLedgerRecord) : Prop :=
  ∀ id ∈ record.recentObservationIds, reserved id = false

/-- A write that moves a valid call on: a call to be canceled ends with a canceled result. -/
structure Advance (record next : AgentCallLedgerRecord) : Prop where
  valid : next.Valid resultDigest
  moved : MovedOn record next
  canceled : record.state = .cancelPending →
    ∃ result, next.terminalResult = some result ∧ result.status = .canceled
  unreserved : next.state.isTerminal = false → Unreserved reserved next

def Canceling (record : AgentCallLedgerRecord) : Prop :=
  record.state = .cancelPending ∨
    (record.state = .canceled ∧
      ∃ result, record.terminalResult = some result ∧ result.status = .canceled)

structure LedgerInv (s : CallLedger) : Prop where
  valid : ∀ record ∈ s.history, record.Valid resultDigest
  unreserved : ∀ record ∈ s.history, record.state.isTerminal = false → Unreserved reserved record
  older : ∀ record ∈ s.earlier, record.stateVersion < s.current.stateVersion
  live : ∀ record ∈ s.earlier, record.state.isTerminal = false
  canceling : ∀ record ∈ s.earlier, record.state = .cancelPending → Canceling s.current

variable {resultDigest reserved} {s s' : CallLedger} {record next : AgentCallLedgerRecord}

theorem LedgerInv.current_of_version (h : LedgerInv resultDigest reserved s)
    (hmem : record ∈ s.history) (hversion : s.current.stateVersion = record.stateVersion) :
    s.current = record := by
  rcases List.mem_cons.mp hmem with heq | hearlier
  · exact heq.symm
  · have hless := h.older record hearlier
    omega

theorem LedgerInv.current_of_terminal (h : LedgerInv resultDigest reserved s)
    (hmem : record ∈ s.history) (hterminal : record.state.isTerminal = true) :
    s.current = record := by
  rcases List.mem_cons.mp hmem with heq | hearlier
  · exact heq.symm
  · have hlive := h.live record hearlier
    rw [hlive] at hterminal
    cases hterminal

theorem Advance.canceling (h : Advance resultDigest reserved record next)
    (hpending : Canceling record) : Canceling next := by
  rcases hpending with hpending | ⟨hcanceled, -⟩
  · exact .inr ⟨h.moved.canceling hpending, h.canceled hpending⟩
  · have hlive := h.moved.live
    rw [hcanceled] at hlive
    cases hlive

theorem LedgerInv.write (h : LedgerInv resultDigest reserved s)
    (hadvance : Advance resultDigest reserved s.current next) :
    LedgerInv resultDigest reserved (s.write next) where
  valid := by
    intro record hmem
    rcases List.mem_cons.mp hmem with rfl | hmem
    · exact hadvance.valid
    · exact h.valid record hmem
  unreserved := by
    intro record hmem
    rcases List.mem_cons.mp hmem with rfl | hmem
    · exact hadvance.unreserved
    · exact h.unreserved record hmem
  older := by
    intro record hmem
    have hversion : (s.write next).current.stateVersion = s.current.stateVersion + 1 :=
      hadvance.moved.version
    rcases List.mem_cons.mp hmem with rfl | hmem
    · omega
    · have hless := h.older record hmem
      omega
  live := by
    intro record hmem
    rcases List.mem_cons.mp hmem with rfl | hmem
    · exact hadvance.moved.live
    · exact h.live record hmem
  canceling := by
    intro record hmem hpending
    rcases List.mem_cons.mp hmem with rfl | hmem
    · exact hadvance.canceling (.inl hpending)
    · exact hadvance.canceling (h.canceling record hmem hpending)

/-! ## One operation -/

/-- A step of any writer: nothing is written, or the current record is moved on. -/
def Writes (resultDigest : ToolResult → String) (reserved : String → Bool) (s s' : CallLedger) :
    Prop :=
  s' = s ∨ ∃ next, Advance resultDigest reserved s.current next ∧ s' = s.write next

structure Waits (s s' : CallLedger) : Prop where
  current : s'.current = s.current
  earlier : s'.earlier = s.earlier

theorem Waits.keeps (h : Waits s s') (hinv : LedgerInv resultDigest reserved s) :
    LedgerInv resultDigest reserved s' := by
  obtain ⟨current, earlier, clock⟩ := s
  obtain ⟨current', earlier', clock'⟩ := s'
  obtain ⟨hcurrent, hearlier⟩ := h
  cases hcurrent
  cases hearlier
  exact ⟨hinv.valid, hinv.unreserved, hinv.older, hinv.live, hinv.canceling⟩

theorem Writes.keeps (h : Writes resultDigest reserved s s')
    (hinv : LedgerInv resultDigest reserved s) : LedgerInv resultDigest reserved s' := by
  rcases h with rfl | ⟨next, hadvance, rfl⟩
  · exact hinv
  · exact hinv.write hadvance

theorem Writes.history (h : Writes resultDigest reserved s s') (hmem : record ∈ s.history) :
    record ∈ s'.history := by
  rcases h with rfl | ⟨next, -, rfl⟩
  · exact hmem
  · exact List.mem_cons_of_mem _ hmem

theorem Waits.history (h : Waits s s') (hmem : record ∈ s.history) : record ∈ s'.history := by
  rw [CallLedger.history, h.current, h.earlier]
  exact hmem

theorem mem_outcomes_load {reply : LedgerReply (Option AgentCallLedgerRecord)}
    (h : (reply, s') ∈ LedgerOp.loadByRecordId.outcomes s) :
    s' = s ∧ ∀ record, reply = .answer (some record) → record = s.current := by
  simp only [LedgerOp.outcomes, List.mem_cons, List.not_mem_nil, or_false, Prod.mk.injEq] at h
  rcases h with ⟨rfl, rfl⟩ | ⟨rfl, rfl⟩ | ⟨rfl, rfl⟩
  · refine ⟨rfl, ?_⟩
    intro record heq
    cases heq
    rfl
  · exact ⟨rfl, fun _ heq => by cases heq⟩
  · exact ⟨rfl, fun _ heq => by cases heq⟩

/-- The outcomes that tell a writer that its record is the current one. -/
def settled (outcome : StoreOutcome) : Bool :=
  outcome == .accepted || outcome == .replayed

theorem mem_outcomes_cas {expectedStateVersion : Nat} {reply : LedgerReply StoreOutcome}
    (h : (reply, s') ∈ (LedgerOp.cas record expectedStateVersion).outcomes s) :
    (s' = s ∨ (s.current.stateVersion = expectedStateVersion ∧ s' = s.write record)) ∧
      ∀ outcome, reply = .answer outcome → settled outcome = true → s'.current = record := by
  simp only [LedgerOp.outcomes, List.mem_append, List.mem_cons, List.not_mem_nil, or_false,
    Prod.mk.injEq] at h
  rcases h with (hrefused | hreplayed) | haccepted
  · have hsame : s' = s := by
      rcases hrefused with ⟨-, rfl⟩ | ⟨-, rfl⟩ | ⟨-, rfl⟩ <;> rfl
    refine ⟨.inl hsame, ?_⟩
    intro outcome heq hsettled
    rcases hrefused with ⟨rfl, -⟩ | ⟨rfl, -⟩ | ⟨rfl, -⟩
    · cases heq
      cases hsettled
    · cases heq
      cases hsettled
    · cases heq
  · split at hreplayed
    · rename_i hcurrent
      simp only [List.mem_singleton, Prod.mk.injEq] at hreplayed
      obtain ⟨-, rfl⟩ := hreplayed
      exact ⟨.inl rfl, fun _ _ _ => hcurrent⟩
    · cases hreplayed
  · split at haccepted
    · rename_i hversions
      have hwritten : s' = s.write record := by
        simp only [List.mem_cons, List.not_mem_nil, or_false, Prod.mk.injEq] at haccepted
        rcases haccepted with ⟨-, rfl⟩ | ⟨-, rfl⟩ <;> rfl
      refine ⟨.inr ⟨hversions.1, hwritten⟩, ?_⟩
      intro outcome _ _
      rw [hwritten]
      rfl
    · cases haccepted

end Hybro.A2ARuntime
