import Hybro.Orchestrator.Models

/-! # Bounded-loop budget policy

The checks before a model turn or a Tool call, the counters they read, and the
deadline clock that stops while the Run is suspended. A check that fails raises
`BudgetExceeded` with its reason.
-/

namespace Hybro.Orchestrator

namespace BudgetPolicy

/-! ## Checks -/

def beforeToolCall (budget : BudgetState) (profile : OrchestratorProfile) (now : Timestamp) :
    Except String Unit :=
  if budget.deadlineAt ≤ now then .error "deadline"
  else if budget.wrapUpRequested then .error "grace_tools_disabled"
  else if profile.maxAgentCalls ≤ budget.agentCallsUsed then .error "tool_calls"
  else .ok ()

def beforeTokenSideEffect (budget : BudgetState) (profile : OrchestratorProfile) :
    Except String Unit :=
  if profile.maxInputTokensTotal.any (· < budget.inputTokens) then .error "input_tokens"
  else if profile.maxOutputTokensTotal.any (· < budget.outputTokens) then .error "output_tokens"
  else .ok ()

/-! ## Counters -/

def recordProviderAttempt (budget : BudgetState) (profile : OrchestratorProfile)
    (attemptKey : String) (retry : Bool) : Except String BudgetState :=
  if attemptKey ∈ budget.providerAttemptKeys then .ok budget
  else
    let retries := budget.providerRetriesUsed + if retry then 1 else 0
    if profile.maxProviderRetriesTotal < retries then .error "provider_retries"
    else .ok { budget with
      providerAttemptKeys := budget.providerAttemptKeys ++ [attemptKey]
      providerRetriesUsed := retries }

def recordUsageSnapshot (budget : BudgetState) (attemptKey : String) (usage : UsageRecord) :
    Except String BudgetState :=
  if attemptKey ∉ budget.providerAttemptKeys then
    .error "usage must identify a recorded provider attempt"
  else
    let previous := (budget.usageByAttempt.lookup attemptKey).getD {}
    .ok { budget with
      usageByAttempt := setKey attemptKey usage budget.usageByAttempt
      inputTokens := budget.inputTokens + usage.inputTokens - previous.inputTokens
      outputTokens := budget.outputTokens + usage.outputTokens - previous.outputTokens }

def recordAssistantTurn (budget : BudgetState) (grace : Bool) : BudgetState :=
  if grace then { budget with graceTurnsUsed := budget.graceTurnsUsed + 1 }
  else { budget with modelTurnsUsed := budget.modelTurnsUsed + 1 }

def recordToolCalls (budget : BudgetState) (count : Nat) : BudgetState :=
  { budget with agentCallsUsed := budget.agentCallsUsed + count }

def requestWrapUp (budget : BudgetState) : BudgetState :=
  { budget with wrapUpRequested := true }

/-- `record_compaction`; the kernel reports neither attempts nor usage with it. -/
def recordCompaction (budget : BudgetState) (profile : Option OrchestratorProfile)
    (providerAttempts : Nat) (usage : UsageRecord) : Except String BudgetState :=
  let updated := { budget with
    compactionsUsed := budget.compactionsUsed + 1
    providerRetriesUsed := budget.providerRetriesUsed + (providerAttempts - 1)
    inputTokens := budget.inputTokens + usage.inputTokens
    outputTokens := budget.outputTokens + usage.outputTokens }
  match profile with
  | none => .ok updated
  | some profile =>
      match beforeTokenSideEffect updated profile with
      | .error reason => .error reason
      | .ok () =>
          if profile.maxProviderRetriesTotal < updated.providerRetriesUsed then
            .error "provider_retries"
          else .ok updated

end BudgetPolicy

/-! ## The deadline clock -/

def resumedDeadlineAt (budget : BudgetState) (now : Timestamp) : Timestamp :=
  match budget.suspendedAt with
  | none => budget.deadlineAt
  | some suspendedAt => budget.deadlineAt + (now - suspendedAt)

def applySuspensionClock (budget : BudgetState) (suspended : Bool) (now : Timestamp) :
    BudgetState :=
  if suspended then
    if budget.suspendedAt.isSome then budget else { budget with suspendedAt := some now }
  else if budget.suspendedAt.isNone then budget
  else { budget with deadlineAt := resumedDeadlineAt budget now, suspendedAt := none }

theorem applySuspensionClock_suspendedAt (budget : BudgetState) (suspended : Bool)
    (now : Timestamp) :
    (applySuspensionClock budget suspended now).suspendedAt.isSome = suspended := by
  unfold applySuspensionClock
  cases suspended with
  | true =>
      cases h : budget.suspendedAt with
      | none => simp
      | some suspendedAt => simp [h]
  | false =>
      cases h : budget.suspendedAt with
      | none => simp [h]
      | some suspendedAt => simp

theorem applySuspensionClock_running {budget : BudgetState} (h : budget.suspendedAt = none)
    (now : Timestamp) : applySuspensionClock budget false now = budget := by
  simp [applySuspensionClock, h]

end Hybro.Orchestrator
