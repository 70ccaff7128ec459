import Mathlib.Algebra.GroupWithZero.Nat
import Mathlib.Data.List.Nodup
import Hybro.Orchestrator.Budget

/-! # The usage ledger of a budget

The totals of a budget are kept by differences while the ledger is a map from attempts to
their latest usage. Every update of the policy keeps the totals equal to the sums over the
ledger, and never touches the deadline clock.
-/

namespace Hybro.Orchestrator

/-! ## Association lists -/

section SetKey

variable {κ α : Type} [DecidableEq κ]

theorem lookup_entry (key : κ) (entry : κ × α) (rest : List (κ × α)) :
    (entry :: rest).lookup key = if key = entry.1 then some entry.2 else rest.lookup key := by
  obtain ⟨other, value⟩ := entry
  rw [List.lookup_cons]
  by_cases h : key = other
  · simp [h]
  · simp [h, beq_eq_false_iff_ne.mpr h]

theorem lookup_setKey_self (key : κ) (value : α) (entries : List (κ × α)) :
    (setKey key value entries).lookup key = some value := by
  induction entries with
  | nil => simp [setKey]
  | cons entry rest ih =>
      by_cases h : entry.1 = key
      · simp [setKey, h]
      · simp [setKey, h, lookup_entry, Ne.symm h, ih]

theorem lookup_setKey_of_ne {key other : κ} (h : other ≠ key) (value : α)
    (entries : List (κ × α)) : (setKey key value entries).lookup other = entries.lookup other := by
  induction entries with
  | nil => simp [setKey, lookup_entry, h]
  | cons entry rest ih =>
      by_cases hentry : entry.1 = key
      · simp [setKey, hentry, lookup_entry, h]
      · simp [setKey, hentry, lookup_entry, ih]

theorem mem_keys_setKey {key other : κ} {value : α} {entries : List (κ × α)} :
    other ∈ (setKey key value entries).map (·.1) ↔ other = key ∨ other ∈ entries.map (·.1) := by
  induction entries with
  | nil => simp [setKey]
  | cons entry rest ih =>
      by_cases h : entry.1 = key
      · simp [setKey, h]
      · simp only [setKey, h, if_false, List.map_cons, List.mem_cons, ih]
        tauto

theorem nodup_keys_setKey {key : κ} {value : α} {entries : List (κ × α)}
    (h : (entries.map (·.1)).Nodup) : ((setKey key value entries).map (·.1)).Nodup := by
  induction entries with
  | nil => simp [setKey]
  | cons entry rest ih =>
      obtain ⟨hfresh, hrest⟩ := List.nodup_cons.mp h
      by_cases hentry : entry.1 = key
      · simpa [setKey, hentry] using h
      · simp only [setKey, hentry, if_false, List.map_cons, List.nodup_cons]
        refine ⟨?_, ih hrest⟩
        intro hmem
        cases mem_keys_setKey.mp hmem with
        | inl heq => exact hentry heq
        | inr hold => exact hfresh hold

theorem sum_setKey (measure : α → Nat) (key : κ) (value : α) (entries : List (κ × α)) :
    ((setKey key value entries).map (measure ·.2)).sum + (entries.lookup key).elim 0 measure =
      (entries.map (measure ·.2)).sum + measure value := by
  induction entries with
  | nil => simp [setKey]
  | cons entry rest ih =>
      by_cases h : entry.1 = key
      · simp only [setKey, h, if_true, List.map_cons, List.sum_cons, lookup_entry, Option.elim_some]
        omega
      · simp only [setKey, h, if_false, List.map_cons, List.sum_cons, lookup_entry, Ne.symm h]
        omega

theorem measure_le_sum (measure : α → Nat) {key : κ} {value : α} {entries : List (κ × α)}
    (h : entries.lookup key = some value) : measure value ≤ (entries.map (measure ·.2)).sum := by
  induction entries with
  | nil => cases h
  | cons entry rest ih =>
      rw [lookup_entry] at h
      by_cases hentry : key = entry.1
      · rw [if_pos hentry] at h
        simp [← Option.some.inj h]
      · rw [if_neg hentry] at h
        have hle := ih h
        simp only [List.map_cons, List.sum_cons]
        omega

theorem mem_iff_lookup {entries : List (κ × α)} (h : (entries.map (·.1)).Nodup) {key : κ}
    {value : α} : (key, value) ∈ entries ↔ entries.lookup key = some value := by
  induction entries with
  | nil => simp
  | cons entry rest ih =>
      obtain ⟨hfresh, hrest⟩ := List.nodup_cons.mp h
      rw [lookup_entry, List.mem_cons]
      by_cases hentry : key = entry.1
      · have hnot : (key, value) ∉ rest := by
          intro hmem
          rw [hentry] at hmem
          exact hfresh (List.mem_map.mpr ⟨_, hmem, rfl⟩)
        rw [if_pos hentry]
        simp only [hnot, or_false, Option.some.injEq]
        constructor
        · intro heq
          rw [← heq]
        · intro heq
          rw [hentry, ← heq]
      · have hne : (key, value) ≠ entry := fun heq => hentry (by rw [← heq])
        simp [hentry, hne, ih hrest]

theorem sum_eq_of_lookup (measure : α → Nat) {entries others : List (κ × α)}
    (h : (entries.map (·.1)).Nodup) (h' : (others.map (·.1)).Nodup)
    (hlookup : ∀ key, entries.lookup key = others.lookup key) :
    (entries.map (measure ·.2)).sum = (others.map (measure ·.2)).sum := by
  have hperm : entries.Perm others := by
    refine (List.perm_ext_iff_of_nodup h.of_map h'.of_map).mpr ?_
    rintro ⟨key, value⟩
    rw [mem_iff_lookup h, mem_iff_lookup h', hlookup]
  exact (hperm.map _).sum_nat

end SetKey

/-! ## Updates -/

/-- The updates of a budget that the kernel makes, each through its policy. -/
inductive BudgetUpdate
  | providerAttempt (attemptKey : String) (retry : Bool)
  | usageSnapshot (attemptKey : String) (usage : UsageRecord)
  | assistantTurn (grace : Bool)
  | toolCalls (count : Nat)
  | wrapUp
  | compaction
  deriving DecidableEq

open BudgetPolicy

namespace BudgetUpdate

def apply (profile : OrchestratorProfile) (budget : BudgetState) :
    BudgetUpdate → Except String BudgetState
  | .providerAttempt attemptKey retry => recordProviderAttempt budget profile attemptKey retry
  | .usageSnapshot attemptKey usage => recordUsageSnapshot budget attemptKey usage
  | .assistantTurn grace => .ok (recordAssistantTurn budget grace)
  | .toolCalls count => .ok (recordToolCalls budget count)
  | .wrapUp => .ok (requestWrapUp budget)
  | .compaction => recordCompaction budget (some profile) 0 {}

end BudgetUpdate

theorem recordProviderAttempt_cases {budget budget' : BudgetState} {profile : OrchestratorProfile}
    {attemptKey : String} {retry : Bool}
    (h : recordProviderAttempt budget profile attemptKey retry = .ok budget') :
    (attemptKey ∈ budget.providerAttemptKeys ∧ budget' = budget) ∨
    (attemptKey ∉ budget.providerAttemptKeys ∧
      budget.providerRetriesUsed + (if retry then 1 else 0) ≤ profile.maxProviderRetriesTotal ∧
      budget' = { budget with
        providerAttemptKeys := budget.providerAttemptKeys ++ [attemptKey]
        providerRetriesUsed := budget.providerRetriesUsed + if retry then 1 else 0 }) := by
  unfold recordProviderAttempt at h
  split at h
  · next hknown =>
      simp only [Except.ok.injEq] at h
      exact Or.inl ⟨hknown, h.symm⟩
  · next hnew =>
      by_cases hroom : profile.maxProviderRetriesTotal <
          budget.providerRetriesUsed + if retry then 1 else 0
      · rw [if_pos hroom] at h
        cases h
      · rw [if_neg hroom] at h
        exact Or.inr ⟨hnew, Nat.le_of_not_lt hroom, (Except.ok.inj h).symm⟩

theorem recordUsageSnapshot_cases {budget budget' : BudgetState} {attemptKey : String}
    {usage : UsageRecord} (h : recordUsageSnapshot budget attemptKey usage = .ok budget') :
    attemptKey ∈ budget.providerAttemptKeys ∧
      let previous := (budget.usageByAttempt.lookup attemptKey).getD {}
      budget' = { budget with
        usageByAttempt := setKey attemptKey usage budget.usageByAttempt
        inputTokens := budget.inputTokens + usage.inputTokens - previous.inputTokens
        outputTokens := budget.outputTokens + usage.outputTokens - previous.outputTokens } := by
  unfold recordUsageSnapshot at h
  split at h
  · cases h
  · next hknown =>
      simp only [Except.ok.injEq] at h
      exact ⟨not_not.mp hknown, h.symm⟩

theorem recordCompaction_cases {budget budget' : BudgetState} {profile : OrchestratorProfile}
    (h : recordCompaction budget (some profile) 0 {} = .ok budget') :
    budget' = { budget with compactionsUsed := budget.compactionsUsed + 1 } := by
  unfold recordCompaction at h
  simp only at h
  split at h
  · cases h
  · split at h
    · cases h
    · exact (Except.ok.inj h).symm

theorem BudgetUpdate.apply_clock {profile : OrchestratorProfile} {budget budget' : BudgetState}
    {update : BudgetUpdate} (h : update.apply profile budget = .ok budget') :
    budget'.deadlineAt = budget.deadlineAt ∧ budget'.suspendedAt = budget.suspendedAt := by
  cases update with
  | providerAttempt attemptKey retry =>
      cases recordProviderAttempt_cases h with
      | inl hknown => simp [hknown.2]
      | inr hnew => simp [hnew.2.2]
  | usageSnapshot attemptKey usage => simp [(recordUsageSnapshot_cases h).2]
  | assistantTurn grace =>
      rw [← Except.ok.inj h, recordAssistantTurn]
      split <;> simp
  | toolCalls count => simp [← Except.ok.inj h, recordToolCalls]
  | wrapUp => simp [← Except.ok.inj h, requestWrapUp]
  | compaction => simp [recordCompaction_cases h]

/-! ## Totals -/

def ledgerTotal (budget : BudgetState) (measure : UsageRecord → Nat) : Nat :=
  (budget.usageByAttempt.map (measure ·.2)).sum

/-- `_attempt_inventory_is_unique`, and the totals that are kept beside the ledger. -/
structure Accounted (profile : OrchestratorProfile) (budget : BudgetState) : Prop where
  attemptsUnique : budget.providerAttemptKeys.Nodup
  ledgerUnique : (budget.usageByAttempt.map (·.1)).Nodup
  ledgerRecorded : ∀ key ∈ budget.usageByAttempt.map (·.1), key ∈ budget.providerAttemptKeys
  retries : budget.providerRetriesUsed ≤ profile.maxProviderRetriesTotal
  inputTokens : budget.inputTokens = ledgerTotal budget (·.inputTokens)
  outputTokens : budget.outputTokens = ledgerTotal budget (·.outputTokens)

theorem previous_le_ledgerTotal (budget : BudgetState) (attemptKey : String)
    (measure : UsageRecord → Nat) (hzero : measure {} = 0) :
    measure ((budget.usageByAttempt.lookup attemptKey).getD {}) ≤ ledgerTotal budget measure := by
  cases h : budget.usageByAttempt.lookup attemptKey with
  | none => simp [hzero]
  | some usage => exact measure_le_sum measure h

theorem ledgerTotal_setKey (budget : BudgetState) (attemptKey : String) (usage : UsageRecord)
    (measure : UsageRecord → Nat) (hzero : measure {} = 0) :
    ((setKey attemptKey usage budget.usageByAttempt).map (measure ·.2)).sum =
      ledgerTotal budget measure + measure usage -
        measure ((budget.usageByAttempt.lookup attemptKey).getD {}) := by
  have hsum := sum_setKey measure attemptKey usage budget.usageByAttempt
  have hprevious : (budget.usageByAttempt.lookup attemptKey).elim 0 measure =
      measure ((budget.usageByAttempt.lookup attemptKey).getD {}) := by
    cases budget.usageByAttempt.lookup attemptKey with
    | none => simp [hzero]
    | some usage => rfl
  rw [hprevious] at hsum
  unfold ledgerTotal
  omega

theorem Accounted.of_same {profile : OrchestratorProfile} {budget budget' : BudgetState}
    (h : Accounted profile budget)
    (hkeys : budget'.providerAttemptKeys = budget.providerAttemptKeys)
    (hledger : budget'.usageByAttempt = budget.usageByAttempt)
    (hretries : budget'.providerRetriesUsed = budget.providerRetriesUsed)
    (hinput : budget'.inputTokens = budget.inputTokens)
    (houtput : budget'.outputTokens = budget.outputTokens) : Accounted profile budget' := by
  refine ⟨?_, ?_, ?_, ?_, ?_, ?_⟩
  · rw [hkeys]
    exact h.attemptsUnique
  · rw [hledger]
    exact h.ledgerUnique
  · rw [hledger, hkeys]
    exact h.ledgerRecorded
  · rw [hretries]
    exact h.retries
  · rw [hinput, ledgerTotal, hledger]
    exact h.inputTokens
  · rw [houtput, ledgerTotal, hledger]
    exact h.outputTokens

theorem Accounted.apply {profile : OrchestratorProfile} {budget budget' : BudgetState}
    {update : BudgetUpdate} (h : Accounted profile budget)
    (happly : update.apply profile budget = .ok budget') : Accounted profile budget' := by
  cases update with
  | providerAttempt attemptKey retry =>
      cases recordProviderAttempt_cases happly with
      | inl hknown =>
          rw [hknown.2]
          exact h
      | inr hnew =>
          obtain ⟨hfresh, hroom, rfl⟩ := hnew
          refine ⟨?_, h.ledgerUnique, ?_, hroom, h.inputTokens, h.outputTokens⟩
          · simpa [List.nodup_append] using ⟨h.attemptsUnique, fun key hkey heq => hfresh (heq ▸ hkey)⟩
          · exact fun key hkey => List.mem_append_left _ (h.ledgerRecorded key hkey)
  | usageSnapshot attemptKey usage =>
      obtain ⟨hknown, rfl⟩ := recordUsageSnapshot_cases happly
      refine ⟨h.attemptsUnique, nodup_keys_setKey h.ledgerUnique, ?_, h.retries, ?_, ?_⟩
      · intro key hkey
        cases mem_keys_setKey.mp hkey with
        | inl heq =>
            rw [heq]
            exact hknown
        | inr hold => exact h.ledgerRecorded key hold
      · simp only [ledgerTotal, h.inputTokens]
        exact (ledgerTotal_setKey budget attemptKey usage (·.inputTokens) rfl).symm
      · simp only [ledgerTotal, h.outputTokens]
        exact (ledgerTotal_setKey budget attemptKey usage (·.outputTokens) rfl).symm
  | assistantTurn grace =>
      rw [← Except.ok.inj happly, recordAssistantTurn]
      split <;> exact h.of_same rfl rfl rfl rfl rfl
  | toolCalls count =>
      rw [← Except.ok.inj happly]
      exact h.of_same rfl rfl rfl rfl rfl
  | wrapUp =>
      rw [← Except.ok.inj happly]
      exact h.of_same rfl rfl rfl rfl rfl
  | compaction =>
      rw [recordCompaction_cases happly]
      exact h.of_same rfl rfl rfl rfl rfl

end Hybro.Orchestrator
