import Hybro.RecordStores.Stores

/-! # Writes whose acknowledgement is lost

An insert and a compare-and-set whose write took place although its acknowledgement did not
arrive, and the same operation once more, when nobody else wrote.
-/

namespace Hybro.RecordStores

open BsonDocument BsonDocument.Document

variable {F : Type} [BEq F] {record : Document F} {documents : List (Document F)} {fate : Fate}

/-- The lost acknowledgement and every repeat are answered with `replayed`. -/
def Settles (operation : Fate → List (Document F) → Operation F)
    (documents : List (Document F)) : Prop :=
  (operation .lost documents).answer = .returned .replayed ∧
    ∀ fate, (operation fate (operation .lost documents).documents).answer = .returned .replayed

/-! ## Finding the record again -/

omit [BEq F] in
theorem scalarAt_stored (document : Document F) (name : String) :
    scalarAt (stored document) name = scalarAt document name := by
  rw [scalarAt, field_stored, scalar_stored, scalarAt]

omit [BEq F] in
theorem sameKey_stored (names : List String) (record : Document F) :
    sameKey names record (stored record) = true := by
  simp [sameKey, scalarAt_stored]

omit [BEq F] in
theorem load_inserted {names : List String} :
    load names record (stored record :: documents) = some (stored record) := by
  simp [load, sameKey_stored]

omit [BEq F] in
theorem load_replaced {names : List String} {selects : Document F → Bool} {current : Document F}
    (hload : load names record documents = some current) (hselects : selects current = true)
    (hkey : ∀ document, selects document = true → sameKey names record document = true) :
    load names record (replaceFirst selects record documents) = some (stored record) := by
  induction documents with
  | nil => cases hload
  | cons document documents ih =>
      by_cases hfirst : sameKey names record document = true
      · have heq : document = current := by simpa [load, hfirst] using hload
        subst heq
        simp [replaceFirst, hselects, load, sameKey_stored]
      · have hskip : selects document = false := by
          cases hselected : selects document with
          | false => rfl
          | true => exact absurd (hkey document hselected) hfirst
        have hrest : load names record documents = some current := by
          simpa [load, hfirst] using hload
        simpa [replaceFirst, hskip, load, hfirst] using ih hrest

/-! ## Inserts -/

section Insert

variable {names : List String} {clash repeats survived : Document F → Document F → Bool}

omit [BEq F] in
theorem wrote_insert
    (h : (insertOperation names clash repeats survived record .lost documents).wrote = true) :
    load names record documents = none ∧ documents.any (clash record) = false := by
  unfold insertOperation at h
  cases hload : load names record documents with
  | some existing => simp [hload] at h
  | none =>
      cases hclash : documents.any (clash record) with
      | true => simp [hload, insertOne, hclash] at h
      | false => exact ⟨rfl, rfl⟩

omit [BEq F] in
/-- The lost acknowledgement is recognized by `survived`, a repeat by `repeats`. -/
theorem settles_insert
    (h : (insertOperation names clash repeats survived record .lost documents).wrote = true) :
    Settles (insertOperation names clash repeats survived record) documents ↔
      survived (stored record) record = true ∧ repeats (stored record) record = true := by
  obtain ⟨hload, hclash⟩ := wrote_insert h
  have hlost : insertOperation names clash repeats survived record .lost documents =
      ⟨if survived (stored record) record then .returned .replayed else .raised,
        stored record :: documents, true⟩ := by
    simp [insertOperation, hload, insertOne, hclash, carryOut, load_inserted]
  have hrepeat : ∀ fate, (insertOperation names clash repeats survived record fate
      (stored record :: documents)).answer = replayedIf (repeats (stored record) record) := by
    intro fate
    simp [insertOperation, load_inserted]
  simp only [Settles, hlost, hrepeat, replayedIf]
  cases survived (stored record) record with
  | false => simp
  | true =>
      have hfate : Nonempty Fate := ⟨.lost⟩
      cases repeats (stored record) record with
      | false => simp
      | true => simp

end Insert

/-! ## Compare-and-set -/

section Cas

variable {names : List String} {clash : Document F → Document F → Bool}
  {refused : List (Document F) → Document F → Bool} {selects : Document F → Bool}
  {expectedStateVersion : Int}

theorem wrote_cas
    (h : (casOperation names clash refused selects record expectedStateVersion .lost
      documents).wrote = true) :
    ∃ current, load names record documents = some current ∧ same current record = false ∧
      scalarAt record "state_version" = .int (expectedStateVersion + 1) ∧
        refused documents current = false ∧
          replaceOne clash selects .lost record documents =
            ⟨.unavailable, replaceFirst selects record documents, true⟩ ∧
              scalarAt current "state_version" = .int expectedStateVersion := by
  unfold casOperation at h
  cases hload : load names record documents with
  | none => simp [hload] at h
  | some current =>
      simp only [hload] at h
      by_cases hsame : same current record = true
      · simp [hsame] at h
      · by_cases hversion : scalarAt current "state_version" ≠ .int expectedStateVersion ∨
            scalarAt record "state_version" ≠ .int (expectedStateVersion + 1)
        · simp [hsame, hversion] at h
        · by_cases hrefused : refused documents current = true
          · simp [hsame, hversion, hrefused] at h
          · have hwrite : replaceOne clash selects .lost record documents =
                ⟨.unavailable, replaceFirst selects record documents, true⟩ := by
              by_cases hany : documents.any selects = true
              · by_cases hclash : (documents.any fun document =>
                    !selects document && clash record document) = true
                · simp [hsame, hversion, hrefused, replaceOne, hany, hclash] at h
                · simp [replaceOne, hany, hclash, carryOut]
              · simp [hsame, hversion, hrefused, replaceOne, hany] at h
            obtain ⟨hcurrent, hrecord⟩ := not_or.mp hversion
            exact ⟨current, rfl, by simpa using hsame, by simpa using hrecord,
              by simpa using hrefused, hwrite, by simpa using hcurrent⟩

theorem settles_cas
    (h : (casOperation names clash refused selects record expectedStateVersion .lost
      documents).wrote = true)
    (hselects : ∀ current, load names record documents = some current →
      scalarAt current "state_version" = .int expectedStateVersion →
      refused documents current = false → selects current = true)
    (hkey : ∀ document, selects document = true → sameKey names record document = true) :
    Settles (casOperation names clash refused selects record expectedStateVersion) documents ↔
      same (stored record) record = true := by
  obtain ⟨current, hload, hsame, hrecord, hrefused, hwrite, hversion⟩ := wrote_cas h
  have hfound := load_replaced hload (hselects current hload hversion hrefused) hkey
  have hlost : casOperation names clash refused selects record expectedStateVersion .lost
      documents = ⟨if same (stored record) record then .returned .replayed else .raised,
        replaceFirst selects record documents, true⟩ := by
    simp [casOperation, hload, hsame, hversion, hrecord, hrefused, hwrite, hfound]
  have hnext : scalarAt (stored record) "state_version" ≠ .int expectedStateVersion := by
    rw [scalarAt_stored, hrecord]
    intro heq
    have hint := Scalar.int.inj heq
    omega
  simp only [Settles, hlost]
  cases hkept : same (stored record) record with
  | false => simp
  | true =>
      simp only [if_true, true_and, iff_true]
      intro fate
      simp [casOperation, hfound, hkept]

end Cas

/-! ## The five operations -/

omit [BEq F] in
theorem sameAcceptance_stored : sameAcceptance (stored record) record = true := by
  simp [sameAcceptance, acceptanceIdentity, scalarAt_stored, field_stored]

omit [BEq F] in
theorem samePayload_stored : samePayload (stored record) record = true := by
  simp [samePayload, scalarAt_stored]

omit [BEq F] in
theorem selects_version {names : List String} {version : Scalar} {current : Document F}
    (hload : load names record documents = some current)
    (hversion : scalarAt current "state_version" = version) :
    (sameKey names record current &&
      decide (scalarAt current "state_version" = version)) = true := by
  have hkey : sameKey names record current = true := List.find?_some hload
  simp [hkey, hversion]

/-- When a write took place and nobody else writes, a lost acknowledgement is settled by the
inserts of the ledger always, by the other operations exactly if the record is kept. -/
theorem lost_acknowledgement_iff (record : Document F) (documents : List (Document F)) :
    ((insertCall record .lost documents).wrote = true →
      Settles (insertCall record) documents) ∧
    ((insertBinding record .lost documents).wrote = true →
      (Settles (insertBinding record) documents ↔ Kept record)) ∧
    ((insertObservation record .lost documents).wrote = true →
      (Settles (insertObservation record) documents ↔ Kept record)) ∧
    (∀ version, (casCall record version .lost documents).wrote = true →
      (Settles (casCall record version) documents ↔ Kept record)) ∧
    ∀ version claim, (casObservation record version claim .lost documents).wrote = true →
      (Settles (casObservation record version claim) documents ↔ Kept record) := by
  refine ⟨?_, ?_, ?_, ?_, ?_⟩
  · intro h
    exact (settles_insert h).mpr ⟨sameAcceptance_stored, sameAcceptance_stored⟩
  · intro h
    rw [← same_stored]
    exact (settles_insert h).trans and_self_iff
  · intro h
    rw [← same_stored]
    exact (settles_insert h).trans (and_iff_left samePayload_stored)
  · intro version h
    rw [← same_stored]
    apply settles_cas h
    · intro current hload hversion _
      exact selects_version hload hversion
    · intro document hselected
      exact (Bool.and_eq_true_iff.mp hselected).1
  · intro version claim h
    rw [← same_stored]
    apply settles_cas h
    · intro current hload hversion hrefused
      rw [selects_version hload hversion, Bool.true_and]
      cases claim with
      | none => rfl
      | some worker =>
          simp only [Option.any_some, Bool.or_eq_false_iff] at hrefused
          simpa using hrefused.1
    · intro document hselected
      exact (Bool.and_eq_true_iff.mp (Bool.and_eq_true_iff.mp hselected).1).1

def callManifest : Document Unit :=
  .dict [("schema_version", .int 1), ("manifest_id", .text "manifest"), ("refs", .list []),
    ("content_digest", .text "content")]

def callSnapshot : Document Unit :=
  .dict [("schema_version", .int 1), ("command_id", .text "command"),
    ("message_id", .text "message"), ("task", .text "task"), ("agent_id", .text "agent"),
    ("endpoint_scope", .text "scope"), ("transport_kind", .text "direct"),
    ("requesting_subject_digest", .text "subject"), ("room_id", .text "room"),
    ("room_epoch", .int 1), ("deadline_at", .date 9000), ("resource_manifest", callManifest)]

/-- A working call under a state version, last updated at an instant; fields at their defaults
are left out. -/
def callAt (stateVersion microseconds : Int) : Document Unit :=
  .dict [("schema_version", .int 1), ("state_version", .int stateVersion),
    ("call_record_id", .text "call"), ("invocation_id", .text "invocation"),
    ("acceptance_id", .text "acceptance"), ("idempotency_key", .text "key"),
    ("run_id", .text "run"), ("room_id", .text "room"), ("room_epoch", .int 1),
    ("assistant_message_id", .text "assistant"), ("source_index", .int 0),
    ("tool_name", .text "tool"), ("binding_id", .text "binding"),
    ("binding_digest", .text "digest"), ("agent_id", .text "agent"),
    ("card_digest", .text "card"), ("endpoint_scope_digest", .text "endpoint"),
    ("arguments_digest", .text "arguments"), ("requesting_subject_digest", .text "subject"),
    ("dispatch_snapshot", callSnapshot), ("resource_manifest", callManifest),
    ("state", .text "working"), ("transport_kind", .text "direct"),
    ("dispatch_command_id", .text "command"), ("ownership_alias_keys", .list []),
    ("accepted_at", .date 3000), ("updated_at", .date microseconds)]

theorem lost_acknowledgement_whole :
    Settles (casCall (callAt 1 5000) 0) [callAt 0 3000] :=
  ((lost_acknowledgement_iff (callAt 1 5000) [callAt 0 3000]).2.2.2.1 0 (by decide)).mpr
    (by decide)

/-- An instant of 5.123 ms: the write took place, the call raises, and its repeat conflicts. -/
theorem fraction_not_recognized :
    (casCall (callAt 1 5123) 0 .lost [callAt 0 3000]).wrote = true ∧
    (casCall (callAt 1 5123) 0 .lost [callAt 0 3000]).answer = .raised ∧
    (casCall (callAt 1 5123) 0 .acknowledged
      (casCall (callAt 1 5123) 0 .lost [callAt 0 3000]).documents).answer =
        .returned .conflict := by
  refine ⟨?_, ?_, ?_⟩
  · decide
  · decide
  · decide

end Hybro.RecordStores
