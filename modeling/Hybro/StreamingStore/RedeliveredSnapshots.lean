import Hybro.StreamingStore.MergeStreamArtifacts

/-! # Redelivered snapshots

A snapshot that the text ends with, or that changed nothing, changes nothing again. Only a
window that was stitched on without its full stop is not found in the text any more.
-/

namespace Hybro.StreamingStore

open JsText

/-! ## The overlap -/

theorem overlapFrom_le (existing incoming : Text) (size : Nat) :
    overlapFrom existing incoming size ≤ size := by
  induction size with
  | zero => exact Nat.le_refl _
  | succ size ih =>
      unfold overlapFrom
      split
      · exact Nat.le_refl _
      · exact Nat.le_succ_of_le ih

theorem take_overlapFrom_suffix (existing incoming : Text) (size : Nat) :
    incoming.take (overlapFrom existing incoming size) <:+ existing := by
  induction size with
  | zero => simp [overlapFrom]
  | succ size ih =>
      unfold overlapFrom
      split
      · rename_i hends
        exact endsWith_iff.mp hends
      · exact ih

/-- Every beginning that ends the text is at most as long as the one that is found. -/
theorem le_overlapFrom {existing incoming : Text} {count size : Nat}
    (hends : incoming.take count <:+ existing) (hcount : count ≤ size) :
    count ≤ overlapFrom existing incoming size := by
  induction size with
  | zero => exact hcount
  | succ size ih =>
      unfold overlapFrom
      split
      · exact hcount
      · rename_i hnot
        rcases Nat.lt_or_eq_of_le hcount with hlt | rfl
        · exact ih (Nat.le_of_lt_succ hlt)
        · exact absurd (endsWith_iff.mpr hends) hnot

theorem noOverlap_iff {existing incoming : Text} :
    NoOverlap existing incoming ↔ overlap existing incoming = 0 := by
  constructor
  · intro h
    by_contra hne
    have htake := take_overlapFrom_suffix existing incoming
      (min existing.length incoming.length)
    have hle := overlapFrom_le existing incoming (min existing.length incoming.length)
    refine h _ ?_ (List.take_prefix _ _) htake
    intro hnil
    have hlength := congrArg List.length hnil
    unfold overlap at hne
    simp only [List.length_take, List.length_nil] at hlength
    omega
  · intro hzero part hpart hprefix hsuffix
    have htake : incoming.take part.length = part := List.prefix_iff_eq_take.mp hprefix |>.symm
    have hle : part.length ≤ min existing.length incoming.length :=
      Nat.le_min.mpr ⟨hsuffix.length_le, hprefix.length_le⟩
    rw [← htake] at hsuffix
    have hfound := le_overlapFrom hsuffix hle
    unfold overlap at hzero
    rw [hzero] at hfound
    exact hpart (List.eq_nil_of_length_eq_zero (Nat.le_zero.mp hfound))

/-- The text with the rest of the incoming one behind the overlap ends with the incoming one. -/
theorem suffix_append_drop_overlap (existing incoming : Text) :
    incoming <:+ existing ++ incoming.drop (overlap existing incoming) := by
  obtain ⟨front, hfront⟩ := take_overlapFrom_suffix existing incoming
    (min existing.length incoming.length)
  refine ⟨front, ?_⟩
  calc front ++ incoming
      = front ++ (incoming.take (overlap existing incoming) ++
          incoming.drop (overlap existing incoming)) := by rw [List.take_append_drop]
    _ = existing ++ incoming.drop (overlap existing incoming) := by
          rw [← List.append_assoc]
          exact congrArg (· ++ _) hfront

theorem overlap_of_suffix {existing incoming : Text} (h : incoming <:+ existing) :
    overlap existing incoming = incoming.length := by
  have hmin : min existing.length incoming.length = incoming.length :=
    Nat.min_eq_right h.length_le
  have hle := overlapFrom_le existing incoming incoming.length
  have hge : incoming.length ≤ overlapFrom existing incoming incoming.length := by
    refine le_overlapFrom ?_ (Nat.le_refl _)
    rwa [List.take_length]
  unfold overlap
  rw [hmin]
  omega

/-! ## Merging again -/

theorem merge_of_suffix {existing incoming : Text} (h : incoming <:+ existing) :
    mergeStreamingTextSnapshots existing incoming = existing := by
  unfold mergeStreamingTextSnapshots
  by_cases hincoming : incoming = []
  · rw [if_pos hincoming]
  · have hpos : 0 < incoming.length := List.length_pos_iff.mpr hincoming
    rw [if_neg hincoming]
    split_ifs with hexisting hpunctuation hprefix hwithin hoverlap
    · rw [hexisting] at h
      exact (List.suffix_nil.mp h).trans hexisting.symm
    · rfl
    · have hlonger := (startsWith_iff.mp hprefix).length_le
      exact h.eq_of_length_le hlonger
    · rfl
    · rw [overlap_of_suffix h, List.drop_length, List.append_nil]
    all_goals exact absurd (overlap_of_suffix h ▸ hpos) hoverlap

/-- The snapshot is a disjoint window that starts with a full stop. -/
structure DisjointWindow (existing incoming : Text) : Prop where
  stop : [0x2e] <+: incoming
  within : ¬incoming <:+: existing
  around : ¬existing <:+: incoming
  overlaps : NoOverlap existing incoming
  long : 48 < existing.length ∨ 48 < incoming.length
  unspaced : ¬[0x20] <:+ existing ∧ ¬[0x0a] <:+ existing

/-- The window is stitched on, and next time it is no bare punctuation beside the text. -/
structure StitchedWindow (existing incoming : Text) : Prop extends
    DisjointWindow existing incoming where
  words : isPunctuationOnlySnapshot incoming = true →
    existing.length + (stitchedTail incoming).length ≤ incoming.length

theorem merge_cases {existing incoming : Text} (hincoming : incoming ≠ []) :
    mergeStreamingTextSnapshots existing incoming = existing ∨
      incoming <:+ mergeStreamingTextSnapshots existing incoming ∨
      DisjointWindow existing incoming ∧
        mergeStreamingTextSnapshots existing incoming = existing ++ stitchedTail incoming := by
  unfold mergeStreamingTextSnapshots
  rw [if_neg hincoming]
  split_ifs with hexisting hpunctuation hprefix hwithin hoverlap hin haround hshort hlength hstop
    hspace
  · exact .inr (.inl (List.suffix_refl _))
  · exact .inl rfl
  · exact .inr (.inl (List.suffix_refl _))
  · exact .inl rfl
  · exact .inr (.inl (suffix_append_drop_overlap existing incoming))
  · exact .inl rfl
  · exact .inr (.inl (List.suffix_refl _))
  · exact .inr (.inl (List.suffix_refl _))
  · exact .inr (.inl (List.suffix_append _ _))
  · exact .inr (.inl (List.suffix_append _ _))
  · rw [Bool.or_eq_true, endsWith_iff, endsWith_iff, not_or] at hspace
    refine .inr (.inr ⟨?_, rfl⟩)
    exact {
      stop := startsWith_iff.mp hstop
      within := fun h => hin (includes_iff.mpr h)
      around := fun h => haround (includes_iff.mpr h)
      overlaps := noOverlap_iff.mpr (Nat.eq_zero_of_not_pos hoverlap)
      long := by omega
      unspaced := hspace }
  · exact .inr (.inl (List.suffix_append _ _))

theorem DisjointWindow.ne_nil {existing incoming : Text} (h : DisjointWindow existing incoming) :
    existing ≠ [] := by
  rintro rfl
  exact h.around List.nil_infix

theorem DisjointWindow.length_tail_lt {existing incoming : Text}
    (h : DisjointWindow existing incoming) :
    (stitchedTail incoming).length < incoming.length := by
  have hle := length_replaceLeadingSpace_le (incoming.drop 1)
  have hpos := h.stop.length_le
  rw [List.length_drop] at hle
  rw [List.length_singleton] at hpos
  unfold stitchedTail
  omega

theorem DisjointWindow.merge {existing incoming : Text} (h : DisjointWindow existing incoming)
    (hpunctuation : isPunctuationOnlySnapshot incoming = true → existing.length ≤ incoming.length) :
    mergeStreamingTextSnapshots existing incoming = existing ++ stitchedTail incoming := by
  have hincoming : incoming ≠ [] := by
    rintro rfl
    exact h.within List.nil_infix
  have hlong := h.long
  unfold mergeStreamingTextSnapshots
  rw [if_neg hincoming, if_neg h.ne_nil, if_neg, if_neg, if_neg, if_neg, if_neg, if_neg, if_neg,
    if_pos (startsWith_iff.mpr h.stop), if_neg]
  · rw [Bool.or_eq_true, endsWith_iff, endsWith_iff, not_or]
    exact h.unspaced
  · omega
  · exact fun hin => h.around (includes_iff.mp hin)
  · exact fun hin => h.within (includes_iff.mp hin)
  · rw [noOverlap_iff.mp h.overlaps]
    exact Nat.lt_irrefl 0
  · exact fun hin => h.within (startsWith_iff.mp hin).isInfix
  · exact fun hin => h.around (startsWith_iff.mp hin).isInfix
  · rw [Bool.and_eq_true, decide_eq_true_eq]
    rintro ⟨hbare, hlt⟩
    have hle := hpunctuation hbare
    omega

theorem StitchedWindow.tail_ne_nil {existing incoming : Text}
    (h : StitchedWindow existing incoming) : stitchedTail incoming ≠ [] := by
  intro htail
  have hdrop : incoming.drop 1 = [] := by
    by_contra hne
    exact replaceLeadingSpace_ne_nil hne htail
  have hlength : incoming.length ≤ 1 := List.drop_eq_nil_iff.mp hdrop
  have hincoming : incoming = [0x2e] := (h.stop.eq_of_length_le hlength).symm
  have hwords := h.words (by rw [hincoming]; decide)
  have hlong := h.long
  omega

theorem StitchedWindow.merge_again {existing incoming : Text}
    (h : StitchedWindow existing incoming) :
    mergeStreamingTextSnapshots (existing ++ stitchedTail incoming) incoming ≠
      existing ++ stitchedTail incoming := by
  have hlt := h.length_tail_lt
  have hincoming : incoming ≠ [] := List.ne_nil_of_length_pos (Nat.zero_lt_of_lt hlt)
  have hinside : ¬incoming <:+: existing ++ stitchedTail incoming :=
    h.overlaps.not_infix h.within hlt
  have hfront : existing <:+: existing ++ stitchedTail incoming :=
    (List.prefix_append _ _).isInfix
  intro hsame
  -- a snapshot that leaves the text alone is in it, or is bare punctuation
  unfold mergeStreamingTextSnapshots at hsame
  rw [if_neg hincoming] at hsame
  split_ifs at hsame with hexisting hpunctuation hprefix hwithin hoverlap hin haround hshort
    hlength hstop hspace
  · exact h.ne_nil (List.append_eq_nil_iff.mp hexisting).1
  · rw [Bool.and_eq_true, decide_eq_true_eq, List.length_append] at hpunctuation
    have hwords := h.words hpunctuation.1
    omega
  · exact h.around (hfront.trans (startsWith_iff.mp hprefix).isInfix)
  · exact hinside (startsWith_iff.mp hwithin).isInfix
  · have hends := suffix_append_drop_overlap (existing ++ stitchedTail incoming) incoming
    rw [hsame] at hends
    exact hinside hends.isInfix
  · exact hinside (includes_iff.mp hin)
  · exact h.around (hfront.trans (includes_iff.mp haround))
  · have hlong := h.long
    rw [List.length_append] at hshort
    omega
  · have hlong := h.long
    rw [List.length_append] at hshort
    omega
  · exact hincoming (List.append_right_eq_self.mp hsame)
  · exact h.tail_ne_nil (List.append_right_eq_self.mp hsame)
  · exact hstop (startsWith_iff.mpr h.stop)

/-- A snapshot is merged twice as once, except where it is stitched on. -/
theorem mergeStreamingTextSnapshots_redelivered (existing incoming : Text) :
    mergeStreamingTextSnapshots (mergeStreamingTextSnapshots existing incoming) incoming =
        mergeStreamingTextSnapshots existing incoming ↔
      ¬StitchedWindow existing incoming := by
  by_cases hincoming : incoming = []
  · refine iff_of_true ?_ ?_
    · simp [mergeStreamingTextSnapshots, hincoming]
    · intro h
      exact h.within (hincoming ▸ List.nil_infix)
  rcases @merge_cases existing incoming hincoming with hsame | hends | ⟨hwindow, hmerged⟩
  · refine iff_of_true (by rw [hsame, hsame]) ?_
    intro h
    have hmerged := h.toDisjointWindow.merge fun hbare =>
      Nat.le_trans (Nat.le_add_right _ _) (h.words hbare)
    rw [hsame] at hmerged
    exact h.tail_ne_nil (List.append_right_eq_self.mp hmerged.symm)
  · refine iff_of_true (merge_of_suffix hends) ?_
    intro h
    have hmerged := h.toDisjointWindow.merge fun hbare =>
      Nat.le_trans (Nat.le_add_right _ _) (h.words hbare)
    rw [hmerged] at hends
    exact h.overlaps.not_suffix h.length_tail_lt hends
  · rw [hmerged]
    constructor
    · intro hagain h
      exact h.merge_again hagain
    · intro hnot
      have hbare : isPunctuationOnlySnapshot incoming = true ∧
          incoming.length < existing.length + (stitchedTail incoming).length := by
        by_contra hwords
        refine hnot { toDisjointWindow := hwindow, words := fun hbare => ?_ }
        have hle := not_and.mp hwords hbare
        omega
      have hne : existing ++ stitchedTail incoming ≠ [] := by simp [hwindow.ne_nil]
      unfold mergeStreamingTextSnapshots
      rw [if_neg hincoming, if_neg hne, if_pos]
      simpa using hbare

/-! ## Lists of artifacts -/

variable {Payload : Type}

theorem artifactText_withParts (current incoming : ArtifactData Payload) (text : Text) :
    artifactText (current.withParts incoming [{ kind := .text, text := some text }]) = text := by
  simp [artifactText, ArtifactData.withParts]

theorem isTextOnly_withParts (current incoming : ArtifactData Payload) (text : Text) :
    isTextOnlyArtifact (current.withParts incoming [{ kind := .text, text := some text }]) =
      true := by
  simp [isTextOnlyArtifact, ArtifactData.withParts]

def snapshotMerged (current incoming : ArtifactData Payload) : ArtifactData Payload :=
  current.withParts incoming [{
    kind := .text
    text := some (mergeStreamingTextSnapshots (artifactText current) (artifactText incoming)) }]

/-- The list holds `current` at `idx`, as the first artifact with its id. -/
structure HeldAt (list : List (ArtifactData Payload)) (artifactId : String) (idx : Nat)
    (current : ArtifactData Payload) : Prop where
  found : list.findIdx? (·.artifactId = artifactId) = some idx
  at_idx : list[idx]? = some current

section Held

variable {list : List (ArtifactData Payload)} {incoming current : ArtifactData Payload} {idx : Nat}

theorem heldAt_of_findIdx? {artifactId : String}
    (h : list.findIdx? (·.artifactId = artifactId) = some idx) :
    ∃ current, HeldAt list artifactId idx current ∧ current.artifactId = artifactId := by
  obtain ⟨hlt, hid, -⟩ := List.findIdx?_eq_some_iff_getElem.mp h
  exact ⟨list[idx], ⟨h, List.getElem?_eq_getElem hlt⟩, of_decide_eq_true hid⟩

theorem HeldAt.set {artifactId : String} {next : ArtifactData Payload}
    (h : HeldAt list artifactId idx current) (hid : next.artifactId = artifactId) :
    HeldAt (list.set idx next) artifactId idx next := by
  obtain ⟨hlt, -, hbefore⟩ := List.findIdx?_eq_some_iff_getElem.mp h.found
  have hlt' : idx < (list.set idx next).length := by rwa [List.length_set]
  refine ⟨List.findIdx?_eq_some_iff_getElem.mpr ⟨hlt', by simp [hid], ?_⟩, by simp [hlt]⟩
  intro j hj
  rw [List.getElem_set_ne (Nat.ne_of_gt hj)]
  exact hbefore j hj

theorem heldAt_set {artifactId : String}
    {next : ArtifactData Payload} (hnone : list.findIdx? (·.artifactId = artifactId) = none)
    (hlt : idx < list.length) (hid : next.artifactId = artifactId) :
    HeldAt (list.set idx next) artifactId idx next := by
  have hlt' : idx < (list.set idx next).length := by rwa [List.length_set]
  refine ⟨List.findIdx?_eq_some_iff_getElem.mpr ⟨hlt', by simp [hid], ?_⟩, by simp [hlt]⟩
  intro j hj
  rw [List.getElem_set_ne (Nat.ne_of_gt hj)]
  exact Bool.eq_false_iff.mp (List.findIdx?_eq_none_iff.mp hnone _ (List.getElem_mem _))

theorem heldAt_append {artifactId : String} {next : ArtifactData Payload}
    (hnone : list.findIdx? (·.artifactId = artifactId) = none)
    (hid : next.artifactId = artifactId) :
    HeldAt (list ++ [next]) artifactId list.length next := by
  refine ⟨?_, by simp⟩
  rw [List.findIdx?_append, hnone]
  simp [hid]

theorem mergeStreamArtifacts_held (existing : Option (List (ArtifactData Payload)))
    (h : HeldAt (existing.getD []) incoming.artifactId idx current) (append : Bool) :
    mergeStreamArtifacts existing incoming append =
      mergeHeld (existing.getD []) idx current incoming append := by
  simp only [mergeStreamArtifacts, h.found, h.at_idx]

theorem mergeHeld_self (htext : isTextOnlyArtifact incoming = true) :
    mergeHeld list idx incoming incoming false = list := by
  simp [mergeHeld, htext, merge_of_suffix (List.suffix_refl _)]

theorem mergeHeld_redelivered (h : HeldAt list incoming.artifactId idx current)
    (hid : current.artifactId = incoming.artifactId) (htext : isTextOnlyArtifact incoming = true)
    (hcurrent : isTextOnlyArtifact current = true) :
    mergeStreamArtifacts (some (mergeHeld list idx current incoming false)) incoming false =
        mergeHeld list idx current incoming false ↔
      ¬StitchedWindow (artifactText current) (artifactText incoming) := by
  rw [← mergeStreamingTextSnapshots_redelivered]
  by_cases hsame : mergeStreamingTextSnapshots (artifactText current) (artifactText incoming) =
      artifactText current
  · have hlist : mergeHeld list idx current incoming false = list := by
      simp [mergeHeld, htext, hcurrent, hsame]
    rw [hlist, mergeStreamArtifacts_held (some list) h, Option.getD_some, hlist]
    exact iff_of_true rfl (by rw [hsame, hsame])
  · have hlist : mergeHeld list idx current incoming false =
        list.set idx (snapshotMerged current incoming) := by
      simp [mergeHeld, htext, hcurrent, hsame, snapshotMerged]
    have hnext : HeldAt (list.set idx (snapshotMerged current incoming)) incoming.artifactId idx
        (snapshotMerged current incoming) := h.set hid
    have hmerged : artifactText (snapshotMerged current incoming) =
        mergeStreamingTextSnapshots (artifactText current) (artifactText incoming) :=
      artifactText_withParts _ _ _
    have honly : isTextOnlyArtifact (snapshotMerged current incoming) = true :=
      isTextOnly_withParts _ _ _
    rw [hlist, mergeStreamArtifacts_held (some _) hnext, Option.getD_some]
    simp only [mergeHeld, htext, honly, hmerged, Bool.and_self, Bool.false_eq_true, if_false,
      if_true]
    split
    · rename_i hagain
      exact iff_of_true rfl hagain
    · rename_i hagain
      refine iff_of_false ?_ hagain
      intro hsets
      have hat := congrArg (fun items : List (ArtifactData Payload) => items[idx]?) hsets
      simp only [List.getElem?_set_self', hnext.at_idx, Option.map_eq_map, Option.map_some,
        Option.some.injEq, Function.const_apply] at hat
      have htexts := congrArg artifactText hat
      rw [artifactText_withParts, hmerged] at htexts
      exact hagain htexts

theorem HeldAt.find {artifactId : String} (h : HeldAt list artifactId idx current) :
    list.find? (·.artifactId = artifactId) = some current := by
  obtain ⟨hlt, hid, hbefore⟩ := List.findIdx?_eq_some_iff_getElem.mp h.found
  have hat : list[idx] = current := by
    have hget := h.at_idx
    rw [List.getElem?_eq_getElem hlt] at hget
    exact Option.some.inj hget
  rw [List.find?_eq_some_iff_getElem]
  refine ⟨hat ▸ hid, idx, hlt, hat, ?_⟩
  intro j hj
  simpa using hbefore j hj

theorem mergeStreamArtifacts_self (h : HeldAt list incoming.artifactId idx incoming)
    (htext : isTextOnlyArtifact incoming = true) :
    mergeStreamArtifacts (some list) incoming false = list := by
  rw [mergeStreamArtifacts_held (some list) h]
  exact mergeHeld_self htext

theorem mergeStreamArtifacts_new (existing : Option (List (ArtifactData Payload)))
    (htext : isTextOnlyArtifact incoming = true)
    (hnone : (existing.getD []).findIdx? (·.artifactId = incoming.artifactId) = none) :
    mergeStreamArtifacts (some (mergeStreamArtifacts existing incoming false)) incoming false =
      mergeStreamArtifacts existing incoming false := by
  have hpush := mergeStreamArtifacts_self (heldAt_append hnone rfl) htext
  cases hname : sameNameIdx (existing.getD []) incoming with
  | none => simpa only [mergeStreamArtifacts, hnone, hname] using hpush
  | some idx =>
      cases hat : (existing.getD [])[idx]? with
      | none => simpa only [mergeStreamArtifacts, hnone, hname, hat] using hpush
      | some current =>
          have hlt : idx < (existing.getD []).length := (List.getElem?_eq_some_iff.mp hat).1
          have hset := mergeStreamArtifacts_self (heldAt_set hnone hlt rfl) htext
          by_cases hlonger : startsWith (artifactText incoming) (artifactText current) = true
          · have hmerged : mergeStreamArtifacts existing incoming false =
                (existing.getD []).set idx incoming := by
              simp only [mergeStreamArtifacts, hnone, hname, hat, hlonger, if_true]
            rw [hmerged, hset]
          · by_cases hshorter : startsWith (artifactText current) (artifactText incoming) = true
            · have hkept : ∀ items : Option (List (ArtifactData Payload)),
                  items.getD [] = existing.getD [] →
                    mergeStreamArtifacts items incoming false = existing.getD [] := by
                intro items hitems
                simp only [mergeStreamArtifacts, hitems, hnone, hname, hat, if_neg hlonger,
                  if_pos hshorter]
              rw [hkept existing rfl]
              exact hkept _ rfl
            · have hmerged : mergeStreamArtifacts existing incoming false =
                  existing.getD [] ++ [incoming] := by
                simp only [mergeStreamArtifacts, hnone, hname, hat, if_neg hlonger,
                  if_neg hshorter]
              rw [hmerged, hpush]

theorem mergeStreamArtifacts_redelivered (existing : Option (List (ArtifactData Payload)))
    (htext : isTextOnlyArtifact incoming = true) :
    mergeStreamArtifacts (some (mergeStreamArtifacts existing incoming false)) incoming false =
        mergeStreamArtifacts existing incoming false ↔
      ∀ current, (existing.getD []).find? (·.artifactId = incoming.artifactId) = some current →
        isTextOnlyArtifact current = true →
          ¬StitchedWindow (artifactText current) (artifactText incoming) := by
  cases hfound : (existing.getD []).findIdx? (·.artifactId = incoming.artifactId) with
  | none =>
      refine iff_of_true (mergeStreamArtifacts_new existing htext hfound) ?_
      intro current hcurrent
      have hid := List.find?_some hcurrent
      have hnot := List.findIdx?_eq_none_iff.mp hfound current (List.mem_of_find?_eq_some hcurrent)
      exact absurd hid (Bool.eq_false_iff.mp hnot)
  | some idx =>
      obtain ⟨current, hheld, hid⟩ := heldAt_of_findIdx? hfound
      rw [mergeStreamArtifacts_held existing hheld, hheld.find]
      cases hcurrent : isTextOnlyArtifact current with
      | true =>
          rw [mergeHeld_redelivered hheld hid htext hcurrent]
          simp [hcurrent]
      | false =>
          have hreplaced : mergeHeld (existing.getD []) idx current incoming false =
              (existing.getD []).set idx incoming := by
            simp [mergeHeld, hcurrent]
          rw [hreplaced, mergeStreamArtifacts_self (hheld.set rfl) htext]
          simp [hcurrent]

end Held

/-- A redelivered snapshot changes nothing, but for a window that is stitched on. -/
theorem redelivered_snapshot :
    (∀ existing incoming : Text,
      mergeStreamingTextSnapshots (mergeStreamingTextSnapshots existing incoming) incoming =
          mergeStreamingTextSnapshots existing incoming ↔
        ¬StitchedWindow existing incoming) ∧
    ∀ (existing : Option (List (ArtifactData Payload))) (incoming : ArtifactData Payload),
      isTextOnlyArtifact incoming = true →
        (mergeStreamArtifacts (some (mergeStreamArtifacts existing incoming false)) incoming false =
            mergeStreamArtifacts existing incoming false ↔
          ∀ current,
            (existing.getD []).find? (·.artifactId = incoming.artifactId) = some current →
              isTextOnlyArtifact current = true →
                ¬StitchedWindow (artifactText current) (artifactText incoming)) :=
  ⟨mergeStreamingTextSnapshots_redelivered,
    fun existing _ htext => mergeStreamArtifacts_redelivered existing htext⟩

def textArtifact (text : String) : ArtifactData Unit where
  artifactId := "stream-1"
  parts := [{ kind := .text, text := some (ofString text) }]

theorem redelivered_snapshot_stale :
    mergeStreamArtifacts (some (mergeStreamArtifacts (some [textArtifact "Hello world"])
        (textArtifact "Hello") false)) (textArtifact "Hello") false =
      mergeStreamArtifacts (some [textArtifact "Hello world"]) (textArtifact "Hello") false := by
  refine (redelivered_snapshot.2 _ (textArtifact "Hello") (by decide)).mpr ?_
  intro current hcurrent _ hstitched
  cases hcurrent
  exact hstitched.within (includes_iff.mp (by decide +kernel))

/-- Two windows of one text, of which the second starts with the full stop of the first. -/
def newsWindow : Text :=
  ofString "I'll check the latest harness engineering news"

def papersWindow : Text :=
  ofString ". I can see the arXiv tokenomics paper and the career erosion post."

theorem papersWindow_twice :
    mergeStreamingTextSnapshots newsWindow papersWindow = ofString
        ("I'll check the latest harness engineering news" ++
          " I can see the arXiv tokenomics paper and the career erosion post.") ∧
      mergeStreamingTextSnapshots (mergeStreamingTextSnapshots newsWindow papersWindow)
        papersWindow = ofString
          ("I'll check the latest harness engineering news" ++
            " I can see the arXiv tokenomics paper and the career erosion post." ++
              " I can see the arXiv tokenomics paper and the career erosion post.") ∧
      mergeStreamingTextSnapshots (mergeStreamingTextSnapshots newsWindow papersWindow)
        papersWindow ≠ mergeStreamingTextSnapshots newsWindow papersWindow := by
  decide +kernel

end Hybro.StreamingStore
