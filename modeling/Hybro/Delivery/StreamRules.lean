import Mathlib.Data.Int.Cast.Lemmas
import Mathlib.Data.Nat.Cast.Basic
import Hybro.Delivery.SSEConnection

/-! # What a slow consumer is promised

Every stream that sends and calls of the consumer lead to delivers the frames in the order of
their sends and none twice, and a connection that has dropped a live delta is marked for
recovery until a snapshot covers the delta.
-/

namespace Hybro.Delivery

variable {Data : Type}

/-! ## The queue -/

namespace SSEConnection

variable {connection : SSEConnection Data} {entry : Entry Data} {droppable : Option Bool}

def Bounded (connection : SSEConnection Data) : Prop :=
  0 < connection.queueMaxsize → (connection.queue.length : Int) ≤ connection.queueMaxsize

/-- What an eviction leaves: some of the entries, and among them all that are no snapshots. -/
structure Kept (queue kept : List (Entry Data)) : Prop where
  sublist : kept.Sublist queue
  deltas : ∀ entry ∈ queue, entry.frame.isSnapshot = false → entry ∈ kept

theorem Kept.refl (queue : List (Entry Data)) : Kept queue queue :=
  ⟨List.Sublist.refl queue, fun _ hmem _ => hmem⟩

theorem Kept.filter (queue : List (Entry Data)) :
    Kept queue (queue.filter (!·.frame.isSnapshot)) := by
  constructor
  · exact List.filter_sublist
  · intro entry hmem hdelta
    simp [hmem, hdelta]

structure Clogged (connection : SSEConnection Data) : Prop where
  full : connection.full = true
  deltas : ∀ entry ∈ connection.queue, entry.frame.isSnapshot = false

theorem putNowait_of_full (h : connection.full = true) : connection.putNowait entry = none := by
  rw [putNowait, if_pos h]

theorem putNowait_of_not_full (h : connection.full = false) :
    connection.putNowait entry = some { connection with queue := connection.queue ++ [entry] } := by
  rw [putNowait, if_neg (by simp [h])]

theorem Bounded.put (h : connection.full = false) :
    Bounded { connection with queue := connection.queue ++ [entry] } := by
  intro hpositive
  have hsize : 0 < connection.queueMaxsize := hpositive
  simp only [full, Bool.and_eq_false_iff, decide_eq_false_iff_not] at h
  change ((connection.queue ++ [entry]).length : Int) ≤ connection.queueMaxsize
  simp only [List.length_append, List.length_singleton]
  omega

theorem Bounded.of_length {other : SSEConnection Data} (h : connection.Bounded)
    (hsize : other.queueMaxsize = connection.queueMaxsize)
    (hlength : other.queue.length ≤ connection.queue.length) : other.Bounded := by
  intro hpositive
  rw [hsize] at hpositive ⊢
  have hbound := h hpositive
  omega

/-- Items that fit are put back in their order, the snapshots among them left out. -/
theorem foldl_keepUnlessSnapshot (items : List (Entry Data)) (connection : SSEConnection Data)
    (h : 0 < connection.queueMaxsize →
      (connection.queue.length + items.length : Int) ≤ connection.queueMaxsize) :
    ∃ dropped, items.foldl keepUnlessSnapshot connection = { connection with
      queue := connection.queue ++ items.filter (!·.frame.isSnapshot), framesDropped := dropped } := by
  induction items generalizing connection with
  | nil => exact ⟨connection.framesDropped, by simp⟩
  | cons item rest ih =>
      simp only [List.length_cons, Nat.cast_add, Nat.cast_one] at h
      cases hsnapshot : item.frame.isSnapshot with
      | true =>
          have hskip : keepUnlessSnapshot connection item =
              { connection with framesDropped := connection.framesDropped + 1 } := by
            rw [keepUnlessSnapshot, if_pos hsnapshot]
          obtain ⟨dropped, heq⟩ := ih (keepUnlessSnapshot connection item) (by
            rw [hskip]
            intro hpositive
            have hbound := h hpositive
            simp only
            omega)
          refine ⟨dropped, ?_⟩
          rw [List.foldl_cons, heq, hskip]
          simp [hsnapshot]
      | false =>
          have hroom : connection.full = false := by
            simp only [full, Bool.and_eq_false_iff, decide_eq_false_iff_not]
            by_cases hpositive : 0 < connection.queueMaxsize
            · have hbound := h hpositive
              right
              omega
            · exact Or.inl hpositive
          have hput : keepUnlessSnapshot connection item =
              { connection with queue := connection.queue ++ [item] } := by
            rw [keepUnlessSnapshot, if_neg (by simp [hsnapshot]), putNowait_of_not_full hroom]
          obtain ⟨dropped, heq⟩ := ih (keepUnlessSnapshot connection item) (by
            rw [hput]
            intro hpositive
            have hbound := h hpositive
            simp only [List.length_append, List.length_singleton, Nat.cast_add, Nat.cast_one]
            omega)
          refine ⟨dropped, ?_⟩
          rw [List.foldl_cons, heq, hput]
          simp [hsnapshot]

theorem evictPendingSnapshots_eq (h : connection.Bounded) :
    ∃ dropped, connection.evictPendingSnapshots = { connection with
      queue := connection.queue.filter (!·.frame.isSnapshot), framesDropped := dropped } := by
  obtain ⟨dropped, heq⟩ := foldl_keepUnlessSnapshot connection.queue { connection with queue := [] }
    (by
      intro hpositive
      have hbound := h hpositive
      simpa using hbound)
  refine ⟨dropped, ?_⟩
  rw [evictPendingSnapshots, heq]
  simp

/-- All that a send can do. Its frame stands behind what is left of the queue, or it was not
taken, and then the connection is marked; room is made only under a mark. -/
theorem sendFrame_cases (h : connection.Bounded) (entry : Entry Data) (droppable : Option Bool) :
    (∃ after kept, connection.sendFrame entry droppable = (after, true) ∧
      Kept connection.queue kept ∧ after.queue = kept ++ [entry] ∧ after.Bounded ∧
      ¬ connection.Clogged ∧
      (after.needsResync = true ∨
        kept = connection.queue ∧ after.needsResync = connection.needsResync)) ∨
    (∃ after, connection.sendFrame entry droppable = (after, false) ∧
      Kept connection.queue after.queue ∧ after.Bounded ∧ after.needsResync = true ∧
      (Sent.isDelta ⟨entry.frame, droppable⟩ = true ∨ connection.Clogged → after.Clogged)) := by
  cases hfull : connection.full with
  | false =>
      refine Or.inl ⟨{ connection with queue := connection.queue ++ [entry] }, connection.queue, ?_,
        Kept.refl _, rfl, Bounded.put hfull, ?_, Or.inr ⟨rfl, rfl⟩⟩
      · rw [sendFrame, putNowait_of_not_full hfull]
      · intro hclogged
        rw [hclogged.full] at hfull
        cases hfull
  | true =>
      have hrefused : connection.putNowait entry = none := putNowait_of_full hfull
      by_cases hpolicy : droppable.getD entry.frame.isSnapshot = true
      · refine Or.inr ⟨{ connection with
          needsResync := true, framesDropped := connection.framesDropped + 1 }, ?_,
          Kept.refl _, h, rfl, ?_⟩
        · simp only [sendFrame, hrefused, if_pos hpolicy]
        · intro hcase
          cases hcase with
          | inl hdelta =>
              cases droppable with
              | none => simp_all [Sent.isDelta]
              | some value => simp_all [Sent.isDelta]
          | inr hclogged => exact ⟨hclogged.full, hclogged.deltas⟩
      · have hmarked : Bounded { connection with
            needsResync := true, framesDropped := connection.framesDropped + 1 } := h
        obtain ⟨dropped, hevicted⟩ := evictPendingSnapshots_eq hmarked
        generalize hkept : connection.queue.filter (!·.frame.isSnapshot) = kept
        have hsublist : Kept connection.queue kept := by
          rw [← hkept]
          exact Kept.filter _
        have hdeltas : ∀ item ∈ kept, item.frame.isSnapshot = false := by
          intro item hitem
          rw [← hkept] at hitem
          simpa using (List.mem_filter.mp hitem).2
        simp only [hkept] at hevicted
        cases hroom : ({ connection with
            needsResync := true, queue := kept, framesDropped := dropped } :
            SSEConnection Data).full with
        | false =>
            refine Or.inl ⟨{ connection with
              needsResync := true, queue := kept ++ [entry], framesDropped := dropped }, kept, ?_,
              hsublist, rfl, Bounded.put hroom, ?_, Or.inl rfl⟩
            · simp only [sendFrame, hrefused, if_neg hpolicy, hevicted, putNowait_of_not_full hroom]
            · intro hclogged
              have hsame : kept = connection.queue := by
                rw [← hkept]
                apply List.filter_eq_self.mpr
                intro item hitem
                simp [hclogged.deltas item hitem]
              have hstill := hclogged.full
              simp only [full, hsame] at hroom hstill
              rw [hroom] at hstill
              cases hstill
        | true =>
            refine Or.inr ⟨{ connection with
              needsResync := true, queue := kept, framesDropped := dropped }, ?_, hsublist, ?_, rfl,
              fun _ => ⟨hroom, hdeltas⟩⟩
            · simp only [sendFrame, hrefused, if_neg hpolicy, hevicted, putNowait_of_full hroom]
            · exact h.of_length rfl hsublist.sublist.length_le

theorem beginResync_some {after : SSEConnection Data} {hasProvider : Bool} {now : Int}
    (h : connection.beginResync hasProvider now = some after) :
    connection.needsResync = true ∧ after = { connection with resyncBackoffUntil := some (now + 2000) } := by
  unfold beginResync at h
  split at h
  · cases h
  · rename_i hasked
    split at h
    · cases h
    · simp at hasked
      exact ⟨hasked.1, (Option.some.inj h).symm⟩

/-- All that the end of a recovery can do: nothing, or its snapshot is queued and clears the
mark, when there is room. -/
theorem finishResync_cases (connection : SSEConnection Data) (data : Option Data) :
    connection.finishResync data = connection ∨
    ∃ snapshot, data = some snapshot ∧ connection.full = false ∧
      connection.finishResync data = { connection with
        queue := connection.queue ++ [⟨⟨some "snapshot", snapshot⟩, none⟩],
        needsResync := false, resyncBackoffUntil := none } := by
  cases data with
  | none => exact Or.inl rfl
  | some snapshot =>
      cases hfull : connection.full with
      | true =>
          left
          simp only [finishResync, putNowait_of_full hfull]
      | false =>
          right
          refine ⟨snapshot, rfl, rfl, ?_⟩
          simp only [finishResync, putNowait_of_not_full hfull]

end SSEConnection

/-! ## Entries -/

def numbers (entries : List (Entry Data)) : List Nat :=
  entries.filterMap (·.sent)

/-- There is a snapshot among the entries that covers a send. -/
def Recovers (covers : Data → Nat → Prop) (entries : List (Entry Data)) (index : Nat) : Prop :=
  ∃ entry ∈ entries, entry.frame.isSnapshot = true ∧ covers entry.frame.data index

/-- A numbered frame is that of its send, and the others are the connection's own. -/
def Entry.Own (sent : List (Sent Data)) (entry : Entry Data) : Prop :=
  match entry.sent with
  | some index => (sent[index]?).map (·.frame) = some entry.frame
  | none => entry.frame.type = some "heartbeat" ∨ entry.frame.type = some "snapshot"

section Entries

variable {covers : Data → Nat → Prop} {entries kept : List (Entry Data)} {entry : Entry Data}
variable {sent more : List (Sent Data)} {index : Nat}

@[simp]
theorem mem_numbers : index ∈ numbers entries ↔ ∃ entry ∈ entries, entry.sent = some index := by
  simp [numbers]

@[simp]
theorem numbers_append (first second : List (Entry Data)) :
    numbers (first ++ second) = numbers first ++ numbers second := by
  simp [numbers]

theorem numbers_numbered (frame : Frame Data) : numbers [⟨frame, some index⟩] = [index] := rfl

theorem numbers_own (frame : Frame Data) : numbers [⟨frame, none⟩] = [] := rfl

theorem Recovers.mono (h : Recovers covers kept index) (hsub : ∀ entry ∈ kept, entry ∈ entries) :
    Recovers covers entries index := by
  obtain ⟨entry, hmem, hsnapshot⟩ := h
  exact ⟨entry, hsub entry hmem, hsnapshot⟩

theorem Entry.Own.numbered (h : entry.Own sent) (hindex : entry.sent = some index) :
    ∃ send, sent[index]? = some send ∧ send.frame = entry.frame := by
  rw [Entry.Own, hindex] at h
  simpa using h

theorem Entry.Own.lt (h : entry.Own sent) (hindex : entry.sent = some index) :
    index < sent.length := by
  obtain ⟨send, hsend, -⟩ := h.numbered hindex
  exact (List.getElem?_eq_some_iff.mp hsend).1

theorem Entry.Own.append (h : entry.Own sent) : entry.Own (sent ++ more) := by
  cases hindex : entry.sent with
  | none =>
      rw [Entry.Own, hindex] at h ⊢
      exact h
  | some index =>
      have hlt := h.lt hindex
      simp only [Entry.Own, hindex] at h ⊢
      rw [List.getElem?_append_left hlt]
      exact h

end Entries

/-! ## The invariant -/

namespace Stream

variable {covers : Data → Nat → Prop} {stream : Stream Data} {hasProvider : Bool}

def inHand (stream : Stream Data) : List (Entry Data) :=
  match stream.consumer with
  | .resyncing entry _ => [entry]
  | _ => []

/-- All frames that the connection took and did not lose, from the oldest. -/
def entries (stream : Stream Data) : List (Entry Data) :=
  stream.delivered ++ stream.inHand ++ stream.connection.queue

/-- The connection is marked, or a snapshot that covers the delta is queued or was delivered
after the drop. -/
def Recovering (covers : Data → Nat → Prop) (stream : Stream Data) (drop : Dropped) : Prop :=
  stream.connection.needsResync = true ∨
    Recovers covers stream.connection.queue drop.sent ∨
    Recovers covers (stream.delivered.drop drop.delivered) drop.sent

/-- What holds of a stream at any time. While a recovery is under way, a delta that it does not
cover was dropped from a queue that has been clogged since. -/
structure Sound (covers : Data → Nat → Prop) (stream : Stream Data) : Prop where
  bounded : stream.connection.Bounded
  ordered : (numbers stream.entries).Pairwise (· < ·)
  own : ∀ entry ∈ stream.entries, entry.Own stream.sent
  accounted : ∀ index sent, stream.sent[index]? = some sent → sent.isDelta = true →
    index ∈ numbers stream.entries ∨ ∃ drop ∈ stream.dropped, drop.sent = index
  placed : ∀ drop ∈ stream.dropped,
    drop.sent < stream.sent.length ∧ drop.delivered ≤ stream.delivered.length
  recovering : ∀ drop ∈ stream.dropped, stream.Recovering covers drop
  asked : ∀ entry asked, stream.consumer = .resyncing entry asked →
    stream.connection.needsResync = true ∧
      ∀ drop ∈ stream.dropped, drop.sent < asked ∨ stream.connection.Clogged

theorem Sound.opened (queueMaxsize : Int) : Sound covers (opened queueMaxsize : Stream Data) := by
  constructor
  · intro hpositive
    have hsize : 0 < queueMaxsize := hpositive
    exact Int.le_of_lt hsize
  · exact List.Pairwise.nil
  · simp [entries, inHand, Stream.opened]
  · simp [Stream.opened]
  · simp [Stream.opened]
  · simp [Stream.opened]
  · simp [Stream.opened]

/-! ### A send -/

theorem Sound.ordered_append (h : Sound covers stream) {kept : List (Entry Data)}
    (hkept : kept.Sublist stream.entries) (frame : Frame Data) :
    (numbers (kept ++ [⟨frame, some stream.sent.length⟩])).Pairwise (· < ·) := by
  rw [numbers_append, numbers_numbered, List.pairwise_append]
  refine ⟨h.ordered.sublist (hkept.filterMap _), List.pairwise_singleton _ _, ?_⟩
  intro first hfirst last hlast
  obtain ⟨entry, hmem, hindex⟩ := mem_numbers.mp hfirst
  have hlt := (h.own entry (hkept.subset hmem)).lt hindex
  have hlast' : last = stream.sent.length := by simpa using hlast
  omega

theorem Sound.accounted_kept (h : Sound covers stream) {kept : List (Entry Data)}
    (hkept : SSEConnection.Kept stream.connection.queue kept) {index : Nat} {sent : Sent Data}
    (hsent : stream.sent[index]? = some sent) (hdelta : sent.isDelta = true) :
    index ∈ numbers (stream.delivered ++ stream.inHand ++ kept) ∨
      ∃ drop ∈ stream.dropped, drop.sent = index := by
  cases h.accounted index sent hsent hdelta with
  | inr hdropped => exact Or.inr hdropped
  | inl hentry =>
      left
      obtain ⟨entry, hmem, hindex⟩ := mem_numbers.mp hentry
      refine mem_numbers.mpr ⟨entry, ?_, hindex⟩
      cases List.mem_append.mp hmem with
      | inl hout => exact List.mem_append_left _ hout
      | inr hqueue =>
          obtain ⟨send, hsend, hframe⟩ := (h.own entry hmem).numbered hindex
          have hsame : sent = send := Option.some.inj (hsent.symm.trans hsend)
          have hnot : entry.frame.isSnapshot = false := by
            rw [← hframe, ← hsame]
            simp only [Sent.isDelta, Bool.and_eq_true, Bool.not_eq_true'] at hdelta
            exact hdelta.1
          exact List.mem_append_right _ (hkept.deltas entry hqueue hnot)

theorem Sound.send (h : Sound covers stream) (sent : Sent Data) : Sound covers (stream.send sent) := by
  have hcases := SSEConnection.sendFrame_cases h.bounded
    ⟨sent.frame, some stream.sent.length⟩ sent.droppable
  have hown : ∀ entry ∈ stream.entries, entry.Own (stream.sent ++ [sent]) :=
    fun entry hmem => (h.own entry hmem).append
  have hplaced : ∀ drop ∈ stream.dropped,
      drop.sent < (stream.sent ++ [sent]).length ∧ drop.delivered ≤ stream.delivered.length := by
    intro drop hdrop
    have hold := h.placed drop hdrop
    simp only [List.length_append, List.length_singleton]
    omega
  cases hcases with
  | inl hqueued =>
      obtain ⟨after, kept, hsend, hkept, hqueue, hbounded, hclogged, hmark⟩ := hqueued
      have hstream : stream.send sent =
          { stream with connection := after, sent := stream.sent ++ [sent] } := by
        simp [Stream.send, hsend]
      rw [hstream]
      have hsub : (stream.delivered ++ stream.inHand ++ kept).Sublist stream.entries :=
        List.Sublist.append (List.Sublist.refl _) hkept.sublist
      have hentries : entries { stream with connection := after, sent := stream.sent ++ [sent] } =
          stream.delivered ++ stream.inHand ++ kept ++ [⟨sent.frame, some stream.sent.length⟩] := by
        simp [entries, inHand, hqueue]
      constructor
      · exact hbounded
      · rw [hentries]
        exact h.ordered_append hsub sent.frame
      · rw [hentries]
        intro entry hmem
        cases List.mem_append.mp hmem with
        | inl hold => exact hown entry (hsub.subset hold)
        | inr hnew =>
            rw [List.mem_singleton.mp hnew]
            simp [Entry.Own]
      · rw [hentries]
        intro index other hother hdelta
        by_cases hlt : index < stream.sent.length
        · rw [List.getElem?_append_left hlt] at hother
          cases h.accounted_kept hkept hother hdelta with
          | inl hentry =>
              rw [numbers_append]
              exact Or.inl (List.mem_append_left _ hentry)
          | inr hdropped => exact Or.inr hdropped
        · have hbound := (List.getElem?_eq_some_iff.mp hother).1
          simp only [List.length_append, List.length_singleton] at hbound
          have hindex : index = stream.sent.length := by omega
          rw [numbers_append, numbers_numbered, hindex]
          simp
      · exact hplaced
      · intro drop hdrop
        cases hmark with
        | inl hmarked => exact Or.inl hmarked
        | inr hsame =>
            cases h.recovering drop hdrop with
            | inl hmarked => exact Or.inl (hsame.2.trans hmarked)
            | inr hsnapshot =>
                right
                apply hsnapshot.imp_left
                intro hrecovers
                apply hrecovers.mono
                intro entry hmem
                rw [hqueue, hsame.1]
                exact List.mem_append_left _ hmem
      · intro entry asked hconsumer
        have hold := h.asked entry asked hconsumer
        constructor
        · cases hmark with
          | inl hmarked => exact hmarked
          | inr hsame => exact hsame.2.trans hold.1
        · intro drop hdrop
          exact Or.inl ((hold.2 drop hdrop).resolve_right hclogged)
  | inr hrefused =>
      obtain ⟨after, hsend, hkept, hbounded, hmarked, hclogged⟩ := hrefused
      generalize hdropped : (if sent.isDelta then
        stream.dropped ++ [⟨stream.sent.length, stream.delivered.length⟩]
        else stream.dropped) = dropped
      have hstream : stream.send sent = { stream with
          connection := after, sent := stream.sent ++ [sent], dropped := dropped } := by
        simp [Stream.send, hsend, ← hdropped]
      have hmem : ∀ drop, drop ∈ dropped ↔ drop ∈ stream.dropped ∨
          sent.isDelta = true ∧ drop = ⟨stream.sent.length, stream.delivered.length⟩ := by
        intro drop
        rw [← hdropped]
        by_cases hdelta : sent.isDelta = true
        · simp [hdelta]
        · simp [hdelta]
      rw [hstream]
      have hsub : (stream.delivered ++ stream.inHand ++ after.queue).Sublist stream.entries :=
        List.Sublist.append (List.Sublist.refl _) hkept.sublist
      constructor
      · exact hbounded
      · exact h.ordered.sublist (hsub.filterMap _)
      · exact fun entry hentry => hown entry (hsub.subset hentry)
      · intro index other hother hdelta
        by_cases hlt : index < stream.sent.length
        · rw [List.getElem?_append_left hlt] at hother
          cases h.accounted_kept hkept hother hdelta with
          | inl hentry => exact Or.inl hentry
          | inr hold =>
              obtain ⟨drop, hdrop, hindex⟩ := hold
              exact Or.inr ⟨drop, (hmem drop).mpr (Or.inl hdrop), hindex⟩
        · have hbound := (List.getElem?_eq_some_iff.mp hother).1
          simp only [List.length_append, List.length_singleton] at hbound
          have hindex : index = stream.sent.length := by omega
          rw [hindex, List.getElem?_concat_length] at hother
          have hsame : sent = other := Option.some.inj hother
          exact Or.inr ⟨_, (hmem _).mpr (Or.inr ⟨hsame ▸ hdelta, rfl⟩), hindex.symm⟩
      · intro drop hdrop
        cases (hmem drop).mp hdrop with
        | inl hold => exact hplaced drop hold
        | inr hnew =>
            rw [hnew.2]
            simp
      · exact fun _ _ => Or.inl hmarked
      · intro entry asked hconsumer
        refine ⟨hmarked, ?_⟩
        intro drop hdrop
        cases (hmem drop).mp hdrop with
        | inl hold =>
            exact ((h.asked entry asked hconsumer).2 drop hold).imp_right (hclogged ∘ Or.inr)
        | inr hnew => exact Or.inr (hclogged (Or.inl hnew.1))

/-! ### The consumer -/

/-- What the steps of the consumer have in common: the sends and the drops stay, and among the
numbered frames too nothing changes. -/
theorem Sound.consume (h : Sound covers stream) (next : Stream Data)
    (hsent : next.sent = stream.sent) (hdropped : next.dropped = stream.dropped)
    (hdelivered : stream.delivered.length ≤ next.delivered.length)
    (hbounded : next.connection.Bounded)
    (hnumbers : numbers next.entries = numbers stream.entries)
    (hown : ∀ entry ∈ next.entries, entry ∈ stream.entries ∨ entry.Own stream.sent)
    (hrecovering : ∀ drop ∈ stream.dropped, next.Recovering covers drop)
    (hasked : ∀ entry asked, next.consumer = .resyncing entry asked →
      next.connection.needsResync = true ∧
        ∀ drop ∈ stream.dropped, drop.sent < asked ∨ next.connection.Clogged) :
    Sound covers next := by
  constructor
  · exact hbounded
  · rw [hnumbers]
    exact h.ordered
  · intro entry hmem
    rw [hsent]
    exact (hown entry hmem).elim (h.own entry) id
  · intro index sent hindex hdelta
    rw [hsent] at hindex
    rw [hnumbers, hdropped]
    exact h.accounted index sent hindex hdelta
  · intro drop hdrop
    rw [hdropped] at hdrop
    rw [hsent]
    have hold := h.placed drop hdrop
    exact ⟨hold.1, Nat.le_trans hold.2 hdelivered⟩
  · rw [hdropped]
    exact hrecovering
  · rw [hdropped]
    exact hasked

theorem recovers_deliver {delivered queue rest : List (Entry Data)} {entry : Entry Data}
    {drop : Dropped} (hqueue : ∀ item ∈ queue, item = entry ∨ item ∈ rest)
    (hplaced : drop.delivered ≤ delivered.length)
    (h : Recovers covers queue drop.sent ∨ Recovers covers (delivered.drop drop.delivered) drop.sent) :
    Recovers covers rest drop.sent ∨
      Recovers covers ((delivered ++ [entry]).drop drop.delivered) drop.sent := by
  rw [List.drop_append_of_le_length hplaced]
  cases h with
  | inl hqueued =>
      obtain ⟨item, hmem, hsnapshot⟩ := hqueued
      cases hqueue item hmem with
      | inl hfirst =>
          right
          exact ⟨item, by simp [hfirst], hsnapshot⟩
      | inr hrest => exact Or.inl ⟨item, hrest, hsnapshot⟩
  | inr hdelivered =>
      right
      apply hdelivered.mono
      intro item hmem
      exact List.mem_append_left _ hmem

theorem Sound.hand (h : Sound covers stream) (connection : SSEConnection Data)
    (entry : Entry Data) (now : Int)
    (hmark : connection.needsResync = stream.connection.needsResync)
    (hbounded : connection.Bounded)
    (hnumbers : numbers (stream.delivered ++ [entry] ++ connection.queue) = numbers stream.entries)
    (hown : ∀ item ∈ stream.delivered ++ [entry] ++ connection.queue,
      item ∈ stream.entries ∨ item.Own stream.sent)
    (hqueue : ∀ item ∈ stream.connection.queue, item = entry ∨ item ∈ connection.queue) :
    Sound covers (stream.hand connection entry hasProvider now) := by
  cases hbegin : connection.beginResync hasProvider now with
  | none =>
      have hhand : stream.hand connection entry hasProvider now = stream.deliver connection entry := by
        simp only [Stream.hand, hbegin]
      rw [hhand]
      have hentries : (stream.deliver connection entry).entries =
          stream.delivered ++ [entry] ++ connection.queue := by
        simp [entries, inHand, deliver]
      apply h.consume
      · rfl
      · rfl
      · simp [deliver]
      · exact hbounded
      · rw [hentries]
        exact hnumbers
      · rw [hentries]
        exact hown
      · intro drop hdrop
        cases h.recovering drop hdrop with
        | inl hmarked => exact Or.inl (hmark.trans hmarked)
        | inr hsnapshot =>
            exact Or.inr (recovers_deliver hqueue (h.placed drop hdrop).2 hsnapshot)
      · intro other asked hconsumer
        cases hconsumer
  | some begun =>
      obtain ⟨hmarked, hbegun⟩ := SSEConnection.beginResync_some hbegin
      have hhand : stream.hand connection entry hasProvider now = { stream with
          connection := begun, consumer := .resyncing entry stream.sent.length } := by
        simp only [Stream.hand, hbegin]
      rw [hhand, hbegun]
      apply h.consume
      · rfl
      · rfl
      · exact Nat.le_refl _
      · exact hbounded
      · exact hnumbers
      · exact hown
      · exact fun _ _ => Or.inl hmarked
      · intro other asked hconsumer
        refine ⟨hmarked, ?_⟩
        intro drop hdrop
        left
        cases hconsumer
        exact (h.placed drop hdrop).1

theorem Sound.wait (h : Sound covers stream) (hfree : stream.inHand = []) (consumer : Consumer Data)
    (hwaits : ∀ entry asked, consumer ≠ .resyncing entry asked) :
    Sound covers { stream with consumer := consumer } := by
  have hhand : inHand { stream with consumer := consumer } = [] := by
    cases consumer with
    | resyncing entry asked => exact absurd rfl (hwaits entry asked)
    | _ => rfl
  have hentries : entries { stream with consumer := consumer } = stream.entries := by
    simp [entries, hhand, hfree]
  apply h.consume
  · rfl
  · rfl
  · exact Nat.le_refl _
  · exact h.bounded
  · rw [hentries]
  · rw [hentries]
    exact fun _ hmem => Or.inl hmem
  · exact h.recovering
  · exact fun entry asked hconsumer => absurd hconsumer (hwaits entry asked)

theorem Sound.answer (h : Sound covers stream) {entry : Entry Data} {asked : Nat}
    (hconsumer : stream.consumer = .resyncing entry asked) (data : Option Data)
    (hcovers : ∀ snapshot, data = some snapshot → ∀ index < asked, covers snapshot index) :
    Sound covers (stream.deliver (stream.connection.finishResync data) entry) := by
  have hold := h.asked entry asked hconsumer
  have hentries : stream.entries = stream.delivered ++ [entry] ++ stream.connection.queue := by
    simp [entries, inHand, hconsumer]
  cases SSEConnection.finishResync_cases stream.connection data with
  | inl hsame =>
      rw [hsame]
      have hnext : (stream.deliver stream.connection entry).entries = stream.entries := by
        rw [hentries]
        simp [entries, inHand, deliver]
      apply h.consume
      · rfl
      · rfl
      · simp [deliver]
      · exact h.bounded
      · rw [hnext]
      · rw [hnext]
        exact fun _ hmem => Or.inl hmem
      · exact fun _ _ => Or.inl hold.1
      · intro other number hother
        cases hother
  | inr hqueued =>
      obtain ⟨snapshot, hdata, hroom, hfinish⟩ := hqueued
      rw [hfinish]
      generalize hnext : stream.deliver { stream.connection with
        queue := stream.connection.queue ++ [⟨⟨some "snapshot", snapshot⟩, none⟩],
        needsResync := false, resyncBackoffUntil := none } entry = next
      have hnew : next.entries = stream.entries ++ [⟨⟨some "snapshot", snapshot⟩, none⟩] := by
        rw [hentries, ← hnext]
        simp [entries, inHand, deliver]
      apply h.consume
      · rw [← hnext]
        rfl
      · rw [← hnext]
        rfl
      · rw [← hnext]
        simp [deliver]
      · rw [← hnext]
        exact SSEConnection.Bounded.put hroom
      · rw [hnew, numbers_append, numbers_own, List.append_nil]
      · rw [hnew]
        intro item hmem
        apply (List.mem_append.mp hmem).imp_right
        intro hlast
        rw [List.mem_singleton.mp hlast]
        exact Or.inr rfl
      · -- What the recovery does not cover was dropped from a queue that is still clogged.
        intro drop hdrop
        have hasked : drop.sent < asked := by
          cases hold.2 drop hdrop with
          | inl hlt => exact hlt
          | inr hclogged =>
              rw [hclogged.full] at hroom
              cases hroom
        rw [← hnext]
        right
        left
        refine ⟨⟨⟨some "snapshot", snapshot⟩, none⟩, List.mem_append_right _ (by simp), ?_,
          hcovers snapshot hdata drop.sent hasked⟩
        simp [Frame.isSnapshot]
      · rw [← hnext]
        intro other number hother
        cases hother

theorem mem_lose {entry : Entry Data} {drop : Dropped} :
    drop ∈ (stream.lose entry).dropped ↔ drop ∈ stream.dropped ∨
      entry.sent = some drop.sent ∧ entry.frame.isSnapshot = false ∧
        drop.delivered = stream.delivered.length := by
  cases hindex : entry.sent with
  | none => simp [lose, hindex]
  | some index =>
      cases hsnapshot : entry.frame.isSnapshot with
      | true => simp [lose, hindex, hsnapshot]
      | false =>
          simp only [lose, hindex, hsnapshot]
          cases drop
          simp
          grind

theorem Sound.lose (h : Sound covers stream) {entry : Entry Data} {asked : Nat}
    (hconsumer : stream.consumer = .resyncing entry asked) : Sound covers (stream.lose entry) := by
  have hentries : stream.entries = stream.delivered ++ [entry] ++ stream.connection.queue := by
    simp [entries, inHand, hconsumer]
  have hnext : (stream.lose entry).entries = stream.delivered ++ stream.connection.queue := by
    simp [entries, inHand, Stream.lose]
  have hsub : (stream.lose entry).entries.Sublist stream.entries := by
    rw [hentries, hnext]
    exact List.Sublist.append (List.sublist_append_left _ _) (List.Sublist.refl _)
  have hfirst : entry ∈ stream.entries := by simp [hentries]
  constructor
  · exact h.bounded
  · exact h.ordered.sublist (hsub.filterMap _)
  · exact fun item hmem => h.own item (hsub.subset hmem)
  · intro index sent hsent hdelta
    cases h.accounted index sent hsent hdelta with
    | inr hdropped =>
        obtain ⟨drop, hdrop, hindex⟩ := hdropped
        exact Or.inr ⟨drop, mem_lose.mpr (Or.inl hdrop), hindex⟩
    | inl hentry =>
        obtain ⟨item, hmem, hindex⟩ := mem_numbers.mp hentry
        by_cases hlost : item = entry
        · right
          obtain ⟨send, hsend, hframe⟩ := (h.own item hmem).numbered hindex
          have hsame : sent = send := Option.some.inj (hsent.symm.trans hsend)
          have hnot : entry.frame.isSnapshot = false := by
            rw [← hlost, ← hframe, ← hsame]
            simp only [Sent.isDelta, Bool.and_eq_true, Bool.not_eq_true'] at hdelta
            exact hdelta.1
          refine ⟨⟨index, stream.delivered.length⟩, mem_lose.mpr (Or.inr ⟨?_, hnot, rfl⟩), rfl⟩
          rw [← hlost]
          exact hindex
        · left
          refine mem_numbers.mpr ⟨item, ?_, hindex⟩
          rw [hentries] at hmem
          rw [hnext]
          simp only [List.mem_append, List.mem_singleton] at hmem ⊢
          exact hmem.imp_left (Or.resolve_right · hlost)
  · intro drop hdrop
    cases mem_lose.mp hdrop with
    | inl hold => exact h.placed drop hold
    | inr hnew => exact ⟨(h.own entry hfirst).lt hnew.1, Nat.le_of_eq hnew.2.2⟩
  · exact fun _ _ => Or.inl (h.asked entry asked hconsumer).1
  · intro other number hother
    cases hother

/-! ### Runs -/

theorem Sound.move (h : Sound covers stream) {m : Move Data} {next : Stream Data}
    (hcovers : stream.Covers covers m) (hmove : stream.move hasProvider m = some next) :
    Sound covers next := by
  cases m with
  | send sent =>
      cases hmove
      exact h.send sent
  | call =>
      cases hconsumer : stream.consumer with
      | idle =>
          simp only [Stream.move, hconsumer, Option.some.injEq] at hmove
          rw [← hmove]
          exact h.wait (by simp [inHand, hconsumer]) _ (by simp)
      | _ => simp [Stream.move, hconsumer] at hmove
  | take now =>
      cases hconsumer : stream.consumer with
      | getting =>
          cases hqueue : stream.connection.queue with
          | nil => simp [Stream.move, hconsumer, hqueue] at hmove
          | cons entry rest =>
              simp only [Stream.move, hconsumer, hqueue, Option.some.injEq] at hmove
              rw [← hmove]
              have hentries : stream.delivered ++ [entry] ++ rest = stream.entries := by
                simp [entries, inHand, hconsumer, hqueue]
              apply h.hand
              · rfl
              · exact h.bounded.of_length rfl (by simp [hqueue])
              · exact congrArg numbers hentries
              · intro item hmem
                exact Or.inl (hentries ▸ hmem)
              · simp [hqueue]
      | _ => simp [Stream.move, hconsumer] at hmove
  | timeout =>
      cases hconsumer : stream.consumer with
      | getting =>
          simp only [Stream.move, hconsumer, Option.some.injEq] at hmove
          rw [← hmove]
          exact h.wait (by simp [inHand, hconsumer]) _ (by simp)
      | _ => simp [Stream.move, hconsumer] at hmove
  | beat data now =>
      cases hconsumer : stream.consumer with
      | beating =>
          simp only [Stream.move, hconsumer, Option.some.injEq] at hmove
          rw [← hmove]
          have hentries : stream.entries = stream.delivered ++ stream.connection.queue := by
            simp [entries, inHand, hconsumer]
          apply h.hand
          · rfl
          · exact h.bounded
          · rw [hentries, numbers_append, numbers_append, numbers_append, numbers_own,
              List.append_nil]
          · intro item hmem
            rw [hentries]
            simp only [List.mem_append, List.mem_singleton] at hmem ⊢
            obtain (hdelivered | hbeat) | hqueued := hmem
            · exact Or.inl (Or.inl hdelivered)
            · right
              rw [hbeat]
              exact Or.inl rfl
            · exact Or.inl (Or.inr hqueued)
          · exact fun _ hmem => Or.inr hmem
      | _ => simp [Stream.move, hconsumer] at hmove
  | answer data =>
      cases hconsumer : stream.consumer with
      | resyncing entry asked =>
          simp only [Stream.move, hconsumer, Option.some.injEq] at hmove
          rw [← hmove]
          apply h.answer hconsumer
          intro snapshot hdata
          simpa only [Covers, hdata, hconsumer] using hcovers
      | _ => simp [Stream.move, hconsumer] at hmove
  | cancel =>
      cases hconsumer : stream.consumer with
      | idle => simp [Stream.move, hconsumer] at hmove
      | resyncing entry asked =>
          simp only [Stream.move, hconsumer, Option.some.injEq] at hmove
          rw [← hmove]
          exact h.lose hconsumer
      | _ =>
          simp only [Stream.move, hconsumer, Option.some.injEq] at hmove
          rw [← hmove]
          exact h.wait (by simp [inHand, hconsumer]) _ (by simp)

end Stream

variable {covers : Data → Nat → Prop} {stream : Stream Data} {hasProvider : Bool}

theorem Streams.sound (h : Streams hasProvider covers stream) : stream.Sound covers := by
  induction h with
  | opened queueMaxsize => exact Stream.Sound.opened queueMaxsize
  | move stream next m h hcovers hmove ih => exact ih.move hcovers hmove

/-- A slow consumer is caught up or marked for recovery: the frames it gets are those that were
sent, in their order and none twice, and a delta it has not got is in its way to it, or it was
dropped and the connection is marked until a snapshot covers it. -/
theorem slow_consumer (h : Streams hasProvider covers stream) :
    (numbers stream.delivered).Pairwise (· < ·) ∧
    (∀ entry ∈ stream.delivered, entry.Own stream.sent) ∧
    (∀ index sent, stream.sent[index]? = some sent → sent.isDelta = true →
      index ∈ numbers stream.entries ∨ ∃ drop ∈ stream.dropped, drop.sent = index) ∧
    ∀ drop ∈ stream.dropped, stream.Recovering covers drop := by
  have hsound := h.sound
  have hsub : stream.delivered.Sublist stream.entries := by
    rw [Stream.entries, List.append_assoc]
    exact List.sublist_append_left _ _
  refine ⟨hsound.ordered.sublist (hsub.filterMap _), ?_, hsound.accounted, hsound.recovering⟩
  exact fun entry hmem => hsound.own entry (hsub.subset hmem)

/-- Two deltas for a queue of one: the second is dropped, and the connection is marked. -/
def crowded : Stream Nat where
  connection :=
    { queueMaxsize := 1, queue := [⟨⟨some "delta", 0⟩, some 0⟩], needsResync := true, framesDropped := 1 }
  consumer := .idle
  sent := [⟨⟨some "delta", 0⟩, none⟩, ⟨⟨some "delta", 1⟩, none⟩]
  delivered := []
  dropped := [⟨1, 0⟩]

theorem slow_consumer_crowded :
    Streams true (fun last index => index ≤ last) crowded ∧
      ∀ drop ∈ crowded.dropped, crowded.Recovering (fun last index => index ≤ last) drop := by
  have hopened : Streams true (fun last index => index ≤ last) (.opened 1 : Stream Nat) := .opened 1
  have hfirst := Streams.move _ _ (.send ⟨⟨some "delta", 0⟩, none⟩) hopened trivial rfl
  have hcrowded : Streams true (fun last index => index ≤ last) crowded :=
    .move _ crowded (.send ⟨⟨some "delta", 1⟩, none⟩) hfirst trivial (by decide)
  exact ⟨hcrowded, (slow_consumer hcrowded).2.2.2⟩

end Hybro.Delivery
