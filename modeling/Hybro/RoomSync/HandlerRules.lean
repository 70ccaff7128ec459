import Hybro.RoomSync.ReducerRules

/-! # What the handlers of the reducer keep

A handler ends, or stops where it awaits `deps.onDelta`.
-/

namespace Hybro.RoomSync

variable {β : Type}

/-! ## The counters -/

theorem notLowered_maxSeq (known : Option Nat) (seq : Nat) :
    NotLowered known (some (maxSeq known seq)) := by
  intro n hn
  subst hn
  exact ⟨max n seq, rfl, Nat.le_max_left n seq⟩

theorem maxSeq_eq {known : Option Nat} {seq : Nat} (h : ∀ n, known = some n → n ≤ seq) :
    maxSeq known seq = seq := by
  unfold maxSeq
  cases hknown : known with
  | none => exact Nat.max_self _
  | some n => exact Nat.max_eq_right (h n hknown)

/-- Whether a snapshot was applied, and the two counters. -/
def Room.counters (room : Room β) : Bool × Option Nat × Option Nat :=
  (room.reducer.snapshotApplied, room.reducer.lastRoomSeq, room.reducer.appliedRoomSeq)

theorem requestBootstrapSnapshotOnce_counters (room : Room β) :
    (requestBootstrapSnapshotOnce room).counters = room.counters := by
  unfold requestBootstrapSnapshotOnce
  split <;> rfl

theorem bufferDelta_counters (room : Room β) (frame : DeltaFrame β) (seq : Nat) :
    (bufferDelta room frame seq).counters = room.counters := by
  unfold bufferDelta
  split <;> rfl

theorem reorderDelta_counters (room : Room β) (frame : DeltaFrame β) (seq : Nat) :
    (reorderDelta room frame seq).counters = room.counters := by
  unfold reorderDelta
  split <;> rfl

theorem reconciled_counters (room : Room β) :
    (room.update reconcileObservedWatermark).counters = room.counters :=
  rfl

theorem timerCleared_counters (room : Room β) :
    (room.update clearReorderTimerIfEmpty).counters = room.counters := by
  unfold Room.update clearReorderTimerIfEmpty
  split <;> rfl

/-- The counters move after `deps.onDelta` only. -/
theorem onDelta_counters (room : Room β) (frame : DeltaFrame β) :
    (onDelta room frame).1.counters = room.counters := by
  unfold onDelta
  cases frame.roomSeq with
  | none => exact requestBootstrapSnapshotOnce_counters room
  | some seq =>
      dsimp only
      split
      · rw [requestBootstrapSnapshotOnce_counters, bufferDelta_counters]
      · split
        · exact reorderDelta_counters room frame seq
        · split
          · rfl
          · split
            · rfl
            · exact reorderDelta_counters room frame seq

theorem withoutExpected_counters (room : Room β) (expected : Nat) :
    (room.update fun reducer => clearReorderTimerIfEmpty
      { reducer with
        reorderBuffer := reducer.reorderBuffer.filter (·.1 ≠ expected) }).counters =
      room.counters :=
  timerCleared_counters (room.update fun reducer =>
    { reducer with reorderBuffer := reducer.reorderBuffer.filter (·.1 ≠ expected) })

theorem drainReorderBuffer_counters (room : Room β) :
    (drainReorderBuffer room).1.counters = room.counters := by
  unfold drainReorderBuffer
  split
  · exact timerCleared_counters room
  · dsimp only
    split
    · rfl
    · rw [onDelta_counters, withoutExpected_counters]

theorem endSnapshot_counters (room : Room β) : (endSnapshot room).1.counters = room.counters := by
  have hdrained := drainReorderBuffer_counters room
  unfold endSnapshot
  split
  · rename_i hdrain
    rw [hdrain] at hdrained
    exact hdrained
  · rename_i hdrain
    rw [hdrain] at hdrained
    rw [reconciled_counters]
    exact hdrained

theorem replayBuffered_counters (watermark : Nat) (frames : List (DeltaFrame β)) :
    ∀ room : Room β, (replayBuffered watermark room frames).1.counters = room.counters := by
  induction frames with
  | nil => exact endSnapshot_counters
  | cons delta rest ih =>
      intro room
      have hdelta := onDelta_counters room delta
      unfold replayBuffered
      split
      · exact ih room
      · split
        · rename_i heq
          rw [heq] at hdelta
          exact hdelta
        · rename_i heq
          rw [heq] at hdelta
          rw [ih]
          exact hdelta

theorem continueWith_counters (room : Room β) (next : Continuation β) :
    (continueWith room next).1.counters = room.counters := by
  cases next with
  | returns => rfl
  | replays watermark rest => exact replayBuffered_counters watermark rest room
  | reconciles => rfl

theorem onFulfilled_counters (room : Room β) (handler : Awaiting β) :
    (onFulfilled room handler).1.counters =
      (room.reducer.snapshotApplied, some handler.seq,
        some (maxSeq room.reducer.appliedRoomSeq handler.seq)) := by
  unfold onFulfilled
  dsimp only
  generalize happlied : (room.update _).note _ = applied
  have hcounters : applied.counters = (room.reducer.snapshotApplied, some handler.seq,
      some (maxSeq room.reducer.appliedRoomSeq handler.seq)) := by
    rw [← happlied]
    rfl
  have hdrained := drainReorderBuffer_counters applied
  split
  · rename_i hdrain
    rw [hdrain] at hdrained
    exact hdrained.trans hcounters
  · rename_i hdrain
    rw [hdrain] at hdrained
    exact (continueWith_counters _ _).trans (hdrained.trans hcounters)

theorem withSnapshot_counters (room : Room β) (watermark : Nat) :
    ((room.update (withSnapshot watermark)).note (.applied watermark)).counters =
      (true, some watermark, some (maxSeq room.reducer.appliedRoomSeq watermark)) :=
  timerCleared_counters (Room.mk _ room.history)

theorem onSnapshot_counters (room : Room β) (watermark : Nat) (applies : Bool) :
    (onSnapshot room watermark applies).1.counters = room.counters ∨
      applies = true ∧
        (∀ applied, room.reducer.appliedRoomSeq = some applied → applied ≤ watermark) ∧
        (onSnapshot room watermark applies).1.counters =
          (true, some watermark, some (maxSeq room.reducer.appliedRoomSeq watermark)) := by
  unfold onSnapshot
  split
  · exact .inl rfl
  · rename_i htaken
    apply Or.inr
    constructor
    · by_contra hrefused
      exact htaken (by simp [hrefused])
    · constructor
      · intro applied happlied
        by_contra hbelow
        exact htaken (by simp [happlied, Nat.lt_of_not_le hbelow])
      · rw [replayBuffered_counters, withSnapshot_counters]

/-! ## The rest of a handler -/

/-- A handler that waits, or has ended, leaves the reducer in order among the `others`. -/
def Settled (others : Awaiting β → Prop) (room : Room β) (awaiting : Option (Awaiting β)) : Prop :=
  Sync room [] none fun handler => others handler ∨ awaiting = some handler

variable {room : Room β} {others : Awaiting β → Prop}

theorem Settled.idle (h : Sync room [] none others) : Settled others room none := by
  refine { h with calls := ?_, covers := ?_, held := ?_ }
  · intro n hmem
    rcases h.calls n hmem with hcovered | hrefused | hhanding | ⟨handler, hwaits, hseq⟩
    · exact .inl hcovered
    · exact .inr (.inl hrefused)
    · cases hhanding
    · exact .inr (.inr (.inr ⟨handler, .inl hwaits, hseq⟩))
  · intro handler hwaits
    rcases hwaits with hwaits | hnone
    · exact h.covers handler hwaits
    · cases hnone
  · intro seq hmem
    apply (h.held seq hmem).handedOn .handing
    · exact fun frame hframe => absurd hframe List.not_mem_nil
    · exact fun handler hwaits => .inl hwaits

theorem Settled.waits {seq : Nat} {next : Continuation β}
    (h : Sync room next.rest (some seq) others)
    (hcovers : next.Covers room.reducer.appliedRoomSeq) :
    Settled others room (some ⟨seq, next⟩) := by
  refine { h with
    calling := fun _ hother => by cases hother
    calls := ?_
    covers := ?_
    held := ?_ }
  · intro n hmem
    rcases h.calls n hmem with hcovered | hrefused | hhanding | ⟨handler, hwaits, hseq⟩
    · exact .inl hcovered
    · exact .inr (.inl hrefused)
    · exact .inr (.inr (.inr ⟨⟨seq, next⟩, .inr rfl, Option.some.inj hhanding⟩))
    · exact .inr (.inr (.inr ⟨handler, .inl hwaits, hseq⟩))
  · intro handler hwaits
    rcases hwaits with hwaits | hsame
    · exact h.covers handler hwaits
    · cases hsame
      exact hcovers
  · intro other hmem
    have hlive := h.calling seq rfl
    apply (h.held other hmem).handedOn
    · exact fun hhanding => .awaited ⟨seq, next⟩ (.inr rfl) hlive (.inl (Option.some.inj hhanding))
    · exact fun frame hframe hseq =>
        .awaited ⟨seq, next⟩ (.inr rfl) hlive (.inr ⟨frame, hframe, hseq⟩)
    · exact fun handler hwaits => .inl hwaits

theorem drainReorderBuffer_sync {rest : List (DeltaFrame β)} (h : Sync room rest none others) :
    Sync (drainReorderBuffer room).1 rest (drainReorderBuffer room).2 others := by
  unfold drainReorderBuffer
  split
  · exact h.timerCleared
  · dsimp only
    generalize room.reducer.lastRoomSeq.getD 0 + 1 = expected
    split
    · exact h
    · rename_i key next hfound
      have hmem := List.mem_of_find?_eq_some hfound
      have hkey : key = expected := by simpa using List.find?_some hfound
      subst hkey
      apply onDelta_sync
      have hremoved : Sync (room.update fun reducer =>
          { reducer with reorderBuffer := reducer.reorderBuffer.filter (·.1 ≠ key) })
          (next :: rest) none others := by
        refine { h with keys := ?_, held := ?_ }
        · exact fun entry hentry => h.keys entry (List.mem_of_mem_filter hentry)
        · intro seq hseq
          cases h.held seq hseq with
          | covered last hlast hle hlive => exact .covered last hlast hle hlive
          | handing hhanding => cases hhanding
          | buffered frame hframe hseq => exact .buffered frame hframe hseq
          | replayed frame hframe hseq => exact .replayed frame (List.mem_cons_of_mem _ hframe) hseq
          | reordered frame hframe =>
              by_cases hsame : seq = key
              · subst hsame
                exact .replayed next (List.mem_cons_self ..) (h.keys _ hmem)
              · apply Held.reordered frame
                exact List.mem_filter.mpr ⟨hframe, by simpa using hsame⟩
          | awaited handler hwaits hlive hseq => exact .awaited handler hwaits hlive hseq
          | dropped hdropped => exact .dropped hdropped
          | abandoned habandoned => exact .abandoned habandoned
      exact hremoved.timerCleared

theorem endSnapshot_settled (h : Sync room [] none others) :
    Settled others (endSnapshot room).1 (endSnapshot room).2 := by
  have hdrained := drainReorderBuffer_sync h
  unfold endSnapshot
  split
  · rename_i hdrain
    rw [hdrain] at hdrained
    exact .waits hdrained trivial
  · rename_i hdrain
    rw [hdrain] at hdrained
    exact .idle hdrained.reconciled

/-- In a live session the counter covers what the replay passes over. -/
theorem replayBuffered_settled {watermark last : Nat} (hwatermark : watermark ≤ last)
    (frames : List (DeltaFrame β)) : ∀ room : Room β, Sync room frames none others →
    room.counters = (true, some last, some last) →
      Settled others (replayBuffered watermark room frames).1
        (replayBuffered watermark room frames).2 := by
  induction frames with
  | nil => exact fun room h _ => endSnapshot_settled h
  | cons delta rest ih =>
      intro room h hcounters
      have hlive : room.reducer.snapshotApplied = true := congrArg (·.1) hcounters
      have hlast : room.reducer.lastRoomSeq = some last := congrArg (·.2.1) hcounters
      have hdelta := (onDelta_counters room delta).trans hcounters
      have hsync := onDelta_sync h
      unfold replayBuffered
      split
      · rename_i hskip
        apply ih room _ hcounters
        apply h.withoutFrame
        intro seq hseq
        have hle : seq ≤ watermark := by simpa [hseq] using hskip
        exact .covered last hlast (Nat.le_trans hle hwatermark) hlive
      · split
        · rename_i later seq heq
          rw [heq] at hsync hdelta
          apply Settled.waits hsync
          exact ⟨last, congrArg (·.2.2) hdelta, hwatermark⟩
        · rename_i later heq
          rw [heq] at hsync hdelta
          exact ih later hsync hdelta

/-- The frame that an overtaken handler is still to replay is none of this session. -/
theorem Sync.replaying (h : Sync room [] none others) (frame : DeltaFrame β) :
    Sync room [frame] none others := by
  refine { h with held := fun seq hmem => (h.held seq hmem).handedOn .handing ?_ ?_ }
  · exact fun frame hframe => absurd hframe List.not_mem_nil
  · exact fun _ hwaits => hwaits

/-- Before the snapshot of a session an overtaken handler buffers what it replays. -/
theorem replayBuffered_overtaken (watermark : Nat) (frames : List (DeltaFrame β)) :
    ∀ room : Room β, Sync room [] none others → room.reducer.snapshotApplied = false →
      Settled others (replayBuffered watermark room frames).1
        (replayBuffered watermark room frames).2 := by
  induction frames with
  | nil => exact fun room h _ => endSnapshot_settled h
  | cons delta rest ih =>
      intro room h hwaiting
      have hcounters := onDelta_counters room delta
      have hsync := onDelta_sync (h.replaying delta)
      unfold replayBuffered
      split
      · exact ih room h hwaiting
      · split
        · rename_i later seq heq
          rw [heq] at hsync hcounters
          have hlive := (congrArg (·.1) hcounters).symm.trans (hsync.calling seq rfl)
          have hlive : room.reducer.snapshotApplied = true := hlive
          rw [hwaiting] at hlive
          cases hlive
        · rename_i later heq
          rw [heq] at hsync hcounters
          exact ih later hsync ((congrArg (·.1) hcounters).trans hwaiting)

theorem Continuation.Covers.mono {next : Continuation β} {before after : Option Nat}
    (h : next.Covers before) (hkept : NotLowered before after) : next.Covers after := by
  cases next with
  | returns => trivial
  | replays watermark rest =>
      obtain ⟨applied, happlied, hle⟩ := h
      obtain ⟨later, hlater, hgrown⟩ := hkept applied happlied
      exact ⟨later, hlater, Nat.le_trans hle hgrown⟩
  | reconciles => trivial

theorem Settled.applied {handler : Awaiting β} (h : Settled others room (some handler))
    (hlive : room.reducer.snapshotApplied = true)
    (hlater : ∀ last, room.reducer.lastRoomSeq = some last → last ≤ handler.seq) :
    maxSeq room.reducer.appliedRoomSeq handler.seq = handler.seq := by
  obtain ⟨last, hlast, happlied, -⟩ := h.live hlive
  apply maxSeq_eq
  intro applied hsame
  rw [happlied] at hsame
  cases hsame
  exact hlater last hlast

/-- A delta is kept without the handler that returns, or it is one that the handler holds. -/
theorem Held.parted {handler : Awaiting β} {seq : Nat} (rest : List (DeltaFrame β))
    (h : Held room [] none (fun other => others other ∨ some handler = some other) seq) :
    Held room rest none others seq ∨ room.reducer.snapshotApplied = true ∧
      (handler.seq = seq ∨ ∃ frame ∈ handler.next.rest, frame.roomSeq = some seq) := by
  cases h with
  | covered last hlast hle hlive => exact .inl (.covered last hlast hle hlive)
  | handing hhanding => cases hhanding
  | buffered frame hframe hframeSeq => exact .inl (.buffered frame hframe hframeSeq)
  | replayed frame hframe _ => cases hframe
  | reordered frame hframe => exact .inl (.reordered frame hframe)
  | awaited other hwaits hlive hseq =>
      rcases hwaits with hwaits | hsame
      · exact .inl (.awaited other hwaits hlive hseq)
      · cases hsame
        exact .inr ⟨hlive, hseq⟩
  | dropped hdropped => exact .inl (.dropped hdropped)
  | abandoned habandoned => exact .inl (.abandoned habandoned)

/-- The counters after `deps.onDelta` has returned. What the handler holds is covered by then in a
live session, and of an earlier session before the snapshot. -/
theorem Settled.fulfilled {handler : Awaiting β} {rest : List (DeltaFrame β)}
    (h : Settled others room (some handler))
    (hkept : room.reducer.snapshotApplied = true →
      handler.next.rest = rest ∧ ∀ last, room.reducer.lastRoomSeq = some last → last ≤ handler.seq) :
    Sync ((room.update fun reducer => reconcileObservedWatermark
      { reducer with
        lastRoomSeq := some handler.seq
        appliedRoomSeq := some (maxSeq reducer.appliedRoomSeq handler.seq)
        highestObservedRoomSeq := some (maxSeq reducer.highestObservedRoomSeq handler.seq) }).note
          (.fulfilled handler.seq)) rest none others := by
  have hgrown := notLowered_maxSeq room.reducer.appliedRoomSeq handler.seq
  refine { h with
    live := ?_
    calling := fun _ hseq => by cases hseq
    coveredBelow := ?_
    calls := ?_
    covers := fun other hwaits => (h.covers other (.inl hwaits)).mono hgrown
    held := ?_ }
  · intro hlive
    have hmax := h.applied hlive (hkept hlive).2
    exact ⟨handler.seq, rfl, congrArg some hmax, rfl⟩
  · intro n hmem
    use maxSeq room.reducer.appliedRoomSeq handler.seq
    constructor
    · rfl
    · rcases List.mem_cons.mp hmem with rfl | hmem
      · exact Nat.le_max_right _ _
      · obtain ⟨applied, happlied, hle⟩ := h.coveredBelow n hmem
        obtain ⟨later, hlater, hbelow⟩ := hgrown applied happlied
        cases hlater
        exact Nat.le_trans hle hbelow
  · intro n hmem
    rcases h.calls n hmem with hcovered | hrefused | hhanding | ⟨other, hwaits, hseq⟩
    · exact .inl (List.mem_cons_of_mem _ hcovered)
    · exact .inr (.inl hrefused)
    · cases hhanding
    · rcases hwaits with hwaits | hsame
      · exact .inr (.inr (.inr ⟨other, hwaits, hseq⟩))
      · cases hsame
        exact .inl (hseq ▸ List.mem_cons_self ..)
  · intro seq hmem
    rcases (h.held seq hmem).parted rest with hheld | ⟨hlive, rfl | ⟨frame, hframe, hframeSeq⟩⟩
    · refine hheld.mono ?_ rfl (List.Subset.refl _) (List.Subset.refl _) (List.Subset.refl _)
        (List.Subset.refl _)
      exact fun hlive last hlast => ⟨handler.seq, rfl, (hkept hlive).2 last hlast⟩
    · exact .covered handler.seq rfl (Nat.le_refl _) hlive
    · exact .replayed frame ((hkept hlive).1 ▸ hframe) hframeSeq

theorem continueWith_settled {next : Continuation β} {last : Nat}
    (h : Sync room next.rest none others) (hcounters : room.counters = (true, some last, some last))
    (hcovers : next.Covers room.reducer.appliedRoomSeq) :
    Settled others (continueWith room next).1 (continueWith room next).2 := by
  cases next with
  | returns => exact .idle h
  | replays watermark rest =>
      obtain ⟨applied, happlied, hle⟩ := hcovers
      have hsame : some last = some applied :=
        (show room.reducer.appliedRoomSeq = some last from congrArg (·.2.2) hcounters).symm.trans
          happlied
      cases hsame
      exact replayBuffered_settled hle rest room h hcounters
  | reconciles => exact .idle h.reconciled

theorem continueWith_overtaken {next : Continuation β} (h : Sync room [] none others)
    (hwaiting : room.reducer.snapshotApplied = false) :
    Settled others (continueWith room next).1 (continueWith room next).2 := by
  cases next with
  | returns => exact .idle h
  | replays watermark rest => exact replayBuffered_overtaken watermark rest room h hwaiting
  | reconciles => exact .idle h.reconciled

theorem onFulfilled_settled {handler : Awaiting β} (h : Settled others room (some handler))
    (hlater : room.reducer.snapshotApplied = true →
      ∀ last, room.reducer.lastRoomSeq = some last → last ≤ handler.seq) :
    Settled others (onFulfilled room handler).1 (onFulfilled room handler).2 := by
  have hcovers := (h.covers handler (.inr rfl)).mono (notLowered_maxSeq _ handler.seq)
  have hfulfilled : ∀ rest, (room.reducer.snapshotApplied = true → handler.next.rest = rest) →
      Sync _ rest none others :=
    fun rest hrest => h.fulfilled fun hlive => ⟨hrest hlive, hlater hlive⟩
  unfold onFulfilled
  dsimp only
  generalize happlied : (room.update _).note _ = applied at hfulfilled ⊢
  have hcounters : applied.counters = (room.reducer.snapshotApplied, some handler.seq,
      some (maxSeq room.reducer.appliedRoomSeq handler.seq)) := by
    rw [← happlied]
    rfl
  have hafter := (drainReorderBuffer_counters applied).trans hcounters
  cases hsession : room.reducer.snapshotApplied with
  | true =>
      have hdrained := drainReorderBuffer_sync (hfulfilled _ fun _ => rfl)
      rw [h.applied hsession (hlater hsession), hsession] at hafter
      rw [h.applied hsession (hlater hsession)] at hcovers
      have hcovers : handler.next.Covers (drainReorderBuffer applied).1.reducer.appliedRoomSeq := by
        rw [show (drainReorderBuffer applied).1.reducer.appliedRoomSeq = some handler.seq from
          congrArg (·.2.2) hafter]
        exact hcovers
      split
      · rename_i hdrain
        rw [hdrain] at hdrained hcovers
        exact .waits hdrained hcovers
      · rename_i hdrain
        rw [hdrain] at hdrained hafter hcovers
        exact continueWith_settled hdrained hafter hcovers
  | false =>
      -- a handler of an earlier session: what it still holds was not received in this one
      have hdrained := drainReorderBuffer_sync (hfulfilled [] fun hlive => by
        rw [hsession] at hlive
        cases hlive)
      split
      · rename_i later seq hdrain
        rw [hdrain] at hdrained hafter
        have hlive := (congrArg (·.1) hafter).symm.trans (hdrained.calling seq rfl)
        have hlive : room.reducer.snapshotApplied = true := hlive
        rw [hsession] at hlive
        cases hlive
      · rename_i hdrain
        rw [hdrain] at hdrained hafter
        exact continueWith_overtaken hdrained ((congrArg (·.1) hafter).trans hsession)

/-- Nothing keeps a delta at which `deps.onDelta` has thrown, nor what its handler was to replay. -/
theorem onRejected_sync {handler : Awaiting β} (h : Settled others room (some handler)) :
    Sync (onRejected room handler) [] none others := by
  refine { h with
    calls := ?_
    covers := fun other hwaits => h.covers other (.inl hwaits)
    held := ?_ }
  · intro n hmem
    rcases h.calls n hmem with hcovered | hrefused | hhanding | ⟨other, hwaits, hseq⟩
    · exact .inl hcovered
    · exact .inr (.inl (List.mem_cons_of_mem _ hrefused))
    · cases hhanding
    · rcases hwaits with hwaits | hsame
      · exact .inr (.inr (.inr ⟨other, hwaits, hseq⟩))
      · cases hsame
        exact .inr (.inl (hseq ▸ List.mem_cons_self ..))
  · intro seq hmem
    rcases (h.held seq hmem).parted [] with hheld | ⟨-, rfl | ⟨frame, hframe, hframeSeq⟩⟩
    · exact hheld.mono (fun _ => .refl _) rfl (List.Subset.refl _) (List.Subset.refl _)
        (List.Subset.refl _) (List.subset_append_right _ _)
    · exact .abandoned (List.mem_cons_self ..)
    · have hleft : seq ∈ handler.next.rest.filterMap (·.roomSeq) :=
        List.mem_filterMap.mpr ⟨frame, hframe, hframeSeq⟩
      exact .abandoned (List.mem_append_left _ (List.mem_cons_of_mem _ hleft))

/-! ## Snapshots and handshakes -/

/-- A snapshot covers what lies below it, and the buffered deltas are left to replay. -/
theorem Sync.snapshot {watermark : Nat} (h : Sync room [] none others)
    (habove : ∀ applied, room.reducer.appliedRoomSeq = some applied → applied ≤ watermark) :
    Sync ((room.update (withSnapshot watermark)).note (.applied watermark))
      room.reducer.preSnapshotBuffer none others := by
  have hmax : maxSeq room.reducer.appliedRoomSeq watermark = watermark := maxSeq_eq habove
  have hsync : Sync (Room.note { room with
      reducer := { room.reducer with
        snapshotApplied := true
        lastRoomSeq := some watermark
        appliedRoomSeq := some (maxSeq room.reducer.appliedRoomSeq watermark)
        highestObservedRoomSeq := some (maxSeq room.reducer.highestObservedRoomSeq watermark)
        reorderBuffer := room.reducer.reorderBuffer.filter (watermark < ·.1)
        bootstrapTimer := false
        preSnapshotBuffer := [] } } (.applied watermark))
      room.reducer.preSnapshotBuffer none others := by
    refine { h with
      keys := fun entry hentry => h.keys entry (List.mem_of_mem_filter hentry)
      live := fun _ => ⟨watermark, rfl, congrArg some hmax, rfl⟩
      calling := fun _ _ => rfl
      coveredBelow := ?_
      calls := ?_
      bootstrapped := fun _ hne => absurd rfl hne
      covers := fun handler hwaits => (h.covers handler hwaits).mono (notLowered_maxSeq _ watermark)
      held := ?_ }
    · intro n hmem
      use watermark
      constructor
      · exact congrArg some hmax
      · rcases List.mem_cons.mp hmem with rfl | hmem
        · exact Nat.le_refl _
        · obtain ⟨applied, hbelow, hle⟩ := h.coveredBelow n hmem
          exact Nat.le_trans hle (habove applied hbelow)
    · intro n hmem
      rcases h.calls n hmem with hcovered | hrefused
      · exact .inl (List.mem_cons_of_mem _ hcovered)
      · exact .inr hrefused
    · intro seq hseq
      cases h.held seq hseq with
      | covered last hlast hle hlive =>
          obtain ⟨last', hlast', happlied, -⟩ := h.live hlive
          rw [hlast] at hlast'
          cases hlast'
          exact .covered watermark rfl (Nat.le_trans hle (habove last happlied)) rfl
      | handing hhanding => cases hhanding
      | buffered frame hframe hframeSeq => exact .replayed frame hframe hframeSeq
      | replayed frame hframe _ => cases hframe
      | reordered frame hframe =>
          by_cases hbelow : seq ≤ watermark
          · exact .covered watermark rfl hbelow rfl
          · apply Held.reordered frame
            exact List.mem_filter.mpr ⟨hframe, by simpa using hbelow⟩
      | awaited handler hwaits _ hseq => exact .awaited handler hwaits rfl hseq
      | dropped hdropped => exact .dropped hdropped
      | abandoned habandoned => exact .abandoned habandoned
  exact hsync.timerCleared

theorem onSnapshot_settled (h : Sync room [] none others) (watermark : Nat) (applies : Bool) :
    Settled others (onSnapshot room watermark applies).1
      (onSnapshot room watermark applies).2 := by
  unfold onSnapshot
  split
  · exact .idle h.requestedSnapshot
  · rename_i htaken
    have habove : ∀ applied, room.reducer.appliedRoomSeq = some applied → applied ≤ watermark := by
      intro applied happlied
      by_contra hbelow
      apply htaken
      rw [happlied]
      simpa using Or.inl (Nat.lt_of_not_le hbelow)
    have hmax : maxSeq room.reducer.appliedRoomSeq watermark = watermark := maxSeq_eq habove
    have hcounters := withSnapshot_counters room watermark
    rw [hmax] at hcounters
    exact replayBuffered_settled (Nat.le_refl _) _ _ (h.snapshot habove) hcounters

theorem onConnected_settled (h : Sync room [] none others) (roomSeq : Nat) :
    Settled others (onConnected room roomSeq) none := by
  apply Settled.idle
  exact { h with
    keys := fun entry hentry => absurd hentry List.not_mem_nil
    live := fun hlive => absurd hlive Bool.false_ne_true
    calling := fun _ hhanding => by cases hhanding
    requested := fun hrequested => absurd hrequested Bool.false_ne_true
    bootstrapped := fun _ hne => absurd rfl hne
    droppedRequested := fun hne => absurd rfl hne
    held := fun seq hseq => absurd hseq List.not_mem_nil }

theorem onHeartbeat_sync {rest : List (DeltaFrame β)} {handing : Option Nat}
    (h : Sync room rest handing others) (roomSeq : Option Nat) :
    Sync (onHeartbeat room roomSeq) rest handing others := by
  unfold onHeartbeat
  split
  · exact h
  · split
    · exact h.unobserved rfl rfl rfl rfl rfl rfl
    · exact h

theorem Sync.received (h : Sync room [] none others) (frame : DeltaFrame β) :
    Sync (room.note (.received frame.roomSeq)) [frame] none others := by
  have hframe := h.replaying frame
  refine { h with held := ?_ }
  intro seq hseq
  have hknown : seq ∈ receivedSince room.history →
      Held (room.note (.received frame.roomSeq)) [frame] none others seq :=
    fun hmem => (hframe.held seq hmem).mono (fun _ => .refl _) rfl (List.Subset.refl _)
      (List.Subset.refl _) (List.Subset.refl _) (List.Subset.refl _)
  cases hown : frame.roomSeq with
  | none =>
      rw [hown] at hseq hknown
      exact hknown hseq
  | some own =>
      rw [hown] at hseq hknown
      rcases List.mem_cons.mp hseq with rfl | hmem
      · exact .replayed frame (List.mem_singleton_self _) hown
      · exact hknown hmem

theorem handle_settled (h : Sync room [] none others) (frame : SyncFrame β) :
    Settled others (handle room frame).1 (handle room frame).2 := by
  cases frame with
  | connected roomSeq => exact onConnected_settled h roomSeq
  | snapshot watermark applies => exact onSnapshot_settled h watermark applies
  | heartbeat roomSeq => exact .idle (onHeartbeat_sync h roomSeq)
  | delta frame =>
      have hdelta := onDelta_sync (h.received frame)
      unfold handle
      dsimp only
      split
      · rename_i heq
        rw [heq] at hdelta
        exact .waits hdelta trivial
      · rename_i heq
        rw [heq] at hdelta
        exact .idle hdelta

/-! ## Timers -/

theorem reorderTimerFired_sync (h : Sync room [] none others) :
    Sync (reorderTimerFired room) [] none others := by
  have hcleared : Sync (room.update ({ · with reorderTimer := false })) [] none others :=
    h.unobserved rfl rfl rfl rfl rfl rfl
  exact hcleared.requestedSnapshot

theorem bootstrapTimerFired_sync (h : Sync room [] none others) :
    Sync (bootstrapTimerFired room) [] none others := by
  have hcleared : Sync (room.update ({ · with bootstrapTimer := false })) [] none others :=
    h.unobserved rfl rfl rfl rfl rfl rfl
  unfold bootstrapTimerFired
  dsimp only
  split
  · exact hcleared
  · exact hcleared.requestedSnapshot

theorem heartbeatGapTimerFired_sync (h : Sync room [] none others) :
    Sync (heartbeatGapTimerFired room) [] none others := by
  have hcleared : Sync (room.update ({ · with heartbeatGapTimer := false })) [] none others :=
    h.unobserved rfl rfl rfl rfl rfl rfl
  unfold heartbeatGapTimerFired
  dsimp only
  split
  · split
    · exact hcleared.requestedSnapshot
    · exact hcleared
  · exact hcleared

end Hybro.RoomSync
