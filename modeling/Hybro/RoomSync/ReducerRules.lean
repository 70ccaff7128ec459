import Hybro.RoomSync.Reducer

/-! # What the reducer keeps while it handles a frame

The invariant relates the counters and buffers of the reducer to its history. The
deltas that a handler still has to replay and the one it has handed over count as
held. Any number of other handlers may wait meanwhile.
-/

namespace Hybro.RoomSync

variable {β : Type}

/-! ## Reading the history -/

def position : List SyncEvent → Option Nat
  | [] => none
  | .connected _ :: _ => none
  | .applied watermark :: _ => some watermark
  | .fulfilled seq :: _ => some seq
  | .received _ :: earlier | .handed _ :: earlier | .dropped _ :: earlier
  | .rejected _ _ :: earlier | .requested :: earlier => position earlier

/-- Every delta whose `deps.onDelta` has returned, and every watermark applied. -/
def covered : List SyncEvent → List Nat
  | [] => []
  | .applied watermark :: earlier => watermark :: covered earlier
  | .fulfilled seq :: earlier => seq :: covered earlier
  | .connected _ :: earlier | .received _ :: earlier | .handed _ :: earlier
  | .dropped _ :: earlier | .rejected _ _ :: earlier | .requested :: earlier => covered earlier

/-- Every delta handed over, on any connection. -/
def called : List SyncEvent → List Nat
  | [] => []
  | .handed seq :: earlier => seq :: called earlier
  | .connected _ :: earlier | .received _ :: earlier | .applied _ :: earlier
  | .fulfilled _ :: earlier | .dropped _ :: earlier | .rejected _ _ :: earlier
  | .requested :: earlier => called earlier

/-- Every delta that `deps.onDelta` has thrown at. -/
def refused : List SyncEvent → List Nat
  | [] => []
  | .rejected seq _ :: earlier => seq :: refused earlier
  | .connected _ :: earlier | .received _ :: earlier | .applied _ :: earlier
  | .handed _ :: earlier | .fulfilled _ :: earlier | .dropped _ :: earlier
  | .requested :: earlier => refused earlier

def receivedSince : List SyncEvent → List Nat
  | [] => []
  | .connected _ :: _ => []
  | .received (some seq) :: earlier => seq :: receivedSince earlier
  | .received none :: earlier | .applied _ :: earlier | .handed _ :: earlier
  | .fulfilled _ :: earlier | .dropped _ :: earlier | .rejected _ _ :: earlier
  | .requested :: earlier => receivedSince earlier

def droppedSince : List SyncEvent → List Nat
  | [] => []
  | .connected _ :: _ => []
  | .dropped seq :: earlier => seq :: droppedSince earlier
  | .received _ :: earlier | .applied _ :: earlier | .handed _ :: earlier
  | .fulfilled _ :: earlier | .rejected _ _ :: earlier
  | .requested :: earlier => droppedSince earlier

/-- The deltas of this connection that were rejected, or whose handler was. -/
def abandonedSince : List SyncEvent → List Nat
  | [] => []
  | .connected _ :: _ => []
  | .rejected seq abandoned :: earlier => seq :: abandoned ++ abandonedSince earlier
  | .received _ :: earlier | .applied _ :: earlier | .handed _ :: earlier
  | .fulfilled _ :: earlier | .dropped _ :: earlier
  | .requested :: earlier => abandonedSince earlier

def requestedSince : List SyncEvent → Bool
  | [] => false
  | .connected _ :: _ => false
  | .requested :: _ => true
  | .received _ :: earlier | .applied _ :: earlier | .handed _ :: earlier
  | .fulfilled _ :: earlier | .dropped _ :: earlier
  | .rejected _ _ :: earlier => requestedSince earlier

/-- Deltas are handed over one above the position of the connection, each of them above
everything covered before. -/
def InOrder : List SyncEvent → Prop
  | [] => True
  | .handed seq :: earlier =>
      (∃ before, position earlier = some before ∧ seq = before + 1) ∧
        (∀ n ∈ covered earlier, n < seq) ∧ InOrder earlier
  | .connected _ :: earlier | .received _ :: earlier | .applied _ :: earlier
  | .fulfilled _ :: earlier | .dropped _ :: earlier | .rejected _ _ :: earlier
  | .requested :: earlier => InOrder earlier

/-! ## The invariant -/

/-- Where a delta that was received can be, while a handler has `rest` to replay and has handed
`handing` over, and `others` wait. -/
inductive Held (room : Room β) (rest : List (DeltaFrame β)) (handing : Option Nat)
    (others : Awaiting β → Prop) (seq : Nat) : Prop
  | covered (last : Nat) (hlast : room.reducer.lastRoomSeq = some last) (h : seq ≤ last)
      (happlied : room.reducer.snapshotApplied = true)
  | handing (h : handing = some seq)
  | buffered (frame : DeltaFrame β) (hmem : frame ∈ room.reducer.preSnapshotBuffer)
      (hseq : frame.roomSeq = some seq)
  | replayed (frame : DeltaFrame β) (hmem : frame ∈ rest) (hseq : frame.roomSeq = some seq)
  | reordered (frame : DeltaFrame β) (hmem : (seq, frame) ∈ room.reducer.reorderBuffer)
  | awaited (handler : Awaiting β) (hwaits : others handler)
      (happlied : room.reducer.snapshotApplied = true)
      (h : handler.seq = seq ∨ ∃ frame ∈ handler.next.rest, frame.roomSeq = some seq)
  | dropped (h : seq ∈ droppedSince room.history)
  | abandoned (h : seq ∈ abandonedSince room.history)

/-- The stores cover the snapshot from which a handler replays. -/
def Continuation.Covers (appliedRoomSeq : Option Nat) : Continuation β → Prop
  | .returns => True
  | .replays watermark _ => ∃ applied, appliedRoomSeq = some applied ∧ watermark ≤ applied
  | .reconciles => True

/-- A handler has `rest` to replay and has handed `handing` over, and `others` wait. -/
structure Sync (room : Room β) (rest : List (DeltaFrame β)) (handing : Option Nat)
    (others : Awaiting β → Prop) : Prop where
  keys : ∀ entry ∈ room.reducer.reorderBuffer, entry.2.roomSeq = some entry.1
  order : InOrder room.history
  /-- After a snapshot the counter is what the stores hold. -/
  live : room.reducer.snapshotApplied = true → ∃ last,
    room.reducer.lastRoomSeq = some last ∧ room.reducer.appliedRoomSeq = some last ∧
      position room.history = some last
  calling : ∀ seq, handing = some seq → room.reducer.snapshotApplied = true
  coveredBelow : ∀ n ∈ covered room.history,
    ∃ applied, room.reducer.appliedRoomSeq = some applied ∧ n ≤ applied
  calls : ∀ n ∈ called room.history, n ∈ covered room.history ∨ n ∈ refused room.history ∨
    handing = some n ∨ ∃ handler, others handler ∧ handler.seq = n
  requested : room.reducer.bootstrapRequested = true → requestedSince room.history = true
  bootstrapped : room.reducer.snapshotApplied = false →
    room.reducer.preSnapshotBuffer ≠ [] → room.reducer.bootstrapRequested = true
  droppedRequested : droppedSince room.history ≠ [] → requestedSince room.history = true
  covers : ∀ handler, others handler → handler.next.Covers room.reducer.appliedRoomSeq
  held : ∀ seq ∈ receivedSince room.history, Held room rest handing others seq

variable {room : Room β} {rest : List (DeltaFrame β)} {handing : Option Nat}
  {others : Awaiting β → Prop}

def NotLowered (before after : Option Nat) : Prop :=
  ∀ n, before = some n → ∃ m, after = some m ∧ n ≤ m

theorem NotLowered.refl (counter : Option Nat) : NotLowered counter counter :=
  fun n hn => ⟨n, hn, Nat.le_refl n⟩

theorem Held.mono {later : Room β} {seq : Nat} (h : Held room rest handing others seq)
    (hlast : room.reducer.snapshotApplied = true →
      NotLowered room.reducer.lastRoomSeq later.reducer.lastRoomSeq)
    (happlied : later.reducer.snapshotApplied = room.reducer.snapshotApplied)
    (hbuffer : room.reducer.preSnapshotBuffer ⊆ later.reducer.preSnapshotBuffer)
    (hreorder : room.reducer.reorderBuffer ⊆ later.reducer.reorderBuffer)
    (hdropped : droppedSince room.history ⊆ droppedSince later.history)
    (habandoned : abandonedSince room.history ⊆ abandonedSince later.history) :
    Held later rest handing others seq := by
  cases h with
  | covered last hlast' hle hlive =>
      obtain ⟨later', hlater, hgrown⟩ := hlast hlive last hlast'
      exact .covered later' hlater (Nat.le_trans hle hgrown) (happlied.trans hlive)
  | handing hhanding => exact .handing hhanding
  | buffered frame hmem hseq => exact .buffered frame (hbuffer hmem) hseq
  | replayed frame hmem hseq => exact .replayed frame hmem hseq
  | reordered frame hmem => exact .reordered frame (hreorder hmem)
  | awaited handler hwaits hlive hseq =>
      exact .awaited handler hwaits (happlied.trans hlive) hseq
  | dropped hmem => exact .dropped (hdropped hmem)
  | abandoned hmem => exact .abandoned (habandoned hmem)

/-- What the running handler holds goes elsewhere. -/
theorem Held.handedOn {rest' : List (DeltaFrame β)} {handing' : Option Nat}
    {others' : Awaiting β → Prop} {seq : Nat} (h : Held room rest handing others seq)
    (hhanding : handing = some seq → Held room rest' handing' others' seq)
    (hrest : ∀ frame ∈ rest, frame.roomSeq = some seq → Held room rest' handing' others' seq)
    (hothers : ∀ handler, others handler → others' handler) :
    Held room rest' handing' others' seq := by
  cases h with
  | covered last hlast hle hlive => exact .covered last hlast hle hlive
  | handing h => exact hhanding h
  | buffered frame hmem hseq => exact .buffered frame hmem hseq
  | replayed frame hmem hseq => exact hrest frame hmem hseq
  | reordered frame hmem => exact .reordered frame hmem
  | awaited handler hwaits hlive hseq => exact .awaited handler (hothers handler hwaits) hlive hseq
  | dropped hmem => exact .dropped hmem
  | abandoned hmem => exact .abandoned hmem

theorem Held.withoutFrame {frame : DeltaFrame β} {seq : Nat}
    (h : Held room (frame :: rest) handing others seq)
    (hframe : frame.roomSeq = some seq → Held room rest handing others seq) :
    Held room rest handing others seq := by
  apply h.handedOn .handing
  · intro other hmem hseq
    rcases List.mem_cons.mp hmem with rfl | hmem
    · exact hframe hseq
    · exact .replayed other hmem hseq
  · exact fun _ hwaits => hwaits

theorem Sync.unobserved {reducer : RoomReducer β} (h : Sync room rest handing others)
    (hsnapshot : reducer.snapshotApplied = room.reducer.snapshotApplied)
    (hlast : reducer.lastRoomSeq = room.reducer.lastRoomSeq)
    (happlied : reducer.appliedRoomSeq = room.reducer.appliedRoomSeq)
    (hbuffer : reducer.preSnapshotBuffer = room.reducer.preSnapshotBuffer)
    (hreorder : reducer.reorderBuffer = room.reducer.reorderBuffer)
    (hrequested : reducer.bootstrapRequested = room.reducer.bootstrapRequested) :
    Sync { room with reducer := reducer } rest handing others where
  keys entry hmem := h.keys entry (hreorder ▸ hmem)
  order := h.order
  live hlive := by
    rw [hsnapshot] at hlive
    obtain ⟨last, hlast', happlied', hposition⟩ := h.live hlive
    exact ⟨last, hlast.trans hlast', happlied.trans happlied', hposition⟩
  calling seq hseq := hsnapshot.trans (h.calling seq hseq)
  coveredBelow n hmem := by
    obtain ⟨applied, hbelow, hle⟩ := h.coveredBelow n hmem
    exact ⟨applied, happlied.trans hbelow, hle⟩
  calls := h.calls
  requested hflag := h.requested (hrequested.symm.trans hflag)
  bootstrapped hwaiting hne := by
    show reducer.bootstrapRequested = true
    rw [hrequested]
    apply h.bootstrapped (hsnapshot.symm.trans hwaiting)
    rw [← hbuffer]
    exact hne
  droppedRequested := h.droppedRequested
  covers handler hwaits := by
    show handler.next.Covers reducer.appliedRoomSeq
    rw [happlied]
    exact h.covers handler hwaits
  held seq hmem := by
    apply (h.held seq hmem).mono (fun _ => hlast ▸ .refl _) hsnapshot
    · exact fun frame hframe => hbuffer.symm ▸ hframe
    · exact fun entry hentry => hreorder.symm ▸ hentry
    · exact List.Subset.refl _
    · exact List.Subset.refl _

theorem Sync.reconciled (h : Sync room rest handing others) :
    Sync (room.update reconcileObservedWatermark) rest handing others :=
  h.unobserved rfl rfl rfl rfl rfl rfl

theorem Sync.timerCleared (h : Sync room rest handing others) :
    Sync (room.update clearReorderTimerIfEmpty) rest handing others := by
  unfold Room.update clearReorderTimerIfEmpty
  split
  · exact h.unobserved rfl rfl rfl rfl rfl rfl
  · exact h

theorem Sync.requestedSnapshot (h : Sync room rest handing others) :
    Sync (requestSnapshot room) rest handing others :=
  { h with
    requested := fun _ => rfl
    droppedRequested := fun _ => rfl
    held := fun seq hmem => (h.held seq hmem).mono (fun _ => .refl _) rfl
      (List.Subset.refl _) (List.Subset.refl _) (List.Subset.refl _) (List.Subset.refl _) }

theorem Sync.bootstrapRequested (h : Sync room rest handing others) :
    Sync (room.update ({ · with bootstrapRequested := true }) |> requestSnapshot) rest handing others :=
  { h with
    requested := fun _ => rfl
    bootstrapped := fun _ _ => rfl
    droppedRequested := fun _ => rfl
    held := fun seq hmem => (h.held seq hmem).mono (fun _ => .refl _) rfl
      (List.Subset.refl _) (List.Subset.refl _) (List.Subset.refl _) (List.Subset.refl _) }

theorem Sync.bootstrap (h : Sync room rest handing others) :
    Sync (requestBootstrapSnapshotOnce room) rest handing others := by
  unfold requestBootstrapSnapshotOnce
  split
  · exact h
  · exact h.bootstrapRequested

/-! ## One delta -/

theorem Sync.withoutFrame {frame : DeltaFrame β} (h : Sync room (frame :: rest) handing others)
    (hframe : ∀ seq, frame.roomSeq = some seq → Held room rest handing others seq) :
    Sync room rest handing others :=
  { h with held := fun seq hmem => (h.held seq hmem).withoutFrame (hframe seq) }

/-- A frame with this `room_seq` is not to be replayed when one place holds it. -/
theorem Sync.moved {frame : DeltaFrame β} {seq : Nat} (h : Sync room (frame :: rest) handing others)
    (hframe : frame.roomSeq = some seq) (hheld : Held room rest handing others seq) :
    Sync room rest handing others := by
  apply h.withoutFrame
  intro other hother
  rw [hframe] at hother
  cases hother
  exact hheld

theorem Sync.buffered {frame : DeltaFrame β} {seq : Nat} (h : Sync room (frame :: rest) none others)
    (hframe : frame.roomSeq = some seq) (hrequested : room.reducer.bootstrapRequested = true) :
    Sync (room.update fun reducer =>
      { reducer with preSnapshotBuffer := reducer.preSnapshotBuffer ++ [frame] }) rest none others := by
  have hpushed : Sync (room.update fun reducer =>
      { reducer with preSnapshotBuffer := reducer.preSnapshotBuffer ++ [frame] })
      (frame :: rest) none others :=
    { h with
      bootstrapped := fun _ _ => hrequested
      held := fun other hother => (h.held other hother).mono (fun _ => .refl _) rfl
        (List.subset_append_left _ _) (List.Subset.refl _) (List.Subset.refl _)
        (List.Subset.refl _) }
  apply hpushed.moved hframe
  exact .buffered frame (List.mem_append_right _ (List.mem_singleton_self _)) hframe

theorem Sync.dropped {frame : DeltaFrame β} {seq : Nat} (h : Sync room (frame :: rest) none others)
    (hframe : frame.roomSeq = some seq) (hwaiting : room.reducer.snapshotApplied = false)
    (hfull : room.reducer.preSnapshotBuffer ≠ []) :
    Sync (room.note (.dropped seq)) rest none others := by
  have hnoted : Sync (room.note (.dropped seq)) (frame :: rest) none others :=
    { h with
      droppedRequested := fun _ => h.requested (h.bootstrapped hwaiting hfull)
      held := fun other hother => (h.held other hother).mono (fun _ => .refl _) rfl
        (List.Subset.refl _) (List.Subset.refl _) (List.subset_cons_self _ _)
        (List.Subset.refl _) }
  apply hnoted.moved hframe
  exact .dropped (List.mem_cons_self ..)

theorem Sync.bufferDelta {frame : DeltaFrame β} {seq : Nat} (h : Sync room (frame :: rest) none others)
    (hframe : frame.roomSeq = some seq) (hwaiting : room.reducer.snapshotApplied = false) :
    Sync (requestBootstrapSnapshotOnce (bufferDelta room frame seq)) rest none others := by
  unfold RoomSync.bufferDelta
  split
  · -- the request and the push commute, so the request may come first
    unfold requestBootstrapSnapshotOnce
    by_cases hrequested : room.reducer.bootstrapRequested = true
    · have hsame : (room.update fun reducer => { reducer with
          preSnapshotBuffer := reducer.preSnapshotBuffer ++ [frame] }).reducer.bootstrapRequested =
          true := hrequested
      rw [hsame, Bool.true_or, if_pos rfl]
      exact h.buffered hframe hrequested
    · have hflags : ((room.update fun reducer => { reducer with
          preSnapshotBuffer := reducer.preSnapshotBuffer ++ [frame] }).reducer.bootstrapRequested ||
          (room.update fun reducer => { reducer with
            preSnapshotBuffer := reducer.preSnapshotBuffer ++ [frame] }).reducer.snapshotApplied) =
          false := by
        show (room.reducer.bootstrapRequested || room.reducer.snapshotApplied) = false
        rw [hwaiting]
        simpa using hrequested
      rw [hflags, if_neg Bool.false_ne_true]
      exact h.bootstrapRequested.buffered hframe rfl
  · rename_i hfull
    apply Sync.bootstrap
    apply h.dropped hframe hwaiting
    intro hempty
    rw [hempty] at hfull
    exact hfull (Nat.zero_lt_succ _)

theorem Sync.reorderDelta {frame : DeltaFrame β} {seq : Nat} (h : Sync room (frame :: rest) none others)
    (hframe : frame.roomSeq = some seq) : Sync (reorderDelta room frame seq) rest none others := by
  unfold RoomSync.reorderDelta
  split
  · rename_i hknown
    apply h.moved hframe
    obtain ⟨⟨key, known⟩, hmem, hkey⟩ := List.any_eq_true.mp hknown
    have hkey : key = seq := by simpa using hkey
    subst hkey
    exact .reordered known hmem
  · have hpushed : Sync (room.update fun reducer =>
        { reducer with
          reorderBuffer := reducer.reorderBuffer ++ [(seq, frame)]
          reorderTimer := true }) (frame :: rest) none others := by
      refine { h with keys := ?_, held := ?_ }
      · intro entry hmem
        rcases List.mem_append.mp hmem with hmem | hmem
        · exact h.keys entry hmem
        · rw [List.mem_singleton.mp hmem]
          exact hframe
      · intro other hother
        exact (h.held other hother).mono (fun _ => .refl _) rfl
          (List.Subset.refl _) (List.subset_append_left _ _) (List.Subset.refl _)
          (List.Subset.refl _)
    apply hpushed.moved hframe
    exact .reordered frame (List.mem_append_right _ (List.mem_singleton_self _))

theorem Sync.handed {frame : DeltaFrame β} {last : Nat}
    (h : Sync room (frame :: rest) none others) (hframe : frame.roomSeq = some (last + 1))
    (hlive : room.reducer.snapshotApplied = true)
    (hlast : room.reducer.lastRoomSeq = some last) :
    Sync (room.note (.handed (last + 1))) rest (some (last + 1)) others := by
  obtain ⟨last', hlast', happlied, hposition⟩ := h.live hlive
  rw [hlast] at hlast'
  cases hlast'
  refine { h with order := ?_, calling := fun _ _ => hlive, calls := ?_, held := ?_ }
  · constructor
    · exact ⟨last, hposition, rfl⟩
    · constructor
      · intro n hmem
        obtain ⟨applied, hbelow, hle⟩ := h.coveredBelow n hmem
        rw [happlied] at hbelow
        cases hbelow
        omega
      · exact h.order
  · intro n hmem
    rcases List.mem_cons.mp hmem with rfl | hmem
    · exact .inr (.inr (.inl rfl))
    · rcases h.calls n hmem with hcovered | hrefused | hhanding | hwaits
      · exact .inl hcovered
      · exact .inr (.inl hrefused)
      · cases hhanding
      · exact .inr (.inr (.inr hwaits))
  · intro other hother
    have hnoted : Held (room.note (.handed (last + 1))) (frame :: rest) none others other :=
      (h.held other hother).mono (fun _ => .refl _) rfl (List.Subset.refl _) (List.Subset.refl _)
        (List.Subset.refl _) (List.Subset.refl _)
    apply hnoted.handedOn
    · intro hhanding
      cases hhanding
    · intro frame' hmem hseq
      rcases List.mem_cons.mp hmem with rfl | hmem
      · exact .handing (hframe.symm.trans hseq)
      · exact .replayed frame' hmem hseq
    · exact fun _ hwaits => hwaits

theorem onDelta_sync {frame : DeltaFrame β} (h : Sync room (frame :: rest) none others) :
    Sync (onDelta room frame).1 rest (onDelta room frame).2 others := by
  unfold onDelta
  cases hframe : frame.roomSeq with
  | none =>
      apply Sync.bootstrap
      apply h.withoutFrame
      intro seq hseq
      rw [hframe] at hseq
      cases hseq
  | some seq =>
      dsimp only
      split
      · rename_i hwaiting
        exact h.bufferDelta hframe hwaiting
      · rename_i hlive
        have hlive : room.reducer.snapshotApplied = true := by simpa using hlive
        split
        · exact h.reorderDelta hframe
        · rename_i last hlast
          split
          · rename_i hbelow
            exact h.moved hframe (.covered last hlast hbelow hlive)
          · split
            · rename_i hnext
              subst hnext
              exact h.handed hframe hlive hlast
            · exact h.reorderDelta hframe

end Hybro.RoomSync
