import Hybro.RoomSync.HandlerRules

/-! # The order of deltas

What a room reducer keeps through every orderly run of its connections.
-/

namespace Hybro.RoomSync

variable {β : Type}

def OrderlyStep (state after : SyncState β) : Prop :=
  ∃ label, Orderly state label ∧ SyncStep state label after

def OrderlyRun (state : SyncState β) : Prop :=
  Relation.ReflTransGen OrderlyStep {} state

/-! ## The invariant over a run -/

def Ordered (state : SyncState β) : Prop :=
  Sync state.room [] none state.Waits

def SyncState.Others (state : SyncState β) (connection : Nat) (handler : Awaiting β) : Prop :=
  ∃ other, other ≠ connection ∧ state.awaiting other = some handler

theorem SyncState.waits_eq (state : SyncState β) (connection : Nat) :
    state.Waits = fun handler =>
      state.Others connection handler ∨ state.awaiting connection = some handler := by
  funext handler
  apply propext
  constructor
  · rintro ⟨other, hwaits⟩
    by_cases hsame : other = connection
    · subst hsame
      exact .inr hwaits
    · exact .inl ⟨other, hsame, hwaits⟩
  · rintro (⟨other, -, hwaits⟩ | hwaits)
    · exact ⟨other, hwaits⟩
    · exact ⟨connection, hwaits⟩

theorem SyncState.others_eq {state : SyncState β} {connection : Nat}
    (hidle : state.awaiting connection = none) : state.Others connection = state.Waits := by
  rw [state.waits_eq connection, hidle]
  funext handler
  simp

theorem SyncState.settle_waits (state : SyncState β) (connection : Nat)
    (outcome : Room β × Option (Awaiting β)) :
    (state.settle connection outcome).Waits = fun handler =>
      state.Others connection handler ∨ outcome.2 = some handler := by
  rw [SyncState.waits_eq _ connection]
  have hothers : (state.settle connection outcome).Others connection = state.Others connection := by
    funext handler
    apply propext
    apply exists_congr
    intro other
    apply and_congr_right
    intro hne
    show (if other = connection then outcome.2 else state.awaiting other) = some handler ↔ _
    rw [if_neg (show other ≠ connection from hne)]
  have hown : (state.settle connection outcome).awaiting connection = outcome.2 := if_pos rfl
  rw [hothers, hown]

theorem Ordered.settled {state : SyncState β} {connection : Nat} {handler : Awaiting β}
    (h : Ordered state) (hwaiting : state.awaiting connection = some handler) :
    Settled (state.Others connection) state.room (some handler) := by
  unfold Ordered at h
  rw [state.waits_eq connection, hwaiting] at h
  exact h

theorem Ordered.idle {state : SyncState β} {connection : Nat} (h : Ordered state)
    (hidle : state.awaiting connection = none) :
    Sync state.room [] none (state.Others connection) := by
  rw [state.others_eq hidle]
  exact h

theorem Settled.ordered {state : SyncState β} {connection : Nat}
    {outcome : Room β × Option (Awaiting β)}
    (h : Settled (state.Others connection) outcome.1 outcome.2) :
    Ordered (state.settle connection outcome) := by
  unfold Ordered
  rw [state.settle_waits connection outcome]
  exact h

theorem ordered_initial : Ordered ({} : SyncState β) := by
  constructor
  · exact fun entry hentry => absurd hentry List.not_mem_nil
  · trivial
  · intro hlive
    cases hlive
  · intro _ hhanding
    cases hhanding
  · exact fun n hmem => absurd hmem List.not_mem_nil
  · exact fun n hmem => absurd hmem List.not_mem_nil
  · intro hrequested
    cases hrequested
  · intro _ hne
    exact absurd rfl hne
  · exact fun hne => absurd rfl hne
  · rintro handler ⟨connection, hwaits⟩
    cases hwaits
  · exact fun seq hseq => absurd hseq List.not_mem_nil

theorem ordered_step {state after : SyncState β} {label : SyncLabel β} (h : Ordered state)
    (horderly : Orderly state label) (hstep : SyncStep state label after) : Ordered after := by
  cases hstep with
  | opened roomSeq hnew hidle =>
      exact Settled.ordered (onConnected_settled (h.idle hidle) roomSeq)
  | @handled connection frame hframe hpositive hopen hidle =>
      exact Settled.ordered (handle_settled (h.idle hidle) frame)
  | @fulfilled connection handler hwaiting =>
      apply Settled.ordered (onFulfilled_settled (h.settled hwaiting) _)
      intro hlive last hlast
      by_contra hlater
      exact horderly hlive ⟨handler, last, hwaiting, hlast, Nat.lt_of_not_le hlater⟩
  | rejected hwaiting => exact Settled.ordered (.idle (onRejected_sync (h.settled hwaiting)))
  | reorderTimer _ => exact reorderTimerFired_sync h
  | bootstrapTimer _ => exact bootstrapTimerFired_sync h
  | heartbeatGapTimer _ => exact heartbeatGapTimerFired_sync h

theorem OrderlyRun.ordered {state : SyncState β} (hrun : OrderlyRun state) : Ordered state := by
  unfold OrderlyRun at hrun
  induction hrun with
  | refl => exact ordered_initial
  | tail _ hlast ih =>
      obtain ⟨label, horderly, hstep⟩ := hlast
      exact ordered_step ih horderly hstep

/-! ## The counters over one step -/

theorem heartbeat_counters (room : Room β) (roomSeq : Option Nat) :
    (onHeartbeat room roomSeq).counters = room.counters := by
  unfold onHeartbeat
  split
  · rfl
  · split <;> rfl

theorem handleDelta_counters (room : Room β) (frame : DeltaFrame β) :
    (handle room (.delta frame)).1.counters = room.counters := by
  have hdelta := onDelta_counters (room.note (.received frame.roomSeq)) frame
  unfold handle
  dsimp only
  split
  · rename_i heq
    rw [heq] at hdelta
    exact hdelta
  · rename_i heq
    rw [heq] at hdelta
    exact hdelta

theorem bootstrapTimerFired_counters (room : Room β) :
    (bootstrapTimerFired room).counters = room.counters := by
  unfold bootstrapTimerFired
  dsimp only
  split <;> rfl

theorem heartbeatGapTimerFired_counters (room : Room β) :
    (heartbeatGapTimerFired room).counters = room.counters := by
  unfold heartbeatGapTimerFired
  dsimp only
  split
  · split <;> rfl
  · rfl

theorem handle_appliedRoomSeq (room : Room β) (frame : SyncFrame β) :
    NotLowered room.reducer.appliedRoomSeq (handle room frame).1.reducer.appliedRoomSeq := by
  have same : ∀ {later : Room β}, later.counters = room.counters →
      NotLowered room.reducer.appliedRoomSeq later.reducer.appliedRoomSeq := by
    intro later hcounters
    rw [show later.reducer.appliedRoomSeq = room.reducer.appliedRoomSeq from
      congrArg (·.2.2) hcounters]
    exact NotLowered.refl _
  cases frame with
  | connected roomSeq => exact NotLowered.refl _
  | snapshot watermark applies =>
      rcases onSnapshot_counters room watermark applies with hsame | ⟨-, -, htaken⟩
      · exact same hsame
      · rw [show (handle room (.snapshot watermark applies)).1.reducer.appliedRoomSeq =
          some (maxSeq room.reducer.appliedRoomSeq watermark) from congrArg (·.2.2) htaken]
        exact notLowered_maxSeq _ watermark
  | heartbeat roomSeq => exact same (heartbeat_counters room roomSeq)
  | delta frame => exact same (handleDelta_counters room frame)

/-- What the stores hold is never lowered, whichever handler is overtaken. -/
theorem step_appliedRoomSeq {state after : SyncState β} {label : SyncLabel β}
    (hstep : SyncStep state label after) :
    NotLowered state.room.reducer.appliedRoomSeq after.room.reducer.appliedRoomSeq := by
  cases hstep with
  | opened roomSeq hnew hidle => exact handle_appliedRoomSeq state.room (.connected roomSeq)
  | @handled connection frame hframe hpositive hopen hidle =>
      exact handle_appliedRoomSeq state.room frame
  | @fulfilled connection handler hwaiting =>
      show NotLowered _ (onFulfilled state.room handler).1.reducer.appliedRoomSeq
      rw [show (onFulfilled state.room handler).1.reducer.appliedRoomSeq =
          some (maxSeq state.room.reducer.appliedRoomSeq handler.seq) from
        congrArg (·.2.2) (onFulfilled_counters state.room handler)]
      exact notLowered_maxSeq _ _
  | rejected hwaiting => exact NotLowered.refl _
  | reorderTimer _ => exact NotLowered.refl _
  | bootstrapTimer _ =>
      show NotLowered _ (bootstrapTimerFired state.room).reducer.appliedRoomSeq
      rw [show (bootstrapTimerFired state.room).reducer.appliedRoomSeq =
          state.room.reducer.appliedRoomSeq from
        congrArg (·.2.2) (bootstrapTimerFired_counters state.room)]
      exact NotLowered.refl _
  | heartbeatGapTimer _ =>
      show NotLowered _ (heartbeatGapTimerFired state.room).reducer.appliedRoomSeq
      rw [show (heartbeatGapTimerFired state.room).reducer.appliedRoomSeq =
          state.room.reducer.appliedRoomSeq from
        congrArg (·.2.2) (heartbeatGapTimerFired_counters state.room)]
      exact NotLowered.refl _

theorem Ordered.lastRoomSeq {state after : SyncState β} {label : SyncLabel β} (h : Ordered state)
    (hstep : SyncStep state label after)
    (hopens : ∀ connection roomSeq, label ≠ .handled connection (.connected roomSeq))
    (hkept : ¬ Overwrites state label) :
    NotLowered state.room.reducer.lastRoomSeq after.room.reducer.lastRoomSeq ∨
      state.room.reducer.snapshotApplied = false ∧
        ∃ connection watermark, label = .handled connection (.snapshot watermark true) := by
  have same : ∀ {later : Room β}, later.counters = state.room.counters →
      NotLowered state.room.reducer.lastRoomSeq later.reducer.lastRoomSeq := by
    intro later hcounters
    rw [show later.reducer.lastRoomSeq = state.room.reducer.lastRoomSeq from
      congrArg (·.2.1) hcounters]
    exact NotLowered.refl _
  cases hstep with
  | @opened connection roomSeq hnew hidle => exact absurd rfl (hopens connection roomSeq)
  | @handled connection frame hframe hpositive hopen hidle =>
      cases frame with
      | connected roomSeq => cases hframe
      | heartbeat roomSeq => exact .inl (same (heartbeat_counters state.room roomSeq))
      | delta frame => exact .inl (same (handleDelta_counters state.room frame))
      | snapshot watermark applies =>
          rcases onSnapshot_counters state.room watermark applies with hsame | ⟨happlies, habove, htaken⟩
          · exact .inl (same hsame)
          · cases hlive : state.room.reducer.snapshotApplied with
            | false =>
                subst happlies
                exact .inr ⟨rfl, connection, watermark, rfl⟩
            | true =>
                -- the counter is what the stores hold, and the snapshot covers it
                obtain ⟨last, hlast, happlied, -⟩ := h.live hlive
                apply Or.inl
                intro n hn
                rw [hlast] at hn
                cases hn
                exact ⟨watermark, congrArg (·.2.1) htaken, habove last happlied⟩
  | @fulfilled connection handler hwaiting =>
      apply Or.inl
      intro last hlast
      use handler.seq
      constructor
      · exact congrArg (·.2.1) (onFulfilled_counters state.room handler)
      · by_contra hlater
        exact hkept ⟨handler, last, hwaiting, hlast, Nat.lt_of_not_le hlater⟩
  | rejected hwaiting => exact .inl (NotLowered.refl _)
  | reorderTimer _ => exact .inl (NotLowered.refl _)
  | bootstrapTimer _ => exact .inl (same (bootstrapTimerFired_counters state.room))
  | heartbeatGapTimer _ => exact .inl (same (heartbeatGapTimerFired_counters state.room))

theorem InOrder.earlier {history earlier : List SyncEvent} (h : InOrder history)
    (hsuffix : earlier <:+ history) : InOrder earlier := by
  induction history with
  | nil =>
      rw [List.suffix_nil.mp hsuffix]
      trivial
  | cons event rest ih =>
      rcases List.suffix_cons_iff.mp hsuffix with rfl | hsuffix
      · exact h
      · apply ih _ hsuffix
        cases event with
        | handed seq => exact h.2.2
        | applied watermark => exact h
        | fulfilled seq => exact h
        | connected _ => exact h
        | received _ => exact h
        | dropped _ => exact h
        | rejected _ _ => exact h
        | requested => exact h

/-! ## Runs of a connection -/

def SyncState.opened (state : SyncState β) (connection roomSeq : Nat) : SyncState β :=
  { state.settle connection (handle state.room (.connected roomSeq)) with connection := connection }

def SyncState.delivered (state : SyncState β) (frame : SyncFrame β) : SyncState β :=
  state.settle state.connection (handle state.room frame)

def SyncState.returned (state : SyncState β) (connection : Nat) (handler : Awaiting β) :
    SyncState β :=
  state.settle connection (onFulfilled state.room handler)

theorem OrderlyRun.tail {state after : SyncState β} {label : SyncLabel β} (hrun : OrderlyRun state)
    (horderly : Orderly state label) (hstep : SyncStep state label after) : OrderlyRun after :=
  Relation.ReflTransGen.tail hrun ⟨label, horderly, hstep⟩

theorem OrderlyRun.opened {state : SyncState β} {connection : Nat} (hrun : OrderlyRun state)
    (hidle : state.awaiting connection = none) (hnew : state.connection < connection)
    (roomSeq : Nat) : OrderlyRun (state.opened connection roomSeq) := by
  have hstep : SyncStep state (.handled connection (.connected roomSeq))
      (state.opened connection roomSeq) := .opened roomSeq hnew hidle
  have horderly : Orderly state (.handled connection (.connected roomSeq)) :=
    fun _ hoverwrites => hoverwrites
  exact hrun.tail horderly hstep

theorem SyncState.delivers {state : SyncState β} (hidle : state.awaiting state.connection = none)
    (hopen : 1 ≤ state.connection) {frame : SyncFrame β} (hframe : frame.isConnected = false) :
    SyncStep state (.handled state.connection frame) (state.delivered frame) :=
  .handled hframe hopen (Nat.le_refl _) hidle

theorem OrderlyRun.delivered {state : SyncState β} (hrun : OrderlyRun state)
    (hidle : state.awaiting state.connection = none) (hopen : 1 ≤ state.connection)
    {frame : SyncFrame β} (hframe : frame.isConnected = false) :
    OrderlyRun (state.delivered frame) := by
  have horderly : Orderly state (.handled state.connection frame) :=
    fun _ hoverwrites => hoverwrites
  exact hrun.tail horderly (SyncState.delivers hidle hopen hframe)

theorem OrderlyRun.returned {state : SyncState β} {connection : Nat} {handler : Awaiting β}
    (hrun : OrderlyRun state) (hwaiting : state.awaiting connection = some handler)
    (hlater : ∀ last, state.room.reducer.lastRoomSeq = some last → last ≤ handler.seq) :
    OrderlyRun (state.returned connection handler) := by
  have horderly : Orderly state (.fulfilled connection) := by
    rintro - ⟨other, last, hother, hlast, hlower⟩
    rw [hwaiting] at hother
    cases hother
    exact Nat.not_lt_of_le (hlater last hlast) hlower
  exact hrun.tail horderly (.fulfilled hwaiting)

def handshake : SyncState Unit :=
  ({} : SyncState Unit).opened 1 5

def live : SyncState Unit :=
  handshake.delivered (.snapshot 5 true)

theorem handshake_run : OrderlyRun handshake :=
  OrderlyRun.opened .refl rfl Nat.zero_lt_one 5

theorem live_run : OrderlyRun live :=
  handshake_run.delivered rfl (Nat.le_refl 1) rfl

def overtaken (roomSeq : Nat) : SyncState Unit :=
  (live.delivered (.delta ⟨some 6, ()⟩)).opened 2 roomSeq

theorem overtaken_run (roomSeq : Nat) : OrderlyRun (overtaken roomSeq) := by
  have hwaits : OrderlyRun (live.delivered (.delta ⟨some 6, ()⟩)) :=
    live_run.delivered rfl (Nat.le_refl 1) rfl
  exact hwaits.opened rfl (Nat.lt_succ_self 1) roomSeq

/-! ## The order of deltas -/

/-- In every run the stores are never lowered. While no overtaken handler overwrites the counter
after a snapshot, the deltas are handed over one above the last value applied and above everything
covered before, a delta is handed over again only where its call has thrown or still waits, the
counter is lowered by a handshake, the first snapshot after it and an overtaken handler alone, and
no delta of the connection is lost unless a snapshot was requested for it or `deps.onDelta`
threw. -/
theorem deltas_in_order :
    (∀ {state after : SyncState β} {label : SyncLabel β}, SyncStep state label after →
      NotLowered state.room.reducer.appliedRoomSeq after.room.reducer.appliedRoomSeq) ∧
    ∀ {state : SyncState β}, OrderlyRun state →
      (∀ {seq : Nat} {earlier : List SyncEvent}, .handed seq :: earlier <:+ state.room.history →
        (∃ before, position earlier = some before ∧ seq = before + 1) ∧
          ∀ n ∈ covered earlier, n < seq) ∧
      (∀ n ∈ called state.room.history, n ∈ covered state.room.history ∨
        n ∈ refused state.room.history ∨ ∃ handler, state.Waits handler ∧ handler.seq = n) ∧
      (∀ {after : SyncState β} {label : SyncLabel β}, SyncStep state label after →
        (∀ connection roomSeq, label ≠ .handled connection (.connected roomSeq)) →
        ¬ Overwrites state label →
        NotLowered state.room.reducer.lastRoomSeq after.room.reducer.lastRoomSeq ∨
          state.room.reducer.snapshotApplied = false ∧
            ∃ connection watermark, label = .handled connection (.snapshot watermark true)) ∧
      (∀ seq ∈ receivedSince state.room.history, Held state.room [] none state.Waits seq) ∧
      (droppedSince state.room.history ≠ [] → requestedSince state.room.history = true) := by
  constructor
  · exact step_appliedRoomSeq
  · intro state hrun
    have hordered := hrun.ordered
    constructor
    · intro seq earlier hsuffix
      have hhanded := hordered.order.earlier hsuffix
      exact ⟨hhanded.1, hhanded.2.1⟩
    · constructor
      · intro n hmem
        rcases hordered.calls n hmem with hcovered | hrefused | hhanding | hwaits
        · exact .inl hcovered
        · exact .inr (.inl hrefused)
        · cases hhanding
        · exact .inr (.inr hwaits)
      · constructor
        · exact fun hstep hopens hkept => hordered.lastRoomSeq hstep hopens hkept
        · exact ⟨hordered.held, hordered.droppedRequested⟩

/-- A handler is overtaken: its delta is handed over again on the new connection, and both calls
return before the next delta. -/
theorem deltas_in_order_overtaken :
    let buffered := (overtaken 5).delivered (.delta ⟨some 6, ()⟩)
    let replayed := buffered.delivered (.snapshot 5 true)
    let returned := (replayed.returned 1 ⟨6, .returns⟩).returned 2 ⟨6, .replays 5 []⟩
    let state := returned.delivered (.delta ⟨some 7, ()⟩)
    NotLowered none (some 5) ∧
      state.room.history =
        [.handed 7, .received (some 7), .fulfilled 6, .fulfilled 6, .handed 6, .applied 5,
          .requested, .received (some 6), .connected 5, .handed 6, .received (some 6), .applied 5,
          .connected 5] ∧
      (∀ n ∈ covered state.room.history.tail, n < 7) ∧
      Held replayed.room [] none replayed.Waits 6 ∧ Held state.room [] none state.Waits 6 := by
  intro buffered replayed returned state
  have hbuffered : OrderlyRun buffered := (overtaken_run 5).delivered rfl (by decide) rfl
  have hreplayed : OrderlyRun replayed := hbuffered.delivered rfl (by decide) rfl
  have hfirst : OrderlyRun (replayed.returned 1 ⟨6, .returns⟩) := by
    apply hreplayed.returned rfl
    intro last hlast
    cases hlast
    decide
  have hreturned : OrderlyRun returned := by
    apply hfirst.returned rfl
    intro last hlast
    cases hlast
    decide
  have hrun : OrderlyRun state := hreturned.delivered rfl (by decide) rfl
  have hsnapshot : SyncStep handshake (.handled 1 (.snapshot 5 true)) live :=
    SyncState.delivers rfl (Nat.le_refl 1) rfl
  obtain ⟨horder, -, -, hheld, -⟩ := deltas_in_order.2 hrun
  constructor
  · exact deltas_in_order.1 hsnapshot
  · constructor
    · rfl
    · constructor
      · exact (horder (List.suffix_refl _)).2
      · constructor
        · exact (deltas_in_order.2 hreplayed).2.2.2.1 6 (List.mem_singleton_self 6)
        · exact hheld 6 (List.mem_cons_of_mem _ (List.mem_singleton_self 6))

/-! ## What the reducer does not keep -/

def SyncRun (state : SyncState β) : Prop :=
  Relation.ReflTransGen (fun state after => ∃ label, SyncStep state label after) {} state

theorem OrderlyRun.run {state : SyncState β} (hrun : OrderlyRun state) : SyncRun state := by
  induction hrun with
  | refl => exact .refl
  | tail _ hlast ih =>
      obtain ⟨label, -, hstep⟩ := hlast
      exact ih.tail ⟨label, hstep⟩

theorem first_snapshot_lowers :
    ∃ after, SyncStep handshake (.handled 1 (.snapshot 3 true)) after ∧
      handshake.room.reducer.lastRoomSeq = some 5 ∧ after.room.reducer.lastRoomSeq = some 3 :=
  ⟨_, SyncState.delivers rfl (Nat.le_refl 1) rfl, rfl, rfl⟩

/-- A delta without a `room_seq` is ignored after a snapshot. -/
theorem unsequenced_ignored :
    ∃ state : SyncState Unit, OrderlyRun state ∧
      state.room.history = [.received none, .applied 5, .connected 5] ∧
      state.room.reducer.preSnapshotBuffer = [] ∧ state.room.reducer.reorderBuffer = [] :=
  ⟨live.delivered (.delta ⟨none, ()⟩), live_run.delivered rfl (Nat.le_refl 1) rfl,
    rfl, rfl, rfl⟩

theorem handshake_forgets :
    ∃ state : SyncState Unit, OrderlyRun state ∧
      state.room.history = [.connected 5, .received (some 8), .applied 5, .connected 5] ∧
      state.room.reducer.preSnapshotBuffer = [] ∧ state.room.reducer.reorderBuffer = [] := by
  have hrun : OrderlyRun (live.delivered (.delta ⟨some 8, ()⟩)) :=
    live_run.delivered rfl (Nat.le_refl 1) rfl
  exact ⟨_, hrun.opened rfl (Nat.lt_succ_self 1) 5, rfl, rfl, rfl⟩

/-- A delta that `deps.onDelta` refuses is given up. -/
theorem rejected_delta_lost :
    ∃ state : SyncState Unit, OrderlyRun state ∧
      state.room.history =
        [.rejected 6 [], .handed 6, .received (some 6), .applied 5, .connected 5] ∧
      state.room.reducer.preSnapshotBuffer = [] ∧ state.room.reducer.reorderBuffer = [] ∧
      state.room.reducer.lastRoomSeq = some 5 := by
  have hrun : OrderlyRun (live.delivered (.delta ⟨some 6, ()⟩)) :=
    live_run.delivered rfl (Nat.le_refl 1) rfl
  have horderly : Orderly (live.delivered (.delta ⟨some 6, ()⟩)) (.rejected 1) :=
    fun _ hoverwrites => hoverwrites
  exact ⟨_, hrun.tail horderly (.rejected rfl), rfl, rfl, rfl, rfl⟩

theorem handle_waiting {room : Room β} (seq : Nat) (data : β)
    (hwaiting : room.reducer.snapshotApplied = false) :
    handle room (.delta ⟨some seq, data⟩) =
      (requestBootstrapSnapshotOnce
        (bufferDelta (room.note (.received (some seq))) ⟨some seq, data⟩ seq), none) := by
  have hnoted : (room.note (.received (some seq))).reducer.snapshotApplied = false := hwaiting
  unfold handle onDelta
  simp [hnoted]

theorem requestBootstrapSnapshotOnce_reducer {room : Room β}
    (hwaiting : room.reducer.snapshotApplied = false) :
    (requestBootstrapSnapshotOnce room).reducer =
      { room.reducer with bootstrapRequested := true } := by
  unfold requestBootstrapSnapshotOnce
  split
  · rename_i hrequested
    have hrequested : room.reducer.bootstrapRequested = true := by simpa [hwaiting] using hrequested
    rw [← hrequested]
  · rfl

theorem buffer_fills (n : Nat) (hn : n < preSnapshotBufferLimit) :
    ∃ state : SyncState Unit, OrderlyRun state ∧ state.awaiting 1 = none ∧
      state.connection = 1 ∧ state.room.reducer =
        { lastRoomSeq := some 5, highestObservedRoomSeq := some 5, bootstrapTimer := true,
          bootstrapRequested := true,
          preSnapshotBuffer := List.replicate (n + 1) ⟨some 6, ()⟩ } := by
  induction n with
  | zero =>
      exact ⟨handshake.delivered (.delta ⟨some 6, ()⟩),
        handshake_run.delivered rfl (Nat.le_refl 1) rfl, rfl, rfl, rfl⟩
  | succ n ih =>
      obtain ⟨state, hrun, hidle, hconnection, hreducer⟩ := ih (Nat.lt_of_succ_lt hn)
      have hopen : 1 ≤ state.connection := Nat.le_of_eq hconnection.symm
      have hidle : state.awaiting state.connection = none := by rw [hconnection, hidle]
      have hwaiting : state.room.reducer.snapshotApplied = false := by rw [hreducer]
      have hhandled := handle_waiting 6 () hwaiting
      have hroom : state.room.reducer.preSnapshotBuffer.length < preSnapshotBufferLimit := by
        rw [hreducer, List.length_replicate]
        exact hn
      have hbuffered : bufferDelta (state.room.note (.received (some 6))) ⟨some 6, ()⟩ 6 =
          (state.room.note (.received (some 6))).update fun reducer =>
            { reducer with preSnapshotBuffer := reducer.preSnapshotBuffer ++ [⟨some 6, ()⟩] } := by
        unfold bufferDelta
        exact if_pos hroom
      have hafter : (state.delivered (.delta ⟨some 6, ()⟩)).room =
          requestBootstrapSnapshotOnce
            (bufferDelta (state.room.note (.received (some 6))) ⟨some 6, ()⟩ 6) :=
        congrArg (·.1) hhandled
      use state.delivered (.delta ⟨some 6, ()⟩)
      constructor
      · exact hrun.delivered hidle hopen rfl
      · constructor
        · rw [← hconnection]
          have hsettled : (state.delivered (.delta ⟨some 6, ()⟩)).awaiting state.connection =
              (handle state.room (.delta ⟨some 6, ()⟩)).2 := if_pos rfl
          rw [hsettled, hhandled]
        · constructor
          · exact hconnection
          · rw [hafter, hbuffered, requestBootstrapSnapshotOnce_reducer]
            · show { state.room.reducer with
                preSnapshotBuffer :=
                  state.room.reducer.preSnapshotBuffer ++ [(⟨some 6, ()⟩ : DeltaFrame Unit)]
                bootstrapRequested := true } = _
              rw [hreducer, List.replicate_succ' (n := n + 1)]
            · exact hwaiting

theorem full_buffer_drops :
    ∃ (state : SyncState Unit) (earlier : List SyncEvent), OrderlyRun state ∧
      state.room.history = .dropped 7 :: .received (some 7) :: earlier ∧
      (∀ frame ∈ state.room.reducer.preSnapshotBuffer, frame.roomSeq = some 6) ∧
      state.room.reducer.reorderBuffer = [] ∧ state.room.reducer.snapshotApplied = false := by
  obtain ⟨state, hrun, hidle, hconnection, hreducer⟩ := buffer_fills 399 (by decide)
  have hopen : 1 ≤ state.connection := Nat.le_of_eq hconnection.symm
  have hidle : state.awaiting state.connection = none := by rw [hconnection, hidle]
  have hwaiting : state.room.reducer.snapshotApplied = false := by rw [hreducer]
  have hhandled := handle_waiting 7 () hwaiting
  have hfull : ¬ state.room.reducer.preSnapshotBuffer.length < preSnapshotBufferLimit := by
    rw [hreducer, List.length_replicate]
    exact Nat.lt_irrefl _
  have hdropped : bufferDelta (state.room.note (.received (some 7))) ⟨some 7, ()⟩ 7 =
      (state.room.note (.received (some 7))).note (.dropped 7) := by
    unfold bufferDelta
    exact if_neg hfull
  have hrequested : ∀ room : Room Unit, room.reducer.bootstrapRequested = true →
      requestBootstrapSnapshotOnce room = room := by
    intro room hrequested
    unfold requestBootstrapSnapshotOnce
    rw [hrequested, Bool.true_or, if_pos rfl]
  have hafter : (state.delivered (.delta ⟨some 7, ()⟩)).room =
      (state.room.note (.received (some 7))).note (.dropped 7) := by
    show (handle state.room (.delta ⟨some 7, ()⟩)).1 = _
    rw [hhandled, hdropped]
    apply hrequested
    show state.room.reducer.bootstrapRequested = true
    rw [hreducer]
  use state.delivered (.delta ⟨some 7, ()⟩), state.room.history
  constructor
  · exact hrun.delivered hidle hopen rfl
  · rw [hafter]
    constructor
    · rfl
    · show (∀ frame ∈ state.room.reducer.preSnapshotBuffer, frame.roomSeq = some 6) ∧
        state.room.reducer.reorderBuffer = [] ∧ state.room.reducer.snapshotApplied = false
      rw [hreducer]
      constructor
      · intro frame hframe
        rw [(List.mem_replicate.mp hframe).2]
      · exact ⟨rfl, rfl⟩

theorem overtaken_hands_twice :
    ∃ state : SyncState Unit, OrderlyRun state ∧
      state.room.history =
        [.handed 6, .received (some 6), .applied 5, .connected 5,
          .handed 6, .received (some 6), .applied 5, .connected 5] := by
  have hsnapshot : OrderlyRun ((overtaken 5).delivered (.snapshot 5 true)) :=
    (overtaken_run 5).delivered rfl (by decide) rfl
  have hsecond : OrderlyRun
      (((overtaken 5).delivered (.snapshot 5 true)).delivered (.delta ⟨some 6, ()⟩)) :=
    hsnapshot.delivered rfl (by decide) rfl
  exact ⟨_, hsecond, rfl⟩

/-- An overtaken handler returns after a snapshot: the counter is lowered, and a delta that the
snapshot covers is handed over. -/
theorem overtaken_lowers :
    ∃ state : SyncState Unit, SyncRun state ∧
      state.room.history =
        [.handed 7, .received (some 7), .fulfilled 6, .applied 7, .connected 7,
          .handed 6, .received (some 6), .applied 5, .connected 5] := by
  have hsnapshot : OrderlyRun ((overtaken 7).delivered (.snapshot 7 true)) :=
    (overtaken_run 7).delivered rfl (by decide) rfl
  have hreturned := hsnapshot.run.tail ⟨_, @SyncStep.fulfilled Unit _ 1 ⟨6, .returns⟩ rfl⟩
  have hhanded := hreturned.tail
    ⟨_, @SyncStep.handled Unit _ 2 (.delta ⟨some 7, ()⟩) rfl (by decide) (by decide) rfl⟩
  exact ⟨_, hhanded, rfl⟩

/-- The counter is lowered by a snapshot; deltas are neither held nor asked for again; a delta is
handed over twice, and after a snapshot that covers it. -/
theorem deltas_out_of_order :
    (∃ after, SyncStep handshake (.handled 1 (.snapshot 3 true)) after ∧
      handshake.room.reducer.lastRoomSeq = some 5 ∧ after.room.reducer.lastRoomSeq = some 3) ∧
    (∃ state : SyncState Unit, OrderlyRun state ∧
      state.room.history = [.received none, .applied 5, .connected 5] ∧
      state.room.reducer.preSnapshotBuffer = [] ∧ state.room.reducer.reorderBuffer = []) ∧
    (∃ state : SyncState Unit, OrderlyRun state ∧
      state.room.history = [.connected 5, .received (some 8), .applied 5, .connected 5] ∧
      state.room.reducer.preSnapshotBuffer = [] ∧ state.room.reducer.reorderBuffer = []) ∧
    (∃ state : SyncState Unit, OrderlyRun state ∧
      state.room.history =
        [.rejected 6 [], .handed 6, .received (some 6), .applied 5, .connected 5] ∧
      state.room.reducer.preSnapshotBuffer = [] ∧ state.room.reducer.reorderBuffer = [] ∧
      state.room.reducer.lastRoomSeq = some 5) ∧
    (∃ (state : SyncState Unit) (earlier : List SyncEvent), OrderlyRun state ∧
      state.room.history = .dropped 7 :: .received (some 7) :: earlier ∧
      (∀ frame ∈ state.room.reducer.preSnapshotBuffer, frame.roomSeq = some 6) ∧
      state.room.reducer.reorderBuffer = [] ∧ state.room.reducer.snapshotApplied = false) ∧
    (∃ state : SyncState Unit, OrderlyRun state ∧
      state.room.history =
        [.handed 6, .received (some 6), .applied 5, .connected 5,
          .handed 6, .received (some 6), .applied 5, .connected 5]) ∧
    ∃ state : SyncState Unit, SyncRun state ∧
      state.room.history =
        [.handed 7, .received (some 7), .fulfilled 6, .applied 7, .connected 7,
          .handed 6, .received (some 6), .applied 5, .connected 5] :=
  ⟨first_snapshot_lowers, unsequenced_ignored, handshake_forgets, rejected_delta_lost,
    full_buffer_drops, overtaken_hands_twice, overtaken_lowers⟩

end Hybro.RoomSync
