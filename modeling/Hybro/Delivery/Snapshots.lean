import Hybro.Delivery.SnapshotRules

/-! # What the snapshot calls return

Every history of calls, appends and evictions: what is returned is the plain fold of a
prefix, the sequence does not go back while its checkpoint is there, and a rejected
event costs nothing.
-/

namespace Hybro.Delivery

open LogPrefix

section Snapshots

variable {Room R F S : Type} {service : SnapshotService R F S}
  {state state' : ServiceState Room R F} {room : Room} {event : ServiceEvent Room S}

/-! ## Stored checkpoints -/

/-- The stored checkpoint with what its fold object holds. -/
def storedCheckpoint (service : SnapshotService R F S) (state : ServiceState Room R F)
    (room : Room) : Option (Nat × F) :=
  (state.checkpoints room).map fun checkpoint =>
    (checkpoint.watermark, objectAt service state checkpoint.fold)

theorem storedCheckpoint_eq (hcheckpoints : state'.checkpoints room = state.checkpoints room)
    (hobjects : ∀ checkpoint, state.checkpoints room = some checkpoint →
      objectAt service state' checkpoint.fold = objectAt service state checkpoint.fold) :
    storedCheckpoint service state' room = storedCheckpoint service state room := by
  unfold storedCheckpoint
  rw [hcheckpoints]
  cases hstored : state.checkpoints room with
  | none => rfl
  | some checkpoint =>
      rw [Option.map_some, Option.map_some, hobjects checkpoint hstored]

variable [DecidableEq Room]

theorem ends_other {other : Room} {call : SnapshotCall}
    {result : ServiceEvent Room S × ServiceState Room R F} {roomSeq : Nat} {fold : F}
    (hends : Ends service state room call result roomSeq fold) (hother : other ≠ room) :
    result.2.checkpoints other = none ∨
      (result.2.checkpoints other = state.checkpoints other ∧
        ∀ address, objectAt service result.2 address = objectAt service state address) := by
  rcases hends.after with ⟨hidle, -⟩ | ⟨hremembered, -⟩
  · rw [hidle]
    exact .inr ⟨rfl, fun _ => rfl⟩
  · rw [hremembered]
    rcases remember_checkpoints service (withCall state room none) room ⟨roomSeq, call.fold⟩ other
      with hnone | hkept
    · exact .inl hnone
    · rw [if_neg hother] at hkept
      exact .inr ⟨hkept, fun _ => rfl⟩

theorem stored_of_abandoned {caller : Room} {call : SnapshotCall} (fold : F)
    (happart : ∀ checkpoint, state.checkpoints room = some checkpoint →
      checkpoint.fold ≠ call.fold) :
    storedCheckpoint service (withCall (withObject state call.fold fold) caller none) room =
      storedCheckpoint service state room := by
  refine storedCheckpoint_eq ?_ ?_
  · rfl
  · intro checkpoint hstored
    exact objectAt_withObject_other fold (happart checkpoint hstored)

theorem ServiceStep.stored (hinv : ServiceInv service state)
    (hstep : ServiceStep service state event state')
    (hevent : ∀ roomSeq snapshot, event ≠ .returned room roomSeq snapshot) :
    state'.checkpoints room = none ∨
      storedCheckpoint service state' room = storedCheckpoint service state room := by
  cases hstep with
  | grown h => exact .inr rfl
  | evicted kept =>
      by_cases hkept : kept room = true
      · exact .inr (storedCheckpoint_eq (if_pos hkept) fun _ _ => rfl)
      · exact .inl (if_neg hkept)
  | begun force hidle =>
      right
      refine storedCheckpoint_eq ?_ ?_
      · rfl
      intro checkpoint hstored
      exact objectAt_append _ (hinv.shared room checkpoint (.inl hstored)).allocated
  | read hcall =>
      rename_i caller call
      have happart : ∀ checkpoint, state.checkpoints room = some checkpoint →
          checkpoint.fold ≠ call.fold := fun checkpoint hstored =>
        hinv.apart caller call hcall room checkpoint (.inl hstored)
      rcases readSnapshot_cases hinv hcall with ⟨fold, heq⟩ | ⟨next, call', hadvances, heq | heq⟩
      · right
        rw [heq]
        exact stored_of_abandoned fold happart
      · right
        rw [heq]
        apply storedCheckpoint_eq (congrFun hadvances.checkpoints room)
        intro checkpoint hstored
        exact hadvances.objects _ (happart checkpoint hstored)
      · obtain ⟨roomSeq, fold, hends⟩ := finishSnapshot_ends hadvances.inv hadvances.running
        have hother : room ≠ caller := by
          intro hsame
          subst hsame
          apply hevent roomSeq (service.state fold roomSeq)
          rw [heq]
          exact hends.event
        rw [heq]
        rcases ends_other hends hother with hnone | ⟨hkept, hobjects⟩
        · exact .inl hnone
        · right
          apply storedCheckpoint_eq (hkept.trans (congrFun hadvances.checkpoints room))
          intro checkpoint hstored
          rw [hobjects]
          exact hadvances.objects _ (happart checkpoint hstored)

/-! ## Returned snapshots -/

/-- A call that returns gives the fold of a prefix that is at least the checkpoint's, and what
stays behind is the checkpoint of what it returned. -/
theorem ServiceStep.returned (hinv : ServiceInv service state) {roomSeq : Nat} {snapshot : S}
    (hstep : ServiceStep service state (.returned room roomSeq snapshot) state') :
    (∃ fold, foldPrefix service.fold (state.logs room) roomSeq = some fold ∧
        snapshot = service.state fold roomSeq) ∧
      (∀ checkpoint, state.checkpoints room = some checkpoint → checkpoint.watermark ≤ roomSeq) ∧
      (∀ checkpoint, state'.checkpoints room = some checkpoint → checkpoint.watermark = roomSeq) ∧
      state'.calls room = none := by
  generalize hevent : (ServiceEvent.returned room roomSeq snapshot : ServiceEvent Room S) = event
    at hstep
  cases hstep with
  | grown h => cases hevent
  | evicted kept => cases hevent
  | begun force hidle => cases hevent
  | read hcall =>
      rename_i caller call
      rcases readSnapshot_cases hinv hcall with ⟨fold, heq⟩ | ⟨next, call', hadvances, heq | heq⟩
      · rw [heq] at hevent
        cases hevent
      · rw [heq] at hevent
        cases hevent
      · obtain ⟨seq, fold, hends⟩ := finishSnapshot_ends hadvances.inv hadvances.running
        rw [heq, hends.event] at hevent
        cases hevent
        have hprefix := hends.prefixFold
        have hnotBelow := hends.notBelow
        rw [hadvances.logs] at hprefix
        rw [hadvances.checkpoints] at hnotBelow
        refine ⟨⟨fold, hprefix, rfl⟩, hnotBelow, ?_⟩
        rw [heq]
        rcases hends.after with ⟨hidle, hsame⟩ | ⟨hremembered, -⟩
        · rw [hidle]
          exact ⟨hsame, withCall_self none⟩
        · rw [hremembered]
          refine ⟨?_, withCall_self none⟩
          intro checkpoint hstored
          rcases remember_checkpoints service (withCall next room none) room
            ⟨roomSeq, call'.fold⟩ room with hnone | hkept
          · rw [hnone] at hstored
            cases hstored
          · rw [hkept, if_pos rfl] at hstored
            cases hstored
            rfl

theorem ServiceStep.raised (hinv : ServiceInv service state)
    (hstep : ServiceStep service state (.raised room) state') (other : Room) :
    storedCheckpoint service state' other = storedCheckpoint service state other := by
  generalize hevent : (ServiceEvent.raised room : ServiceEvent Room S) = event at hstep
  cases hstep with
  | grown h => cases hevent
  | evicted kept => cases hevent
  | begun force hidle => cases hevent
  | read hcall =>
      rename_i caller call
      rcases readSnapshot_cases hinv hcall with ⟨fold, heq⟩ | ⟨next, call', hadvances, heq | heq⟩
      · rw [heq]
        apply stored_of_abandoned fold
        intro checkpoint hstored
        exact hinv.apart caller call hcall other checkpoint (.inl hstored)
      · rw [heq] at hevent
        cases hevent
      · obtain ⟨roomSeq, fold, hends⟩ := finishSnapshot_ends hadvances.inv hadvances.running
        rw [heq, hends.event] at hevent
        cases hevent

/-! ## Between two calls -/

def RetainedStep (service : SnapshotService R F S) (room : Room)
    (before after : ServiceState Room R F) : Prop :=
  (∃ event, ServiceStep service before event after) ∧ (after.checkpoints room).isSome = true

/-- A step during a call for the room, which evicts no checkpoint of it. -/
def CallingStep (service : SnapshotService R F S) (room : Room)
    (before after : ServiceState Room R F) : Prop :=
  (∃ event, ServiceStep service before event after) ∧ (after.calls room).isSome = true ∧
    ((before.checkpoints room).isSome = true → (after.checkpoints room).isSome = true)

theorem ServiceStep.watermark_le {before after : Checkpoint} (hinv : ServiceInv service state)
    (hstep : ServiceStep service state event state')
    (hbefore : state.checkpoints room = some before)
    (hafter : state'.checkpoints room = some after) : before.watermark ≤ after.watermark := by
  by_cases hreturned : ∃ roomSeq snapshot, event = .returned room roomSeq snapshot
  · obtain ⟨roomSeq, snapshot, rfl⟩ := hreturned
    obtain ⟨-, hlow, hseq, -⟩ := hstep.returned hinv
    rw [hseq after hafter]
    exact hlow before hbefore
  · rcases hstep.stored hinv (fun roomSeq snapshot heq => hreturned ⟨roomSeq, snapshot, heq⟩) with
      hnone | hstored
    · rw [hnone] at hafter
      cases hafter
    · unfold storedCheckpoint at hstored
      rw [hbefore, hafter, Option.map_some, Option.map_some, Option.some.injEq, Prod.mk.injEq]
        at hstored
      omega

theorem retained_le {start : ServiceState Room R F} {before : Checkpoint}
    (hinv : ServiceInv service start) (hbefore : start.checkpoints room = some before)
    (hrun : Relation.ReflTransGen (RetainedStep service room) start state) :
    ServiceInv service state ∧
      ∃ after, state.checkpoints room = some after ∧ before.watermark ≤ after.watermark := by
  induction hrun with
  | refl => exact ⟨hinv, before, hbefore, Nat.le_refl _⟩
  | tail _ hretained ih =>
      obtain ⟨hinv, middle, hmiddle, hle⟩ := ih
      obtain ⟨⟨event, hstep⟩, hsome⟩ := hretained
      obtain ⟨after, hafter⟩ := Option.isSome_iff_exists.mp hsome
      exact ⟨hstep.inv hinv, after, hafter, Nat.le_trans hle (hstep.watermark_le hinv hmiddle hafter)⟩

theorem CallingStep.stored (hinv : ServiceInv service state)
    (hcalling : CallingStep service room state state') :
    storedCheckpoint service state' room = storedCheckpoint service state room := by
  obtain ⟨⟨event, hstep⟩, hrunning, hretained⟩ := hcalling
  have hevent : ∀ roomSeq snapshot, event ≠ .returned room roomSeq snapshot := by
    intro roomSeq snapshot heq
    subst heq
    rw [(hstep.returned hinv).2.2.2] at hrunning
    cases hrunning
  rcases hstep.stored hinv hevent with hnone | hsame
  · unfold storedCheckpoint
    cases hstored : state.checkpoints room with
    | none =>
        rw [hnone]
        rfl
    | some checkpoint =>
        rw [hstored, hnone] at hretained
        cases hretained rfl
  · exact hsame

theorem calling_stored {start : ServiceState Room R F} (hinv : ServiceInv service start)
    (hrun : Relation.ReflTransGen (CallingStep service room) start state) :
    ServiceInv service state ∧
      storedCheckpoint service state room = storedCheckpoint service start room := by
  induction hrun with
  | refl => exact ⟨hinv, rfl⟩
  | tail _ hcalling ih =>
      obtain ⟨hinv, hsame⟩ := ih
      obtain ⟨⟨event, hstep⟩, -⟩ := id hcalling
      exact ⟨hstep.inv hinv, (hcalling.stored hinv).trans hsame⟩

/-! ## Every history -/

/-- In every history of calls, appends, filled holes and evictions: a call that returns gives the
plain fold of the complete prefix up to the sequence it returns; a later call for a room whose
checkpoint was kept returns no smaller sequence; and a call that raises leaves the checkpoint that
it began with. -/
theorem snapshot_calls {logs : Room → Log R} (hreached : ServiceReachable service logs state) :
    (∀ roomSeq snapshot after,
      ServiceStep service state (.returned room roomSeq snapshot) after →
        (state.logs room).Complete roomSeq ∧
        ∃ fold, snapshot = service.state fold roomSeq ∧
          ∀ later, (state.logs room).Extends later →
            foldPrefix service.fold later roomSeq = some fold) ∧
    (∀ first second snapshot snapshot' served before after,
      ServiceStep service state (.returned room first snapshot) served →
      (served.checkpoints room).isSome = true →
      Relation.ReflTransGen (RetainedStep service room) served before →
      ServiceStep service before (.returned room second snapshot') after → first ≤ second) ∧
    (∀ force before after, state.calls room = none →
      Relation.ReflTransGen (CallingStep service room)
        (beginSnapshot service state room force) before →
      ServiceStep service before (.raised room) after →
      storedCheckpoint service after room = storedCheckpoint service state room) := by
  have hinv := hreached.inv
  refine ⟨?_, ?_, ?_⟩
  · intro roomSeq snapshot after hstep
    obtain ⟨⟨fold, hfold, hsnapshot⟩, -⟩ := hstep.returned hinv
    exact ⟨foldPrefix_complete hfold, fold, hsnapshot,
      fun later hlater => foldPrefix_extends hlater hfold⟩
  · intro first second snapshot snapshot' served before after hfirst hkept hrun hsecond
    obtain ⟨checkpoint, hstored⟩ := Option.isSome_iff_exists.mp hkept
    have hseq := (hfirst.returned hinv).2.2.1 checkpoint hstored
    obtain ⟨hinv', last, hlast, hle⟩ := retained_le (hfirst.inv hinv) hstored hrun
    have hlow := (hsecond.returned hinv').2.1 last hlast
    omega
  · intro force before after hidle hrun hraised
    have hbegun : ServiceStep service state .quiet (beginSnapshot service state room force) :=
      .begun force hidle
    obtain ⟨hinv', hsame⟩ := calling_stored (hbegun.inv hinv) hrun
    rw [hraised.raised hinv' room, hsame]
    refine storedCheckpoint_eq ?_ ?_
    · rfl
    · intro checkpoint hstored
      exact objectAt_append _ (hinv.shared room checkpoint (.inl hstored)).allocated

end Snapshots

/-! ## A call of two pages -/

def listService : SnapshotService Nat (List Nat) (Nat × List Nat) where
  fold := { init := [], apply := fun seen number => (seen ++ [number], number ≠ 0) }
  state seen roomSeq := (roomSeq, seen)
  capacity := 1
  readLimit := 2

def listLogs (_ : Unit) : Log Nat :=
  .ofList [.event 5, .skipped, .event 7]

def listState : ServiceState Unit Nat (List Nat) :=
  (readSnapshot listService (beginSnapshot listService (initialService listLogs) () false) ()
    ⟨false, none, 0, 1, false⟩).2

theorem snapshot_calls_list :
    ServiceReachable listService listLogs listState ∧
      ∃ after, ServiceStep listService listState (.returned () 3 (3, [5, 7])) after ∧
        (listState.logs ()).Complete 3 := by
  have hbegun : ServiceStep listService (initialService listLogs) .quiet
      (beginSnapshot listService (initialService listLogs) () false) := .begun false rfl
  have hcall : (beginSnapshot listService (initialService listLogs) () false).calls () =
      some ⟨false, none, 0, 1, false⟩ := rfl
  have hread : ServiceStep listService
      (beginSnapshot listService (initialService listLogs) () false) .quiet listState :=
    .read hcall
  have hreached : ServiceReachable listService listLogs listState :=
    .tail (.tail .refl ⟨_, hbegun⟩) ⟨_, hread⟩
  have hcall' : listState.calls () = some ⟨false, none, 0, 3, true⟩ := rfl
  have hreturned : ServiceStep listService listState (.returned () 3 (3, [5, 7]))
      (readSnapshot listService listState () ⟨false, none, 0, 3, true⟩).2 := .read hcall'
  exact ⟨hreached, _, hreturned, ((snapshot_calls hreached).1 3 _ _ hreturned).1⟩

end Hybro.Delivery
