import Hybro.Delivery.SnapshotService

/-! # Checkpoints are folds of prefixes

Every step keeps the invariant of the service: the objects that checkpoints share
are folds of prefixes, and no running call writes to one of them.
-/

namespace Hybro.Delivery

open LogPrefix

section Rules

variable {Room R F S : Type} {service : SnapshotService R F S}
  {state state' : ServiceState Room R F} {room : Room} {call : SnapshotCall}
  {checkpoint : Checkpoint}

/-! ## Objects and folds -/

theorem objectAt_withObject_other {address other : Nat} (fold : F) (h : other ≠ address) :
    objectAt service (withObject state address fold) other = objectAt service state other := by
  unfold objectAt withObject
  rw [List.getElem?_set_ne (Ne.symm h)]

theorem objectAt_withObject_self {address : Nat} (fold : F) (h : address < state.objects.length) :
    objectAt service (withObject state address fold) address = fold := by
  unfold objectAt withObject
  rw [List.getElem?_set_self h]
  rfl

theorem Folded.grown {logs : Room → Log R} {address position : Nat}
    (h : ∀ room, (state.logs room).Extends (logs room))
    (hfolded : Folded service state room address position) :
    Folded service { state with logs := logs } room address position :=
  ⟨hfolded.allocated, foldPrefix_extends (h room) hfolded.prefixFold⟩

theorem Folded.withObject {address other position : Nat} (fold : F) (h : other ≠ address)
    (hfolded : Folded service state room other position) :
    Folded service (withObject state address fold) room other position := by
  constructor
  · show other < (state.objects.set address fold).length
    rw [List.length_set]
    exact hfolded.allocated
  · rw [objectAt_withObject_other fold h]
    exact hfolded.prefixFold

theorem withObject_objectAt {address : Nat} :
    withObject state address (objectAt service state address) = state := by
  unfold withObject objectAt
  cases h : state.objects[address]? with
  | none =>
      rw [List.set_eq_of_length_le (List.getElem?_eq_none_iff.mp h)]
  | some fold =>
      obtain ⟨hlt, rfl⟩ := List.getElem?_eq_some_iff.mp h
      rw [Option.getD_some, List.set_getElem_self]

theorem objectAt_append {address : Nat} (fold : F) (h : address < state.objects.length) :
    objectAt service { state with objects := state.objects ++ [fold] } address =
      objectAt service state address := by
  unfold objectAt
  rw [List.getElem?_append_left h]

theorem objectAt_append_self (fold : F) :
    objectAt service { state with objects := state.objects ++ [fold] } state.objects.length =
      fold := by
  simp [objectAt]

theorem Folded.append {address position : Nat} (fold : F)
    (hfolded : Folded service state room address position) :
    Folded service { state with objects := state.objects ++ [fold] } room address position := by
  constructor
  · show address < (state.objects ++ [fold]).length
    rw [List.length_append]
    have hallocated := hfolded.allocated
    omega
  · rw [objectAt_append fold hfolded.allocated]
    exact hfolded.prefixFold

theorem ServiceInv.grown {logs : Room → Log R} (hinv : ServiceInv service state)
    (h : ∀ room, (state.logs room).Extends (logs room)) :
    ServiceInv service { state with logs := logs } where
  shared room checkpoint hshared := (hinv.shared room checkpoint hshared).grown h
  positive := hinv.positive
  folding room call hcall := (hinv.folding room call hcall).grown h
  apart := hinv.apart
  alone := hinv.alone
  cached := hinv.cached

theorem ServiceInv.dropped {checkpoints : Room → Option Checkpoint} {order : List Room}
    (hinv : ServiceInv service state)
    (h : ∀ room, checkpoints room = none ∨ checkpoints room = state.checkpoints room) :
    ServiceInv service { state with checkpoints := checkpoints, order := order } := by
  have hstored : ∀ room checkpoint, checkpoints room = some checkpoint →
      state.checkpoints room = some checkpoint := by
    intro room checkpoint hcheckpoint
    rcases h room with hnone | hsame
    · rw [hnone] at hcheckpoint
      cases hcheckpoint
    · rw [← hsame]
      exact hcheckpoint
  have hshared : ∀ room checkpoint,
      Shared { state with checkpoints := checkpoints, order := order } room checkpoint →
        Shared state room checkpoint := by
    intro room checkpoint hshared
    rcases hshared with hcheckpoint | hcall
    · exact .inl (hstored room checkpoint hcheckpoint)
    · exact .inr hcall
  exact
    { shared := fun room checkpoint h' =>
        ⟨(hinv.shared room checkpoint (hshared room checkpoint h')).allocated,
          (hinv.shared room checkpoint (hshared room checkpoint h')).prefixFold⟩
      positive := hinv.positive
      folding := fun room call hcall =>
        ⟨(hinv.folding room call hcall).allocated, (hinv.folding room call hcall).prefixFold⟩
      apart := fun room call hcall other checkpoint h' =>
        hinv.apart room call hcall other checkpoint (hshared other checkpoint h')
      alone := hinv.alone
      cached := fun room call hcall checkpoint hcheckpoint =>
        hinv.cached room call hcall checkpoint (hstored room checkpoint hcheckpoint) }

theorem ServiceInv.startFolded (hinv : ServiceInv service state) (room : Room) (force : Bool) :
    foldPrefix service.fold (state.logs room) (snapshotStart service state room force).1 =
      some (snapshotStart service state room force).2 := by
  unfold snapshotStart
  cases force with
  | true => rfl
  | false =>
      cases hstored : state.checkpoints room with
      | none => rfl
      | some checkpoint => exact (hinv.shared room checkpoint (.inl hstored)).prefixFold

structure Advances (service : SnapshotService R F S) (state : ServiceState Room R F) (room : Room)
    (call : SnapshotCall) (state' : ServiceState Room R F) (call' : SnapshotCall) : Prop where
  inv : ServiceInv service state'
  running : state'.calls room = some call'
  logs : state'.logs = state.logs
  checkpoints : state'.checkpoints = state.checkpoints
  objects : ∀ address, address ≠ call.fold →
    objectAt service state' address = objectAt service state address

theorem Advances.refl (hinv : ServiceInv service state) (hcall : state.calls room = some call) :
    Advances service state room call state call :=
  ⟨hinv, hcall, rfl, rfl, fun _ _ => rfl⟩

theorem initialService_inv (logs : Room → Log R) :
    ServiceInv service (initialService logs : ServiceState Room R F) where
  shared _ _ h := by
    rcases h with hstored | ⟨_, hcall, -⟩
    · cases hstored
    · cases hcall
  positive _ _ hcall := by cases hcall
  folding _ _ hcall := by cases hcall
  apart _ _ hcall := by cases hcall
  alone _ _ hcall := by cases hcall
  cached _ _ hcall := by cases hcall

variable [DecidableEq Room]

/-! ## Reading the updated state -/

@[simp] theorem withCall_self (call : Option SnapshotCall) :
    (withCall state room call).calls room = call := by
  simp [withCall]

theorem withCall_other {other : Room} (call : Option SnapshotCall) (h : other ≠ room) :
    (withCall state room call).calls other = state.calls other := by
  simp [withCall, h]

theorem withCall_calls_eq {other : Room} {given : Option SnapshotCall}
    (h : (withCall state room given).calls other = some call) :
    (other = room ∧ given = some call) ∨ (other ≠ room ∧ state.calls other = some call) := by
  by_cases hother : other = room
  · subst hother
    rw [withCall_self] at h
    exact .inl ⟨rfl, h⟩
  · rw [withCall_other given hother] at h
    exact .inr ⟨hother, h⟩

theorem remember_checkpoints (service : SnapshotService R F S) (state : ServiceState Room R F)
    (room : Room) (checkpoint : Checkpoint) (other : Room) :
    (remember service state room checkpoint).checkpoints other = none ∨
      (remember service state room checkpoint).checkpoints other =
        if other = room then some checkpoint else state.checkpoints other := by
  unfold remember
  dsimp only
  split
  · exact .inl rfl
  · exact .inr rfl

/-! ## What the steps keep -/

theorem Shared.withCall {other : Room} {given : Option SnapshotCall}
    (hcached : ∀ call', given = some call' → call'.cached = call.cached)
    (hcall : state.calls room = some call)
    (h : Shared (withCall state room given) other checkpoint) : Shared state other checkpoint := by
  rcases h with hstored | ⟨call', hcall', hread⟩
  · exact .inl hstored
  · rcases withCall_calls_eq hcall' with ⟨rfl, hgiven⟩ | ⟨-, hother⟩
    · exact .inr ⟨call, hcall, (hcached call' hgiven).symm.trans hread⟩
    · exact .inr ⟨call', hother, hread⟩

theorem ServiceInv.advanced {fold : F} {expected : Nat} (foldedAny : Bool)
    (hinv : ServiceInv service state) (hcall : state.calls room = some call)
    (hpositive : 1 ≤ expected)
    (hfold : foldPrefix service.fold (state.logs room) (expected - 1) = some fold) :
    ServiceInv service (withCall (withObject state call.fold fold) room
      (some { call with expected := expected, foldedAny := foldedAny })) := by
  have hshared : ∀ other checkpoint,
      Shared (withCall (withObject state call.fold fold) room
        (some { call with expected := expected, foldedAny := foldedAny })) other checkpoint →
        Shared state other checkpoint := by
    intro other checkpoint h
    have h' := Shared.withCall (fun call' hgiven => by cases hgiven; rfl) hcall h
    exact h'
  have hallocated := (hinv.folding room call hcall).allocated
  constructor
  · intro other checkpoint h
    have hfolded := hinv.shared other checkpoint (hshared other checkpoint h)
    have happart := hinv.apart room call hcall other checkpoint (hshared other checkpoint h)
    have hkept := hfolded.withObject fold happart
    exact ⟨hkept.allocated, hkept.prefixFold⟩
  · intro other call' hcall'
    rcases withCall_calls_eq hcall' with ⟨-, hgiven⟩ | ⟨-, hother⟩
    · cases hgiven
      exact hpositive
    · exact hinv.positive other call' hother
  · intro other call' hcall'
    rcases withCall_calls_eq hcall' with ⟨rfl, hgiven⟩ | ⟨hne, hother⟩
    · cases hgiven
      constructor
      · show call.fold < (state.objects.set call.fold fold).length
        rw [List.length_set]
        exact hallocated
      · show _ = some (objectAt service (withObject state call.fold fold) call.fold)
        rw [objectAt_withObject_self fold hallocated]
        exact hfold
    · have hfolded := hinv.folding other call' hother
      have hkept := hfolded.withObject fold (hinv.alone room call hcall other call' hother hne)
      exact ⟨hkept.allocated, hkept.prefixFold⟩
  · intro other call' hcall' another checkpoint h
    rcases withCall_calls_eq hcall' with ⟨rfl, hgiven⟩ | ⟨-, hother⟩
    · cases hgiven
      exact hinv.apart _ call hcall another checkpoint (hshared another checkpoint h)
    · exact hinv.apart other call' hother another checkpoint (hshared another checkpoint h)
  · intro other call' hcall' another call'' hcall'' hne
    rcases withCall_calls_eq hcall' with ⟨rfl, hgiven⟩ | ⟨-, hother⟩
    · cases hgiven
      rcases withCall_calls_eq hcall'' with ⟨rfl, -⟩ | ⟨-, hanother⟩
      · exact absurd rfl hne
      · exact hinv.alone _ call hcall another call'' hanother hne
    · rcases withCall_calls_eq hcall'' with ⟨rfl, hgiven⟩ | ⟨-, hanother⟩
      · cases hgiven
        exact hinv.alone other call' hother _ call hcall hne
      · exact hinv.alone other call' hother another call'' hanother hne
  · intro other call' hcall' checkpoint hstored
    rcases withCall_calls_eq hcall' with ⟨rfl, hgiven⟩ | ⟨-, hother⟩
    · cases hgiven
      exact hinv.cached _ call hcall checkpoint hstored
    · exact hinv.cached other call' hother checkpoint hstored

theorem ServiceInv.abandoned (hinv : ServiceInv service state)
    (hcall : state.calls room = some call) (fold : F) :
    ServiceInv service (withCall (withObject state call.fold fold) room none) := by
  have hshared : ∀ other checkpoint,
      Shared (withCall (withObject state call.fold fold) room none) other checkpoint →
        Shared state other checkpoint := by
    intro other checkpoint h
    have h' := Shared.withCall (fun call' hgiven => by cases hgiven) hcall h
    exact h'
  have hrunning : ∀ other call', (withCall (withObject state call.fold fold) room none).calls other =
      some call' → other ≠ room ∧ state.calls other = some call' := by
    intro other call' hcall'
    rcases withCall_calls_eq hcall' with ⟨-, hgiven⟩ | hother
    · cases hgiven
    · exact hother
  constructor
  · intro other checkpoint h
    have hfolded := hinv.shared other checkpoint (hshared other checkpoint h)
    have happart := hinv.apart room call hcall other checkpoint (hshared other checkpoint h)
    have hkept := hfolded.withObject fold happart
    exact ⟨hkept.allocated, hkept.prefixFold⟩
  · intro other call' hcall'
    exact hinv.positive other call' (hrunning other call' hcall').2
  · intro other call' hcall'
    obtain ⟨hne, hother⟩ := hrunning other call' hcall'
    have hkept := (hinv.folding other call' hother).withObject fold
      (hinv.alone room call hcall other call' hother hne)
    exact ⟨hkept.allocated, hkept.prefixFold⟩
  · intro other call' hcall' another checkpoint h
    exact hinv.apart other call' (hrunning other call' hcall').2 another checkpoint
      (hshared another checkpoint h)
  · intro other call' hcall' another call'' hcall'' hne
    exact hinv.alone other call' (hrunning other call' hcall').2 another call''
      (hrunning another call'' hcall'').2 hne
  · intro other call' hcall' checkpoint hstored
    exact hinv.cached other call' (hrunning other call' hcall').2 checkpoint hstored

theorem ServiceInv.idle (hinv : ServiceInv service state) (hcall : state.calls room = some call) :
    ServiceInv service (withCall state room none) := by
  have h := hinv.abandoned hcall (objectAt service state call.fold)
  rw [withObject_objectAt] at h
  exact h

theorem ServiceInv.remembered (hinv : ServiceInv service state)
    (hcall : state.calls room = some call) :
    ServiceInv service (remember service (withCall state room none) room
      ⟨call.expected - 1, call.fold⟩) := by
  have hidle := hinv.idle hcall
  have hfolded := hinv.folding room call hcall
  have hshared : ∀ other checkpoint,
      Shared (remember service (withCall state room none) room ⟨call.expected - 1, call.fold⟩)
        other checkpoint →
        (other = room ∧ checkpoint = ⟨call.expected - 1, call.fold⟩) ∨
          Shared (withCall state room none) other checkpoint := by
    intro other checkpoint h
    rcases h with hstored | hread
    · rcases remember_checkpoints service (withCall state room none) room
        ⟨call.expected - 1, call.fold⟩ other with hnone | hkept
      · rw [hnone] at hstored
        cases hstored
      · rw [hkept] at hstored
        split at hstored
        · rename_i heq
          exact .inl ⟨heq, (Option.some.inj hstored).symm⟩
        · exact .inr (.inl hstored)
    · exact .inr (.inr hread)
  have hrunning : ∀ other call', (withCall state room none).calls other = some call' →
      other ≠ room ∧ state.calls other = some call' := by
    intro other call' hcall'
    rcases withCall_calls_eq hcall' with ⟨-, hgiven⟩ | hother
    · cases hgiven
    · exact hother
  constructor
  · intro other checkpoint h
    rcases hshared other checkpoint h with ⟨rfl, rfl⟩ | h
    · exact ⟨hfolded.allocated, hfolded.prefixFold⟩
    · have hkept := hidle.shared other checkpoint h
      exact ⟨hkept.allocated, hkept.prefixFold⟩
  · exact hidle.positive
  · intro other call' hcall'
    have hkept := hidle.folding other call' hcall'
    exact ⟨hkept.allocated, hkept.prefixFold⟩
  · intro other call' hcall' another checkpoint h
    rcases hshared another checkpoint h with ⟨rfl, rfl⟩ | h
    · obtain ⟨hne, hother⟩ := hrunning other call' hcall'
      exact (hinv.alone _ call hcall other call' hother hne).symm
    · exact hidle.apart other call' hcall' another checkpoint h
  · exact hidle.alone
  · intro other call' hcall' checkpoint hstored
    obtain ⟨hne, hother⟩ := hrunning other call' hcall'
    rcases remember_checkpoints service (withCall state room none) room
      ⟨call.expected - 1, call.fold⟩ other with hnone | hkept
    · rw [hnone] at hstored
      cases hstored
    · rw [hkept, if_neg hne] at hstored
      exact hinv.cached other call' hother checkpoint hstored

theorem ServiceInv.begun (hinv : ServiceInv service state) (force : Bool)
    (hidle : state.calls room = none) :
    ServiceInv service (beginSnapshot service state room force) := by
  have hshared : ∀ other checkpoint,
      Shared (beginSnapshot service state room force) other checkpoint →
        Shared state other checkpoint := by
    intro other checkpoint h
    rcases h with hstored | ⟨call', hcall', hread⟩
    · exact .inl hstored
    · rcases withCall_calls_eq hcall' with ⟨rfl, hgiven⟩ | ⟨-, hother⟩
      · cases hgiven
        exact .inl hread
      · exact .inr ⟨call', hother, hread⟩
  have hfresh : ∀ other checkpoint, Shared state other checkpoint →
      checkpoint.fold < state.objects.length :=
    fun other checkpoint h => (hinv.shared other checkpoint h).allocated
  have hbusy : ∀ other call', state.calls other = some call' →
      call'.fold < state.objects.length :=
    fun other call' h => (hinv.folding other call' h).allocated
  constructor
  · intro other checkpoint h
    have hkept := (hinv.shared other checkpoint (hshared other checkpoint h)).append
      (snapshotStart service state room force).2
    exact ⟨hkept.allocated, hkept.prefixFold⟩
  · intro other call' hcall'
    rcases withCall_calls_eq hcall' with ⟨-, hgiven⟩ | ⟨-, hother⟩
    · cases hgiven
      exact Nat.succ_pos _
    · exact hinv.positive other call' hother
  · intro other call' hcall'
    rcases withCall_calls_eq hcall' with ⟨rfl, hgiven⟩ | ⟨-, hother⟩
    · cases hgiven
      constructor
      · show state.objects.length < (state.objects ++ [_]).length
        simp
      · show foldPrefix service.fold (state.logs other) _ = some (objectAt service
          { state with objects := state.objects ++ [(snapshotStart service state other force).2] }
          state.objects.length)
        rw [Nat.add_sub_cancel, objectAt_append_self]
        exact hinv.startFolded other force
    · have hkept := (hinv.folding other call' hother).append
        (snapshotStart service state room force).2
      exact ⟨hkept.allocated, hkept.prefixFold⟩
  · intro other call' hcall' another checkpoint h
    rcases withCall_calls_eq hcall' with ⟨rfl, hgiven⟩ | ⟨-, hother⟩
    · cases hgiven
      have hlt := hfresh another checkpoint (hshared another checkpoint h)
      exact Nat.ne_of_lt hlt
    · exact hinv.apart other call' hother another checkpoint (hshared another checkpoint h)
  · intro other call' hcall' another call'' hcall'' hne
    rcases withCall_calls_eq hcall' with ⟨rfl, hgiven⟩ | ⟨-, hother⟩
    · cases hgiven
      rcases withCall_calls_eq hcall'' with ⟨rfl, -⟩ | ⟨-, hanother⟩
      · exact absurd rfl hne
      · exact Nat.ne_of_lt (hbusy another call'' hanother)
    · rcases withCall_calls_eq hcall'' with ⟨rfl, hgiven⟩ | ⟨-, hanother⟩
      · cases hgiven
        exact (Nat.ne_of_lt (hbusy other call' hother)).symm
      · exact hinv.alone other call' hother another call'' hanother hne
  · intro other call' hcall' checkpoint hstored
    rcases withCall_calls_eq hcall' with ⟨rfl, hgiven⟩ | ⟨-, hother⟩
    · cases hgiven
      exact hstored
    · exact hinv.cached other call' hother checkpoint hstored

/-! ## One page -/

theorem readSnapshot_cases (hinv : ServiceInv service state)
    (hcall : state.calls room = some call) :
    (∃ fold, readSnapshot service state room call =
      (.raised room, withCall (withObject state call.fold fold) room none)) ∨
    ∃ state' call', Advances service state room call state' call' ∧
      (readSnapshot service state room call = (.quiet, state') ∨
        readSnapshot service state room call = finishSnapshot service state' room call') := by
  unfold readSnapshot
  dsimp only
  split
  · exact .inr ⟨state, call, .refl hinv hcall, .inr rfl⟩
  · split
    · rename_i fold hpage
      exact .inl ⟨fold, rfl⟩
    · rename_i fold expected foldedAny reachedGap hpage
      obtain ⟨hle, hfold⟩ := readPage_prefix (hinv.positive room call hcall)
        (hinv.folding room call hcall).prefixFold
        (fun position entry hmem => Log.mem_range hmem) hpage
      have hpositive := hinv.positive room call hcall
      have hadvanced := hinv.advanced foldedAny hcall (by omega : 1 ≤ expected) hfold
      right
      refine ⟨_, _, ⟨hadvanced, withCall_self _, rfl, rfl, ?_⟩, ?_⟩
      · intro address hne
        exact objectAt_withObject_other fold hne
      · split
        · exact .inr rfl
        · exact .inl rfl

/-- A call ends with the fold of a prefix no shorter than its checkpoint's, and the checkpoint
that stays behind is that of what it returned. -/
structure Ends (service : SnapshotService R F S) (state : ServiceState Room R F) (room : Room)
    (call : SnapshotCall) (result : ServiceEvent Room S × ServiceState Room R F)
    (roomSeq : Nat) (fold : F) : Prop where
  event : result.1 = .returned room roomSeq (service.state fold roomSeq)
  prefixFold : foldPrefix service.fold (state.logs room) roomSeq = some fold
  notBelow : ∀ checkpoint, state.checkpoints room = some checkpoint →
    checkpoint.watermark ≤ roomSeq
  after : (result.2 = withCall state room none ∧ ∀ checkpoint,
      state.checkpoints room = some checkpoint → checkpoint.watermark = roomSeq) ∨
    (result.2 = remember service (withCall state room none) room ⟨roomSeq, call.fold⟩ ∧
      roomSeq = call.expected - 1)

theorem freshSnapshot_ends (hinv : ServiceInv service state)
    (hcall : state.calls room = some call)
    (hle : ∀ checkpoint, state.checkpoints room = some checkpoint →
      checkpoint.watermark ≤ call.expected - 1) :
    Ends service state room call (freshSnapshot service state room call) (call.expected - 1)
      (objectAt service state call.fold) where
  event := rfl
  prefixFold := (hinv.folding room call hcall).prefixFold
  notBelow := hle
  after := by
    unfold freshSnapshot
    dsimp only
    split
    · exact .inr ⟨rfl, rfl⟩
    · rename_i hnothing
      left
      refine ⟨rfl, ?_⟩
      intro checkpoint hstored
      have hlow := hle checkpoint hstored
      simp only [Bool.or_eq_true, decide_eq_true_eq, not_or] at hnothing
      omega

theorem finishSnapshot_ends (hinv : ServiceInv service state)
    (hcall : state.calls room = some call) :
    ∃ roomSeq fold, Ends service state room call (finishSnapshot service state room call)
      roomSeq fold := by
  have hread := hinv.cached room call hcall
  unfold finishSnapshot
  cases hcached : call.cached with
  | none =>
      have hnone : ∀ checkpoint, state.checkpoints room ≠ some checkpoint := by
        intro checkpoint hstored
        have h := hread checkpoint hstored
        rw [hcached] at h
        cases h
      exact ⟨_, _, freshSnapshot_ends hinv hcall fun checkpoint h => absurd h (hnone checkpoint)⟩
  | some cached =>
      have hsame : ∀ checkpoint, state.checkpoints room = some checkpoint → checkpoint = cached := by
        intro checkpoint hstored
        have h := hread checkpoint hstored
        rw [hcached] at h
        exact (Option.some.inj h).symm
      dsimp only
      by_cases hbelow : call.expected - 1 < cached.watermark
      · rw [if_pos hbelow]
        have hfolded := hinv.shared room cached (.inr ⟨call, hcall, hcached⟩)
        refine ⟨cached.watermark, objectAt service state cached.fold, rfl, hfolded.prefixFold, ?_,
          .inl ⟨rfl, ?_⟩⟩
        · intro checkpoint hstored
          exact Nat.le_of_eq (congrArg (·.watermark) (hsame checkpoint hstored))
        · intro checkpoint hstored
          rw [hsame checkpoint hstored]
      · rw [if_neg hbelow]
        refine ⟨_, _, freshSnapshot_ends hinv hcall ?_⟩
        intro checkpoint hstored
        rw [hsame checkpoint hstored]
        omega

theorem Ends.inv {result : ServiceEvent Room S × ServiceState Room R F} {roomSeq : Nat} {fold : F}
    (hends : Ends service state room call result roomSeq fold) (hinv : ServiceInv service state)
    (hcall : state.calls room = some call) : ServiceInv service result.2 := by
  rcases hends.after with ⟨hidle, -⟩ | ⟨hremembered, hseq⟩
  · rw [hidle]
    exact hinv.idle hcall
  · rw [hremembered, hseq]
    exact hinv.remembered hcall

/-! ## Every step -/

theorem ServiceStep.inv {event : ServiceEvent Room S} (hinv : ServiceInv service state)
    (hstep : ServiceStep service state event state') : ServiceInv service state' := by
  cases hstep with
  | grown h => exact hinv.grown h
  | evicted kept =>
      apply hinv.dropped
      intro room
      split
      · exact .inr rfl
      · exact .inl rfl
  | begun force hidle => exact hinv.begun force hidle
  | read hcall =>
      rcases readSnapshot_cases hinv hcall with ⟨fold, heq⟩ | ⟨next, call', hadvances, heq | heq⟩
      · rw [heq]
        exact hinv.abandoned hcall fold
      · rw [heq]
        exact hadvances.inv
      · rw [heq]
        obtain ⟨roomSeq, fold, hends⟩ := finishSnapshot_ends hadvances.inv hadvances.running
        exact hends.inv hadvances.inv hadvances.running

def ServiceReachable (service : SnapshotService R F S) (logs : Room → Log R)
    (state : ServiceState Room R F) : Prop :=
  Relation.ReflTransGen (fun before after => ∃ event, ServiceStep service before event after)
    (initialService logs) state

theorem ServiceReachable.inv {logs : Room → Log R} (h : ServiceReachable service logs state) :
    ServiceInv service state := by
  induction h with
  | refl => exact initialService_inv logs
  | tail _ hstep ih =>
      obtain ⟨event, hstep⟩ := hstep
      exact hstep.inv ih

end Rules

end Hybro.Delivery
