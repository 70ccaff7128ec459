import Mathlib.Data.List.Basic
import Hybro.Library.Interleaving
import Hybro.Library.PythonText

/-! # Terminal delivery reservations

`TerminalStatusDeduplicator` at one delivery key: the two local caches of every
worker, the Redis key they share, and the five methods as programs over the sections
that run without an `await` and the Redis commands between them. Every Redis command
succeeds. The lock that orders the reserves of one worker is left out, so that they
may overlap here.
-/

namespace Hybro.Delivery

open Interleaving PythonText

/-! ## Configuration -/

structure DedupConfig where
  terminalDedupTtlSeconds : Nat
  terminalReservationTtlSeconds : Nat
  dedup_pos : 0 < terminalDedupTtlSeconds
  reservation_pos : 0 < terminalReservationTtlSeconds

namespace DedupConfig

variable (config : DedupConfig)

def reservationTtlSeconds : Nat :=
  min config.terminalReservationTtlSeconds (max 1 (config.terminalDedupTtlSeconds - 1))

/-- Milliseconds, like every time below. -/
def reservationTtl : Nat := 1000 * config.reservationTtlSeconds

def confirmedTtl : Nat := 1000 * config.terminalDedupTtlSeconds

theorem reservationTtl_le : config.reservationTtl ≤ config.confirmedTtl := by
  have hpos := config.dedup_pos
  unfold reservationTtl confirmedTtl reservationTtlSeconds
  omega

end DedupConfig

/-! ## Caches and the shared key -/

inductive EntryState
  | reserved
  | delivered
  deriving DecidableEq

structure CacheEntry where
  state : EntryState
  status : String
  claimId : Option String := none
  l2Owned : Bool := false
  deriving DecidableEq

structure Timed (α : Type) where
  value : α
  expiresAt : Nat
  deriving DecidableEq

def live {α : Type} (clock : Nat) (timed : Option (Timed α)) : Option α :=
  (timed.filter (clock < ·.expiresAt)).map (·.value)

structure Worker where
  cache : Option (Timed CacheEntry) := none
  reservations : Option (Timed CacheEntry) := none
  deriving DecidableEq

structure Dedup where
  clock : Nat := 0
  redis : Option (Timed String) := none
  workers : Nat → Worker := fun _ => {}

def Dedup.setWorker (s : Dedup) (w : Nat) (worker : Worker) : Dedup :=
  { s with workers := Function.update s.workers w worker }

def isDelivered (value : String) : Bool :=
  startsWith value "delivered:"

def deliveredValue (status : String) : String :=
  "delivered:" ++ status

@[simp] theorem isDelivered_deliveredValue (status : String) :
    isDelivered (deliveredValue status) = true :=
  startsWith_append _ _

/-- `status.strip().lower()`; the statuses are ASCII. -/
def normalizedStatus (status : String) : String :=
  String.ofList (((status.toList.dropWhile isSpace).reverse.dropWhile isSpace).reverse.map
    Char.toLower)

/-! ## Operations -/

/-- What an operation leaves in the record of a run. The code keeps no such record. -/
inductive DedupNote
  /-- Redis has given or renewed the claim. -/
  | leased (claimId : String) (time : Nat)
  /-- A release has dropped the claim. -/
  | dropped (claimId : String)
  /-- Redis has shown no delivery. -/
  | undelivered (time : Nat)
  /-- Redis has been told of the delivery. -/
  | delivered (time : Nat)
  /-- The worker's own reservation was found. -/
  | held
  /-- The worker does not hold the claim. -/
  | stale
  /-- Redis does not hold the claim. -/
  | refused
  /-- A local cache or the Redis key has been written. -/
  | wrote
  deriving DecidableEq

/-- The sections between two `await`s, by worker, and the Redis commands. -/
inductive DedupOp
  | look (w : Nat)
  | find (w : Nat) (claimId : String)
  | storeReservation (w : Nat) (entry : CacheEntry)
  | storeDelivered (w : Nat) (status : String)
  | settle (w : Nat) (status : String)
  | accept (w : Nat) (claimId : Option String) (status : String)
  | drop (w : Nat) (status : String) (claimId : Option String)
  | setnx (claimId : String) (ttl : Nat)
  | get
  | compareSet (expected value : String) (ttl : Nat)
  | set (value : String) (ttl : Nat)
  | compareDelete (expected : String)

abbrev DedupOp.Res : DedupOp → Type
  | .look _ => Option CacheEntry × Option CacheEntry
  | .find .. => Option CacheEntry
  | .storeReservation .. => Unit
  | .storeDelivered .. => Unit
  | .settle .. => Unit
  | .accept .. => Unit
  | .drop .. => Option CacheEntry
  | .setnx .. => Bool
  | .get => Option String
  | .compareSet .. => Bool
  | .set .. => Unit
  | .compareDelete _ => Bool

section Sections

variable (config : DedupConfig) (s : Dedup)

/-- `self.cache[key] = _CacheEntry("delivered", status)` -/
def deliveredEntry (status : String) : Option (Timed CacheEntry) :=
  some ⟨⟨.delivered, status, none, false⟩, s.clock + config.confirmedTtl⟩

def Dedup.heldEntry (w : Nat) (claimId : String) : Option CacheEntry :=
  (live s.clock (s.workers w).reservations).filter (·.claimId = some claimId)

def Dedup.droppable (w : Nat) (status : String) (claimId : Option String) : Option CacheEntry :=
  (live s.clock (s.workers w).reservations).filter fun entry =>
    entry.state = .reserved ∧ entry.status = status ∧
      (claimId = none ∨ entry.claimId = claimId)

def Dedup.accepted (w : Nat) (claimId : Option String) (status : String) : Dedup :=
  let worker := s.workers w
  let own := (live s.clock worker.reservations).any (·.claimId = claimId)
  s.setWorker w
    { cache := deliveredEntry config s status
      reservations := if own then none else worker.reservations }

end Sections

def DedupOp.run (config : DedupConfig) :
    (op : DedupOp) → Dedup → op.Res × Dedup × List DedupNote
  | .look w, s =>
      let cached := live s.clock (s.workers w).cache
      let reserved := live s.clock (s.workers w).reservations
      ((cached, reserved), s, if cached = none ∧ reserved ≠ none then [.held] else [])
  | .find w claimId, s =>
      (s.heldEntry w claimId, s, if s.heldEntry w claimId = none then [.stale] else [])
  | .storeReservation w entry, s =>
      ((), s.setWorker w { s.workers w with
        reservations := some ⟨entry, s.clock + config.reservationTtl⟩ }, [.wrote])
  | .storeDelivered w status, s =>
      ((), s.setWorker w { s.workers w with cache := deliveredEntry config s status }, [.wrote])
  | .settle w status, s =>
      ((), s.setWorker w { cache := deliveredEntry config s status, reservations := none },
        [.wrote])
  | .accept w claimId status, s => ((), s.accepted config w claimId status, [.wrote])
  | .drop w status claimId, s =>
      match s.droppable w status claimId with
      | none => (none, s, [.stale])
      | some entry => (some entry, s.setWorker w { s.workers w with reservations := none },
          .wrote :: entry.claimId.toList.map .dropped)
  | .setnx claimId ttl, s =>
      match live s.clock s.redis with
      | some _ => (false, s, [])
      | none => (true, { s with redis := some ⟨claimId, s.clock + ttl⟩ },
          [.wrote, .leased claimId s.clock, .undelivered s.clock])
  | .get, s =>
      let found := live s.clock s.redis
      (found, s, if found.any isDelivered then [] else [.undelivered s.clock])
  | .compareSet expected value ttl, s =>
      if live s.clock s.redis = some expected then
        (true, { s with redis := some ⟨value, s.clock + ttl⟩ },
          [.wrote, if isDelivered value then .delivered s.clock else .leased expected s.clock])
      else (false, s, [.refused])
  | .set value ttl, s =>
      ((), { s with redis := some ⟨value, s.clock + ttl⟩ }, [.wrote, .delivered s.clock])
  | .compareDelete expected, s =>
      if live s.clock s.redis = some expected then (true, { s with redis := none }, [.wrote])
      else (false, s, [])

abbrev DedupProg := Prog DedupOp DedupOp.Res

/-! ## The methods -/

inductive DeliveryReservationStatus
  | reserved
  | inFlight
  | alreadyDelivered
  deriving DecidableEq

/-- The key is the one of the model. -/
structure DeliveryReservation where
  status : DeliveryReservationStatus
  claimId : Option String := none
  l2Owned : Bool := false
  deriving DecidableEq

section Methods

variable (config : DedupConfig) (w : Nat)

/-- `_reserve_locked`, with the claim id that it draws. -/
def reserve (claimId status : String) : DedupProg DeliveryReservation :=
  .act (.look w) fun found =>
    if found.1 ≠ none then .done ⟨.alreadyDelivered, none, false⟩
    else if found.2 ≠ none then .done ⟨.inFlight, none, false⟩
    else .act (.setnx claimId config.reservationTtl) fun wasFirst =>
      if wasFirst then
        .act (.storeReservation w ⟨.reserved, normalizedStatus status, some claimId, true⟩)
          fun _ => .done ⟨.reserved, some claimId, true⟩
      else .act .get fun existing =>
        if existing.any isDelivered then
          .act (.storeDelivered w (normalizedStatus status)) fun _ =>
            .done ⟨.alreadyDelivered, none, false⟩
        else .done ⟨.inFlight, none, false⟩

def renew (reservation : DeliveryReservation) : DedupProg Bool :=
  match reservation.status, reservation.claimId with
  | .reserved, some claimId =>
      .act (.find w claimId) fun found =>
        match found with
        | none => .done false
        | some cached =>
            if cached.l2Owned then
              .act (.compareSet claimId claimId config.reservationTtl) fun renewed =>
                if renewed then .act (.storeReservation w cached) fun _ => .done true
                else .done false
            else .act (.storeReservation w cached) fun _ => .done true
  | _, _ => .done false

def confirm (reservation : DeliveryReservation) : DedupProg Bool :=
  match reservation.status, reservation.claimId with
  | .reserved, some claimId =>
      .act (.find w claimId) fun found =>
        match found.filter (·.state = .reserved) with
        | none => .done false
        | some cached =>
            if cached.l2Owned ∧ reservation.l2Owned then
              .act (.compareSet claimId (deliveredValue cached.status) config.confirmedTtl)
                fun confirmed =>
                  if confirmed then .act (.settle w cached.status) fun _ => .done true
                  else .done false
            else .act (.settle w cached.status) fun _ => .done true
  | status, _ => .done (status = .alreadyDelivered)

def markDeliveredAfterAcceptance (reservation : DeliveryReservation) (status : String) :
    DedupProg Unit :=
  .act (.accept w reservation.claimId (normalizedStatus status)) fun _ =>
    .act (.set (deliveredValue (normalizedStatus status)) config.confirmedTtl) .done

def release (status : String) (reservation : Option DeliveryReservation) : DedupProg Unit :=
  .act (.drop w (normalizedStatus status) (reservation.bind (·.claimId))) fun claim =>
    match claim with
    | none => .done ()
    | some claim =>
        match claim.l2Owned, claim.claimId with
        | true, some claimId => .act (.compareDelete claimId) fun _ => .done ()
        | _, _ => .done ()

end Methods

/-! ## Any number of workers -/

inductive DedupCall
  | reserve (w : Nat) (status : String)
  | renew (w : Nat) (reservation : DeliveryReservation)
  | confirm (w : Nat) (reservation : DeliveryReservation)
  | markDelivered (w : Nat) (reservation : DeliveryReservation) (status : String)
  | release (w : Nat) (status : String) (reservation : Option DeliveryReservation)
  deriving DecidableEq

inductive DedupResult
  | reservation (reservation : DeliveryReservation)
  | flag (value : Bool)
  | nothing
  deriving DecidableEq

/-- The program of a call; a reserve draws the claim id of its thread. -/
def dedupBody (config : DedupConfig) (claimIds : Nat → String) (i : Nat) :
    DedupCall → DedupProg DedupResult
  | .reserve w status => do
      return .reservation (← reserve config w (claimIds i) status)
  | .renew w reservation => do
      return .flag (← renew config w reservation)
  | .confirm w reservation => do
      return .flag (← confirm config w reservation)
  | .markDelivered w reservation status => do
      markDeliveredAfterAcceptance config w reservation status
      return .nothing
  | .release w status reservation => do
      release w status reservation
      return .nothing

/-- A reservation as `reserve` answers it. -/
def DeliveryReservation.Answered (claimIds : Nat → String) (reservation : DeliveryReservation) :
    Prop :=
  match reservation.status with
  | .reserved => reservation.l2Owned = true ∧ ∃ i, reservation.claimId = some (claimIds i)
  | _ => reservation.claimId = none ∧ reservation.l2Owned = false

def DedupCall.Admitted (claimIds : Nat → String) : DedupCall → Prop
  | .reserve .. => True
  | .renew _ reservation => reservation.Answered claimIds
  | .confirm _ reservation => reservation.Answered claimIds
  | .markDelivered _ reservation _ => reservation.Answered claimIds
  | .release _ _ reservation => ∀ r, reservation = some r → r.Answered claimIds

structure DedupRun where
  dedup : Dedup := {}
  record : List (Nat × DedupNote) := []

/-- One operation of thread `i`. -/
def DedupOp.outcome (config : DedupConfig) (i : Nat) (op : DedupOp) (s : DedupRun) :
    op.Res × DedupRun :=
  let result := op.run config s.dedup
  (result.1, ⟨result.2.1, result.2.2.map (i, ·) ++ s.record⟩)

/-- Time passes; entries leave a local cache with its process or to make room. -/
structure Elapses (s s' : DedupRun) : Prop where
  clock : s.dedup.clock ≤ s'.dedup.clock
  redis : s'.dedup.redis = s.dedup.redis
  cache : ∀ w, (s'.dedup.workers w).cache = (s.dedup.workers w).cache ∨
    (s'.dedup.workers w).cache = none
  reservations : ∀ w, (s'.dedup.workers w).reservations = (s.dedup.workers w).reservations ∨
    (s'.dedup.workers w).reservations = none
  record : s'.record = s.record

def dedupSystem (config : DedupConfig) (claimIds : Nat → String) :
    System DedupOp DedupOp.Res where
  State := DedupRun
  Call := DedupCall
  Result := DedupResult
  exec i _ op s reply s' := op.outcome config i s = (reply, s')
  environment := Elapses
  admits _ call := call.Admitted claimIds
  body := dedupBody config claimIds
  initial s := s = {}

end Hybro.Delivery
