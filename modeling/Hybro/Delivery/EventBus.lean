import Hybro.Library.OrderedMap
import Mathlib.Logic.Function.Basic

/-! # Room subscriptions of the event bus

`CrossInstanceEventBus` as far as rooms are concerned: one task for each subscribed room
that keeps a Redis subscription open, and a future that tells when it is open for the
first time. Only what runs between two awaits is one step.
-/

namespace Hybro.Delivery

open OrderedMap

/-! ## State -/

inductive Readiness
  | pending
  | ready
  | failed
  | cancelled
  deriving DecidableEq

/-- Where `_subscription_loop` awaits: before its first run, the Redis subscription, the
next message, and the delay or the closing of a stream before the next attempt. -/
inductive LoopPoint
  | starting
  | subscribing
  | streaming
  | pausing
  | ended
  deriving DecidableEq

structure RoomSubscription where
  conversationId : String
  readiness : Readiness := .pending
  loop : LoopPoint := .starting
  deriving DecidableEq

structure CrossInstanceEventBus where
  /-- `redis_room_subscription_production_limit` -/
  subscriptionLimit : Nat
  generations : Nat → Option RoomSubscription := fun _ => none
  nextGeneration : Nat := 0
  /-- `_room_tasks`, `_room_readiness` and `_channel_generations`: they have the same keys. -/
  roomTasks : List (String × Nat) := []
  /-- `_active_generations` -/
  activeGenerations : List (String × Nat) := []

namespace CrossInstanceEventBus

variable (bus : CrossInstanceEventBus) (room : String) (generation : Nat)

def readinessOf : Option Readiness :=
  (bus.generations generation).map (·.readiness)

def setSubscription (subscription : RoomSubscription) : CrossInstanceEventBus :=
  { bus with generations := Function.update bus.generations generation (some subscription) }

/-! ## Operations -/

/-- `subscribe_room` up to the await of the future, which is the one of this generation. -/
def subscribeRoom : Option (CrossInstanceEventBus × Nat) :=
  match get bus.roomTasks room with
  | some generation => some (bus, generation)
  | none =>
      if bus.subscriptionLimit ≤ bus.roomTasks.length then none
      else
        some ({ bus.setSubscription bus.nextGeneration { conversationId := room } with
          nextGeneration := bus.nextGeneration + 1
          roomTasks := put bus.roomTasks room bus.nextGeneration }, bus.nextGeneration)

def markChannelActive : CrossInstanceEventBus :=
  if get bus.roomTasks room = some generation then
    { bus with activeGenerations := put bus.activeGenerations room generation }
  else bus

def markChannelInactive : CrossInstanceEventBus :=
  if get bus.activeGenerations room = some generation then
    { bus with activeGenerations := erase bus.activeGenerations room }
  else bus

/-- `if not readiness.done(): readiness.cancel()` -/
def cancelReadiness : CrossInstanceEventBus :=
  match bus.generations generation with
  | some subscription =>
      if subscription.readiness = .pending then
        bus.setSubscription generation { subscription with readiness := .cancelled }
      else bus
  | none => bus

/-- `_cleanup_room_subscription` up to the await of the cancelled task. -/
def cleanupRoomSubscription (readiness : Option Nat) : CrossInstanceEventBus :=
  match get bus.roomTasks room with
  | none => bus
  | some generation =>
      if readiness.isSome ∧ readiness ≠ some generation then bus
      else
        let bus := if readiness.isSome then bus.cancelReadiness generation else bus
        { bus with roomTasks := erase bus.roomTasks room }.markChannelInactive room generation

/-- `unsubscribe_room`, likewise. -/
def unsubscribeRoom : CrossInstanceEventBus :=
  bus.cleanupRoomSubscription room (get bus.roomTasks room)

/-! ## The subscription loop -/

def nextAttempt (subscription : RoomSubscription) : CrossInstanceEventBus :=
  if get bus.roomTasks subscription.conversationId = some generation then
    bus.setSubscription generation { subscription with loop := .subscribing }
  else if subscription.readiness = .pending then
    (bus.setSubscription generation
      { subscription with readiness := .failed, loop := .ended }).cleanupRoomSubscription
        subscription.conversationId (some generation)
  else bus.setSubscription generation { subscription with loop := .ended }

def opened (subscription : RoomSubscription) : CrossInstanceEventBus :=
  (bus.markChannelActive subscription.conversationId generation).setSubscription generation
    { subscription with
      readiness := if subscription.readiness = .pending then .ready else subscription.readiness
      loop := .streaming }

/-- Redis has not opened the subscription, or not in time. -/
def notOpened (subscription : RoomSubscription) : CrossInstanceEventBus :=
  let inactive := bus.markChannelInactive subscription.conversationId generation
  if subscription.readiness = .pending then
    (inactive.setSubscription generation
      { subscription with readiness := .failed, loop := .ended }).cleanupRoomSubscription
        subscription.conversationId (some generation)
  else inactive.setSubscription generation { subscription with loop := .pausing }

/-- The stream of messages has ended, or reading it or handling a message has failed. -/
def streamLost (subscription : RoomSubscription) : CrossInstanceEventBus :=
  (bus.markChannelInactive subscription.conversationId generation).setSubscription generation
    { subscription with loop := .pausing }

def loopCancelled (subscription : RoomSubscription) : CrossInstanceEventBus :=
  (bus.markChannelInactive subscription.conversationId generation).setSubscription generation
    { subscription with loop := .ended }

end CrossInstanceEventBus

/-- One step of a subscription task. Unless `loses` holds, no open stream is lost. Only a
task that has been taken out of the tables is ever cancelled. -/
inductive LoopStep (loses : Bool) (bus : CrossInstanceEventBus) : CrossInstanceEventBus → Prop
  | nextAttempt (generation : Nat) (subscription : RoomSubscription)
      (hfound : bus.generations generation = some subscription)
      (hpoint : subscription.loop = .starting ∨ subscription.loop = .pausing) :
      LoopStep loses bus (bus.nextAttempt generation subscription)
  | opened (generation : Nat) (subscription : RoomSubscription)
      (hfound : bus.generations generation = some subscription)
      (hpoint : subscription.loop = .subscribing) :
      LoopStep loses bus (bus.opened generation subscription)
  | notOpened (generation : Nat) (subscription : RoomSubscription)
      (hfound : bus.generations generation = some subscription)
      (hpoint : subscription.loop = .subscribing) :
      LoopStep loses bus (bus.notOpened generation subscription)
  | streamLost (generation : Nat) (subscription : RoomSubscription)
      (hfound : bus.generations generation = some subscription)
      (hpoint : subscription.loop = .streaming) (hloses : loses = true) :
      LoopStep loses bus (bus.streamLost generation subscription)
  | cancelled (generation : Nat) (subscription : RoomSubscription)
      (hfound : bus.generations generation = some subscription)
      (hgone : get bus.roomTasks subscription.conversationId ≠ some generation) :
      LoopStep loses bus (bus.loopCancelled generation subscription)

end Hybro.Delivery
