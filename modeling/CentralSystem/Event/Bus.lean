import CentralSystem.Event
import CentralSystem.Event.Channel
import CentralSystem.Notice
import CentralSystem.Table

namespace CentralSystem

structure EventBus where
  channel : Channel Event
  /-- The subscribers, each with the number of the event that it reads next. -/
  subscribers : Table Nat Nat := ∅
  nextSubscriber : Nat := 0
  /-- Whether events can still be published. -/
  isOpen : Bool := true

namespace EventBus

def defaultCapacity : Nat := 1024

def withCapacity (n : Nat) : EventBus := { channel := .withCapacity n }

variable (bus : EventBus)

def publish (e : Event) : EventBus := { bus with channel := bus.channel.publish e }

def close : EventBus := { bus with isOpen := false }

def subscribe : Nat × EventBus :=
  (bus.nextSubscriber, { bus with
    subscribers := bus.subscribers.insert bus.nextSubscriber bus.channel.published
    nextSubscriber := bus.nextSubscriber + 1 })

def unsubscribe (subscriber : Nat) : EventBus :=
  { bus with subscribers := bus.subscribers.erase subscriber }

def subscriberCount : Nat := bus.subscribers.size

inductive Delivery where
  | event (e : Event)
  | waiting
  | closed
deriving DecidableEq, Inhabited

/-- The next event for a subscriber, and what is noted of the ones that it missed. -/
def receive (subscriber : Nat) : Option (Delivery × List Notice × EventBus) :=
  (bus.subscribers.get? subscriber).map fun next =>
    let r := bus.channel.read next
    let notices := if r.missed = 0 then [] else [.subscriberLagged r.missed]
    let delivery := match r.message with
      | some e => .event e
      | none => if bus.isOpen then .waiting else .closed
    (delivery, notices, { bus with subscribers := bus.subscribers.insert subscriber r.next })

def tryReceive (subscriber : Nat) : Option Event × EventBus :=
  match bus.receive subscriber with
  | some (.event e, _, bus) => (some e, bus)
  | some (_, _, bus) => (none, bus)
  | none => (none, bus)

end EventBus

end CentralSystem
