import RustyKaspa.Rpc.Channel
import RustyKaspa.Rpc.Messages

/-!
# The notifier

`GrpcClient` hands its notification API to a `kaspa_rpc_core::notify::notifier::Notifier`,
which keeps the listeners and their subscriptions and asks a `Subscriber` to subscribe to or
unsubscribe from an event type on the server.  The notifier is not part of the repository; it is
modelled here from the spec:

* each listener has a subscription record per event type it is active for, which is a
  `NotificationType` (the event type with its filter);
* the global count of an event type is the number of listeners active for it;
* `start_notify` records the listener's subscription and asks for a wire Start when the count
  goes from 0 to 1; `stop_notify` removes it and asks for a wire Stop when the count goes from 1
  to 0; `unregister_listener` stops every subscription of the listener, then drops it;
* the requests to the subscriber go through a channel, which the subscriber reads in order and
  passes to its `SubscriptionManager` (`Inner`).

Fan-out of notifications to the listeners' channels is not modelled: nothing the client code
does depends on it.
-/

namespace Kaspa

/-- `ListenerID`: a local id, allocated in increasing order. -/
abbrev ListenerID := Nat

/-- Modelled from the spec: a listener and its active subscription records, one per event
type. -/
structure Listener where
  id : ListenerID
  active : List NotificationType
  deriving DecidableEq, Repr

namespace Listener

/-- Whether the listener is active for an event type. -/
def isActive (self : Listener) (event : EventType) : Bool :=
  self.active.any fun t => t.eventType == event

/-- Record a subscription, replacing the record of the same event type if any. -/
def activate (self : Listener) (notificationType : NotificationType) : Listener :=
  { self with
    active := (self.active.filter fun t => t.eventType != notificationType.eventType) ++
      [notificationType] }

/-- Drop the record of an event type. -/
def deactivate (self : Listener) (event : EventType) : Listener :=
  { self with active := self.active.filter fun t => t.eventType != event }

end Listener

/-- Modelled from the spec: the `Notifier`, with its listeners, the next listener id, and the
channel of subscription requests to its subscriber. -/
structure Notifier where
  listeners : List Listener
  nextId : ListenerID
  subscriptions : Channel (NotificationType × SubscribeCommand)
  deriving DecidableEq

namespace Notifier

/-- Modelled from the spec: a notifier with no listener. -/
def new : Notifier := ⟨[], 0, Channel.new none⟩

/-- The global count of an event type: how many listeners are active for it. -/
def count (self : Notifier) (event : EventType) : Nat :=
  self.listeners.countP (·.isActive event)

/-- Apply `f` to the listener `id`. -/
def update (self : Notifier) (id : ListenerID) (f : Listener → Listener) : Notifier :=
  { self with listeners := self.listeners.map fun l => if l.id = id then f l else l }

/-- Modelled from the spec: `register_new_listener`, returning the new listener's id. -/
def registerNewListener (self : Notifier) : Notifier × ListenerID :=
  ({ self with listeners := self.listeners ++ [⟨self.nextId, []⟩], nextId := self.nextId + 1 },
    self.nextId)

/-- Modelled from the spec: `start_notify`.  The listener's record is set; a wire Start is asked
for when no listener was active for the event type. -/
def startNotify (self : Notifier) (id : ListenerID) (notificationType : NotificationType) :
    Notifier :=
  if self.listeners.any (·.id == id) then
    let updated := self.update id (·.activate notificationType)
    if self.count notificationType.eventType = 0 then
      { updated with subscriptions := self.subscriptions.push (notificationType, .Start) }
    else updated
  else self

/-- Modelled from the spec: `stop_notify`.  The listener's record is dropped; a wire Stop is
asked for when no listener is left active for the event type. -/
def stopNotify (self : Notifier) (id : ListenerID) (notificationType : NotificationType) :
    Notifier :=
  if self.listeners.any fun l => l.id == id && l.isActive notificationType.eventType then
    let updated := self.update id (·.deactivate notificationType.eventType)
    if updated.count notificationType.eventType = 0 then
      { updated with subscriptions := self.subscriptions.push (notificationType, .Stop) }
    else updated
  else self

/-- Modelled from the spec: `unregister_listener` stops every subscription of the listener, then
drops it. -/
def unregisterListener (self : Notifier) (id : ListenerID) : Notifier :=
  let stopped := ((self.listeners.find? (·.id == id)).elim [] (·.active)).foldl
    (fun n t => n.stopNotify id t) self
  { stopped with listeners := stopped.listeners.filter (·.id != id) }

end Notifier

end Kaspa
