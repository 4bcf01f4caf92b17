import EventGateway.Transport.Hub

/-!
# The transport and who listens to it

The hub together with what may go wrong with it: publishing may be refused, a subscription may end, and
subscribing again may fail some times. A listener whose subscription ended tries again after a while
that grows with every failure; what is published meanwhile is lost to it.
-/

namespace EventGateway

/-- A hub that may fail. -/
structure Bus where
  hub : Hub := {}
  /-- Is publishing refused? -/
  down : Bool := false
  /-- How many subscriptions are going to fail. -/
  failures : Nat := 0
  /-- How many subscriptions have been attempted. -/
  attempts : Nat := 0
  deriving Inhabited

/-- The first wait before subscribing again, in milliseconds. -/
def firstBackoff : Nat := 250

/-- The longest wait before subscribing again, in milliseconds. -/
def longestBackoff : Nat := 30000

/-- The wait after a wait that was in vain. -/
def nextBackoff (backoff : Nat) : Nat := min (backoff * 2) longestBackoff

/-- Who listens to the transport. -/
inductive Listener where
  | listening (place : Nat)
  | retrying (due backoff : Nat)
  deriving DecidableEq, Repr, Inhabited

namespace Bus

def publish (bus : Bus) (m : Message) : Bus :=
  if bus.down then bus else { bus with hub := bus.hub.publish m }

/-- Attempts to subscribe: the place, if it does not fail. -/
def subscribe (bus : Bus) : Bus × Option Nat :=
  let bus := { bus with attempts := bus.attempts + 1 }
  if bus.failures = 0 then (bus, some bus.hub.subscribe)
  else ({ bus with failures := bus.failures - 1 }, none)

end Bus

namespace Listener

/-- A listener whose subscription has ended tries again after the first wait. -/
def interrupt (now : Nat) : Listener → Listener
  | .listening _ => .retrying (now + firstBackoff) firstBackoff
  | l => l

def readyAt? (bus : Bus) : Listener → Option Nat
  | .listening place => if bus.hub.backlog place = 0 then none else some 0
  | .retrying due _ => some due

/-- Subscribes again. -/
def retry (bus : Bus) (now backoff : Nat) : Bus × Listener :=
  match bus.subscribe with
  | (bus, some place) => (bus, .listening place)
  | (bus, none) => (bus, .retrying (now + nextBackoff backoff) (nextBackoff backoff))

end Listener

end EventGateway
