import EventGateway.Transport.Message

/-!
# The local hub

Messages in the order in which they were published. A subscriber is a place in that order: it receives
what is published after it subscribed, one message after the other. Only the latest messages are
retained, so that a subscriber who is further behind goes on with the oldest of these.
-/

namespace EventGateway

/-- How many messages are retained. -/
def hubCapacity : Nat := 4096

/-- Everything published so far. -/
structure Hub where
  log : Array Message := #[]
  deriving Inhabited

namespace Hub

def publish (h : Hub) (m : Message) : Hub := ⟨h.log.push m⟩

/-- The place of a new subscriber. -/
def subscribe (h : Hub) : Nat := h.log.size

/-- The place of the oldest message that is retained. -/
def oldest (h : Hub) : Nat := h.log.size - hubCapacity

/-- The message that a subscriber receives next, and the place after it. -/
def receive? (h : Hub) (place : Nat) : Option (Message × Nat) :=
  let next := max place h.oldest
  h.log[next]?.map fun m => (m, next + 1)

/-- How many messages a subscriber is going to receive. -/
def backlog (h : Hub) (place : Nat) : Nat := h.log.size - max place h.oldest

/-- Receives everything there is, at most as many messages as the hub holds. -/
def drain (h : Hub) (place : Nat) : List Message × Nat :=
  let next := max place h.oldest
  (h.log.toList.drop next, max next h.log.size)

end Hub

end EventGateway
