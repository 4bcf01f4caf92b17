import EventGateway.Transport.Message

/-!
# Broadcast channels

A channel that gives every message to each of its receivers. A receiver has a place among the messages
that were sent. Sending fails if nobody receives, and whoever is too far behind is told so.
-/

namespace EventGateway

/-- What comes of asking for a message, as long as the channel is not closed. -/
inductive Received where
  | message (m : Message)
  | lagged (skipped : Nat)
  /-- There is none yet. -/
  | nothing
  deriving DecidableEq, Repr, Inhabited

/-- A channel with receivers, and how it is described: how many receivers it has, what has been sent to
it, and at which place a receiver is. -/
structure Broadcast where
  Channel : Type
  Receiver : Type
  empty : Channel
  send : Channel → Message → Option Channel
  subscribe : Channel → Channel × Receiver
  receive : Channel → Receiver → Received × Channel × Receiver
  drop : Channel → Receiver → Channel
  receivers : Channel → Nat
  Sent : Channel → List Message → Prop
  place : Receiver → Nat

end EventGateway
