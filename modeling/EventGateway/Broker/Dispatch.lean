import EventGateway.Broker.Basic
import EventGateway.Transport.Message

/-!
# Dispatch

An event is routed to the registered connections in any of its rooms, each once. Every one of them
that accepts an entry gets a slot at once, in the order in which the events come; whether anything is
delivered in it is decided later.
-/

namespace EventGateway

/-- A slot reserved for an event on a connection. -/
structure Ticket where
  connection : ConnectionId
  slot : Nat
  deriving DecidableEq, Repr, Inhabited

namespace Broker

def candidates (b : Broker) (rooms : List Room) : List ConnectionId :=
  (rooms.flatMap b.table.membersOf).eraseDups.filter b.isRegistered

def reserve (b : Broker) (id : ConnectionId) : Broker × Option Ticket :=
  match (b.connection? id).bind Connection.openSlot? with
  | some slot => (b.modify id Connection.reserve, some ⟨id, slot⟩)
  | none => (b, none)

def reserveAll (b : Broker) : List ConnectionId → Broker × List Ticket
  | [] => (b, [])
  | id :: ids =>
    let (b, ticket) := b.reserve id
    let (b, tickets) := b.reserveAll ids
    (b, ticket.toList ++ tickets)

/-- Reserves the slots of an event. -/
def dispatch (b : Broker) (e : Event) : Broker × List Ticket :=
  b.reserveAll (b.candidates e.rooms)

def settle (b : Broker) (t : Ticket) (frame : Option String) : Broker :=
  b.modify t.connection fun c => c.settle t.slot frame

end Broker

end EventGateway
