import EventGateway.Broker.Gate
import EventGateway.Room.Table
import EventGateway.Session.Connection

/-!
# The broker

All connections, which of them are registered, and who is in which room. Who is in a room is kept
twice, with the connection and in the table of rooms, and both are changed together.
-/

namespace EventGateway

/-- The connections and their rooms. -/
structure Broker where
  /-- Every connection that there has been. -/
  connections : Dictionary ConnectionId Connection := ∅
  /-- Those that take part in deliveries. Their order is nothing to rely on: whoever goes through them may
  come to them in any other one. -/
  registry : List ConnectionId := []
  table : RoomTable := default
  deriving Inhabited

namespace Broker

def connection? (b : Broker) (id : ConnectionId) : Option Connection := b.connections.get? id

def modify (b : Broker) (id : ConnectionId) (f : Connection → Connection) : Broker :=
  { b with connections := b.connections.modify id f }

def isRegistered (b : Broker) (id : ConnectionId) : Bool := b.registry.contains id

def add (b : Broker) (c : Connection) : Broker :=
  { b with connections := b.connections.insert c.id c }

def register (b : Broker) (id : ConnectionId) : Broker :=
  { b with registry := if b.registry.contains id then b.registry else b.registry ++ [id] }

/-- Ends a connection: it leaves all rooms and the registry. -/
def disconnect (b : Broker) (id : ConnectionId) : Broker :=
  match b.connection? id with
  | none => b
  | some c =>
    { connections := b.connections.modify id Connection.close
      registry := b.registry.filter (· ≠ id)
      table := b.table.removeAll c.rooms.toList id }

/-- Lists the registered connections in another order. -/
def reorder (b : Broker) (order : List ConnectionId) : Broker :=
  if order.isPerm b.registry then { b with registry := order } else b

def connectionCount (b : Broker) : Nat := b.registry.length

/-- The number of rooms that somebody is in. -/
def roomCount (b : Broker) : Nat := b.table.size

/-! ### Rooms -/

def join (b : Broker) (id : ConnectionId) (room : Room) : Broker :=
  match b.connection? id with
  | none => b
  | some c =>
    if room ∈ c.rooms then b
    else { b.modify id fun c => { c with rooms := c.rooms.insert room } with
      table := b.table.insert room id }

def leave (b : Broker) (id : ConnectionId) (room : Room) : Broker :=
  match b.connection? id with
  | none => b
  | some c =>
    if room ∈ c.rooms then
      { b.modify id fun c => { c with rooms := c.rooms.erase room } with
        table := b.table.remove room id }
    else b

/-- Puts a connection into all of the rooms, or into none if one of them is refused. A closed
connection joins nothing. -/
def subscribe (b : Broker) (id : ConnectionId) (rooms : List Room) : Except CommandError Broker :=
  match b.connection? id with
  | none => .ok b
  | some c =>
    if c.closed then .ok b
    else
      match rooms.findSome? c.principal.refusal? with
      | some e => .error e
      | none => .ok (rooms.foldl (fun b room => b.join id room) b)

def unsubscribe (b : Broker) (id : ConnectionId) (rooms : List Room) : Broker :=
  rooms.foldl (fun b room => b.leave id room) b

end Broker

end EventGateway
