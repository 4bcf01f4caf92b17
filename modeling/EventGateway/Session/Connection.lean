import EventGateway.Access.Authenticate
import EventGateway.Room.Basic
import EventGateway.Session.Outbound

/-!
# Connections

What is kept for one client: who acts on it, the rooms it is in and its outbound queue. Once closed, a
connection has no rooms and accepts nothing more.
-/

namespace EventGateway

abbrev ConnectionId := String

/-- The state of one connection. -/
structure Connection where
  id : ConnectionId
  caller : Caller := {}
  principal : Principal := .anonymous
  rooms : RoomSet := ∅
  closed : Bool := false
  outbound : Outbound := {}
  deriving Inhabited

namespace Connection

def accepts (c : Connection) : Bool := !c.closed && c.outbound.accepts

/-- Queues a frame that is ready, if it is accepted. -/
def send (c : Connection) (frame : String) : Connection :=
  if c.accepts then { c with outbound := c.outbound.push (.ready frame) } else c

/-- The slot that an event would get, if it is accepted. -/
def openSlot? (c : Connection) : Option Nat :=
  if c.accepts then some c.outbound.nextSlot else none

/-- Queues a slot for an event, if it is accepted. -/
def reserve (c : Connection) : Connection :=
  if c.accepts then { c with outbound := c.outbound.pushSlot } else c

def settle (c : Connection) (slot : Nat) (frame : Option String) : Connection :=
  { c with outbound := c.outbound.settle slot frame }

def setPrincipal (c : Connection) (p : Principal) : Connection := { c with principal := p }

/-- Would the principal be taken away if it was `expected` when it was checked? -/
def demotable (c : Connection) (expected : Principal) : Bool :=
  c.principal = expected && !c.principal.isAnonymous

/-- Takes the principal away, unless another one has come since it was checked. -/
def demoteIf (c : Connection) (expected : Principal) : Connection :=
  if c.demotable expected then { c with principal := .anonymous } else c

def close (c : Connection) : Connection := { c with closed := true, rooms := ∅ }

theorem accepts_iff {c : Connection} : c.accepts = true ↔ c.closed = false ∧
    c.outbound.hasReceiver = true ∧ c.outbound.queue.length < outboundCapacity := by
  simp [accepts, Outbound.accepts]

theorem openSlot?_eq_some_iff {c : Connection} {slot : Nat} :
    c.openSlot? = some slot ↔ c.accepts = true ∧ c.outbound.nextSlot = slot := by
  unfold openSlot?
  split <;> simp_all

end Connection

end EventGateway
