import EventGateway.Broker.Dispatch
import EventGateway.Service.Config
import EventGateway.Session.Line
import EventGateway.Transport.Bus

/-!
# The service and what surrounds it

The whole state: the service itself with everything that it has under way, the store that it asks, the
transport that it listens to, its clients and the clock.
-/

namespace EventGateway

/-- A pass that checks the credentials of connections one after the other. -/
structure Pass where
  /-- Only connections of this user are checked, if it is given. -/
  affected : Option String
  remaining : List ConnectionId
  /-- The connection and principal being looked up. -/
  current : Option (ConnectionId × Principal × Awaited Bool) := none
  /-- How many connections have lost their principal. -/
  demoted : Nat := 0
  deriving Inhabited

/-- Has the pass come to its end? -/
def Pass.isDone (p : Pass) : Bool := p.remaining.isEmpty && p.current.isNone

/-- The state of everything. -/
structure World where
  config : Config
  /-- The time, in milliseconds. -/
  now : Nat := 0
  /-- The number of lookups that had to wait so far. -/
  turns : Nat := 0
  store : Store := {}
  bus : Bus := {}
  listener : Listener := .listening 0
  broker : Broker := {}
  sessions : Dictionary ConnectionId Session := ∅
  passes : List Pass := []
  deriving Inhabited

namespace World

def modifySession (w : World) (id : ConnectionId) (f : Session → Session) : World :=
  { w with sessions := w.sessions.modify id f }

def modifyConnection (w : World) (id : ConnectionId) (f : Connection → Connection) : World :=
  { w with broker := w.broker.modify id f }

def line? (w : World) (id : ConnectionId) : Option Line :=
  match w.sessions.get? id, w.broker.connection? id with
  | some session, some connection => some { session, connection }
  | _, _ => none

/-- Changes a connection and its session. -/
def modifyLine (w : World) (id : ConnectionId) (f : Line → Line) : World :=
  match w.line? id with
  | some l => (w.modifySession id fun _ => (f l).session).modifyConnection id fun _ =>
    (f l).connection
  | none => w

/-- The limit of one authorization or authentication. -/
def timeLimit (w : World) : Nat := w.config.authzTimeout.toNat

/-- Counts a lookup that has to wait. -/
def countTurn (w : World) : World := { w with turns := w.turns + 1 }

end World

end EventGateway
