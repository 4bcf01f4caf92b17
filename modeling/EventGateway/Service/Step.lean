import EventGateway.Service.Delivery
import EventGateway.Service.Reader
import EventGateway.Service.Reauthorize
import EventGateway.Service.Writer

/-!
# Runs

What is under way is divided into tasks. A task does in one step what it does without waiting. A run is
a sequence of steps of tasks and of what happens outside, in any order; time passes only up to the
next thing that there is to do.
-/

namespace EventGateway

/-- A task of the service. -/
inductive Task where
  /-- Receives the next message of the transport, or subscribes to it again. -/
  | listener
  /-- Decides about the delivery in a slot. -/
  | delivery (ticket : Ticket)
  /-- Goes on with a pass. -/
  | pass (index : Nat)
  /-- Takes the next message of a client, or goes on with an authentication. -/
  | reader (id : ConnectionId)
  /-- Ends a session that lacks a heartbeat. -/
  | heartbeat (id : ConnectionId)
  /-- Writes the next frame of a connection. -/
  | writer (id : ConnectionId)
  deriving DecidableEq, Repr, Inhabited

namespace World

/-! ### Tasks -/

/-- One step of a task. A task that has nothing to do changes nothing. -/
def work (w : World) : Task → World
  | .listener => w.listen
  | .delivery t => w.deliver t
  | .pass index => w.runPass index
  | .reader id => w.read id
  | .heartbeat id => w.missHeartbeat id
  | .writer id => w.write id

def readyAt? (w : World) : Task → Option Nat
  | .listener => w.listener.readyAt? w.bus
  | .delivery t => (w.delivery? t).bind fun d => d.stage.readyAt?
  | .pass index => w.passes[index]?.bind fun p =>
    match p.current with
    | some (_, _, lookup) => some lookup.readyAt
    | none => if p.remaining.isEmpty then none else some 0
  | .reader id => (w.sessions.get? id).bind Session.readerReadyAt?
  | .heartbeat id => (w.sessions.get? id).bind Session.heartbeatReadyAt?
  | .writer id => w.writerReadyAt? id

def ticketsOf (id : ConnectionId) (s : Session) : List Ticket :=
  (List.range s.deliveries.length).map fun slot => ⟨id, slot⟩

def tasks (w : World) : List Task :=
  .listener ::
    (w.sessions.entries.flatMap fun (id, s) =>
      (ticketsOf id s).map .delivery ++ [.reader id, .heartbeat id, .writer id]) ++
    (List.range w.passes.length).map .pass

/-- When there is something to do next. -/
def horizon? (w : World) : Option Nat := (w.tasks.filterMap w.readyAt?).min?

/-! ### Actions -/

/-- What happens: a step of a task, or something outside the service. -/
inductive Action where
  | task (task : Task)
  | connect (id : ConnectionId) (caller : Caller)
  | arrive (id : ConnectionId) (arrival : Arrival)
  /-- The client leaves and reads nothing more. -/
  | leave (id : ConnectionId)
  | updateStore (update : StoreUpdate)
  | publish (message : Message)
  /-- A message reaches the broker other than by the transport. -/
  | dispatch (message : Message)
  | reauthorize (affected : Option String)
  /-- The subscription to the transport ends, and the next ones fail. -/
  | breakTransport (failures : Nat)
  | setTransportDown (value : Bool)
  /-- Whoever goes through the registered connections next comes to them in this order. -/
  | reorder (order : List ConnectionId)
  /-- Time passes, but not beyond what is to be done. -/
  | elapse (target : Nat)
  deriving Inhabited

/-- Adds a connection with its greeting in the queue. Ids are not used twice. -/
def connect (w : World) (id : ConnectionId) (caller : Caller) : World :=
  match w.broker.connection? id with
  | some _ => w
  | none =>
    let c : Connection := { id, caller }
    { w with
      broker := (w.broker.add (c.send (helloFrame id w.config.heartbeatInterval.toNat))).register id
      sessions := w.sessions.insert id (.opened w.config.checkedGrace w.now) }

/-- Lets time pass up to the next thing to do. -/
def elapse (w : World) (target : Nat) : World :=
  if w.now ≤ target ∧ w.horizon?.all (target ≤ ·) then { w with now := target } else w

def step (w : World) : Action → World
  | .task t => w.work t
  | .connect id caller => w.connect id caller
  | .arrive id arrival => w.modifySession id fun s => { s with inbox := s.inbox ++ [arrival] }
  | .leave id => w.modifySession id fun s =>
    { s with inbox := s.inbox ++ [.ended], present := false }
  | .updateStore u => { w with store := w.store.update u }
  | .publish m => { w with bus := w.bus.publish m }
  | .dispatch m => w.dispatch m
  | .reauthorize affected => w.startPass affected
  | .breakTransport failures => { w with
      bus := { w.bus with failures }, listener := w.listener.interrupt w.now }
  | .setTransportDown b => { w with bus := { w.bus with down := b } }
  | .reorder order => { w with broker := w.broker.reorder order }
  | .elapse target => w.elapse target

def run (w : World) (actions : List Action) : World := actions.foldl step w

/-- The service when it has started and subscribed to the transport. -/
def start (config : Config) (store : Store) : World :=
  let (bus, place) := ({} : Bus).subscribe
  { config, store, bus, listener := .listening (place.getD 0) }

end World

end EventGateway
