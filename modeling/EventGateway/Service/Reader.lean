import EventGateway.Command.Basic
import EventGateway.Service.World
import EventGateway.Session.Reply

/-!
# Readers

A reader takes the messages of its client one after the other. Every text is answered by one reply, and
the next is not looked at before. Only an authentication has to wait, for its lookups. The reader ends
with its client, when a reply is not accepted, or when a heartbeat is missing at a time at which it has
nothing else to do.
-/

namespace EventGateway.World

def endReader (w : World) (id : ConnectionId) (code : Option CloseCode) : World :=
  { w with broker := w.broker.disconnect id }.modifySession id fun s =>
    { s with reader := .ended, ending := some code }

/-- Queues a reply. A reply that is not accepted ends the session. -/
def reply (w : World) (id : ConnectionId) (reference : Option UInt64)
    (result : Except CommandError ReplyMembers) : World :=
  match w.broker.connection? id with
  | none => w
  | some c =>
    if c.accepts ∨ c.closed then
      w.modifyConnection id fun c => c.send (renderReply reference result)
    else w.endReader id (some .slowConsumer)

def replyWith (w : World) (id : ConnectionId) (reference : Option UInt64)
    (members : Connection → ReplyMembers) : World :=
  match w.broker.connection? id with
  | none => w
  | some c => w.reply id reference (.ok (members c))

def setReader (w : World) (id : ConnectionId) (reader : Reader) : World :=
  w.modifySession id fun s => { s with reader }

/-- Replies to an authentication, and installs the principal if there is one. -/
def finishAuthentication (w : World) (id : ConnectionId) (reference : Option UInt64)
    (result : Except CommandError Principal) : World :=
  let w := w.setReader id .idle
  match result with
  | .ok p => (w.modifyConnection id fun c => c.setPrincipal p).reply id reference (.ok p.reply)
  | .error e => w.reply id reference (.error e)

/-- Goes on with an authentication that has come so far. -/
def settleAuthentication (w : World) (id : ConnectionId) (reference : Option UInt64) :
    Limited (Except CommandError Principal) → World
  | .finished r => w.finishAuthentication id reference (authenticationResult r)
  | .timedOut => w.finishAuthentication id reference (.error .timeout)
  | .waiting lookup => w.countTurn.setReader id (.authenticating reference lookup)

def perform (w : World) (id : ConnectionId) (reference : Option UInt64) : Command → World
  | .authenticate token =>
    match w.broker.connection? id with
    | none => w
    | some c =>
      w.settleAuthentication id reference (.start w.store w.now w.timeLimit w.turns
        (EventGateway.authenticate w.config.jwtSecret token c.caller))
  | .subscribe rooms =>
    match w.broker.subscribe id rooms with
    | .error e => w.reply id reference (.error e)
    | .ok broker => { w with broker }.replyWith id reference Connection.roomsReply
  | .unsubscribe rooms =>
    { w with broker := w.broker.unsubscribe id rooms }.replyWith id reference Connection.roomsReply
  | .status => w.replyWith id reference fun c => c.statusReply w.config.apiVersion
  | .heartbeat =>
    (w.modifySession id fun s =>
      { s with heartbeatDue := w.now + w.config.heartbeatGrace.toNat }).reply id reference (.ok [])

/-- Deals with a text from a client. -/
def receiveText (w : World) (id : ConnectionId) (text : String) : World :=
  match ClientMessage.ofText text with
  | .error fault => w.reply id none (.error (.malformed fault.message))
  | .ok message =>
    match Command.ofMessage message with
    | .error e => w.reply id message.reference (.error e)
    | .ok command => w.perform id message.reference command

/-- Deals with what has arrived from a client. -/
def receive (w : World) (id : ConnectionId) : Arrival → World
  | .text text => w.receiveText id text
  | .other => w
  | .ended => w.endReader id none

/-- Takes the next message of a client, or goes on with an authentication. -/
def read (w : World) (id : ConnectionId) : World :=
  match w.sessions.get? id with
  | none => w
  | some s =>
    match s.reader with
    | .idle =>
      match s.inbox with
      | [] => w
      | arrival :: rest => (w.modifySession id fun s => { s with inbox := rest }).receive id arrival
    | .authenticating reference lookup =>
      if lookup.readyAt ≤ w.now then
        w.settleAuthentication id reference (lookup.advance w.store w.now w.turns)
      else w
    | .ended => w

/-- Ends a session that lacks a heartbeat. -/
def missHeartbeat (w : World) (id : ConnectionId) : World :=
  match (w.sessions.get? id).bind Session.heartbeatReadyAt? with
  | some due => if due ≤ w.now then w.endReader id (some .heartbeatTimeout) else w
  | none => w

end EventGateway.World
