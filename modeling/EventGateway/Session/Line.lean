import EventGateway.Session.Basic

/-!
# Lines

A connection together with its session. A writer takes the entries of the outbound queue one after the
other and writes what they came to, waiting for each to be decided. When the reader has ended, the
writer writes nothing more than the reason.
-/

namespace EventGateway

/-- A connection and its session. -/
structure Line where
  session : Session
  connection : Connection
  deriving Inhabited

namespace Line

def modifySession (l : Line) (f : Session → Session) : Line := { l with session := f l.session }

def modifyConnection (l : Line) (f : Connection → Connection) : Line :=
  { l with connection := f l.connection }

/-- Changes the outbound queue. -/
def modifyOutbound (l : Line) (f : Outbound → Outbound) : Line :=
  l.modifyConnection fun c => { c with outbound := f c.outbound }

def endWriter (l : Line) : Line :=
  (l.modifySession fun s => { s with writing := false }).modifyOutbound Outbound.dropReceiver

/-- Writes something to the client, if it is there. -/
def emit (l : Line) (output : Output) : Line :=
  l.modifySession fun s => if s.present then { s with written := s.written ++ [output] } else s

/-- Writes the entry in hand, once it is decided. A client that is gone ends the writer. -/
def writeHeld (l : Line) (e : Entry) : Line :=
  match e.outcome? with
  | none => l
  | some none => l.modifyOutbound Outbound.release
  | some (some text) =>
    if l.session.present then (l.modifyOutbound Outbound.release).emit (.frame e.slot? text)
    else l.endWriter

/-- Takes the next entry in hand, unless there is one, and writes it. -/
def writeNext (l : Line) : Line :=
  match l.connection.outbound.take.held with
  | none => l
  | some e => (l.modifyOutbound Outbound.take).writeHeld e

/-- One step of the writer. Once the reader has ended nothing is written but the reason, if the service
gives one. -/
def write (l : Line) : Line :=
  if l.session.writing then
    match l.session.ending with
    | some (some code) => (l.emit (.close code)).endWriter
    | some none => l.endWriter
    | none => l.writeNext
  else l

def writerReadyAt? (l : Line) : Option Nat :=
  if !l.session.writing then none
  else if l.session.ending.isSome then some 0
  else
    match l.connection.outbound.held with
    | some e => if e.outcome?.isSome then some 0 else none
    | none => if l.connection.outbound.queue.isEmpty then none else some 0

end Line

end EventGateway
