import EventGateway.Command.Message
import EventGateway.Data.Checked
import EventGateway.Session.Connection
import EventGateway.Store.Limited
import EventGateway.Visibility.Decision

/-!
# Sessions

The two ends of a connection: what has arrived from the client and how far it has been dealt with, and
what has been written to the client. A reader takes one message after the other, a writer empties the
outbound queue, and the deliveries decide the slots of events independently of both.
-/

namespace EventGateway

/-- Why the service ends a session. -/
inductive CloseCode where
  /-- The client sent no heartbeat in time. -/
  | heartbeatTimeout
  /-- A reply did not fit into the outbound queue. -/
  | slowConsumer
  deriving DecidableEq, Repr, Inhabited

namespace CloseCode

def number : CloseCode → Nat
  | .heartbeatTimeout => 4009
  | .slowConsumer => 4008

def reason : CloseCode → String
  | .heartbeatTimeout => "Heartbeat timeout"
  | .slowConsumer => "Outbound queue full"

end CloseCode

/-- What arrives from a client. -/
inductive Arrival where
  | text (text : String)
  /-- A frame that is neither text nor the end. -/
  | other
  /-- The client closed the socket, or it broke. -/
  | ended
  deriving DecidableEq, Repr, Inhabited

/-- What is written to a client. -/
inductive Output where
  /-- A frame, of the slot it was decided in if it is of an event. -/
  | frame (slot : Option Nat) (text : String)
  | close (code : CloseCode)
  deriving DecidableEq, Repr, Inhabited

/-- What the reader of a session is doing. -/
inductive Reader where
  | idle
  /-- A token is being looked up. -/
  | authenticating (reference : Option UInt64) (lookup : Awaited (Except CommandError Principal))
  | ended
  deriving Inhabited

/-- How far the decision about a delivery has come. -/
inductive Stage where
  | queued
  | deciding (principal : Principal) (lookup : Awaited Decision)
  | decided (principal : Principal) (decision : Decision)
  deriving Inhabited

/-- The delivery of an event in a slot. -/
structure Delivery where
  event : Event
  stage : Stage := .queued
  deriving Inhabited

/-- The two ends of a connection. -/
structure Session where
  /-- What has arrived and has not been dealt with. -/
  inbox : List Arrival := []
  reader : Reader := .idle
  /-- The session ends when no heartbeat has arrived by then. -/
  heartbeatDue : Nat
  /-- The deliveries, by the numbers of their slots. -/
  deliveries : List Delivery := []
  /-- How the reader ended, if it did. -/
  ending : Option (Option CloseCode) := none
  /-- Is the writer at work? -/
  writing : Bool := true
  /-- Is the client there to write to? -/
  present : Bool := true
  /-- What has been written. -/
  written : List Output := []
  deriving Inhabited

namespace Stage

/-- When there is something to do about the delivery. -/
def readyAt? : Stage → Option Nat
  | .queued => some 0
  | .deciding _ lookup => some lookup.readyAt
  | .decided _ _ => none

end Stage

namespace Session

/-- The session of a connection that is opened now, whose client may go without a heartbeat for the grace.
If there is no telling the grace, the reader stops before the first message. Then the writer has nothing
to wait for and stops before the first frame, and nobody takes the connection from the registry. -/
def opened (grace : Except Overflow UInt64) (now : Nat) : Session :=
  match grace with
  | .ok grace => { heartbeatDue := now + grace.toNat }
  | .error _ => { heartbeatDue := now, reader := .ended, ending := some none }

section Opened

variable (grace : Except Overflow UInt64) (now : Nat)

@[simp] theorem inbox_opened : (opened grace now).inbox = [] := by cases grace <;> rfl

@[simp] theorem deliveries_opened : (opened grace now).deliveries = [] := by cases grace <;> rfl

@[simp] theorem written_opened : (opened grace now).written = [] := by cases grace <;> rfl

@[simp] theorem writing_opened : (opened grace now).writing = true := by cases grace <;> rfl

theorem ending_opened_ne (code : CloseCode) : (opened grace now).ending ≠ some (some code) := by
  cases grace <;> simp [opened]

/-- Whatever the grace, a new session waits for no lookup. -/
theorem reader_opened : (opened grace now).reader = .idle ∨ (opened grace now).reader = .ended := by
  cases grace with
  | ok _ => exact .inl rfl
  | error _ => exact .inr rfl

end Opened

def closedByService (s : Session) : Bool :=
  s.written.any fun
    | .close _ => true
    | .frame _ _ => false

/-- When the reader has something to do other than waiting for a heartbeat. -/
def readerReadyAt? (s : Session) : Option Nat :=
  match s.reader with
  | .idle => if s.inbox.isEmpty then none else some 0
  | .authenticating _ lookup => some lookup.readyAt
  | .ended => none

/-- When a missing heartbeat ends the session. A reader that is busy does not look at the time. -/
def heartbeatReadyAt? (s : Session) : Option Nat :=
  match s.reader with
  | .idle => some s.heartbeatDue
  | _ => none

end Session

end EventGateway
