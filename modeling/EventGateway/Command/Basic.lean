import EventGateway.Command.Message
import EventGateway.Room.Payload

/-!
# Commands

What a message asks for, with its data taken apart. A message that asks for nothing known, or whose data
is not what the command needs, fails before anything is done.
-/

namespace EventGateway

/-- What a client asks for. -/
inductive Command where
  | authenticate (token : String)
  | subscribe (rooms : List Room)
  | unsubscribe (rooms : List Room)
  | status
  | heartbeat
  deriving DecidableEq, Repr, Inhabited

namespace Command

def ofMessage (m : ClientMessage) : Except CommandError Command :=
  match Operation.ofText? m.op with
  | none => .error (.unknownCommand m.op)
  | some .auth =>
    match authToken m.data with
    | .ok token => .ok (.authenticate token)
    | .error mismatch => .error (.malformed mismatch.message)
  | some .subscribe => (Room.ofValue m.data).map .subscribe
  | some .unsubscribe => (Room.ofValue m.data).map .unsubscribe
  | some .status => .ok .status
  | some .heartbeat => .ok .heartbeat

end Command

end EventGateway
