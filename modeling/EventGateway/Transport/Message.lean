import EventGateway.Event.Basic

/-!
# Messages between services

A message is a text on a channel. On the channel of an event it holds the envelope of such an event, on
the control channel a request to check credentials again. Anything else is dropped where it arrives.
-/

namespace EventGateway

/-- A text on a channel. -/
structure Message where
  channel : String
  body : String
  deriving DecidableEq, Repr, Inhabited

namespace Message

def ofEvent (e : Event) : Message := ⟨e.name.channel, e.wire⟩

def ofRequest (request : ReauthorizeRequest) : Message := ⟨reauthorizeChannel, request.wire⟩

def event? (m : Message) : Option Event :=
  match Event.ofWire m.body with
  | .ok e => if e.name.channel = m.channel then some e else none
  | .error _ => none

def request? (m : Message) : Option ReauthorizeRequest :=
  (ReauthorizeRequest.ofWire m.body).toOption

/-- Is the message meant to be a request to check credentials again? -/
def isControl (m : Message) : Bool := m.channel = reauthorizeChannel

end Message

end EventGateway
