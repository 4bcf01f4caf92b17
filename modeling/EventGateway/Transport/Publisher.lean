import EventGateway.Transport.Message

/-!
# Publishing

What is sent for a change that has already been made. Nothing here fails for the publisher: an event
whose payload is not JSON is dropped. A name that no event has is a mistake of the program, which a
strict publisher stops at.
-/

namespace EventGateway.Publisher

def publish (name : EventName) (refs : Refs) (payload : String) : Option Message :=
  ((Event.ofPayload name refs payload).toOption).map .ofEvent

/-- The message of an event whose name is a text. A strict publisher fails on names of no event. -/
def publishNamed (strict : Bool) (name : String) (refs : Refs) (payload : String) :
    Except String (Option Message) :=
  match EventName.ofText? name with
  | some name => .ok (publish name refs payload)
  | none => if strict then .error (EventName.unknownMessage name) else .ok none

/-- The message that asks for everybody's, or one user's, credentials to be checked again. -/
def requestReauthorization (userId : Option String) : Message := .ofRequest ⟨userId⟩

end EventGateway.Publisher
