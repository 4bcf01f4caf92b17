import EventGateway.Access.Principal
import EventGateway.Command.Error
import EventGateway.Room.Basic

/-!
# Who may join a room

An app token needs the right to follow events at all, and the room of a user is that user's own.
-/

namespace EventGateway.Principal

/-- May the principal follow events? -/
def canSubscribe : Principal → Bool
  | .appToken token => token.scopes.contains .readRealtime
  | _ => true

def refusal? (p : Principal) (room : Room) : Option CommandError :=
  if !p.canSubscribe then some .insufficientScope
  else if room.kind = .user ∧ p.userId ≠ some room.id then some .forbidden
  else none

end EventGateway.Principal
