import EventGateway.Access.Restrictions
import EventGateway.Access.Scope

/-!
# Principals

Who acts on a connection: nobody in particular, a user by a session, or a user by an app token.
-/

namespace EventGateway

/-- An app token as it was found when it was presented. -/
structure AppTokenUser where
  userId : String
  tokenId : String
  /-- The issue that was presented; a later one supersedes it. -/
  issue : Int32
  scopes : ScopeSet
  restrictions : Restrictions
  deriving DecidableEq, Repr, Inhabited

/-- Who acts on a connection. -/
inductive Principal where
  | anonymous
  | session (userId : String)
  | appToken (token : AppTokenUser)
  deriving DecidableEq, Repr, Inhabited

namespace Principal

def userId : Principal → Option String
  | .anonymous => none
  | .session userId => some userId
  | .appToken token => some token.userId

/-- Does nobody in particular act? -/
def isAnonymous : Principal → Bool
  | .anonymous => true
  | _ => false

@[simp] theorem userId_anonymous : anonymous.userId = none := rfl

@[simp] theorem userId_session (u : String) : (session u).userId = some u := rfl

@[simp] theorem userId_appToken (t : AppTokenUser) : (appToken t).userId = some t.userId := rfl

end Principal

end EventGateway
