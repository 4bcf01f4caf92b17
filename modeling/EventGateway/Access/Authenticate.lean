import EventGateway.Access.Claims
import EventGateway.Access.Principal
import EventGateway.Command.Error
import EventGateway.Store.Lookup

/-!
# Authentication

From a token to a principal, and from a principal back to the question whether it still stands. The
token only names a credential; the account and the state of an app token are looked up each time.
-/

namespace EventGateway

open Net

/-- Where a connection comes from. -/
structure Caller where
  address : Option Address := none
  origin : Option String := none
  deriving DecidableEq, Repr, Inhabited

def Restrictions.permitsCaller (r : Restrictions) (caller : Caller) : Bool :=
  r.permits caller.address caller.origin

namespace TokenRecord

def refusal? (record : TokenRecord) (issue : Int32) (caller : Caller) : Option CommandError :=
  if !record.isActive ∨ record.issue ≠ issue then some .inactiveToken
  else if !record.scopes.contains .readRealtime then some .insufficientScope
  else if !record.restrictions.permitsCaller caller then some .restrictedToken
  else none

/-- Does the record still admit the token that it once made a principal of? -/
def admits (record : TokenRecord) (token : AppTokenUser) (caller : Caller) : Bool :=
  record.isActive && record.issue = token.issue && record.userId = token.userId &&
    record.restrictions.permitsCaller caller

end TokenRecord

def ifActive (userId : String) (principal : Principal) : Lookup (Except CommandError Principal) := do
  if ← .query (.userIsActive userId) then .done (.ok principal)
  else .done (.error .inactiveToken)

def Claims.authenticate (caller : Caller) : Claims → Lookup (Except CommandError Principal)
  | .session userId => ifActive userId (.session userId)
  | .appToken tokenId issue userId => do
    match ← .query (.appToken tokenId) with
    | none => .done (.error .invalidToken)
    | some record =>
      if record.userId ≠ userId then .done (.error .invalidToken)
      else
        match record.refusal? issue caller with
        | some e => .done (.error e)
        | none => ifActive userId <| .appToken {
            userId, tokenId, issue, scopes := record.scopes, restrictions := record.restrictions }

def authenticate (secret token : String) (caller : Caller) : Lookup (Except CommandError Principal) :=
  match Claims.decode? secret token with
  | none => .done (.error .invalidToken)
  | some claims => claims.authenticate caller

def Principal.stillValid (caller : Caller) : Principal → Lookup Bool
  | .anonymous => .done true
  | .session userId => .query (.userIsActive userId)
  | .appToken token => do
    match ← .query (.appToken token.tokenId) with
    | none => .done false
    | some record =>
      if record.admits token caller then .query (.userIsActive token.userId) else .done false

/-- What an authentication comes to: lookups that failed make the service unavailable. -/
def authenticationResult :
    Except ServiceError (Except CommandError Principal) → Except CommandError Principal
  | .ok result => result
  | .error _ => .error .unavailable

end EventGateway
