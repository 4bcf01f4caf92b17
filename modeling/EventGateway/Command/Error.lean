/-!
# Failures of commands

Why a command of a client failed. The wording reaches the client and tells nothing about whether
something private exists.
-/

namespace EventGateway

/-- A failure of a command. -/
inductive CommandError where
  | malformed (detail : String)
  | unknownCommand (op : String)
  | unknownRoomKind (kind : String)
  | invalidRoom (room : String)
  | invalidToken
  | inactiveToken
  | restrictedToken
  | insufficientScope
  | forbidden
  | timeout
  | unavailable
  deriving DecidableEq, Repr, Inhabited

/-- The wording that the client sees. -/
def CommandError.message : CommandError → String
  | .malformed detail => "Malformed command: " ++ detail
  | .unknownCommand op => "Unknown command: " ++ op
  | .unknownRoomKind kind => "Unknown room kind: " ++ kind
  | .invalidRoom room => "Invalid room: " ++ room
  | .invalidToken => "Invalid token"
  | .inactiveToken => "Token is not active"
  | .restrictedToken => "Token is not allowed from this address or origin"
  | .insufficientScope => "Insufficient scope"
  | .forbidden => "Access denied"
  | .timeout => "Authentication timed out"
  | .unavailable => "Service temporarily unavailable"

end EventGateway
