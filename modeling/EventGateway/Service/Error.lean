import EventGateway.Json.Printer

/-!
# Failures of the service

What a lookup or a request may fail with. A failure has a code and a status, and it is reported to
HTTP clients as an object. Clients of sockets never see its message.
-/

namespace EventGateway

open Json

/-- A failure of the service. -/
inductive ServiceError where
  | unavailable (message : String)
  | internal (message : String)
  deriving DecidableEq, Repr, Inhabited

namespace ServiceError

def code : ServiceError → String
  | .unavailable _ => "UNAVAILABLE"
  | .internal _ => "INTERNAL_ERROR"

/-- The HTTP status of the failure. -/
def status : ServiceError → Nat
  | .unavailable _ => 503
  | .internal _ => 500

/-- What is said about the failure. -/
def message : ServiceError → String
  | .unavailable message => message
  | .internal message => message

def text (e : ServiceError) : String := e.code ++ ": " ++ e.message

/-- The body of the response that reports the failure. -/
def body (e : ServiceError) : String :=
  (Value.object [("error", .object [
    ("code", .string e.code), ("message", .string e.message)])]).render

/-- The data layer cannot be reached. -/
def storeUnavailable : ServiceError := .unavailable "Database unavailable"

end ServiceError

/-- A failure of the database itself. -/
inductive DatabaseFault where
  | notFound
  | rolledBack
  deriving DecidableEq, Repr, Inhabited

/-- No failure of the database itself is told to clients. -/
def DatabaseFault.toServiceError (_ : DatabaseFault) : ServiceError :=
  .internal "An internal error occurred"

end EventGateway
