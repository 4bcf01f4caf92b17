import EventGateway.Broker.Basic
import EventGateway.Json.Printer

/-!
# HTTP

The answers to requests that do not open a socket. Every answer allows any origin.
-/

namespace EventGateway

open Json

/-- An answer to a request. -/
structure Response where
  status : Nat
  body : String := ""
  /-- The origins that may read the answer. -/
  allowOrigin : String := "*"
  deriving DecidableEq, Repr, Inhabited

/-- What follows the mark of an authority in a target, if its scheme is a whole word. -/
def afterScheme? (target : List Char) : Option (List Char) :=
  match target.dropWhile fun c => c.isAlphanum ∨ c ∈ ['+', '-', '.'] with
  | ':' :: '/' :: '/' :: rest => some rest
  | _ => none

/-- The path of a request's target, which may be a path or a whole URL: without scheme and authority,
query and fragment. -/
def pathOfTarget (target : String) : String :=
  let upToQuery := List.takeWhile fun c => c ≠ '?' ∧ c ≠ '#'
  match afterScheme? target.toList with
  | some rest =>
    let path := upToQuery (rest.dropWhile fun c => c ∉ ['/', '?', '#'])
    if path.isEmpty then "/" else String.ofList path
  | none => String.ofList (upToQuery target.toList)

namespace Response

/-- The state of the service in numbers. -/
def health (b : Broker) : String :=
  (Value.object [
    ("status", .string "ok"),
    ("connections", .ofNat b.connectionCount),
    ("rooms", .ofNat b.roomCount)]).render

/-- What a request to open a socket is told that does not ask for it properly. -/
def noUpgrade : String := "Connection header did not include 'upgrade'"

def ofRequest (b : Broker) (method target : String) : Response :=
  let path := pathOfTarget target
  if method = "OPTIONS" then { status := 200 }
  else if path = "/health" then
    if method = "GET" then { status := 200, body := health b }
    else if method = "HEAD" then { status := 200 }
    else { status := 405 }
  else if path = "/socket" then
    if method = "GET" then { status := 400, body := noUpgrade } else { status := 405 }
  else { status := 404 }

end Response

def isHeaderBlank (c : Char) : Bool := c = ' ' ∨ c = '\t'

/-- The origin that a header carries, without the blanks around it. One with other than visible
characters counts as none. -/
def originOfHeader (value : String) : Option String :=
  let cs := ((value.toList.dropWhile isHeaderBlank).reverse.dropWhile isHeaderBlank).reverse
  if cs.all fun c => isHeaderBlank c ∨ (' ' < c ∧ c ≤ '~') then some (String.ofList cs) else none

end EventGateway
