import EventGateway.Command.Error
import EventGateway.Event.Frame
import EventGateway.Json.Decode
import EventGateway.Json.Embedded

/-!
# Messages of clients

A client sends a command as an operation, a number to find the reply by, and data. Every command is
answered with a reply that says whether it succeeded.
-/

namespace EventGateway

open Json

/-- A command as a client sends it. -/
structure ClientMessage where
  op : String
  reference : Option UInt64 := none
  data : Value := .null
  deriving Repr, Inhabited

namespace ClientMessage

/-- A message some of whose fields have been read. -/
structure Partial where
  op : Option String := none
  reference : Option (Option UInt64) := none
  data : Option Value := none

/-- How a message is read; all but the operation has a default. -/
def shape : Shape Partial ClientMessage where
  expected := "struct ClientMessage"
  start := {}
  fields := [
    ⟨"op", (·.op.isSome), fun s cs =>
      (readStringField cs).map fun p => ({ s with op := some p.1 }, p.2)⟩,
    ⟨"ref", (·.reference.isSome), fun s cs =>
      (readOptional readNaturalField cs).map fun p => ({ s with reference := some p.1 }, p.2)⟩,
    ⟨"d", (·.data.isSome), fun s cs =>
      (readExpanded (nestingLimit - 2) cs).map fun p => ({ s with data := some p.1 }, p.2)⟩]
  finish s :=
    match s.op with
    | some op => .ok ⟨op, s.reference.getD none, s.data.getD .null⟩
    | none => .error "op"

def ofText (text : String) : Except TextFault ClientMessage :=
  Json.readText shape.read text

end ClientMessage

/-! ### Operations -/

/-- What a client can ask for. -/
inductive Operation where
  | auth
  | subscribe
  | unsubscribe
  | status
  | heartbeat
  deriving DecidableEq, Repr, Inhabited

namespace Operation

def all : List Operation := [.auth, .subscribe, .unsubscribe, .status, .heartbeat]

def text : Operation → String
  | .auth => "auth"
  | .subscribe => "subscribe"
  | .unsubscribe => "unsubscribe"
  | .status => "status"
  | .heartbeat => "heartbeat"

/-- The operation of a written name. -/
def ofText? (s : String) : Option Operation :=
  all.find? (·.text == s)

end Operation

/-! ### Data of an authentication -/

/-- The token in the data of an authentication, given as an object or as an array of one item. -/
def authToken : Value → Except Mismatch String
  | .object members =>
    match members.lookup "authToken" with
    | some v => v.asString
    | none => .error (.missingField "authToken")
  | .array [] => .error (.wrongLength 0 "struct AuthPayload with 1 element")
  | .array (v :: rest) => do
    let token ← v.asString
    if rest.isEmpty then .ok token else .error (tooLong (rest.length + 1))
  | v => .error (.wrongType v.found "struct AuthPayload")

/-! ### Replies -/

/-- The data of a reply: what the command gave, or why it failed. -/
def replyData : Except CommandError (List (String × Value)) → Value
  | .ok data => .object (insertMember "success" (.bool true) data)
  | .error e => .object [("message", .string e.message), ("success", .bool false)]

/-- The reply to a command that gave a result. -/
def renderReply (reference : Option UInt64)
    (result : Except CommandError (List (String × Value))) : String :=
  replyFrame reference (replyData result)

end EventGateway
