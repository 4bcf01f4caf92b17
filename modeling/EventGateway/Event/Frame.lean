import EventGateway.Event.Basic

/-!
# Frames

What the service writes on a socket: an event with its payload, a placeholder for a comment whose
author the viewer bans, the greeting of a new connection and the replies to commands.
-/

namespace EventGateway

open Json

def hideType : String := "HIDDEN_BANNED"

def hiddenBody : String := "Comment from blocked user"

namespace Event

def frame (e : Event) : String :=
  String.ofList <|
    '{' :: stringChars "op" ++ ':' :: stringChars "event" ++
      ',' :: stringChars "t" ++ ':' :: stringChars e.name.text ++
      ',' :: stringChars "d" ++ ':' :: e.payload ++ ['}']

/-- The placeholder of a comment: its ids, and nothing that depends on the payload. -/
def hiddenComment (e : Event) : Value :=
  .object [("comments", .object [
    ("body", .string hiddenBody),
    ("createdBy", .null),
    ("hideType", .string hideType),
    ("id", .ofString? e.refs.commentId),
    ("postId", .ofString? e.refs.postId)])]

def hiddenFrame (e : Event) : String :=
  (Value.object [("d", e.hiddenComment), ("op", .string "event"), ("t", .string e.name.text)]).render

end Event

/-- The greeting of a new connection. -/
def helloFrame (connectionId : String) (heartbeatInterval : Nat) : String :=
  (Value.object [("op", .string "hello"), ("d", .object [
    ("connectionId", .string connectionId),
    ("heartbeatInterval", .ofNat heartbeatInterval)])]).render

/-- The reply to a command, with the number that the command gave. -/
def replyFrame (reference : Option UInt64) (data : Value) : String :=
  (Value.object <| [("op", .string "reply")] ++
    reference.toList.map (fun n => ("ref", .number (.natural n))) ++ [("d", data)]).render

end EventGateway
