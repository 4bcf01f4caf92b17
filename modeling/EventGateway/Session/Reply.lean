import EventGateway.Json.Decode
import EventGateway.Room.Listing
import EventGateway.Session.Connection

/-!
# What replies tell

The members that the reply to a successful command has, taken from the state of the connection.
-/

namespace EventGateway

open Json

/-- The data of a reply, without the mark of success. -/
abbrev ReplyMembers := List (String × Value)

def Principal.reply (p : Principal) : ReplyMembers := [("userId", .ofString? p.userId)]

namespace Connection

def roomsReply (c : Connection) : ReplyMembers := [("rooms", c.rooms.listing)]

def statusReply (c : Connection) (apiVersion : UInt32) : ReplyMembers := [
  ("apiVersion", .ofNat apiVersion.toNat),
  ("rooms", c.rooms.listing),
  ("userId", .ofString? c.principal.userId)]

end Connection

end EventGateway
