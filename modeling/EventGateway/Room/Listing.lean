import EventGateway.Room.Basic

/-!
# Rooms in replies

A reply lists the rooms of a connection by kind: the kinds by name, the ids of each kind in order, and
no kind without rooms.
-/

namespace EventGateway

open Json

def RoomKind.byName : List RoomKind := [.global, .post, .timeline, .user]

def idsOfKind (kind : RoomKind) (rooms : List Room) : List String :=
  (rooms.filter (·.kind = kind)).map (·.id)

def RoomSet.listing (rooms : RoomSet) : Value :=
  .object <| RoomKind.byName.filterMap fun kind =>
    match idsOfKind kind rooms.toList with
    | [] => none
    | ids => some (kind.text, .ofStrings ids)

end EventGateway
