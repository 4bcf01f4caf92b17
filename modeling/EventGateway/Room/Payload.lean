import EventGateway.Command.Error
import EventGateway.Json.Decode
import EventGateway.Room.Basic

/-!
# Rooms in commands

A command names rooms by lists of ids, one list for each kind, as an object or as an array of the lists
in the order of the kinds. No id may be empty, and `users` is the only global one.
-/

namespace EventGateway

open Json

/-- The lists of ids that a command gives. -/
structure RoomLists where
  timeline : List String := []
  post : List String := []
  user : List String := []
  global : List String := []
  deriving DecidableEq, Repr, Inhabited

namespace RoomLists

/-- What a command is expected to give. -/
def expected : String := "struct RoomsPayload"

def ids (lists : RoomLists) : RoomKind → List String
  | .timeline => lists.timeline
  | .post => lists.post
  | .user => lists.user
  | .global => lists.global

def set (lists : RoomLists) (kind : RoomKind) (ids : List String) : RoomLists :=
  match kind with
  | .timeline => { lists with timeline := ids }
  | .post => { lists with post := ids }
  | .user => { lists with user := ids }
  | .global => { lists with global := ids }

/-- Takes the lists from the members of an object, in their order. -/
def ofMembers (lists : RoomLists) : List (String × Value) → Except Mismatch RoomLists
  | [] => .ok lists
  | (key, v) :: members =>
    match RoomKind.ofText? key with
    | none => .error (.unknownField key (RoomKind.all.map RoomKind.text))
    | some kind => do
      let ids ← v.asStrings
      (lists.set kind ids).ofMembers members

/-- Takes the lists of the given kinds from the items of an array. Fewer items leave lists empty. -/
def ofItems (lists : RoomLists) : List RoomKind → List Value → Except Mismatch RoomLists
  | kind :: kinds, v :: items => do
    let ids ← v.asStrings
    (lists.set kind ids).ofItems kinds items
  | _, _ => .ok lists

def ofValue : Value → Except Mismatch RoomLists
  | .object members => ({} : RoomLists).ofMembers members
  | .array items => do
    let lists ← ({} : RoomLists).ofItems RoomKind.all items
    if items.length ≤ RoomKind.all.length then .ok lists else .error (tooLong items.length)
  | v => .error (.wrongType v.found expected)

end RoomLists

namespace Room

def ofId (kind : RoomKind) (id : String) : Except CommandError Room :=
  if id.isEmpty ∨ (kind = .global ∧ id ≠ globalUsersId) then .error (.invalidRoom (text ⟨kind, id⟩))
  else .ok ⟨kind, id⟩

def ofLists (lists : RoomLists) : Except CommandError (List Room) := do
  let rooms ← RoomKind.all.mapM fun kind => (lists.ids kind).mapM (ofId kind)
  .ok rooms.flatten

/-- The first key of an object that is no kind of room. -/
def unknownKind? : Value → Option String
  | .object members => (members.map Prod.fst).find? fun key => (RoomKind.ofText? key).isNone
  | _ => none

def ofValue (data : Value) : Except CommandError (List Room) :=
  match unknownKind? data with
  | some kind => .error (.unknownRoomKind kind)
  | none =>
    match RoomLists.ofValue data with
    | .error mismatch => .error (.malformed mismatch.message)
    | .ok lists => ofLists lists

end Room

end EventGateway
