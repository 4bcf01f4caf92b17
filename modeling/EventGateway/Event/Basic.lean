import EventGateway.Event.Name
import EventGateway.Event.Refs
import EventGateway.Room.Basic

/-!
# Events

An event is a name, its references and a payload. The payload is JSON that is never looked into: it is
kept as the text it is written in, from the publisher to the client. An event travels as an envelope,
which reads back as the same event.
-/

namespace EventGateway

open Json

/-- An event. The payload is the text of one JSON value without blanks around it. -/
structure Event where
  name : EventName
  refs : Refs
  payload : List Char
  deriving DecidableEq, Repr, Inhabited

namespace Event

/-! ### Envelopes -/

/-- The event with a payload given as a text; the text must be JSON. -/
def ofPayload (name : EventName) (refs : Refs) (text : String) : Except TextFault Event :=
  (Json.readText readVerbatim text).map fun payload => ⟨name, refs, payload⟩

def envelope (e : Event) : List Char :=
  '{' :: stringChars "name" ++ ':' :: stringChars e.name.text ++
    ',' :: stringChars "refs" ++ ':' :: e.refs.chars ++
    ',' :: stringChars "payload" ++ ':' :: e.payload ++ ['}']

def wire (e : Event) : String := String.ofList e.envelope

/-- An event some of whose fields have been read. -/
structure Partial where
  name : Option EventName := none
  refs : Option Refs := none
  payload : Option (List Char) := none

/-- How an event is read; it may lack references. -/
def shape : Shape Partial Event where
  expected := "struct Event"
  start := {}
  fields := [
    ⟨"name", (·.name.isSome), fun s cs =>
      (EventName.read cs).map fun p => ({ s with name := some p.1 }, p.2)⟩,
    ⟨"refs", (·.refs.isSome), fun s cs =>
      (Refs.shape.read cs).map fun p => ({ s with refs := some p.1 }, p.2)⟩,
    ⟨"payload", (·.payload.isSome), fun s cs =>
      (readVerbatim cs).map fun p => ({ s with payload := some p.1 }, p.2)⟩]
  finish s :=
    match s.name, s.payload with
    | some name, some payload => .ok ⟨name, s.refs.getD {}, payload⟩
    | none, _ => .error "name"
    | _, none => .error "payload"

/-- Reads an envelope. -/
def ofWire (text : String) : Except TextFault Event :=
  Json.readText shape.read text

/-! ### Routing -/

def timelines (e : Event) : List Room := e.refs.feedIds.map fun id => ⟨.timeline, id⟩

def postRoom (e : Event) : List Room := e.refs.postId.toList.map fun id => ⟨.post, id⟩

def userRoom (e : Event) : List Room := e.refs.userId.toList.map fun id => ⟨.user, id⟩

/-- The rooms whose members are candidates for the event, in routing order. -/
def rooms (e : Event) : List Room :=
  match e.name with
  | .postNew => e.timelines
  | .postUpdate | .postDestroy => e.timelines ++ e.postRoom
  | .postHide | .postUnhide | .postSave | .postUnsave => e.userRoom
  | .commentNew | .commentUpdate | .commentDestroy
  | .likeNew | .likeRemove | .commentLikeNew | .commentLikeRemove => e.postRoom ++ e.timelines
  | .userUpdate | .eventNew => e.userRoom
  | .globalUserUpdate | .groupTimesUpdate => [Room.globalUsers]

end Event

/-! ### Requests to check credentials again -/

/-- A request to check the credentials of everybody, or of one user, again. -/
structure ReauthorizeRequest where
  userId : Option String
  deriving DecidableEq, Repr, Inhabited

namespace ReauthorizeRequest

/-- The written form of a request. -/
def wire (request : ReauthorizeRequest) : String :=
  (Value.object (Refs.optionalMember "userId" request.userId)).render

def shape : Shape (Option (Option String)) ReauthorizeRequest where
  expected := "struct ReauthorizeRequest"
  start := none
  fields := [
    ⟨"userId", Option.isSome, fun _ cs =>
      (readOptional readStringField cs).map fun p => (some p.1, p.2)⟩]
  finish s := .ok ⟨s.getD none⟩

def ofWire (text : String) : Except TextFault ReauthorizeRequest :=
  Json.readText shape.read text

end ReauthorizeRequest

end EventGateway
