import EventGateway.Json.Record

/-!
# Event names

The closed catalog of events. A name is also the channel that its events are published on, and it
tells how an event is routed and who may observe it.
-/

namespace EventGateway

/-- The events there are. -/
inductive EventName where
  | postNew
  | postUpdate
  | postDestroy
  | postHide
  | postUnhide
  | postSave
  | postUnsave
  | commentNew
  | commentUpdate
  | commentDestroy
  | likeNew
  | likeRemove
  | commentLikeNew
  | commentLikeRemove
  | userUpdate
  | globalUserUpdate
  | groupTimesUpdate
  | eventNew
  deriving DecidableEq, Repr, Inhabited

/-- Who may observe an event. -/
inductive EventClass where
  /-- Whoever may see the post. -/
  | post
  /-- The acting user, if the post is visible. -/
  | personalPost
  /-- Whoever may see the post, less what the viewer's bans hide. -/
  | comment
  /-- Whoever may see the post and does not ban the actor. -/
  | like
  /-- The user whose profile changed. -/
  | user
  /-- Everybody. -/
  | global
  /-- The recipient. -/
  | notification
  deriving DecidableEq, Repr

namespace EventName

/-- All names, in the order of the catalog. -/
def all : List EventName := [
  .postNew, .postUpdate, .postDestroy, .postHide, .postUnhide, .postSave, .postUnsave,
  .commentNew, .commentUpdate, .commentDestroy, .likeNew, .likeRemove, .commentLikeNew,
  .commentLikeRemove, .userUpdate, .globalUserUpdate, .groupTimesUpdate, .eventNew]

def text : EventName → String
  | .postNew => "post:new"
  | .postUpdate => "post:update"
  | .postDestroy => "post:destroy"
  | .postHide => "post:hide"
  | .postUnhide => "post:unhide"
  | .postSave => "post:save"
  | .postUnsave => "post:unsave"
  | .commentNew => "comment:new"
  | .commentUpdate => "comment:update"
  | .commentDestroy => "comment:destroy"
  | .likeNew => "like:new"
  | .likeRemove => "like:remove"
  | .commentLikeNew => "comment_like:new"
  | .commentLikeRemove => "comment_like:remove"
  | .userUpdate => "user:update"
  | .globalUserUpdate => "global:user:update"
  | .groupTimesUpdate => "group:times:update"
  | .eventNew => "event:new"

def channel (name : EventName) : String := name.text

def eventClass : EventName → EventClass
  | .postNew | .postUpdate | .postDestroy => .post
  | .postHide | .postUnhide | .postSave | .postUnsave => .personalPost
  | .commentNew | .commentUpdate | .commentDestroy => .comment
  | .likeNew | .likeRemove | .commentLikeNew | .commentLikeRemove => .like
  | .userUpdate => .user
  | .globalUserUpdate | .groupTimesUpdate => .global
  | .eventNew => .notification

def ofText? (s : String) : Option EventName :=
  all.find? (·.text == s)

/-- The message about a text that names no event. -/
def unknownMessage (s : String) : String :=
  "unknown event name " ++ Text.quoted s

theorem mem_all (name : EventName) : name ∈ all := by
  cases name <;> decide

theorem ofText?_text (name : EventName) : ofText? name.text = some name := by
  cases name <;> decide

end EventName

/-- The channel of requests to check credentials again. -/
def reauthorizeChannel : String := ":reauthorize"

/-- Every channel that a broker listens on. -/
def channels : List String :=
  EventName.all.map EventName.channel ++ [reauthorizeChannel]

namespace EventName

open Json

def notAName (s : String) : Mismatch :=
  .wrongValue (.string s) "an event name"

def readText : Reader EventName := placed fun cs => do
  let (s, cs) ← readStringField cs
  match ofText? s with
  | some name => .ok (name, cs)
  | none => .error (.loose (notAName s) cs)

/-- Reads a name from a text, or from an object with the name as its only key and null below it. -/
def read : Reader EventName := fun cs =>
  match skipBlanks cs with
  | '{' :: rest => do
    let (name, cs) ← readText rest
    let cs ← readColon cs
    match skipBlanks cs with
    | 'n' :: rest =>
      let cs ← readWord ['u', 'l', 'l'] rest
      match skipBlanks cs with
      | '}' :: rest => .ok (name, rest)
      | [] => .error (.here .endInObject [])
      | cs => .error (.here .expectedValue cs)
    | cs => readWrong "unit" cs
  | '"' :: rest => readText ('"' :: rest)
  | cs => .error (.next (if cs.isEmpty then .endInValue else .expectedValue) cs)

end EventName

end EventGateway
