import EventGateway.Json.Record

/-!
# References of an event

The ids that routing and authorization need, so that nobody has to look into the payload.
-/

namespace EventGateway

open Json

/-- What an event is about. -/
structure Refs where
  postId : Option String := none
  commentId : Option String := none
  /-- The profile's owner, the recipient of a notification, or who hid or saved a post. -/
  userId : Option String := none
  /-- The feeds that the post is or was in. -/
  feedIds : List String := []
  /-- The author of the post, comment or like. -/
  actorId : Option String := none
  deriving DecidableEq, Repr, Inhabited

namespace Refs

def optionalMember (key : String) (s : Option String) : List (String × Value) :=
  s.toList.map fun s => (key, .string s)

/-- The members of the written form; what is absent is left out. -/
def members (refs : Refs) : List (String × Value) :=
  optionalMember "postId" refs.postId ++ optionalMember "commentId" refs.commentId ++
    optionalMember "userId" refs.userId ++
    (if refs.feedIds.isEmpty then [] else [("feedIds", .ofStrings refs.feedIds)]) ++
    optionalMember "actorId" refs.actorId

/-- The written form. -/
def chars (refs : Refs) : List Char :=
  (Value.object refs.members).chars

/-- References some of whose fields have been read. -/
structure Partial where
  postId : Option (Option String) := none
  commentId : Option (Option String) := none
  userId : Option (Option String) := none
  feedIds : Option (List String) := none
  actorId : Option (Option String) := none

/-- How references are read; every field has a default. -/
def shape : Shape Partial Refs where
  expected := "struct TargetRefs"
  start := {}
  fields := [
    ⟨"postId", (·.postId.isSome), fun s cs =>
      (readOptional readStringField cs).map fun p => ({ s with postId := some p.1 }, p.2)⟩,
    ⟨"commentId", (·.commentId.isSome), fun s cs =>
      (readOptional readStringField cs).map fun p => ({ s with commentId := some p.1 }, p.2)⟩,
    ⟨"userId", (·.userId.isSome), fun s cs =>
      (readOptional readStringField cs).map fun p => ({ s with userId := some p.1 }, p.2)⟩,
    ⟨"feedIds", (·.feedIds.isSome), fun s cs =>
      (readStringsField cs).map fun p => ({ s with feedIds := some p.1 }, p.2)⟩,
    ⟨"actorId", (·.actorId.isSome), fun s cs =>
      (readOptional readStringField cs).map fun p => ({ s with actorId := some p.1 }, p.2)⟩]
  finish s := .ok {
    postId := s.postId.getD none
    commentId := s.commentId.getD none
    userId := s.userId.getD none
    feedIds := s.feedIds.getD []
    actorId := s.actorId.getD none }

end Refs

end EventGateway
