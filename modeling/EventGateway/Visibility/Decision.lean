import EventGateway.Access.Principal
import EventGateway.Event.Frame
import EventGateway.Store.Basic

/-!
# Decisions

May a viewer observe an event? Every decision is made from the current principal and what the store
holds now: a viewer observes of an event what a look at the post or comment itself would show. A lookup
that fails or takes too long denies.
-/

namespace EventGateway

/-- What a viewer gets of an event. -/
inductive Decision where
  | allow
  /-- The placeholder of a hidden comment instead of the payload. -/
  | allowRedacted
  | deny
  deriving DecidableEq, Repr, Inhabited

/-- All of the event or nothing. -/
def Decision.allowIf (visible : Bool) : Decision := if visible then .allow else .deny

/-! ### Feeds -/

/-- May only members of the feed's owner read it? -/
def FeedAccess.membersOnly (feed : FeedAccess) : Bool :=
  feed.isPrivate || (feed.ownerIsGroup && feed.isRestricted)

/-- How a feed stands to a viewer before subscriptions are looked up. -/
inductive FeedStanding where
  | opened
  | closed
  /-- Open if the viewer is subscribed to the owner. -/
  | needsSubscription
  deriving DecidableEq, Repr, Inhabited

def FeedAccess.standing (feed : FeedAccess) (viewer : Option String) : FeedStanding :=
  if viewer = some feed.ownerId then .opened
  else if feed.kind = .directs then .closed
  else if feed.membersOnly then if viewer.isSome then .needsSubscription else .closed
  else if feed.isProtected then if viewer.isSome then .opened else .closed
  else .opened

/-- The owners among whom a subscription would open one of the feeds, each once. -/
def deferredOwners (feeds : List FeedAccess) (viewer : Option String) : List String :=
  feeds.foldl (fun owners feed =>
    if feed.standing viewer = .needsSubscription ∧ feed.ownerId ∉ owners then owners ++ [feed.ownerId]
    else owners) []

/-- Is one of the feeds open to the viewer? Subscriptions are looked up only if they matter. -/
def someFeedOpen (feeds : List FeedAccess) (viewer : Option String) : Lookup Bool :=
  if feeds.any (·.standing viewer = .opened) then .done true
  else
    match viewer, deferredOwners feeds viewer with
    | some v, owner :: owners => do
      let subscribed ← .query (.subscribedTo v (owner :: owners))
      .done (!subscribed.isEmpty)
    | _, _ => .done false

/-! ### Posts -/

/-- May the viewer read what the author wrote into the feeds? Nobody is kept from reading what they
wrote themselves, and a ban in either direction closes what is open. -/
def readable (author : Option String) (feeds : List FeedAccess) (viewer : Option String) :
    Lookup Bool :=
  if viewer.isSome ∧ viewer = author then .done true
  else do
    if ← someFeedOpen feeds viewer then
      match viewer, author with
      | some v, some a => do
        let bans ← .query (.banRelation v a)
        .done (!bans.any)
      | _, _ => .done true
    else .done false

def postVisible (postId : Option String) (viewer : Option String) : Lookup Bool :=
  match postId with
  | none => .done false
  | some id => do
    match ← .query (.postAccess id) with
    | none => .done false
    | some post => readable (some post.authorId) post.destinations viewer

/-- Might the viewer see a post that is gone? The event tells its author and feeds. -/
def destroyedPostVisible (refs : Refs) (viewer : Option String) : Lookup Bool := do
  let feeds ← .query (.feedAccess refs.feedIds)
  readable refs.actorId feeds viewer

/-! ### Events -/

/-- Is the event about the viewer, who has to be somebody? -/
def concernsViewer (refs : Refs) (viewer : Option String) : Bool :=
  viewer.isSome && viewer = refs.userId

/-- What the viewer gets of a comment on a post that is visible to them. -/
def commentDecision (name : EventName) (actor viewer : Option String) : Lookup Decision :=
  match viewer, actor with
  | some v, some a =>
    if v = a ∨ name = .commentDestroy then .done .allow
    else do
      let bans ← .query (.banRelation v a)
      if bans.viewerBans then
        if ← .query (.hidesBannedComments v) then .done .deny else .done .allowRedacted
      else .done .allow
  | _, _ => .done .allow

/-- What the viewer gets of a like on something visible to them. -/
def likeDecision (actor viewer : Option String) : Lookup Decision :=
  match viewer, actor with
  | some v, some a =>
    if v = a then .done .allow
    else do
      let bans ← .query (.banRelation v a)
      .done (.allowIf !bans.viewerBans)
  | _, _ => .done .allow

def Event.decision (e : Event) (viewer : Option String) : Lookup Decision :=
  match e.name.eventClass with
  | .post => do
    let visible ← if e.name = .postDestroy then destroyedPostVisible e.refs viewer
      else postVisible e.refs.postId viewer
    .done (.allowIf visible)
  | .personalPost =>
    if concernsViewer e.refs viewer then do
      let visible ← postVisible e.refs.postId viewer
      .done (.allowIf visible)
    else .done .deny
  | .comment => do
    if ← postVisible e.refs.postId viewer then commentDecision e.name e.refs.actorId viewer
    else .done .deny
  | .like => do
    if ← postVisible e.refs.postId viewer then likeDecision e.refs.actorId viewer
    else .done .deny
  | .user | .notification => .done (.allowIf (concernsViewer e.refs viewer))
  | .global => .done .allow

/-- What is decided when the lookup has come to a result: failures deny. -/
def decisionResult : Except ServiceError Decision → Decision
  | .ok decision => decision
  | .error _ => .deny

/-- What a principal gets of an event, and how long it takes to decide. -/
def decideWithin (timeout : Nat) (s : Store) (e : Event) (p : Principal) : Timed Decision :=
  let t := ((e.decision p.userId).run s).within timeout
  ⟨(t.result.map decisionResult).getD .deny, t.elapsed⟩

/-- What is written for a decision: the payload, the placeholder or nothing. Only comments have a
placeholder. -/
def Event.delivered (e : Event) : Decision → Option String
  | .allow => some e.frame
  | .allowRedacted => if e.name.eventClass = .comment then some e.hiddenFrame else none
  | .deny => none

end EventGateway
