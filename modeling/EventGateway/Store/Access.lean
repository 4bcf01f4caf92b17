import EventGateway.Access.Restrictions
import EventGateway.Access.Scope

/-!
# What the data layer tells

The answers to lookups: the privacy of feeds, the feeds of posts, bans between users and the current
state of app tokens.
-/

namespace EventGateway

/-- What a feed holds. -/
inductive FeedKind where
  | posts
  /-- Direct messages, which only the owner of the feed may read. -/
  | directs
  | other
  deriving DecidableEq, Repr, Inhabited

def FeedKind.ofName (name : String) : FeedKind :=
  if name = "Posts" then .posts else if name = "Directs" then .directs else .other

/-- A feed with the privacy of the user or group that owns it. -/
structure FeedAccess where
  id : String
  ownerId : String
  kind : FeedKind
  ownerIsGroup : Bool
  isPrivate : Bool
  isProtected : Bool
  isRestricted : Bool
  deriving DecidableEq, Repr, Inhabited

/-- A post with its author and the feeds that it is in. -/
structure PostAccess where
  id : String
  authorId : String
  destinations : List FeedAccess
  deriving DecidableEq, Repr, Inhabited

/-- The bans between a viewer and somebody else. -/
structure BanRelation where
  viewerBans : Bool
  viewerBanned : Bool
  deriving DecidableEq, Repr, Inhabited

/-- Is there a ban in either direction? -/
def BanRelation.any (bans : BanRelation) : Bool := bans.viewerBans || bans.viewerBanned

/-- The current state of an app token. -/
structure TokenRecord where
  id : String
  userId : String
  issue : Int32
  isActive : Bool
  scopes : ScopeSet
  restrictions : Restrictions
  deriving DecidableEq, Repr, Inhabited

/-! ### Rows of tables -/

/-- An app token as a row holds it, with its scopes and restrictions as texts. -/
structure TokenRow where
  id : String
  userId : String
  issue : Int32
  isActive : Bool
  scopes : List String
  netmasks : List String
  origins : List String
  deriving DecidableEq, Repr, Inhabited

def TokenRow.record (row : TokenRow) : TokenRecord where
  id := row.id
  userId := row.userId
  issue := row.issue
  isActive := row.isActive
  scopes := .ofNames row.scopes
  restrictions := .ofTexts row.netmasks row.origins

/-- A feed as a row holds it, with the name that tells its kind. -/
structure FeedRow where
  id : String
  ownerId : String
  name : String
  ownerIsGroup : Bool
  isPrivate : Bool
  isProtected : Bool
  isRestricted : Bool
  deriving DecidableEq, Repr, Inhabited

def FeedRow.access (row : FeedRow) : FeedAccess where
  id := row.id
  ownerId := row.ownerId
  kind := .ofName row.name
  ownerIsGroup := row.ownerIsGroup
  isPrivate := row.isPrivate
  isProtected := row.isProtected
  isRestricted := row.isRestricted

end EventGateway
