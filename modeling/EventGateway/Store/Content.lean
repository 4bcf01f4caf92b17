import EventGateway.Data.Checked
import EventGateway.Data.Checked
import EventGateway.Data.Dictionary
import EventGateway.Store.Access

/-!
# The content of the store

Accounts, feeds, posts, subscriptions, bans and app tokens, and the updates that change them.
-/

namespace EventGateway

/-- A user or a group. -/
structure Account where
  isGroup : Bool
  isPrivate : Bool := false
  isProtected : Bool := false
  isRestricted : Bool := false
  isActive : Bool := true
  hidesBannedComments : Bool := false
  deriving DecidableEq, Repr, Inhabited

/-- A feed of an account. -/
structure Feed where
  ownerId : String
  kind : FeedKind
  deriving DecidableEq, Repr, Inhabited

/-- A post in feeds. -/
structure Post where
  authorId : String
  feedIds : List String
  deriving DecidableEq, Repr, Inhabited

/-- Everything that is stored. -/
structure Content where
  accounts : Dictionary String Account := ∅
  feeds : Dictionary String Feed := ∅
  posts : Dictionary String Post := ∅
  /-- Who is subscribed to whom. -/
  subscriptions : List (String × String) := []
  /-- Who bans whom. -/
  bans : List (String × String) := []
  tokens : Dictionary String TokenRecord := ∅
  deriving Inhabited

/-- A change of what is stored. -/
inductive ContentUpdate where
  /-- A new account takes the place of an old one of the same id. -/
  | addUser (id : String)
  | addGroup (id : String)
  | setPrivate (id : String) (value : Bool)
  | setProtected (id : String) (value : Bool)
  | setRestricted (id : String) (value : Bool)
  | setActive (id : String) (value : Bool)
  | setHidesBannedComments (id : String) (value : Bool)
  | addFeed (id owner name : String)
  | addPost (id author : String) (feeds : List String)
  | removePost (id : String)
  | subscribe (subscriber owner : String)
  | unsubscribe (subscriber owner : String)
  | ban (user banned : String)
  | unban (user banned : String)
  | putToken (record : TokenRecord)
  /-- The token gets the next issue, if there is one, which supersedes the one before. -/
  | reissueToken (id : String)
  | deactivateToken (id : String)
  deriving DecidableEq, Repr, Inhabited

namespace Content

def updateAccount (c : Content) (id : String) (f : Account → Account) : Content :=
  { c with accounts := c.accounts.modify id f }

/-- Changes an app token, if there is one. -/
def updateToken (c : Content) (id : String) (f : TokenRecord → TokenRecord) : Content :=
  { c with tokens := c.tokens.modify id f }

/-- The issue that a reissue of an app token gives it and tells, if there is the token. After the greatest
issue there is no next one: that stops whoever asks for it. -/
def nextIssue (c : Content) (id : String) : Except Overflow (Option Int32) :=
  match c.tokens.get? id with
  | none => .ok none
  | some token => (addChecked token.issue 1).map some

/-- Makes a change. A reissue that fails changes nothing. -/
def update (c : Content) : ContentUpdate → Content
  | .addUser id => { c with accounts := c.accounts.insert id { isGroup := false } }
  | .addGroup id => { c with accounts := c.accounts.insert id { isGroup := true } }
  | .setPrivate id b => c.updateAccount id fun a => { a with isPrivate := b }
  | .setProtected id b => c.updateAccount id fun a => { a with isProtected := b }
  | .setRestricted id b => c.updateAccount id fun a => { a with isRestricted := b }
  | .setActive id b => c.updateAccount id fun a => { a with isActive := b }
  | .setHidesBannedComments id b => c.updateAccount id fun a => { a with hidesBannedComments := b }
  | .addFeed id owner name => { c with feeds := c.feeds.insert id ⟨owner, .ofName name⟩ }
  | .addPost id author feeds => { c with posts := c.posts.insert id ⟨author, feeds⟩ }
  | .removePost id => { c with posts := c.posts.erase id }
  | .subscribe s o => { c with subscriptions := c.subscriptions.insert (s, o) }
  | .unsubscribe s o => { c with subscriptions := c.subscriptions.filter (· ≠ (s, o)) }
  | .ban u b => { c with bans := c.bans.insert (u, b) }
  | .unban u b => { c with bans := c.bans.filter (· ≠ (u, b)) }
  | .putToken record => { c with tokens := c.tokens.insert record.id record }
  | .reissueToken id =>
    match c.nextIssue id with
    | .ok (some issue) => c.updateToken id fun t => { t with issue }
    | _ => c
  | .deactivateToken id => c.updateToken id fun t => { t with isActive := false }

/-- The next issue is one more. -/
theorem nextIssue_eq_some_iff {c : Content} {id : String} {next : Int32} :
    c.nextIssue id = .ok (some next) ↔
      ∃ token, c.tokens.get? id = some token ∧ next.toInt = token.issue.toInt + 1 := by
  unfold nextIssue
  cases c.tokens.get? id with
  | none => simp
  | some token =>
    have hone : addChecked token.issue 1 = .ok next ↔ next.toInt = token.issue.toInt + 1 :=
      addChecked_eq_ok_iff
    cases hnext : addChecked token.issue 1 <;> simp [Except.map, ← hone, hnext]

/-- The issue of an app token that there is. -/
def issueOf? (c : Content) (id : String) : Option Int32 :=
  (c.tokens.get? id).map (·.issue)

/-! ### What lookups find -/

/-- A feed with its owner's privacy; both have to be stored. -/
def feedAccess? (c : Content) (id : String) : Option FeedAccess := do
  let feed ← c.feeds.get? id
  let owner ← c.accounts.get? feed.ownerId
  some {
    id
    ownerId := feed.ownerId
    kind := feed.kind
    ownerIsGroup := owner.isGroup
    isPrivate := owner.isPrivate
    isProtected := owner.isProtected
    isRestricted := owner.isRestricted }

def feedAccess (c : Content) (ids : List String) : List FeedAccess :=
  ids.filterMap c.feedAccess?

/-- A post with those of its feeds that there are. -/
def postAccess? (c : Content) (id : String) : Option PostAccess :=
  (c.posts.get? id).map fun post => ⟨id, post.authorId, c.feedAccess post.feedIds⟩

instance (pair : String × String) (pairs : List (String × String)) : Decidable (pair ∈ pairs) :=
  inferInstance

def isSubscribed (c : Content) (viewer owner : String) : Bool :=
  (viewer, owner) ∈ c.subscriptions

def subscribedTo (c : Content) (viewer : String) (owners : List String) : List String :=
  owners.filter (c.isSubscribed viewer)

def banRelation (c : Content) (viewer other : String) : BanRelation where
  viewerBans := (viewer, other) ∈ c.bans
  viewerBanned := (other, viewer) ∈ c.bans

/-- Does the viewer want to see nothing of comments by banned users? -/
def hidesBannedComments (c : Content) (viewer : String) : Bool :=
  (c.accounts.get? viewer).any (·.hidesBannedComments)

def isActive (c : Content) (user : String) : Bool :=
  (c.accounts.get? user).any (·.isActive)

end Content

end EventGateway
