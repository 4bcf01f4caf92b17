import EventGateway.Text.Quoted

/-!
# Scopes

What an app token may do. A set of scopes lists each at most once, in the order of the catalog, so
that equal sets are equal lists.
-/

namespace EventGateway

/-- A right that an app token may carry. -/
inductive Scope where
  | readMyInfo
  | readFeeds
  | readRealtime
  | manageProfile
  | manageNotifications
  | managePosts
  | manageMyFeeds
  | manageSubscriptionRequests
  deriving DecidableEq, Repr, Inhabited

namespace Scope

/-- All scopes, in the order of the catalog. -/
def all : List Scope := [
  .readMyInfo, .readFeeds, .readRealtime, .manageProfile, .manageNotifications, .managePosts,
  .manageMyFeeds, .manageSubscriptionRequests]

def text : Scope → String
  | .readMyInfo => "read-my-info"
  | .readFeeds => "read-feeds"
  | .readRealtime => "read-realtime"
  | .manageProfile => "manage-profile"
  | .manageNotifications => "manage-notifications"
  | .managePosts => "manage-posts"
  | .manageMyFeeds => "manage-my-feeds"
  | .manageSubscriptionRequests => "manage-subscription-requests"

/-- The scope of a written name. -/
def ofText? (s : String) : Option Scope :=
  all.find? (·.text == s)

/-- The message about a text that names no scope. -/
def unknownMessage (s : String) : String :=
  "unknown scope " ++ Text.quoted s

theorem mem_all (scope : Scope) : scope ∈ all := by
  cases scope <;> decide

end Scope

/-- A set of scopes in the order of the catalog. -/
structure ScopeSet where
  toList : List Scope
  deriving DecidableEq, Repr, Inhabited

namespace ScopeSet

def ofList (scopes : List Scope) : ScopeSet :=
  ⟨Scope.all.filter (· ∈ scopes)⟩

/-- The set of the scopes named; names of no scope are ignored. -/
def ofNames (names : List String) : ScopeSet :=
  ofList (names.filterMap Scope.ofText?)

def contains (s : ScopeSet) (scope : Scope) : Bool :=
  scope ∈ s.toList

@[simp] theorem contains_ofList (scopes : List Scope) (scope : Scope) :
    (ofList scopes).contains scope = decide (scope ∈ scopes) := by
  simp [contains, ofList, Scope.mem_all]

end ScopeSet

end EventGateway
