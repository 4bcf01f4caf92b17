import EventGateway.Service.Error
import EventGateway.Store.Content

/-!
# Lookups

What is decided from the store is written as a lookup: a program that asks one query after another and
ends with a result. How it is run is a separate matter: at once, with the time that it takes, or step
by step while the store changes. A query that fails ends the lookup.
-/

namespace EventGateway

/-- What the store can be asked. -/
inductive Query where
  | postAccess (id : String)
  | feedAccess (ids : List String)
  | subscribedTo (viewer : String) (owners : List String)
  | banRelation (viewer other : String)
  | hidesBannedComments (viewer : String)
  | appToken (id : String)
  | userIsActive (id : String)
  deriving DecidableEq, Repr, Inhabited

namespace Query

@[reducible] def Answer : Query → Type
  | .postAccess _ => Option PostAccess
  | .feedAccess _ => List FeedAccess
  | .subscribedTo _ _ => List String
  | .banRelation _ _ => BanRelation
  | .hidesBannedComments _ => Bool
  | .appToken _ => Option TokenRecord
  | .userIsActive _ => Bool

/-- The answer of a store that nothing is asked of: to a question about no ids. -/
def answerWithoutAsking? : (q : Query) → Option q.Answer
  | .feedAccess [] => some []
  | .subscribedTo _ [] => some []
  | _ => none

end Query

def Content.answer (c : Content) : (q : Query) → q.Answer
  | .postAccess id => c.postAccess? id
  | .feedAccess ids => c.feedAccess ids
  | .subscribedTo viewer owners => c.subscribedTo viewer owners
  | .banRelation viewer other => c.banRelation viewer other
  | .hidesBannedComments viewer => c.hidesBannedComments viewer
  | .appToken id => c.tokens.get? id
  | .userIsActive id => c.isActive id

/-- A program that asks queries and ends with a result. -/
inductive Lookup (α : Type) where
  | done (result : α)
  | ask (query : Query) (next : query.Answer → Lookup α)

namespace Lookup

variable {α β : Type}

/-- Goes on with the result of a lookup. -/
def bind : Lookup α → (α → Lookup β) → Lookup β
  | .done a, f => f a
  | .ask q next, f => .ask q fun answer => (next answer).bind f

instance : Monad Lookup where
  pure := .done
  bind := Lookup.bind

instance [Inhabited α] : Inhabited (Lookup α) := ⟨.done default⟩

def query (q : Query) : Lookup q.Answer := .ask q .done

@[simp] theorem pure_eq (a : α) : (pure a : Lookup α) = .done a := rfl

@[simp] theorem done_bind (a : α) (f : α → Lookup β) : (Lookup.done a >>= f) = f a := rfl

@[simp] theorem ask_bind (q : Query) (next : q.Answer → Lookup α) (f : α → Lookup β) :
    (Lookup.ask q next >>= f) = .ask q fun answer => next answer >>= f := rfl

@[simp] theorem query_bind (q : Query) (f : q.Answer → Lookup β) :
    (query q >>= f) = .ask q f := rfl

instance : LawfulMonad Lookup := LawfulMonad.mk' Lookup
  (fun x => by
    induction x with
    | done a => rfl
    | ask q next ih => exact congrArg (Lookup.ask q) (funext ih))
  (fun _ _ => rfl)
  (fun x f g => by
    induction x with
    | done a => rfl
    | ask q next ih => exact congrArg (Lookup.ask q) (funext ih))

/-! ### Without a store -/

/-- The result on a content, without any faults. -/
def eval (c : Content) : Lookup α → α
  | .done a => a
  | .ask q next => (next (c.answer q)).eval c

/-- The result where no connection to the store can be made. -/
def runUnreachable : Lookup α → Except ServiceError α
  | .done a => .ok a
  | .ask q next =>
    match q.answerWithoutAsking? with
    | some answer => (next answer).runUnreachable
    | none => .error .storeUnavailable

@[simp] theorem eval_done (c : Content) (a : α) : (Lookup.done a).eval c = a := rfl

@[simp] theorem eval_ask (c : Content) (q : Query) (next : q.Answer → Lookup α) :
    (Lookup.ask q next).eval c = (next (c.answer q)).eval c := rfl

@[simp] theorem eval_bind (c : Content) (x : Lookup α) (f : α → Lookup β) :
    (x >>= f).eval c = (f (x.eval c)).eval c := by
  induction x with
  | done a => rfl
  | ask q next ih => exact ih (c.answer q)

end Lookup

end EventGateway
