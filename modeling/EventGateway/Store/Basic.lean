import EventGateway.Store.Lookup

/-!
# The store

The content together with its faults: every query may take some time, and while the store is failing
every query fails when that time is over. What a query finds is the content at the end of that time.
Main statement: a store that does not fail gives every lookup its result on the content.
-/

namespace EventGateway

/-- The content and how queries of it behave. -/
structure Store where
  content : Content := {}
  /-- Do queries fail? -/
  failing : Bool := false
  /-- How long a query takes, in milliseconds. -/
  latency : Option Nat := none
  deriving Inhabited

/-- A change of the store. -/
inductive StoreUpdate where
  | content (update : ContentUpdate)
  | setFailing (value : Bool)
  | setLatency (value : Option Nat)
  deriving DecidableEq, Repr, Inhabited

namespace Store

/-- Makes a change. -/
def update (s : Store) : StoreUpdate → Store
  | .content u => { s with content := s.content.update u }
  | .setFailing b => { s with failing := b }
  | .setLatency ms => { s with latency := ms }

/-- How long a query takes. -/
def delay (s : Store) : Nat := s.latency.getD 0

/-- What a query comes to when its time is over. -/
def ask (s : Store) (q : Query) : Except ServiceError q.Answer :=
  if s.failing then .error .storeUnavailable else .ok (s.content.answer q)

end Store

/-! ### Running a lookup on a store that stays as it is -/

/-- A result and the time that it took. -/
structure Timed (α : Type) where
  result : α
  elapsed : Nat
  deriving Repr, Inhabited

/-- The result if it takes no longer than allowed. -/
def Timed.within {α : Type} (limit : Nat) (t : Timed α) : Timed (Option α) :=
  if t.elapsed ≤ limit then ⟨some t.result, t.elapsed⟩ else ⟨none, limit⟩

def Lookup.run {α : Type} (s : Store) : Lookup α → Timed (Except ServiceError α)
  | .done a => ⟨.ok a, 0⟩
  | .ask q next =>
    match s.ask q with
    | .error e => ⟨.error e, s.delay⟩
    | .ok answer =>
      let rest := (next answer).run s
      ⟨rest.result, s.delay + rest.elapsed⟩

/-- Without failures a lookup comes to its result on the content, however long it takes. -/
theorem Lookup.result_run {α : Type} {s : Store} (h : s.failing = false) (x : Lookup α) :
    (x.run s).result = .ok (x.eval s.content) := by
  induction x with
  | done a => rfl
  | ask q next ih => simp [Lookup.run, Store.ask, h, ih]

/-! ### Running a lookup step by step -/

/-- A query that is under way, and what follows it. -/
structure Waiting (α : Type) where
  query : Query
  next : query.Answer → Lookup α
  /-- When the query is over. -/
  due : Nat

/-- How far a lookup has come. -/
inductive Progress (α : Type) where
  | finished (result : Except ServiceError α)
  | waiting (query : Waiting α)

/-- Runs a lookup as far as it goes without waiting. -/
def Lookup.proceed {α : Type} (s : Store) (now : Nat) : Lookup α → Progress α
  | .done a => .finished (.ok a)
  | .ask q next =>
    if s.delay = 0 then
      match s.ask q with
      | .error e => .finished (.error e)
      | .ok answer => (next answer).proceed s now
    else .waiting ⟨q, next, now + s.delay⟩

/-- Goes on after a query that is over. -/
def Waiting.resume {α : Type} (s : Store) (now : Nat) (w : Waiting α) : Progress α :=
  match s.ask w.query with
  | .error e => .finished (.error e)
  | .ok answer => (w.next answer).proceed s now

end EventGateway
