import EventGateway.Store.Basic

/-!
# Lookups with a time limit

A lookup that is under way on a store that may change meanwhile. It goes on when its query is over and
is given up when its time is; if both happen at once, it goes on. One that would have to wait although
its time is over is given up at once.
-/

namespace EventGateway

/-- A lookup that waits for a query and has a time limit. -/
structure Awaited (α : Type) where
  waiting : Waiting α
  /-- When the lookup is given up. -/
  deadline : Nat
  /-- Lookups that are over at the same time go on in the order of their turns. -/
  turn : Nat

/-- What has become of a lookup with a time limit. -/
inductive Limited (α : Type) where
  | finished (result : Except ServiceError α)
  | timedOut
  | waiting (lookup : Awaited α)

namespace Limited

variable {α : Type}

/-- What has become of a lookup that has come so far. -/
def ofProgress (now deadline turn : Nat) : Progress α → Limited α
  | .finished r => .finished r
  | .waiting w => if deadline ≤ now then .timedOut else .waiting ⟨w, deadline, turn⟩

def start (s : Store) (now limit turn : Nat) (lookup : Lookup α) : Limited α :=
  .ofProgress now (now + limit) turn (lookup.proceed s now)

end Limited

namespace Awaited

variable {α : Type}

/-- When there is something to do about the lookup. -/
def readyAt (a : Awaited α) : Nat := min a.waiting.due a.deadline

/-- What has become of the lookup by now. -/
def advance (s : Store) (now turn : Nat) (a : Awaited α) : Limited α :=
  if a.waiting.due ≤ now then .ofProgress now a.deadline turn (a.waiting.resume s now)
  else if a.deadline ≤ now then .timedOut
  else .waiting a

end Awaited

end EventGateway
