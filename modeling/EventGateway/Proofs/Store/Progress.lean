import EventGateway.Store.Limited
import Mathlib.Tactic.Lemma

/-!
# What is left of a lookup

A lookup that goes on step by step while the store changes. What is true of it, and stays true with
every answer that the store may give, is true of what is left of it whenever it waits, and of its
result. In particular a lookup comes to no result that no store could have led it to.
-/

namespace EventGateway

variable {α : Type}

/-- What is left of a lookup that waits. -/
def Awaited.rest (a : Awaited α) : Lookup α := .ask a.waiting.query a.waiting.next

namespace Lookup

/-- Does the property stay with a lookup, whatever a content of the given kind answers? -/
def Persists (I : Content → Prop) (S : Lookup α → Prop) : Prop :=
  ∀ q next c, I c → S (.ask q next) → S (next (c.answer q))

/-- The lookup comes to no bad result while all that it asks is of the given kind. -/
def Avoids (I : Content → Prop) (bad : α → Prop) : Lookup α → Prop
  | .done a => ¬ bad a
  | .ask q next => ∀ c, I c → (next (c.answer q)).Avoids I bad

lemma persists_avoids (I : Content → Prop) (bad : α → Prop) :
    Persists I fun x : Lookup α => x.Avoids I bad :=
  fun _ _ c hc h => h c hc

end Lookup

namespace Limited

/-- Is the property true of what is left, or of the result, if there is one? -/
def Rests (S : Lookup α → Prop) : Limited α → Prop
  | .finished (.ok a) => S (.done a)
  | .finished (.error _) => True
  | .timedOut => True
  | .waiting a => S a.rest

variable {I : Content → Prop} {S : Lookup α → Prop}

lemma rests_ofProgress (hS : Lookup.Persists I S) {s : Store} (hs : I s.content)
    (now deadline turn : Nat) {x : Lookup α} (hx : S x) :
    (ofProgress now deadline turn (x.proceed s now)).Rests S := by
  induction x with
  | done a => exact hx
  | ask q next ih =>
    simp only [Lookup.proceed]
    split
    · simp only [Store.ask]
      split
      · next e h =>
        split at h
        · exact trivial
        · cases h
      · next answer h =>
        split at h
        · cases h
        · cases h
          exact ih _ (hS q next s.content hs hx)
    · simp only [ofProgress]
      split
      · exact trivial
      · exact hx

lemma rests_start (hS : Lookup.Persists I S) {s : Store} (hs : I s.content) (now limit turn : Nat)
    {x : Lookup α} (hx : S x) : (start s now limit turn x).Rests S :=
  rests_ofProgress hS hs now (now + limit) turn hx

lemma rests_advance (hS : Lookup.Persists I S) {s : Store} (hs : I s.content) (now turn : Nat)
    {a : Awaited α} (ha : S a.rest) : (a.advance s now turn).Rests S := by
  simp only [Awaited.advance]
  split
  · simp only [Waiting.resume, Store.ask]
    split
    · exact trivial
    · next answer h =>
      split at h
      · cases h
      · cases h
        exact rests_ofProgress hS hs now _ turn (hS _ _ s.content hs ha)
  · split
    · exact trivial
    · exact ha

end Limited

end EventGateway
