import EventGateway.Visibility.Decision
import Mathlib.Tactic.Lemma

/-!
# What anybody may observe

A viewer who is nobody is decided on with a single query. So what a check comes to for such a viewer is
what the store would answer at one moment, however many moments the check takes. What is about one user
only is never shown to nobody.
-/

namespace EventGateway

namespace Lookup

variable {α β : Type}

/-- Does the lookup ask no more than one query? -/
def AsksOnce : Lookup α → Prop
  | .done _ => True
  | .ask _ next => ∀ answer, ∃ a, next answer = .done a

lemma AsksOnce.bind {x : Lookup α} (h : x.AsksOnce) {f : α → Lookup β}
    (hf : ∀ a, ∃ b, f a = .done b) : (x >>= f).AsksOnce := by
  cases x with
  | done a =>
    obtain ⟨b, hb⟩ := hf a
    rw [done_bind, hb]
    trivial
  | ask q next =>
    intro answer
    obtain ⟨a, ha⟩ := h answer
    obtain ⟨b, hb⟩ := hf a
    refine ⟨b, ?_⟩
    show (next answer).bind f = .done b
    rw [ha]
    exact hb

end Lookup

/-- Would somebody who is nobody get something of the event, by what the store says? -/
def Event.VisibleToAnybody (e : Event) (s : Store) : Prop :=
  decisionResult ((e.decision none).run s).result ≠ .deny

lemma someFeedOpen_none (feeds : List FeedAccess) : ∃ b, someFeedOpen feeds none = .done b := by
  simp only [someFeedOpen]
  split
  · exact ⟨_, rfl⟩
  · exact ⟨_, rfl⟩

lemma readable_none (author : Option String) (feeds : List FeedAccess) :
    ∃ b, readable author feeds none = .done b := by
  obtain ⟨b, hb⟩ := someFeedOpen_none feeds
  simp only [readable, Option.isSome_none, Bool.false_eq_true, false_and, if_false, hb,
    Lookup.done_bind]
  cases b with
  | true => exact ⟨_, rfl⟩
  | false => exact ⟨_, rfl⟩

lemma asksOnce_postVisible_none (postId : Option String) : (postVisible postId none).AsksOnce := by
  cases postId with
  | none => trivial
  | some id =>
    rintro (_ | post)
    · exact ⟨false, rfl⟩
    · exact readable_none _ _

/-- Nobody is decided on with one query at most. -/
lemma Event.asksOnce_decision_none (e : Event) : (e.decision none).AsksOnce := by
  have hpost := asksOnce_postVisible_none e.refs.postId
  unfold Event.decision
  cases e.name.eventClass with
  | post =>
    dsimp only
    split
    · exact Lookup.AsksOnce.bind (x := destroyedPostVisible e.refs none)
        (fun feeds => readable_none _ _) fun visible => ⟨_, rfl⟩
    · exact hpost.bind fun visible => ⟨_, rfl⟩
  | personalPost => trivial
  | comment =>
    refine hpost.bind fun visible => ?_
    cases visible with
    | true => exact ⟨.allow, rfl⟩
    | false => exact ⟨.deny, rfl⟩
  | like =>
    refine hpost.bind fun visible => ?_
    cases visible with
    | true => exact ⟨.allow, rfl⟩
    | false => exact ⟨.deny, rfl⟩
  | user => trivial
  | global => trivial
  | notification => trivial

/-- Notifications, changes of a profile and what somebody hides or saves are shown to nobody. -/
lemma Event.VisibleToAnybody.eventClass_ne {e : Event} {s : Store} (h : e.VisibleToAnybody s) :
    e.name.eventClass ≠ .notification ∧ e.name.eventClass ≠ .user ∧
      e.name.eventClass ≠ .personalPost := by
  refine ⟨?_, ?_, ?_⟩ <;>
  · intro hclass
    apply h
    simp only [Event.decision, hclass]
    rfl

end EventGateway
