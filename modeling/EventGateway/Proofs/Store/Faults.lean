import EventGateway.Store.Limited
import Mathlib.Algebra.BigOperators.Group.Finset.Basic
import Mathlib.Tactic.Lemma

/-!
# Faults of single queries

What becomes of a lookup when every query may take its own time and fail on its own, while the content
stays as it is. Main statements: the lookup either fails or comes to the result that it has without
faults (`runThrough_faultless`, `exists_error_runThrough`), and carried on step by step it comes
to the same result at the same time as at once (`comesTo_start`).
-/

namespace EventGateway

variable {α β : Type}

namespace Lookup

/-! ### What is asked -/

/-- The queries that the lookup asks of a content, in order. -/
def asked (c : Content) : Lookup α → List Query
  | .done _ => []
  | .ask q next => q :: (next (c.answer q)).asked c

@[simp] lemma asked_done (c : Content) (a : α) : (Lookup.done a).asked c = [] := rfl

@[simp] lemma asked_ask (c : Content) (q : Query) (next : q.Answer → Lookup α) :
    (Lookup.ask q next).asked c = q :: (next (c.answer q)).asked c := rfl

/-- Does the lookup ask no more queries than this, whatever the answers are? -/
def AsksAtMost : Nat → Lookup α → Prop
  | _, .done _ => True
  | 0, .ask _ _ => False
  | n + 1, .ask _ next => ∀ answer, (next answer).AsksAtMost n

lemma asksAtMost_done (n : Nat) (a : α) : (Lookup.done a).AsksAtMost n := by
  cases n with
  | zero => trivial
  | succ n => trivial

lemma asksAtMost_query_bind {n : Nat} {q : Query} {f : q.Answer → Lookup α}
    (h : ∀ answer, (f answer).AsksAtMost n) : (query q >>= f).AsksAtMost (n + 1) := h

lemma AsksAtMost.mono {m n : Nat} (h : m ≤ n) {x : Lookup α} (hx : x.AsksAtMost m) :
    x.AsksAtMost n := by
  induction x generalizing m n with
  | done a => exact asksAtMost_done n a
  | ask q next ih =>
    cases m with
    | zero => exact hx.elim
    | succ m =>
      obtain ⟨n, rfl⟩ := Nat.exists_eq_add_one_of_ne_zero (by omega : n ≠ 0)
      exact fun answer => ih answer (Nat.le_of_succ_le_succ h) (hx answer)

lemma AsksAtMost.bind {m n : Nat} {x : Lookup α} (hx : x.AsksAtMost m) {f : α → Lookup β}
    (hf : ∀ a, (f a).AsksAtMost n) : (x >>= f).AsksAtMost (m + n) := by
  induction x generalizing m with
  | done a => exact (hf a).mono (Nat.le_add_left n m)
  | ask q next ih =>
    cases m with
    | zero => exact hx.elim
    | succ m =>
      rw [Nat.add_right_comm]
      exact fun answer => ih answer (hx answer)

/-- Goes on with the result of a lookup without asking anything more. -/
lemma AsksAtMost.map {n : Nat} {x : Lookup α} (hx : x.AsksAtMost n) (f : α → β) :
    (x >>= fun a => Lookup.done (f a)).AsksAtMost n :=
  hx.bind (n := 0) fun _ => trivial

lemma AsksAtMost.length_asked_le {n : Nat} {x : Lookup α} (h : x.AsksAtMost n) (c : Content) :
    (x.asked c).length ≤ n := by
  induction x generalizing n with
  | done a => exact Nat.zero_le n
  | ask q next ih =>
    cases n with
    | zero => exact h.elim
    | succ n => exact Nat.succ_le_succ (ih _ (h _))

/-! ### A store for every query -/

/-- Runs a lookup whose queries find the store in one state after the other. -/
def runThrough (stores : Nat → Store) : Lookup α → Timed (Except ServiceError α)
  | .done a => ⟨.ok a, 0⟩
  | .ask q next =>
    match (stores 0).ask q with
    | .error e => ⟨.error e, (stores 0).delay⟩
    | .ok answer =>
      let rest := (next answer).runThrough fun i => stores (i + 1)
      ⟨rest.result, (stores 0).delay + rest.elapsed⟩

/-- A query that fails ends the lookup, and otherwise its answer is gone on with. -/
lemma result_runThrough_ask (stores : Nat → Store) (q : Query) (next : q.Answer → Lookup α) :
    ((Lookup.ask q next).runThrough stores).result =
      if (stores 0).failing then .error .storeUnavailable
      else ((next ((stores 0).content.answer q)).runThrough fun i => stores (i + 1)).result := by
  rw [runThrough, Store.ask]
  by_cases hfailing : (stores 0).failing = true
  · rw [if_pos hfailing, if_pos hfailing]
  · rw [if_neg hfailing, if_neg hfailing]

/-- A store that stays as it is is the same for every query. -/
lemma runThrough_const (s : Store) (x : Lookup α) : x.runThrough (fun _ => s) = x.run s := by
  induction x with
  | done a => rfl
  | ask q next ih =>
    simp only [runThrough, run]
    cases s.ask q with
    | error e => rfl
    | ok answer => simp only [ih answer]

variable {c : Content} {stores : Nat → Store}

/-- If no query that is asked fails, the lookup comes to its result on the content, in the time that
these queries take together. -/
theorem runThrough_faultless (x : Lookup α) (hcontent : ∀ i, (stores i).content = c)
    (h : ∀ i < (x.asked c).length, (stores i).failing = false) :
    x.runThrough stores =
      ⟨.ok (x.eval c), ∑ i ∈ Finset.range (x.asked c).length, (stores i).delay⟩ := by
  induction x generalizing stores with
  | done a => rfl
  | ask q next ih =>
    have hfirst : (stores 0).failing = false := h 0 (by simp)
    have hrest := ih (c.answer q) (fun i => hcontent (i + 1)) fun i hi => h (i + 1) (by simpa using hi)
    rw [asked_ask, List.length_cons, Finset.sum_range_succ', Nat.add_comm]
    simp only [runThrough, Store.ask, hfirst, Bool.false_eq_true, if_false, hcontent, hrest, eval_ask]

/-- If a query that is asked fails, the lookup fails. -/
lemma exists_error_runThrough (x : Lookup α) (hcontent : ∀ i, (stores i).content = c) {i : Nat}
    (hi : i < (x.asked c).length) (h : (stores i).failing = true) :
    ∃ e, (x.runThrough stores).result = .error e := by
  induction x generalizing stores i with
  | done a => exact absurd hi (Nat.not_lt_zero i)
  | ask q next ih =>
    simp only [runThrough, Store.ask, hcontent]
    by_cases hfirst : (stores 0).failing = true
    · exact ⟨_, by rw [if_pos hfirst]⟩
    · cases i with
      | zero => exact absurd h hfirst
      | succ i =>
        obtain ⟨e, he⟩ := ih (c.answer q) (fun j => hcontent (j + 1)) (by simpa using hi) h
        exact ⟨e, by rw [if_neg hfirst]; exact he⟩

end Lookup

/-! ### Step by step -/

namespace Timed

variable {t : Timed α} {limit : Nat}

lemma within_of_le (h : t.elapsed ≤ limit) : t.within limit = ⟨some t.result, t.elapsed⟩ :=
  if_pos h

lemma within_of_lt (h : limit < t.elapsed) : t.within limit = ⟨none, limit⟩ :=
  if_neg (Nat.not_le_of_lt h)

/-- What has taken some time already has the rest of it for what follows. -/
lemma within_add {spent : Nat} (h : spent ≤ limit) :
    (⟨t.result, spent + t.elapsed⟩ : Timed α).within limit =
      ⟨(t.within (limit - spent)).result, spent + (t.within (limit - spent)).elapsed⟩ := by
  by_cases hin : t.elapsed ≤ limit - spent
  · rw [within_of_le hin, within_of_le (Nat.add_le_of_le_sub' h hin)]
  · have hout : limit < spent + t.elapsed := by omega
    rw [within_of_lt (Nat.lt_of_not_le hin), within_of_lt (t := ⟨t.result, spent + t.elapsed⟩) hout,
      Nat.add_sub_cancel' h]

end Timed

lemma Lookup.delay_le_elapsed (s : Store) (q : Query) (next : q.Answer → Lookup α) :
    s.delay ≤ ((Lookup.ask q next).run s).elapsed := by
  simp only [Lookup.run]
  split
  · exact Nat.le_refl _
  · exact Nat.le_add_right _ _

/-- A query that takes no time is over at once. -/
lemma Lookup.proceed_of_delay_eq_zero {s : Store} (h : s.delay = 0) (now : Nat) (q : Query)
    (next : q.Answer → Lookup α) :
    (Lookup.ask q next).proceed s now = Waiting.resume s now ⟨q, next, now⟩ := by
  simp only [Lookup.proceed, Waiting.resume, if_pos h]
  cases s.ask q with
  | error e => rfl
  | ok answer => rfl

namespace Limited

/-- Carried on, on a store that stays as it is, whenever there is something to do about it, the lookup
comes to a result, or to none, at a time. -/
inductive ComesTo (s : Store) : Nat → Limited α → Option (Except ServiceError α) → Nat → Prop
  | finished (now : Nat) (r : Except ServiceError α) : ComesTo s now (.finished r) (some r) now
  | timedOut (now : Nat) : ComesTo s now .timedOut none now
  | waiting {now t : Nat} (turn : Nat) {a : Awaited α} {r : Option (Except ServiceError α)} :
    ComesTo s a.readyAt (a.advance s a.readyAt turn) r t → ComesTo s now (.waiting a) r t

/-- A query that is over is followed by the rest of the lookup, with the time that is left. -/
lemma comesTo_resume {s : Store} {q : Query} {next : q.Answer → Lookup α} {now deadline : Nat}
    (turn : Nat) (hdue : now + s.delay ≤ deadline)
    (hnext : ∀ answer, let t := ((next answer).run s).within (deadline - (now + s.delay))
      (ofProgress (now + s.delay) deadline turn ((next answer).proceed s (now + s.delay))).ComesTo s
        (now + s.delay) t.result (now + s.delay + t.elapsed)) :
    let t := ((Lookup.ask q next).run s).within (deadline - now)
    (ofProgress (now + s.delay) deadline turn
      (Waiting.resume s (now + s.delay) ⟨q, next, now + s.delay⟩)).ComesTo s (now + s.delay)
        t.result (now + t.elapsed) := by
  have hspent : s.delay ≤ deadline - now := by omega
  simp only [Waiting.resume, Lookup.run]
  cases s.ask q with
  | error e =>
    rw [Timed.within_of_le hspent]
    exact .finished _ _
  | ok answer =>
    dsimp only
    rw [Timed.within_add hspent, Nat.sub_sub, ← Nat.add_assoc]
    exact hnext answer

lemma comesTo_ofProgress (s : Store) {now deadline : Nat} (h : now ≤ deadline) (turn : Nat)
    (x : Lookup α) :
    let t := (x.run s).within (deadline - now)
    (ofProgress now deadline turn (x.proceed s now)).ComesTo s now t.result (now + t.elapsed) := by
  induction x generalizing now with
  | done a => exact .finished now _
  | ask q next ih =>
    have hlonger := Lookup.delay_le_elapsed s q next
    by_cases hdelay : s.delay = 0
    · have hresume := comesTo_resume turn (show now + s.delay ≤ deadline by omega) fun answer =>
        ih answer (by omega)
      simp only [hdelay, Nat.add_zero] at hresume
      rwa [Lookup.proceed_of_delay_eq_zero hdelay]
    · simp only [Lookup.proceed, if_neg hdelay, ofProgress]
      by_cases hexpired : deadline ≤ now
      · -- the query would have to wait, but there is no time left
        rw [if_pos hexpired, Timed.within_of_lt (by omega), Nat.sub_eq_zero_of_le hexpired]
        exact .timedOut now
      · rw [if_neg hexpired]
        refine .waiting turn ?_
        by_cases hdue : now + s.delay ≤ deadline
        · have hready : Awaited.readyAt ⟨⟨q, next, now + s.delay⟩, deadline, turn⟩ = now + s.delay :=
            Nat.min_eq_left hdue
          simp only [hready, Awaited.advance, Nat.le_refl, if_true]
          exact comesTo_resume turn hdue fun answer => ih answer hdue
        · have hready : Awaited.readyAt ⟨⟨q, next, now + s.delay⟩, deadline, turn⟩ = deadline :=
            Nat.min_eq_right (Nat.le_of_lt (Nat.lt_of_not_le hdue))
          simp only [hready, Awaited.advance, if_neg hdue, Nat.le_refl, if_true]
          rw [Timed.within_of_lt (by omega), Nat.add_sub_cancel' h]
          exact .timedOut deadline

/-- Step by step, a lookup with a time limit comes to what it comes to at once, at the time that this
takes. -/
theorem comesTo_start (s : Store) (now limit turn : Nat) (x : Lookup α) :
    let t := (x.run s).within limit
    (start s now limit turn x).ComesTo s now t.result (now + t.elapsed) := by
  have h := comesTo_ofProgress s (Nat.le_add_right now limit) turn x
  rwa [Nat.add_sub_cancel_left] at h

/-! ### Turns -/

/-- The lookup with another turn. -/
def withTurn (turn : Nat) : Limited α → Limited α
  | .waiting a => .waiting { a with turn }
  | r => r

/-- A lookup that goes on is given the turn that it has from then on, whichever it had. -/
lemma advance_withTurn (s : Store) (turn turn' own : Nat) (a : Awaited α) :
    Awaited.advance s a.readyAt turn' { a with turn := own } =
      (a.advance s a.readyAt turn).withTurn turn' := by
  simp only [Awaited.advance]
  by_cases hdue : a.waiting.due ≤ a.readyAt
  · rw [if_pos hdue, if_pos hdue]
    cases a.waiting.resume s a.readyAt with
    | finished r => rfl
    | waiting q =>
      simp only [ofProgress]
      split <;> rfl
  · have hdeadline : a.deadline ≤ a.readyAt := by
      simp only [Awaited.readyAt] at hdue ⊢
      omega
    rw [if_neg hdue, if_neg hdue, if_pos hdeadline, if_pos hdeadline]
    rfl

lemma ComesTo.withTurn {s : Store} {now t : Nat} {l : Limited α} {r : Option (Except ServiceError α)}
    (h : l.ComesTo s now r t) (turn : Nat) : (l.withTurn turn).ComesTo s now r t := by
  cases h with
  | finished => exact .finished now _
  | timedOut => exact .timedOut now
  | @waiting _ _ turn' a _ h =>
    have hsame := (advance_withTurn s turn' turn' turn a).trans
      (advance_withTurn s turn' turn' a.turn a).symm
    refine .waiting turn' ?_
    exact hsame ▸ h

/-- A lookup that is ready goes on to what it comes to, whatever turn it gets. -/
lemma ComesTo.advance {s : Store} {now t : Nat} {a : Awaited α} {r : Option (Except ServiceError α)}
    (h : (Limited.waiting a).ComesTo s now r t) (turn : Nat) :
    (a.advance s a.readyAt turn).ComesTo s a.readyAt r t := by
  cases h with
  | waiting turn' h =>
    have hturn := advance_withTurn s turn' turn a.turn a
    exact hturn ▸ h.withTurn turn

end Limited

end EventGateway
