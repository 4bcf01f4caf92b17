import EventGateway.Proofs.Store.Progress

/-!
# Answers of a lookup

A lookup that goes on while the store changes may get every answer from another content. Its result is
the one of a single content if that content gives all of these answers, and need not be the result of
any content otherwise.
-/

namespace EventGateway

variable {α : Type}

namespace Lookup

/-- The answers lead the lookup to the other one: each is the answer of its content to the query. -/
inductive Leads : Lookup α → List (Query × Content) → Lookup α → Prop
  | refl (x : Lookup α) : Leads x [] x
  | ask {q : Query} {next : q.Answer → Lookup α} {c : Content} {answers : List (Query × Content)}
    {y : Lookup α} :
    Leads (next (c.answer q)) answers y → Leads (.ask q next) ((q, c) :: answers) y

namespace Leads

variable {x y z : Lookup α} {answers others : List (Query × Content)}

lemma trans (h : x.Leads answers y) (h' : y.Leads others z) : x.Leads (answers ++ others) z := by
  induction h with
  | refl => exact h'
  | ask _ ih => exact .ask (ih h')

/-- A content that gives all the answers gives the same result. -/
theorem eval_eq (h : x.Leads answers y) {c : Content}
    (hc : ∀ answer ∈ answers, answer.2.answer answer.1 = c.answer answer.1) :
    x.eval c = y.eval c := by
  induction h with
  | refl => rfl
  | @ask q next c' answers y _ ih =>
    have hfirst : c'.answer q = c.answer q := hc (q, c') (List.mem_cons_self ..)
    rw [eval_ask, ← hfirst]
    exact ih fun answer h => hc answer (List.mem_cons_of_mem _ h)

end Leads

end Lookup

namespace Limited

lemma Rests.mono {S T : Lookup α → Prop} (h : ∀ x, S x → T x) {r : Limited α} (hr : r.Rests S) :
    r.Rests T := by
  rcases r with (e | a) | _ | a
  · exact trivial
  · exact h _ hr
  · exact trivial
  · exact h _ hr

/-- As far as a lookup goes at once, it is led by answers of the content there is. -/
lemma exists_leads_ofProgress (s : Store) (now deadline turn : Nat) (x : Lookup α) :
    ∃ qs : List Query, (qs = [] ∨ s.failing = false) ∧
      (ofProgress now deadline turn (x.proceed s now)).Rests
        (x.Leads (qs.map fun q => (q, s.content))) := by
  induction x with
  | done a => exact ⟨[], .inl rfl, .refl _⟩
  | ask q next ih =>
    simp only [Lookup.proceed]
    split
    · by_cases hfailing : s.failing = true
      · refine ⟨[], .inl rfl, ?_⟩
        simp only [Store.ask, if_pos hfailing]
        exact trivial
      · obtain ⟨qs, -, hqs⟩ := ih (s.content.answer q)
        refine ⟨q :: qs, .inr (by simpa using hfailing), ?_⟩
        simp only [Store.ask, if_neg hfailing]
        exact hqs.mono fun y hy => .ask hy
    · refine ⟨[], .inl rfl, ?_⟩
      simp only [ofProgress]
      split
      · exact trivial
      · exact .refl _

/-- So it is when a lookup that has waited goes on. -/
lemma exists_leads_advance (s : Store) (now turn : Nat) (a : Awaited α) :
    ∃ qs : List Query, (qs = [] ∨ s.failing = false) ∧
      (a.advance s now turn).Rests (a.rest.Leads (qs.map fun q => (q, s.content))) := by
  simp only [Awaited.advance]
  split
  · by_cases hfailing : s.failing = true
    · refine ⟨[], .inl rfl, ?_⟩
      simp only [Waiting.resume, Store.ask, if_pos hfailing]
      exact trivial
    · obtain ⟨qs, -, hqs⟩ := exists_leads_ofProgress s now a.deadline turn
        (a.waiting.next (s.content.answer a.waiting.query))
      refine ⟨a.waiting.query :: qs, .inr (by simpa using hfailing), ?_⟩
      simp only [Waiting.resume, Store.ask, if_neg hfailing]
      exact hqs.mono fun y hy => .ask hy
  · refine ⟨[], .inl rfl, ?_⟩
    split
    · exact trivial
    · exact .refl _

end Limited

end EventGateway
