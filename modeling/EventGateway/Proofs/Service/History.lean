import EventGateway.Proofs.Service.Steps
import Mathlib.Data.List.Induction
import Mathlib.Data.Nat.Init

/-!
# Histories

What happened in a run, in order: every action with the state in which it was taken.
-/

namespace EventGateway.World

/-- An action with the state in which it was taken. -/
abbrev Happening := World × Action

/-- Every action of a run with the state in which it was taken. -/
def history (w : World) : List Action → List Happening
  | [] => []
  | a :: rest => (w, a) :: (w.step a).history rest

lemma run_concat (w : World) (actions : List Action) (a : Action) :
    w.run (actions ++ [a]) = (w.run actions).step a := by
  simp [run]

lemma history_concat (w : World) (actions : List Action) (a : Action) :
    w.history (actions ++ [a]) = w.history actions ++ [(w.run actions, a)] := by
  induction actions generalizing w with
  | nil => rfl
  | cons b rest ih => exact congrArg ((w, b) :: ·) (ih (w.step b))

lemma run_append (w : World) (earlier later : List Action) :
    w.run (earlier ++ later) = (w.run earlier).run later := by
  simp [run]

/-- Every action is taken in the state that the actions before it lead to. -/
lemma getElem?_history (w : World) (actions : List Action) (i : Nat) :
    (w.history actions)[i]? = actions[i]?.map fun a => (w.run (actions.take i), a) := by
  induction actions generalizing w i with
  | nil => rfl
  | cons a rest ih =>
    cases i with
    | zero => rfl
    | succ i => exact ih (w.step a) i

lemma run_take_succ {w : World} {actions : List Action} {a : Action} {i : Nat}
    (h : actions[i]? = some a) :
    w.run (actions.take (i + 1)) = (w.run (actions.take i)).step a := by
  rw [List.take_add_one, h, run_append]
  rfl

lemma history_take (w : World) (actions : List Action) (n : Nat) :
    (w.history actions).take n = w.history (actions.take n) := by
  induction actions generalizing w n with
  | nil => simp [history]
  | cons a rest ih =>
    cases n with
    | zero => rfl
    | succ n => exact congrArg ((w, a) :: ·) (ih (w.step a) n)

/-- The next action is taken in the state that an action leads to. -/
lemma getElem?_history_succ {w v v' : World} {actions : List Action} {a a' : Action} {i : Nat}
    (h : (w.history actions)[i]? = some (v, a)) (h' : (w.history actions)[i + 1]? = some (v', a')) :
    v' = v.step a := by
  rw [getElem?_history] at h h'
  obtain ⟨b, hb, heq⟩ := Option.map_eq_some_iff.1 h
  obtain ⟨b', -, heq'⟩ := Option.map_eq_some_iff.1 h'
  cases heq
  cases heq'
  exact run_take_succ hb

/-- What happens in the last step of a history happens at its end, anything else before. -/
lemma getElem?_concat {history : List Happening} {h x : Happening} {n : Nat}
    (hn : (history ++ [h])[n]? = some x) :
    history[n]? = some x ∨ (n = history.length ∧ x = h) := by
  rcases Nat.lt_trichotomy n history.length with hlt | rfl | hlt
  · exact .inl (by rwa [List.getElem?_append_left hlt] at hn)
  · simp only [List.getElem?_concat_length, Option.some.injEq] at hn
    exact .inr ⟨rfl, hn.symm⟩
  · rw [List.getElem?_eq_none (by simp; omega)] at hn
    cases hn

/-- What holds of a line after a position, and is preserved by every later step, holds of it at every
later position. -/
lemma line_after {w u : World} {actions : List Action} {a : Action} {id : ConnectionId} {n : Nat}
    {P : Nat → Line → Prop} (hu : (w.history actions)[n]? = some (u, a))
    (hfirst : ∃ l, (u.step a).line? id = some l ∧ P (n + 1) l)
    (hstep : ∀ i v b l l', n < i → (w.history actions)[i]? = some (v, b) → v.line? id = some l →
      v.Effect id b l l' → (v.step b).line? id = some l' → P i l → P (i + 1) l')
    {i : Nat} (hi : n < i) {v : World} {b : Action} (hv : (w.history actions)[i]? = some (v, b)) :
    ∃ l, v.line? id = some l ∧ P i l := by
  induction i, hi using Nat.le_induction generalizing v b with
  | base =>
    obtain rfl := getElem?_history_succ hu hv
    exact hfirst
  | succ i hi ih =>
    have hlt : i < (w.history actions).length := by
      have := (List.getElem?_eq_some_iff.1 hv).1
      omega
    obtain ⟨⟨x, c⟩, hx⟩ : ∃ x, (w.history actions)[i]? = some x := ⟨_, List.getElem?_eq_getElem hlt⟩
    obtain rfl := getElem?_history_succ hx hv
    obtain ⟨l, hl, hP⟩ := ih hx
    obtain ⟨l', hl', heffect⟩ := effect_step (a := c) hl
    exact ⟨l', hl', hstep i x c l l' hi hx hl heffect hl' hP⟩

/-- Every state of a run is sound. -/
lemma sound_of_getElem?_history {config : Config} {store : Store} {actions : List Action} {v : World}
    {a : Action} {i : Nat} (hv : ((start config store).history actions)[i]? = some (v, a)) :
    v.Sound := by
  rw [getElem?_history] at hv
  obtain ⟨_, -, heq⟩ := Option.map_eq_some_iff.1 hv
  cases heq
  exact (sound_start config store).run _

lemma config_run (w : World) (actions : List Action) : (w.run actions).config = w.config := by
  induction actions generalizing w with
  | nil => rfl
  | cons a rest ih => exact (ih (w.step a)).trans (grows_step w a).config

/-- The states before one in which there is no line have none either. -/
lemma line?_eq_none_before {w v : World} {actions : List Action} {a : Action} {id : ConnectionId}
    (hnone : (w.run actions).line? id = none) (hv : (v, a) ∈ w.history actions) :
    v.line? id = none := by
  induction actions generalizing w with
  | nil => cases hv
  | cons b rest ih =>
    rcases List.mem_cons.1 hv with heq | hv
    · cases heq
      by_contra hsome
      obtain ⟨l, hl⟩ := Option.ne_none_iff_exists'.1 hsome
      obtain ⟨k, hk, -⟩ := leads_run hl (a :: rest)
      rw [hnone] at hk
      cases hk
    · exact ih hnone hv

/-- What holds of a line that is opened, in the state and with all that has happened until then, and is
preserved by every step, holds of the line at the end of a run. -/
theorem line_run {config : Config} {store : Store} {id : ConnectionId}
    {P : List Happening → World → Line → Prop}
    (hopened : ∀ (past : List Happening) (w : World) (caller : Caller),
      (∀ v a, (v, a) ∈ past → v.line? id = none) → w.config = config → w.line? id = none →
      P (past ++ [(w, .connect id caller)]) (w.step (.connect id caller))
        (.opened config w.now id caller))
    (hstep : ∀ (past : List Happening) (w : World) (a : Action) (l l' : Line), w.config = config →
      w.Sound → w.line? id = some l → w.Effect id a l l' → (w.step a).line? id = some l' →
      P past w l → P (past ++ [(w, a)]) (w.step a) l')
    (actions : List Action) {l : Line} (hl : ((start config store).run actions).line? id = some l) :
    P ((start config store).history actions) ((start config store).run actions) l := by
  induction actions using List.reverseRecOn generalizing l with
  | nil => cases hl
  | append_singleton before a ih =>
    rw [run_concat] at hl ⊢
    rw [history_concat]
    have hconfig : ((start config store).run before).config = config := config_run _ before
    cases hold : ((start config store).run before).line? id with
    | none =>
      obtain ⟨caller, rfl, rfl⟩ := (grows_step _ a).opened id l hl hold
      rw [hconfig]
      exact hopened _ _ caller (fun v b hv => line?_eq_none_before hold hv) hconfig hold
    | some k =>
      obtain ⟨l', hl', heffect⟩ := effect_step (a := a) hold
      rw [hl, Option.some.injEq] at hl'
      subst hl'
      have hsound := (sound_start config store).run before
      exact hstep _ _ a k l hconfig hsound hold heffect hl (ih hold)

/-- So it is with what does not look at the state. -/
theorem line_history {config : Config} {store : Store} {id : ConnectionId}
    {P : List Happening → Line → Prop}
    (hopened : ∀ (past : List Happening) (w : World) (caller : Caller),
      (∀ v a, (v, a) ∈ past → v.line? id = none) → w.config = config → w.line? id = none →
      P (past ++ [(w, .connect id caller)]) (.opened config w.now id caller))
    (hstep : ∀ (past : List Happening) (w : World) (a : Action) (l l' : Line), w.Sound →
      w.line? id = some l → w.Effect id a l l' → (w.step a).line? id = some l' → P past l →
      P (past ++ [(w, a)]) l')
    (actions : List Action) {l : Line} (hl : ((start config store).run actions).line? id = some l) :
    P ((start config store).history actions) l :=
  line_run (P := fun past _ l => P past l) hopened (fun past w a l l' _ => hstep past w a l l') actions
    hl

end EventGateway.World
