import EventGateway.Proofs.Service.Checks
import EventGateway.Proofs.Service.Isolation

/-!
# Checking connections again

A pass over the registered connections, in any order, among whatever else happens while the store stays
as it is and nobody authenticates. The order in which they come up is given by an action before the one
that begins the pass. When the pass is done, of the connections that it was to check those that are still
open have nobody's principal exactly if theirs was not found to stand, or another pass has taken it away;
the pass has changed nothing else, has counted what it has taken away, and the next one takes nothing
away. Main statement: `reauthorization_settles`.
-/

namespace EventGateway

namespace World

/-- The pass takes the principal of somebody away from the connection. -/
def TakesAway (history : List Happening) (index : Nat) (id : ConnectionId) : Prop :=
  ∃ v q, (v, .task (.pass index)) ∈ history ∧ v.principal? id = some q ∧ q ≠ .anonymous ∧
    (v.step (.task (.pass index))).principal? id = some .anonymous

/-- The registered connections come up in the given order when they are to be checked again. Then
whatever else happens. -/
def rechecking (affected : Option String) (ids : List ConnectionId) (actions : List Action) :
    List Action :=
  .reorder ids :: .reauthorize affected :: actions

lemma rechecking_concat (affected : Option String) (ids : List ConnectionId) (actions : List Action)
    (a : Action) :
    rechecking affected ids (actions ++ [a]) = rechecking affected ids actions ++ [a] := rfl

/-- The calls themselves take nobody's principal away. -/
lemma not_takesAway_rechecking (w : World) (affected : Option String) (ids : List ConnectionId)
    (index : Nat) (id : ConnectionId) :
    ¬ TakesAway (w.history (rechecking affected ids [])) index id := by
  rintro ⟨v, q, hv, -⟩
  simp [rechecking, history] at hv

/-- All registered connections are checked again, in some order, among whatever else happens. The store
stays as it is, and nobody authenticates. -/
structure ChecksAgain (w : World) (affected : Option String) (ids : List ConnectionId)
    (actions : List Action) : Prop where
  sound : w.Sound
  order : ids.Perm w.broker.registry
  store : ∀ u, .updateStore u ∉ actions
  nobody : ∀ id n p, ¬ SucceedsAt (w.history (rechecking affected ids actions)) id n
    (.authenticated p)

/-! ### One action -/

section

variable {w v : World} {a : Action} {id : ConnectionId} {index : Nat} {history : List Happening}

lemma principal?_eq_map (hw : w.Sound) (id : ConnectionId) :
    w.principal? id = (w.broker.connection? id).map fun c => c.principal := by
  cases hc : w.broker.connection? id with
  | none =>
    rw [principal?, line?_eq_none_of_connection? hc]
    rfl
  | some c =>
    obtain ⟨l, hl, rfl⟩ := hw.paired.exists_line hc
    rw [principal?, hl]
    rfl

/-- What an action does to a connection, if nobody authenticates in it. -/
lemma connection_step (hw : w.Sound) {c : Connection} (hc : w.broker.connection? id = some c)
    (hnobody : ∀ p, ¬ SucceedsAt [(w, a)] id 0 (.authenticated p)) :
    ∃ c', (w.step a).broker.connection? id = some c' ∧ c'.caller = c.caller ∧
      (c.closed = true → c'.closed = true) ∧
      (c'.principal = c.principal ∨
        (∃ index, a = .task (.pass index)) ∧ c'.principal = .anonymous) := by
  obtain ⟨l, hl, rfl⟩ := hw.paired.exists_line hc
  obtain ⟨l', hl', heffect⟩ := effect_step (a := a) hl
  refine ⟨l'.connection, (line?_eq_some_iff.1 hl').2, heffect.leads.caller,
    heffect.leads.invariant fun _ _ => Line.Move.closed, ?_⟩
  obtain hsame | ⟨rfl, reference, hs⟩ | hdemoted := heffect.principal_cases
  · exact .inl hsame
  · exact absurd ⟨w, l, reference, rfl, hl, hs⟩ (hnobody _)
  · exact .inr hdemoted

/-- A connection that is opened has nobody's principal. -/
lemma anonymous_of_opened (hw : w.Sound) (hnone : w.broker.connection? id = none) {c : Connection}
    (hc : (w.step a).broker.connection? id = some c) : c.principal = .anonymous := by
  obtain ⟨l, hl, rfl⟩ := (hw.step a).paired.exists_line hc
  exact (line_opened (line?_eq_none_of_connection? hnone) hl).1

lemma takesAway_concat : TakesAway (history ++ [(v, a)]) index id ↔
    TakesAway history index id ∨ TakesAway [(v, a)] index id := by
  constructor
  · rintro ⟨u, q, hu, hprincipals⟩
    exact (List.mem_append.1 hu).imp (fun hu => ⟨u, q, hu, hprincipals⟩)
      fun hu => ⟨u, q, hu, hprincipals⟩
  · rintro (⟨u, q, hu, hprincipals⟩ | ⟨u, q, hu, hprincipals⟩)
    · exact ⟨u, q, List.mem_append_left _ hu, hprincipals⟩
    · exact ⟨u, q, List.mem_append_right _ hu, hprincipals⟩

lemma takesAway_singleton_iff (hv : v.Sound) {c c' : Connection}
    (hc : v.broker.connection? id = some c) (hc' : (v.step a).broker.connection? id = some c') :
    TakesAway [(v, a)] index id ↔
      a = .task (.pass index) ∧ c.principal ≠ .anonymous ∧ c'.principal = .anonymous := by
  have hbefore : v.principal? id = some c.principal := by rw [principal?_eq_map hv, hc, Option.map_some]
  have hafter : (v.step a).principal? id = some c'.principal := by
    rw [principal?_eq_map (hv.step a), hc', Option.map_some]
  constructor
  · rintro ⟨u, q, hu, hq, hne, hanonymous⟩
    cases List.mem_singleton.1 hu
    refine ⟨rfl, ?_, Option.some.inj (hafter.symm.trans hanonymous)⟩
    rwa [Option.some.inj (hbefore.symm.trans hq)]
  · rintro ⟨rfl, hne, hanonymous⟩
    exact ⟨v, c.principal, List.mem_singleton_self _, hbefore, hne, by rw [hafter, hanonymous]⟩

lemma not_takesAway_singleton (hv : v.Sound) (hnone : v.broker.connection? id = none) :
    ¬ TakesAway [(v, a)] index id := by
  rintro ⟨u, q, hu, hq, -⟩
  cases List.mem_singleton.1 hu
  rw [principal?_eq_map hv, hnone] at hq
  cases hq

lemma le_step (w : World) (a : Action) : w.now ≤ (w.step a).now := by
  by_cases helapse : ∃ target, a = .elapse target
  · obtain ⟨target, rfl⟩ := helapse
    exact le_elapse w target
  · exact Nat.le_of_eq (now_step (fun target h => helapse ⟨target, h⟩) w).symm

/-- Time does not pass beyond what a pass has to do. -/
lemma step_le_readyAt {p : Pass} (hp : w.passes[index]? = some p) {q : Principal}
    {lookup : Awaited Bool} (hcur : p.current = some (id, q, lookup)) (hnow : w.now ≤ lookup.readyAt)
    (a : Action) : (w.step a).now ≤ lookup.readyAt := by
  by_cases helapse : ∃ target, a = .elapse target
  · obtain ⟨target, rfl⟩ := helapse
    obtain hsame | ⟨htarget, -, hdue⟩ := elapse_cases w target
    · show (w.elapse target).now ≤ lookup.readyAt
      rw [hsame]
      exact hnow
    · have hmem : Task.pass index ∈ w.tasks := by
        have hlt := (List.getElem?_eq_some_iff.1 hp).1
        simp [tasks, hlt]
      have hready : w.readyAt? (.pass index) = some lookup.readyAt := by
        simp only [readyAt?, hp, Option.bind_some, hcur]
      show (w.elapse target).now ≤ lookup.readyAt
      rw [htarget]
      exact hdue _ hmem _ hready
  · rw [now_step (fun target h => helapse ⟨target, h⟩) w]
    exact hnow

/-- A check that is under way stays under way while anything else happens. -/
lemma Looks.step {p : Pass} {affected : Option String} {q : Principal} {lookup : Awaited Bool}
    (h : w.Looks affected id q lookup) (hw : w.Sound) (hp : w.passes[index]? = some p)
    (hcur : p.current = some (id, q, lookup)) (hstore : (w.step a).store = w.store)
    (hnobody : ∀ p, ¬ SucceedsAt [(w, a)] id 0 (.authenticated p)) :
    (w.step a).Looks affected id q lookup := by
  have hconfig := (grows_step w a).config
  obtain ⟨c, hc, hq, t, hcomesTo⟩ := h.connection
  obtain ⟨c', hc', hcaller, -, hprincipal⟩ := connection_step hw hc hnobody
  refine ⟨h.affected, step_le_readyAt hp hcur h.begun a, ?_, c', hc', ?_, t, ?_⟩
  · have hlater := le_step w a
    have hends := h.ends
    rw [timeLimit_congr hconfig]
    omega
  · obtain hsame | ⟨-, hanonymous⟩ := hprincipal
    · rw [hsame]
      exact hq
    · exact .inr hanonymous
  · rw [hcaller, hstore, timeLimit_congr hconfig]
    cases hcomesTo with
    | waiting turn h => exact .waiting turn h

/-- The step of a pass is to go on with it. -/
lemma step_pass {p : Pass} (hp : w.passes[index]? = some p) :
    (w.step (.task (.pass index))).passes[index]? = some (w.advancePass p).2 ∧
      ∃ passes, w.step (.task (.pass index)) = { (w.advancePass p).1 with passes } := by
  simp only [step, work, runPass, hp]
  refine ⟨?_, _, rfl⟩
  rw [(demotes_advancePass w p).passes]
  exact List.getElem?_set_self (List.getElem?_eq_some_iff.1 hp).1

/-- A pass stays where it is while anything else happens. -/
lemma step_other_pass {p : Pass} (hp : w.passes[index]? = some p) (ha : a ≠ .task (.pass index)) :
    (w.step a).passes[index]? = some p := by
  have hlt := Nat.lt_of_lt_of_le (List.getElem?_eq_some_iff.1 hp).1 (grows_step w a).passes
  obtain ⟨p', hp'⟩ : ∃ p', (w.step a).passes[index]? = some p' := ⟨_, List.getElem?_eq_getElem hlt⟩
  obtain hsame | ⟨-, hown, -⟩ | ⟨hnone, -⟩ := passes_step hp'
  · rw [hp', ← hsame, hp]
  · exact absurd hown ha
  · rw [hp] at hnone
    cases hnone

/-- The step of a pass deprives the connections that it has settled and whose principals do not stand. -/
lemma deprives_step {p : Pass} (hp : w.passes[index]? = some p) {settled lost : List ConnectionId}
    (h : w.Advances p p.todo settled lost (w.advancePass p).1 (w.advancePass p).2) :
    w.Deprives (w.step (.task (.pass index))) lost := by
  obtain ⟨passes, heq⟩ := (step_pass hp).2
  rw [heq]
  have hdeprives := h.toDeprives
  exact ⟨hdeprives.connection, hdeprives.registry, hdeprives.table, hdeprives.sessions,
    hdeprives.config, hdeprives.store, hdeprives.now, hdeprives.bus, hdeprives.listener⟩

/-- The step of a pass takes away what it deprives connections of. -/
lemma mem_lost_iff (hw : w.Sound) {p : Pass} (hp : w.passes[index]? = some p)
    {settled lost : List ConnectionId}
    (h : w.Advances p p.todo settled lost (w.advancePass p).1 (w.advancePass p).2) :
    id ∈ lost ↔ TakesAway [(w, .task (.pass index))] index id := by
  have hdeprives := deprives_step hp h
  constructor
  · intro hlost
    obtain ⟨-, c, hc, haffected, -⟩ := h.only id hlost
    have hd : (w.step (.task (.pass index))).broker.connection? id =
        some (c.setPrincipal .anonymous) := by
      rw [hdeprives.connection, if_pos hlost, hc, Option.map_some]
    exact (takesAway_singleton_iff hw hc hd).2 ⟨rfl, haffected.ne_anonymous, rfl⟩
  · intro htaken
    by_contra hnot
    cases hc : w.broker.connection? id with
    | none => exact not_takesAway_singleton hw hc htaken
    | some c =>
      have hd := (hdeprives.connection_of_not_mem hnot).trans hc
      obtain ⟨-, hne, hanonymous⟩ := (takesAway_singleton_iff hw hc hd).1 htaken
      exact hne hanonymous

end

/-! ### What becomes of connections -/

/-- Since the start of a run connections have come from where they came from, those that were closed have
stayed closed, and principals have only been taken away by passes. -/
structure Tracks (w : World) (history : List Happening) (v : World) : Prop where
  sound : v.Sound
  store : v.store = w.store
  config : v.config = w.config
  connection : ∀ id c, w.broker.connection? id = some c → ∃ c', v.broker.connection? id = some c' ∧
    c'.caller = c.caller ∧ (c.closed = true → c'.closed = true) ∧
    ((c'.principal = c.principal ∧ ∀ j, ¬ TakesAway history j id) ∨
      (c'.principal = .anonymous ∧ ∃ j, TakesAway history j id))
  newcomer : ∀ id, w.broker.connection? id = none →
    (∀ c', v.broker.connection? id = some c' → c'.principal = .anonymous) ∧
      ∀ j, ¬ TakesAway history j id

namespace Tracks

variable {w v : World} {history : List Happening} {a : Action} {id : ConnectionId} {index : Nat}

lemma refl (hw : w.Sound) : Tracks w [] w where
  sound := hw
  store := rfl
  config := rfl
  connection id c hc := ⟨c, hc, rfl, fun h => h, .inl ⟨rfl, fun _ ⟨_, _, hu, _⟩ => nomatch hu⟩⟩
  newcomer id hnone := by
    refine ⟨fun c hc => ?_, fun _ ⟨_, _, hu, _⟩ => nomatch hu⟩
    rw [hnone] at hc
    cases hc

lemma step (h : Tracks w history v) (hstore : (v.step a).store = v.store)
    (hnobody : ∀ id p, ¬ SucceedsAt [(v, a)] id 0 (.authenticated p)) :
    Tracks w (history ++ [(v, a)]) (v.step a) where
  sound := h.sound.step a
  store := hstore.trans h.store
  config := (grows_step v a).config.trans h.config
  connection id c hc := by
    obtain ⟨c', hc', hcaller, hclosed, hprincipal⟩ := h.connection id c hc
    obtain ⟨d, hd, hcaller', hclosed', hprincipal'⟩ := connection_step h.sound hc' (hnobody id)
    refine ⟨d, hd, hcaller'.trans hcaller, hclosed' ∘ hclosed, ?_⟩
    simp only [takesAway_concat, takesAway_singleton_iff h.sound hc' hd]
    obtain ⟨hsame, hnot⟩ | ⟨hanonymous, j, htaken⟩ := hprincipal
    · by_cases htaken : c'.principal ≠ .anonymous ∧ d.principal = .anonymous
      · obtain hkept | ⟨⟨j, rfl⟩, -⟩ := hprincipal'
        · exact absurd (hkept.symm.trans htaken.2) htaken.1
        · exact .inr ⟨htaken.2, j, .inr ⟨rfl, htaken⟩⟩
      · refine .inl ⟨?_, fun j => not_or.2 ⟨hnot j, fun h => htaken h.2⟩⟩
        obtain hkept | ⟨-, hlost⟩ := hprincipal'
        · exact hkept.trans hsame
        · rw [hlost, ← hsame]
          by_contra hne
          exact htaken ⟨fun h => hne h.symm, hlost⟩
    · refine .inr ⟨?_, j, .inl htaken⟩
      obtain hkept | ⟨-, hlost⟩ := hprincipal'
      · exact hkept.trans hanonymous
      · exact hlost
  newcomer id hnone := by
    obtain ⟨hanonymous, hnot⟩ := h.newcomer id hnone
    simp only [takesAway_concat, not_or, forall_and]
    cases hc : v.broker.connection? id with
    | none =>
      exact ⟨fun d hd => anonymous_of_opened h.sound hc hd, hnot,
        fun j => not_takesAway_singleton h.sound hc⟩
    | some c =>
      have hc' := hanonymous c hc
      obtain ⟨d, hd, -, -, hprincipal⟩ := connection_step h.sound hc (hnobody id)
      refine ⟨fun e he => ?_, hnot, fun j => ?_⟩
      · obtain rfl := Option.some.inj (hd.symm.trans he)
        obtain hkept | ⟨-, hlost⟩ := hprincipal
        · exact hkept.trans hc'
        · exact hlost
      · rw [takesAway_singleton_iff h.sound hc hd]
        exact fun htaken => htaken.2.1 hc'

/-- Somebody who acts on a connection now has acted on it from the start. -/
lemma exists_origin (h : Tracks w history v) {c' : Connection}
    (hc' : v.broker.connection? id = some c') (hne : c'.principal ≠ .anonymous) :
    ∃ c, w.broker.connection? id = some c ∧ c'.principal = c.principal ∧
      (c.closed = true → c'.closed = true) ∧ (v.Confirms c' ↔ w.Confirms c) := by
  cases hc : w.broker.connection? id with
  | none => exact absurd ((h.newcomer id hc).1 c' hc') hne
  | some c =>
    obtain ⟨d, hd, hcaller, hclosed, hprincipal⟩ := h.connection id c hc
    obtain rfl := Option.some.inj (hd.symm.trans hc')
    obtain ⟨hsame, -⟩ | ⟨hanonymous, -⟩ := hprincipal
    · exact ⟨c, rfl, hsame, hclosed, confirms_congr h.store h.config hsame hcaller⟩
    · exact absurd hanonymous hne

end Tracks

/-! ### How far a pass has come -/

/-- How far the pass has come: of the connections in their order it has settled the first ones, and among
them taken some principals away, which it has counted. -/
structure Follows (w : World) (affected : Option String) (ids : List ConnectionId) (index : Nat)
    (history : List Happening) (v : World) (p : Pass) (settled mine : List ConnectionId) : Prop where
  pass : v.passes[index]? = some p
  user : p.affected = affected
  todo : ids = settled ++ p.todo
  looks : ∀ id q lookup, p.current = some (id, q, lookup) → v.Looks affected id q lookup
  nodup : mine.Nodup
  mem : ∀ id, id ∈ mine ↔ TakesAway history index id
  demoted : p.demoted = mine.length
  only : ∀ id ∈ mine, id ∈ settled ∧ ∃ c, w.broker.connection? id = some c ∧
    c.principal.IsAffected affected ∧ ¬ w.Confirms c
  all : ∀ id ∈ settled, ∀ c, w.broker.connection? id = some c → c.Concerned affected →
    ¬ w.Confirms c → ∀ c', v.broker.connection? id = some c' → c'.closed = false →
    c'.principal = .anonymous

namespace Follows

variable {w v : World} {affected : Option String} {ids settled mine : List ConnectionId} {index : Nat}
  {history : List Happening} {p : Pass} {a : Action}

/-- Whatever else happens leaves the pass where it is. -/
lemma step_other (h : Follows w affected ids index history v p settled mine) (ht : Tracks w history v)
    (ha : a ≠ .task (.pass index)) (hstore : (v.step a).store = v.store)
    (hnobody : ∀ id p, ¬ SucceedsAt [(v, a)] id 0 (.authenticated p)) :
    Follows w affected ids index (history ++ [(v, a)]) (v.step a) p settled mine where
  pass := step_other_pass h.pass ha
  user := h.user
  todo := h.todo
  looks id q lookup hcur :=
    (h.looks id q lookup hcur).step ht.sound h.pass hcur hstore (hnobody id)
  nodup := h.nodup
  mem id := by
    rw [h.mem, takesAway_concat]
    refine ⟨.inl, fun htaken => htaken.resolve_right ?_⟩
    rintro ⟨u, q, hu, -⟩
    exact ha (Prod.mk.inj (List.mem_singleton.1 hu)).2.symm
  demoted := h.demoted
  only := h.only
  all id hid c hc hconcerned hrefuted d hd hopen := by
    obtain ⟨c', hc', -⟩ := ht.connection id c hc
    obtain ⟨d', hd', -, hclosed, hprincipal⟩ := connection_step ht.sound hc' (hnobody id)
    obtain rfl := Option.some.inj (hd'.symm.trans hd)
    obtain hkept | ⟨-, hlost⟩ := hprincipal
    · refine hkept.trans (h.all id hid c hc hconcerned hrefuted c' hc' ?_)
      cases hstill : c'.closed with
      | false => rfl
      | true =>
        rw [hclosed hstill] at hopen
        cases hopen
    · exact hlost

/-- The pass can go on with the connections that it has not settled. -/
lemma exists_advances (h : Follows w affected ids index history v p settled mine) (hids : ids.Nodup) :
    ∃ next lost, v.Advances p p.todo next lost (v.advancePass p).1 (v.advancePass p).2 := by
  obtain rfl := h.user
  rw [h.todo] at hids
  exact exists_advances_advancePass (List.nodup_append'.1 hids).2.1 h.looks

/-- The pass goes on. -/
lemma exists_step (h : Follows w affected ids index history v p settled mine) (ht : Tracks w history v)
    (hids : ids.Nodup) :
    ∃ p' settled' mine', Follows w affected ids index (history ++ [(v, .task (.pass index))])
      (v.step (.task (.pass index))) p' settled' mine' := by
  obtain ⟨next, lost, hadvances⟩ := h.exists_advances hids
  obtain rfl := h.user
  have hsplit := h.todo
  have hdeprives := deprives_step h.pass hadvances
  obtain ⟨hpass, passes, heq⟩ := step_pass h.pass
  have hapart : settled.Disjoint next := by
    intro id hid hnext
    refine (List.nodup_append'.1 (hsplit ▸ hids)).2.2 hid ?_
    rw [hadvances.todo]
    exact List.mem_append_left _ hnext
  refine ⟨(v.advancePass p).2, settled ++ next, mine ++ lost, ?_⟩
  exact {
    pass := hpass
    user := hadvances.affected
    todo := by rw [List.append_assoc, ← hadvances.todo, ← hsplit]
    looks := fun id q lookup hcur => by
      have hlooks := hadvances.looks id q lookup hcur
      rw [heq]
      exact ⟨hlooks.affected, hlooks.begun, hlooks.ends, hlooks.connection⟩
    nodup := by
      refine List.nodup_append'.2 ⟨h.nodup, hadvances.nodup, ?_⟩
      intro id hmine hlost
      exact hapart (h.only id hmine).1 (hadvances.only id hlost).1
    mem := fun id => by
      rw [List.mem_append, h.mem, takesAway_concat, mem_lost_iff ht.sound h.pass hadvances]
    demoted := by rw [hadvances.demoted, h.demoted, List.length_append]
    only := fun id hid => by
      obtain hid | hid := List.mem_append.1 hid
      · obtain ⟨hsettled, hc⟩ := h.only id hid
        exact ⟨List.mem_append_left _ hsettled, hc⟩
      · obtain ⟨hnext, c', hc', haffected, hrefuted⟩ := hadvances.only id hid
        obtain ⟨c, hc, hsame, -, hconfirms⟩ := ht.exists_origin hc' haffected.ne_anonymous
        exact ⟨List.mem_append_right _ hnext, c, hc, hsame ▸ haffected, mt hconfirms.2 hrefuted⟩
    all := fun id hid c hc hconcerned hrefuted d hd hopen => by
      obtain ⟨c', hc', -⟩ := ht.connection id c hc
      obtain ⟨hclosed, hanonymous, hlost⟩ := hdeprives.of_connection hc' hd
      obtain hid | hid := List.mem_append.1 hid
      · exact hanonymous (h.all id hid c hc hconcerned hrefuted c' hc' (hclosed.symm.trans hopen))
      · by_cases hnobody : c'.principal = .anonymous
        · exact hanonymous hnobody
        · obtain ⟨c₀, hc₀, hsame, -, hconfirms⟩ := ht.exists_origin hc' hnobody
          obtain rfl := Option.some.inj (hc₀.symm.trans hc)
          refine hlost (hadvances.all id hid c' hc' ⟨hclosed.symm.trans hopen, ?_⟩
            (mt hconfirms.1 hrefuted))
          rw [hsame]
          exact hconcerned.2 }

end Follows

/-! ### A call -/

section

variable {w : World} {affected : Option String} {ids : List ConnectionId} {actions : List Action}

lemma ChecksAgain.nodup (h : ChecksAgain w affected ids actions) : ids.Nodup :=
  h.order.nodup_iff.2 h.sound.broker.nodup

/-- A call up to some action. -/
lemma ChecksAgain.before {before after : List Action}
    (h : ChecksAgain w affected ids (before ++ after)) : ChecksAgain w affected ids before where
  sound := h.sound
  order := h.order
  store u hu := h.store u (List.mem_append_left _ hu)
  nobody id n p := by
    rintro ⟨v, l, reference, hv, hsucceeds⟩
    refine h.nobody id n p ⟨v, l, reference, ?_, hsucceeds⟩
    have htake := history_take w (rechecking affected ids before ++ after)
      (rechecking affected ids before).length
    rw [List.take_left] at htake
    rw [← htake] at hv
    show (w.history (rechecking affected ids before ++ after))[n]? = _
    rw [← List.take_append_drop (rechecking affected ids before).length (w.history _),
      List.getElem?_append_left (List.getElem?_eq_some_iff.1 hv).1]
    exact hv

/-- Nobody authenticates in the last action. -/
lemma ChecksAgain.nobody_last {before : List Action} {a : Action}
    (h : ChecksAgain w affected ids (before ++ [a])) (id : ConnectionId) (p : Principal) :
    ¬ SucceedsAt [(w.run (rechecking affected ids before), a)] id 0 (.authenticated p) := by
  rintro ⟨v, l, reference, hv, hsucceeds⟩
  refine h.nobody id (w.history (rechecking affected ids before)).length p
    ⟨v, l, reference, ?_, hsucceeds⟩
  rw [rechecking_concat, history_concat, List.getElem?_concat_length]
  exact hv

/-- The pass that is begun is to check the connections in the given order. -/
lemma passes_run_rechecking (horder : ids.Perm w.broker.registry) (affected : Option String) :
    (w.run (rechecking affected ids [])).passes = w.passes ++ [{ affected, remaining := ids }] := by
  have hregistry : (w.broker.reorder ids).registry = ids := by
    rw [Broker.reorder, if_pos (List.isPerm_iff.2 horder)]
  show w.passes ++ [{ affected, remaining := (w.broker.reorder ids).registry }] = _
  rw [hregistry]

lemma Tracks.rechecking (hw : w.Sound) (affected : Option String) (ids : List ConnectionId) :
    Tracks w (w.history (rechecking affected ids [])) (w.run (rechecking affected ids [])) := by
  have hidle : ∀ (v : World) (a : Action), (∀ id, a ≠ .task (.reader id)) → ∀ id p,
      ¬ SucceedsAt [(v, a)] id 0 (.authenticated p) := by
    rintro v a ha id p ⟨u, l, reference, hu, -⟩
    exact ha id (Prod.mk.inj (Option.some.inj hu)).2
  exact ((Tracks.refl hw).step (a := .reorder ids) rfl (hidle _ _ fun _ => by simp)).step
    (a := .reauthorize affected) rfl (hidle _ _ fun _ => by simp)

/-- What has become of connections, and how far the pass has come. -/
theorem ChecksAgain.exists_follows (h : ChecksAgain w affected ids actions) :
    let history := w.history (rechecking affected ids actions)
    let w' := w.run (rechecking affected ids actions)
    Tracks w history w' ∧
      ∃ p settled mine, Follows w affected ids w.passes.length history w' p settled mine := by
  induction actions using List.reverseRecOn with
  | nil =>
    refine ⟨.rechecking h.sound affected ids, { affected, remaining := ids }, [], [], ?_⟩
    exact {
      pass := by rw [passes_run_rechecking h.order, List.getElem?_concat_length]
      user := rfl
      todo := rfl
      looks := fun _ _ _ hcur => nomatch hcur
      nodup := .nil
      mem := fun id => ⟨fun hid => absurd hid List.not_mem_nil, fun htaken =>
        absurd htaken (not_takesAway_rechecking w affected ids _ id)⟩
      demoted := rfl
      only := fun _ hid => absurd hid List.not_mem_nil
      all := fun _ hid => absurd hid List.not_mem_nil }
  | append_singleton before a ih =>
    obtain ⟨htracks, p, settled, mine, hfollows⟩ := ih h.before
    have hnobody := h.nobody_last
    have hstore : ((w.run (rechecking affected ids before)).step a).store =
        (w.run (rechecking affected ids before)).store :=
      store_step (fun u hu => h.store u (hu ▸ List.mem_append_right _ (List.mem_singleton_self _))) _
    rw [rechecking_concat, history_concat, run_concat]
    refine ⟨htracks.step hstore hnobody, ?_⟩
    by_cases ha : a = .task (.pass w.passes.length)
    · obtain rfl := ha
      exact hfollows.exists_step htracks h.nodup
    · exact ⟨p, settled, mine, hfollows.step_other htracks ha hstore hnobody⟩

/-- A step of the pass changes nothing but that it takes some principals away. -/
lemma ChecksAgain.exists_deprives (h : ChecksAgain w affected ids actions) {v : World}
    (hv : (v, .task (.pass w.passes.length)) ∈ w.history (rechecking affected ids actions)) :
    ∃ lost, v.Deprives (v.step (.task (.pass w.passes.length))) lost ∧
      ∀ id ∈ lost, TakesAway (w.history (rechecking affected ids actions)) w.passes.length id := by
  obtain ⟨i, hi⟩ := List.getElem?_of_mem hv
  -- the two calls themselves are no steps of a pass
  obtain ⟨i, rfl⟩ : ∃ j, i = j + 2 := by
    obtain _ | _ | j := i
    · cases hi
    · cases hi
    · exact ⟨j, rfl⟩
  rw [getElem?_history] at hi
  obtain ⟨a, -, heq⟩ := Option.map_eq_some_iff.1 hi
  obtain ⟨rfl, -⟩ := Prod.mk.inj heq
  rw [← List.take_append_drop i actions] at h
  obtain ⟨htracks, p, settled, mine, hfollows⟩ := h.before.exists_follows
  obtain ⟨next, lost, hadvances⟩ := hfollows.exists_advances h.nodup
  refine ⟨lost, deprives_step hfollows.pass hadvances, fun id hid => ?_⟩
  obtain ⟨u, q, hu, htaken⟩ := (mem_lost_iff htracks.sound hfollows.pass hadvances).1 hid
  cases List.mem_singleton.1 hu
  exact ⟨_, q, hv, htaken⟩

/-- As time passes, nothing else changes. -/
lemma Deprives.elapse {v : World} {lost : List ConnectionId}
    (h : ({ w with now := v.now } : World).Deprives v lost) (target : Nat) :
    ({ w with now := (v.elapse target).now } : World).Deprives (v.elapse target) lost := by
  unfold World.elapse
  split
  · exact ⟨h.connection, h.registry, h.table, h.sessions, h.config, h.store, rfl, h.bus, h.listener⟩
  · exact h

/-- While nothing else happens, a call changes nothing but that it takes some principals away. -/
lemma ChecksAgain.exists_deprives_alone (h : ChecksAgain w affected ids actions)
    (halone : ∀ a ∈ actions, a = .task (.pass w.passes.length) ∨ ∃ target, a = .elapse target) :
    let history := w.history (rechecking affected ids actions)
    let w' := w.run (rechecking affected ids actions)
    ∃ lost, ({ w.step (.reorder ids) with now := w'.now } : World).Deprives w' lost ∧
      ∀ id ∈ lost, TakesAway history w.passes.length id := by
  induction actions using List.reverseRecOn with
  | nil =>
    have hrefl := Deprives.refl (w.step (.reorder ids))
    exact ⟨[], ⟨hrefl.connection, rfl, rfl, rfl, rfl, rfl, rfl, rfl, rfl⟩,
      fun _ hid => absurd hid List.not_mem_nil⟩
  | append_singleton before a ih =>
    obtain ⟨lost, hdeprives, htaken⟩ := ih h.before fun b hb => halone b (List.mem_append_left _ hb)
    have hlast := halone a (List.mem_append_right _ (List.mem_singleton_self _))
    rw [rechecking_concat, run_concat]
    obtain rfl | ⟨target, rfl⟩ := hlast
    · obtain ⟨lost', hdeprives', htaken'⟩ := h.exists_deprives (v := w.run _) <| by
        rw [rechecking_concat, history_concat]
        exact List.mem_append_right _ (List.mem_singleton_self _)
      refine ⟨lost ++ lost', ?_, ?_⟩
      · rw [hdeprives'.now]
        exact hdeprives.trans hdeprives'
      · intro id hid
        obtain hid | hid := List.mem_append.1 hid
        · rw [history_concat, takesAway_concat]
          exact .inl (htaken id hid)
        · exact htaken' id hid
    · refine ⟨lost, hdeprives.elapse target, fun id hid => ?_⟩
      rw [history_concat, takesAway_concat]
      exact .inl (htaken id hid)

/-- What the pass takes away is the principal of a connection that it was to check and whose principal
does not stand. -/
lemma ChecksAgain.refuted_of_takesAway (h : ChecksAgain w affected ids actions) {id : ConnectionId}
    (htaken : TakesAway (w.history (rechecking affected ids actions)) w.passes.length id) :
    ∃ c, w.broker.connection? id = some c ∧ c.Concerned affected ∧ ¬ w.Confirms c := by
  obtain ⟨-, p, settled, mine, hfollows⟩ := h.exists_follows
  obtain ⟨hsettled, c, hc, haffected, hrefuted⟩ := hfollows.only id ((hfollows.mem id).2 htaken)
  have hid : id ∈ ids := by
    rw [hfollows.todo]
    exact List.mem_append_left _ hsettled
  obtain ⟨c', hc', hopen⟩ := (h.sound.broker.registered id).1 (h.order.mem_iff.1 hid)
  obtain rfl := Option.some.inj (hc'.symm.trans hc)
  exact ⟨c', hc', ⟨hopen, haffected⟩, hrefuted⟩

/-- When the pass is done, a connection that it was to check and whose principal does not stand has
nobody's principal, or is closed. -/
lemma ChecksAgain.anonymous_of_refuted (h : ChecksAgain w affected ids actions) {p : Pass}
    (hp : (w.run (rechecking affected ids actions)).passes[w.passes.length]? = some p)
    (hdone : p.isDone = true) {id : ConnectionId} {c c' : Connection}
    (hc : w.broker.connection? id = some c) (hconcerned : c.Concerned affected)
    (hrefuted : ¬ w.Confirms c)
    (hc' : (w.run (rechecking affected ids actions)).broker.connection? id = some c')
    (hopen : c'.closed = false) : c'.principal = .anonymous := by
  obtain ⟨-, p', settled, mine, hfollows⟩ := h.exists_follows
  obtain rfl := Option.some.inj (hp.symm.trans hfollows.pass)
  have hall := hfollows.todo
  rw [Pass.todo_of_isDone hdone, List.append_nil] at hall
  have hid : id ∈ settled := by
    rw [← hall]
    exact h.order.mem_iff.2 ((h.sound.broker.registered id).2 ⟨c, hc, hconcerned.1⟩)
  exact hfollows.all id hid c hc hconcerned hrefuted c' hc' hopen

end

/-! ### How many steps it takes -/

/-- Is it a step in which the pass has something to do? -/
def goesOn (index : Nat) (x : Happening) : Bool :=
  match x.2 with
  | .task (.pass i) => i = index && x.1.isDue x.2
  | _ => false

section

variable {v : World} {index : Nat} {p : Pass}

lemma goesOn_iff (hp : v.passes[index]? = some p) : goesOn index (v, .task (.pass index)) = true ↔
    (p.current = none ∧ p.remaining ≠ []) ∨
      ∃ id q lookup, p.current = some (id, q, lookup) ∧ lookup.readyAt ≤ v.now := by
  simp only [goesOn, decide_true, Bool.true_and, isDue, readyAt?, hp, Option.bind_some]
  cases p.current with
  | none => cases p.remaining <;> simp
  | some check =>
    obtain ⟨id, q, lookup⟩ := check
    simp

lemma goesOn_of_ne {a : Action} (ha : a ≠ .task (.pass index)) : goesOn index (v, a) = false := by
  unfold goesOn
  split
  · next i heq =>
    have hne : i ≠ index := fun h => ha (h ▸ heq)
    simp [hne]
  · rfl

/-- A pass that has something to do is not done, and has fewer steps to take afterwards. -/
lemma isOverIn_of_goesOn (hp : v.passes[index]? = some p) {n : Nat} (hover : p.IsOverIn n)
    (h : goesOn index (v, .task (.pass index)) = true) :
    0 < n ∧ (v.advancePass p).2.IsOverIn (n - 1) := by
  obtain ⟨hcur, hsome⟩ | ⟨id, q, lookup, hcur, hready⟩ := (goesOn_iff hp).1 h
  · apply isOverIn_advancePass hover
    · simpa [Pass.isDone, hcur] using hsome
    · intro _ _ _ hcur'
      cases hcur.symm.trans hcur'
  · apply isOverIn_advancePass hover
    · simp [Pass.isDone, hcur]
    · intro _ _ _ hcur'
      cases hcur.symm.trans hcur'
      exact hready

/-- A pass that has nothing to do stays as it is. -/
lemma advancePass_of_not_goesOn (hp : v.passes[index]? = some p)
    (h : goesOn index (v, .task (.pass index)) = false) : (v.advancePass p).2 = p := by
  have hidle := mt (goesOn_iff hp).2 (Bool.eq_false_iff.1 h)
  unfold advancePass
  cases hcur : p.current with
  | none =>
    have hnone : p.remaining = [] := by
      by_contra hsome
      exact hidle (.inl ⟨hcur, hsome⟩)
    dsimp only
    rw [hnone, checkRemaining, ← hnone]
  | some check =>
    obtain ⟨id, q, lookup⟩ := check
    dsimp only
    rw [if_neg fun hready => hidle (.inr ⟨id, q, lookup, hcur, hready⟩)]

/-- A pass goes on in three steps for each connection at most, whatever happens besides. -/
lemma exists_isOverIn {w : World} {ids : List ConnectionId} (horder : ids.Perm w.broker.registry)
    (affected : Option String) (actions : List Action) :
    ∃ p n, (w.run (rechecking affected ids actions)).passes[w.passes.length]? = some p ∧
      p.IsOverIn n ∧
      n + (w.history (rechecking affected ids actions)).countP (goesOn w.passes.length) ≤
        3 * ids.length := by
  induction actions using List.reverseRecOn with
  | nil =>
    refine ⟨{ affected, remaining := ids }, 3 * ids.length, ?_, Nat.le_refl _, Nat.le_refl _⟩
    rw [passes_run_rechecking horder, List.getElem?_concat_length]
  | append_singleton before a ih =>
    obtain ⟨p, n, hp, hover, hcount⟩ := ih
    rw [rechecking_concat, history_concat, run_concat, List.countP_append, List.countP_singleton]
    by_cases ha : a = .task (.pass w.passes.length)
    · subst ha
      cases hgoes : goesOn w.passes.length
          (w.run (rechecking affected ids before), .task (.pass w.passes.length)) with
      | true =>
        obtain ⟨hpos, hfewer⟩ := isOverIn_of_goesOn hp hover hgoes
        refine ⟨_, n - 1, (step_pass hp).1, hfewer, ?_⟩
        rw [if_pos rfl]
        omega
      | false =>
        refine ⟨_, n, (step_pass hp).1, ?_, ?_⟩
        · rw [advancePass_of_not_goesOn hp hgoes]
          exact hover
        · simpa using hcount
    · refine ⟨p, n, step_other_pass hp ha, hover, ?_⟩
      simpa [goesOn_of_ne ha] using hcount

end

/-! ### What a call comes to -/

/-- A pass changes nothing but that it takes principals away. -/
structure OnlyTakesAway (w : World) (affected : Option String) (ids : List ConnectionId)
    (actions : List Action) : Prop where
  /-- A step of it does not, whatever happens besides. -/
  step : ∀ v, (v, .task (.pass w.passes.length)) ∈ w.history (rechecking affected ids actions) →
    ∃ lost, v.Deprives (v.step (.task (.pass w.passes.length))) lost ∧
      ∀ id ∈ lost, TakesAway (w.history (rechecking affected ids actions)) w.passes.length id
  /-- Nor does the whole of it, if nothing happens besides. -/
  alone : (∀ a ∈ actions, a = .task (.pass w.passes.length) ∨ ∃ target, a = .elapse target) →
    ∃ lost, ({ w.step (.reorder ids) with now := (w.run (rechecking affected ids actions)).now } :
        World).Deprives (w.run (rechecking affected ids actions)) lost ∧
      ∀ id ∈ lost, TakesAway (w.history (rechecking affected ids actions)) w.passes.length id

/-- What a pass has come to that is done: `demoted` is its count. -/
structure Reauthorized (w : World) (affected : Option String) (index : Nat) (history : List Happening)
    (w' : World) (demoted : Nat) : Prop where
  /-- Somebody who was to be checked acts on an open connection no more exactly if the principal did not
  stand in time, or if another pass has taken it away. -/
  checked : ∀ id c c', w.broker.connection? id = some c → c.Concerned affected →
    w'.broker.connection? id = some c' → c'.closed = false →
    (c'.principal = .anonymous ↔ ¬ w.Confirms c ∨ ∃ other ≠ index, TakesAway history other id)
  /-- Every other connection keeps its principal, but for other passes. -/
  spared : ∀ id c, w.broker.connection? id = some c → ¬ (c.Concerned affected ∧ ¬ w.Confirms c) →
    ¬ TakesAway history index id ∧ ∃ c', w'.broker.connection? id = some c' ∧
      (c'.principal = c.principal ∨ ∃ other ≠ index, TakesAway history other id)
  /-- Each that loses its principal to the pass is counted once. -/
  counted : ∃ lost : List ConnectionId, lost.Nodup ∧
    (∀ id, id ∈ lost ↔ TakesAway history index id) ∧ demoted = lost.length

section

variable {w : World} {affected : Option String} {ids : List ConnectionId} {actions : List Action}

lemma ChecksAgain.onlyTakesAway (h : ChecksAgain w affected ids actions) :
    OnlyTakesAway w affected ids actions where
  step _ hv := h.exists_deprives hv
  alone halone := h.exists_deprives_alone halone

/-- A pass that is not done has something to do before the time limit of one check is over. -/
lemma ChecksAgain.exists_readyAt (h : ChecksAgain w affected ids actions) {p : Pass}
    (hp : (w.run (rechecking affected ids actions)).passes[w.passes.length]? = some p)
    (hgoes : p.isDone = false) :
    ∃ t, (w.run (rechecking affected ids actions)).readyAt? (.pass w.passes.length) = some t ∧
      t ≤ (w.run (rechecking affected ids actions)).now + w.timeLimit := by
  obtain ⟨htracks, p', settled, mine, hfollows⟩ := h.exists_follows
  obtain rfl := Option.some.inj (hp.symm.trans hfollows.pass)
  simp only [readyAt?, hp, Option.bind_some]
  cases hcur : p.current with
  | none =>
    have hsome : p.remaining ≠ [] := by simpa [Pass.isDone, hcur] using hgoes
    exact ⟨0, by simp [hsome], Nat.zero_le _⟩
  | some check =>
    obtain ⟨id, q, lookup⟩ := check
    have hends := (hfollows.looks id q lookup hcur).ends
    rw [timeLimit_congr htracks.config] at hends
    exact ⟨lookup.readyAt, rfl, Nat.le_trans (Nat.min_le_right _ _) hends⟩

lemma ChecksAgain.reauthorized (h : ChecksAgain w affected ids actions) {p : Pass}
    (hp : (w.run (rechecking affected ids actions)).passes[w.passes.length]? = some p)
    (hdone : p.isDone = true) :
    Reauthorized w affected w.passes.length (w.history (rechecking affected ids actions))
      (w.run (rechecking affected ids actions)) p.demoted where
  checked id c c' hc hconcerned hc' hopen := by
    obtain ⟨htracks, -⟩ := h.exists_follows
    obtain ⟨d, hd, -, -, hprincipal⟩ := htracks.connection id c hc
    obtain rfl := Option.some.inj (hd.symm.trans hc')
    constructor
    · intro hanonymous
      obtain ⟨hsame, -⟩ | ⟨-, j, htaken⟩ := hprincipal
      · exact absurd (hsame.symm.trans hanonymous) hconcerned.2.ne_anonymous
      · by_cases hj : j = w.passes.length
        · obtain ⟨c₀, hc₀, -, hrefuted⟩ := h.refuted_of_takesAway (hj ▸ htaken)
          obtain rfl := Option.some.inj (hc₀.symm.trans hc)
          exact .inl hrefuted
        · exact .inr ⟨j, hj, htaken⟩
    · rintro (hrefuted | ⟨j, -, htaken⟩)
      · exact h.anonymous_of_refuted hp hdone hc hconcerned hrefuted hc' hopen
      · exact hprincipal.elim (fun hkept => absurd htaken (hkept.2 j)) fun hlost => hlost.1
  spared id c hc hspared := by
    obtain ⟨htracks, -⟩ := h.exists_follows
    have hnot : ¬ TakesAway (w.history (rechecking affected ids actions)) w.passes.length id := by
      intro htaken
      obtain ⟨c₀, hc₀, hrefuted⟩ := h.refuted_of_takesAway htaken
      obtain rfl := Option.some.inj (hc₀.symm.trans hc)
      exact hspared hrefuted
    obtain ⟨d, hd, -, -, hprincipal⟩ := htracks.connection id c hc
    refine ⟨hnot, d, hd, hprincipal.imp And.left ?_⟩
    rintro ⟨-, j, htaken⟩
    exact ⟨j, fun hj => hnot (hj ▸ htaken), htaken⟩
  counted := by
    obtain ⟨-, p', settled, mine, hfollows⟩ := h.exists_follows
    obtain rfl := Option.some.inj (hp.symm.trans hfollows.pass)
    exact ⟨mine, hfollows.nodup, hfollows.mem, hfollows.demoted⟩

/-- A pass that follows one that is done takes nothing away. -/
lemma ChecksAgain.not_takesAway_again (h : ChecksAgain w affected ids actions) {p : Pass}
    (hp : (w.run (rechecking affected ids actions)).passes[w.passes.length]? = some p)
    (hdone : p.isDone = true) {w' : World} (hw' : w' = w.run (rechecking affected ids actions))
    {ids' : List ConnectionId} {actions' : List Action} (h' : ChecksAgain w' affected ids' actions')
    (id : ConnectionId) :
    ¬ TakesAway (w'.history (rechecking affected ids' actions')) w'.passes.length id := by
  intro htaken
  obtain ⟨c', hc', hconcerned, hrefuted⟩ := h'.refuted_of_takesAway htaken
  subst hw'
  obtain ⟨htracks, -⟩ := h.exists_follows
  obtain ⟨c, hc, hsame, hclosed, hconfirms⟩ :=
    htracks.exists_origin hc' hconcerned.2.ne_anonymous
  have hopen : c.closed = false := by
    cases hwas : c.closed with
    | false => rfl
    | true => exact (hclosed hwas).symm.trans hconcerned.1
  exact hconcerned.2.ne_anonymous (h.anonymous_of_refuted hp hdone hc
    ⟨hopen, hsame ▸ hconcerned.2⟩ (mt hconfirms.2 hrefuted) hc' hconcerned.1)

/-- All registered connections are checked again, in any order, among whatever else happens, on a store
that stays as it is; it makes no difference if a request that is dispatched asks for it. The pass goes on
in at most three steps for each connection, and has something to do before the time limit of a check is
over until it is done. It changes nothing but that it takes principals away. When it is done, it has taken
away those that it was to check and that did not stand in time, and counted them; and a pass that follows
it, in any order again, takes nothing away. -/
theorem reauthorization_settles (h : ChecksAgain w affected ids actions) :
    let index := w.passes.length
    let history := w.history (rechecking affected ids actions)
    let w' := w.run (rechecking affected ids actions)
    (∀ m request, m.isControl = true → m.request? = some request → request.userId = affected →
      w.run (.reorder ids :: .dispatch m :: actions) = w') ∧
    history.countP (goesOn index) ≤ 3 * ids.length ∧
    OnlyTakesAway w affected ids actions ∧
    ∃ p, w'.passes[index]? = some p ∧
      (p.isDone = false → ∃ t, w'.readyAt? (.pass index) = some t ∧ t ≤ w'.now + w.timeLimit) ∧
      (p.isDone = true →
        Reauthorized w affected index history w' p.demoted ∧
        ∀ ids' actions', ChecksAgain w' affected ids' actions' →
          OnlyTakesAway w' affected ids' actions' ∧
          (∀ id, ¬ TakesAway (w'.history (rechecking affected ids' actions')) w'.passes.length id) ∧
          ∃ p', (w'.run (rechecking affected ids' actions')).passes[w'.passes.length]? = some p' ∧
            p'.demoted = 0) := by
  intro index history w'
  obtain ⟨p, n, hp, -, hcount⟩ := exists_isOverIn h.order affected actions
  refine ⟨?_, Nat.le_trans (Nat.le_add_left _ n) hcount, h.onlyTakesAway, p, hp, h.exists_readyAt hp,
    ?_⟩
  · rintro m request hcontrol hrequest rfl
    show ((w.step (.reorder ids)).dispatch m).run actions = _
    rw [dispatch_of_request hcontrol hrequest]
    rfl
  intro hdone
  refine ⟨h.reauthorized hp hdone, fun ids' actions' h' => ?_⟩
  have hnothing := h.not_takesAway_again hp hdone rfl h'
  refine ⟨h'.onlyTakesAway, hnothing, ?_⟩
  obtain ⟨-, p', settled, mine, hfollows⟩ := h'.exists_follows
  have hnil : mine = [] :=
    List.eq_nil_iff_forall_not_mem.2 fun id hid => hnothing id ((hfollows.mem id).1 hid)
  refine ⟨p', hfollows.pass, ?_⟩
  rw [hfollows.demoted, hnil, List.length_nil]

end

/-- Somebody comes twice, and somebody else. An app token has been issued anew, and the store takes its
time. -/
def untilSuperseded : List Action := [
  .updateStore (.content (.addUser "luna")),
  .updateStore (.content (.putToken
    ⟨"apt_luna", "luna", 2, true, .ofList [.readRealtime], .ofTexts [] []⟩)),
  .connect "c" {},
  .connect "d" {},
  .connect "e" {},
  .task (.writer "c"),
  .task (.writer "d"),
  .task (.writer "e"),
  .updateStore (.setLatency (some 100))]

/-- The state in which a call begins: the user is there with the first issue of the token and in a
session. -/
def superseded : World :=
  (((start { jwtSecret := "secret" } {}).run untilSuperseded).modifyConnection "c"
    fun c => c.setPrincipal firstPrincipal).modifyConnection "d" fun c => c.setPrincipal (.session "luna")

/-- The pass goes on whenever a lookup is over. -/
def recheck : List Action := [
  .task (.pass 0),
  .elapse 100,
  .task (.pass 0),
  .elapse 200,
  .task (.pass 0)]

/-- The state in which the pass is done, and another call begins. -/
def rechecked : World := superseded.run (rechecking (some "luna") ["e", "d", "c"] recheck)

lemma Sound.setPrincipal {w : World} (h : w.Sound) (id : ConnectionId) (p : Principal) :
    (w.modifyConnection id fun c => c.setPrincipal p).Sound :=
  have hmodifies := modifies_modifyConnection (f := fun c => c.setPrincipal p) w id fun _ _ => ⟨rfl, rfl⟩
  ⟨h.broker.leads hmodifies.broker, hmodifies.paired h.paired⟩

/-- Nobody authenticates where nobody reads. -/
lemma not_succeedsAt {w : World} {actions : List Action} (h : ∀ id, .task (.reader id) ∉ actions)
    (id : ConnectionId) (n : Nat) (o : Outcome) : ¬ SucceedsAt (w.history actions) id n o := by
  rintro ⟨v, l, reference, hv, -⟩
  exact h id (List.mem_of_getElem? (action_of_getElem? hv))

/-- The pass of the call takes the principal of one connection away. -/
lemma superseded_run :
    (superseded.broker.registry, superseded.passes.length) = (["c", "d", "e"], 0) ∧
      (rechecked.broker.registry, rechecked.passes.length) = (["e", "d", "c"], 1) ∧
      (rechecked.passes[0]?.map fun p => (p.isDone, p.demoted)) = some (true, 1) ∧
      (rechecked.principal? "c", rechecked.principal? "d") = (some .anonymous, some (.session "luna")) := by
  decide +kernel

lemma checksAgain_superseded :
    ChecksAgain superseded (some "luna") ["e", "d", "c"] recheck where
  sound := (((sound_start _ _).run untilSuperseded).setPrincipal "c" _).setPrincipal "d" _
  order := by
    rw [(Prod.mk.inj superseded_run.1).1]
    decide
  store u hu := by simp [recheck] at hu
  nobody id n p := not_succeedsAt (by simp [rechecking, recheck]) id n _

lemma checksAgain_rechecked : ChecksAgain rechecked (some "luna") ["d", "c", "e"] [.task (.pass 1)] where
  sound := checksAgain_superseded.sound.run _
  order := by
    rw [(Prod.mk.inj superseded_run.2.1).1]
    decide
  store u hu := by simp at hu
  nobody id n p := not_succeedsAt (by simp [rechecking]) id n _

/-- The first call takes away what the token has given, but not what the session has, and the second
call takes nothing away. -/
theorem superseded_reauthorized :
    ChecksAgain superseded (some "luna") ["e", "d", "c"] recheck ∧
    OnlyTakesAway superseded (some "luna") ["e", "d", "c"] recheck ∧
    (∃ p, rechecked.passes[0]? = some p ∧ p.demoted = 1 ∧
      Reauthorized superseded (some "luna") 0
        (superseded.history (rechecking (some "luna") ["e", "d", "c"] recheck)) rechecked
        p.demoted) ∧
    (rechecked.principal? "c", rechecked.principal? "d") = (some .anonymous, some (.session "luna")) ∧
    ChecksAgain rechecked (some "luna") ["d", "c", "e"] [.task (.pass 1)] ∧
    OnlyTakesAway rechecked (some "luna") ["d", "c", "e"] [.task (.pass 1)] ∧
    ∀ id, ¬ TakesAway (rechecked.history (rechecking (some "luna") ["d", "c", "e"] [.task (.pass 1)])) 1
      id := by
  obtain ⟨hbefore, hafter, hpass, hprincipals⟩ := superseded_run
  obtain ⟨-, hlength⟩ := Prod.mk.inj hbefore
  obtain ⟨-, hlength'⟩ := Prod.mk.inj hafter
  obtain ⟨q, hq, hends⟩ := Option.map_eq_some_iff.1 hpass
  obtain ⟨hdone, hdemoted⟩ := Prod.mk.inj hends
  obtain ⟨-, -, honly, p, hp, -, hsettled⟩ := reauthorization_settles checksAgain_superseded
  rw [hlength] at hp hsettled
  obtain rfl : q = p := Option.some.inj (hq.symm.trans hp)
  obtain ⟨hreauthorized, hagain⟩ := hsettled hdone
  obtain ⟨honly', hnothing, -⟩ := hagain _ _ checksAgain_rechecked
  refine ⟨checksAgain_superseded, honly, ⟨q, hq, hdemoted, hreauthorized⟩, hprincipals,
    checksAgain_rechecked, honly', fun id => ?_⟩
  rw [← hlength']
  exact hnothing id

end World

end EventGateway
