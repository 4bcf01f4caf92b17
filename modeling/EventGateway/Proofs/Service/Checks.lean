import EventGateway.Proofs.Service.Reauthentication
import EventGateway.Proofs.Store.Faults

/-!
# The checks of a pass

What a pass does in one step on a store that stays as it is. It has connections still to come, settles
the first of them, and leaves the others for later. Of those that it settles exactly the ones lose their
principal whose check does not confirm it, and nothing else changes. Main statements:
`exists_advances_checkRemaining` and `exists_advances_advancePass`.
-/

namespace EventGateway

/-! ### Lookups that wait -/

namespace Limited

variable {α : Type} {s : Store} {now t : Nat}

/-- A check that is over has found that the principal stands exactly if that is what it comes to. -/
lemma ComesTo.verdict {progress : Limited Bool} {r : Option (Except ServiceError Bool)}
    (h : progress.ComesTo s now r t) {valid : Bool} (hvalid : progress.verdict? = some valid) :
    valid = true ↔ r = some (.ok true) := by
  cases h with
  | finished _ result =>
    cases result with
    | ok found =>
      cases hvalid
      simp
    | error e =>
      cases hvalid
      simp
  | timedOut =>
    cases hvalid
    simp
  | waiting => cases hvalid

/-- What has to wait now is not ready before now. -/
lemma le_readyAt_of_ofProgress {deadline turn : Nat} {x : Lookup α} {a : Awaited α}
    (h : ofProgress now deadline turn (x.proceed s now) = .waiting a) :
    now ≤ a.readyAt ∧ a.deadline = deadline := by
  induction x with
  | done result => cases h
  | ask q next ih =>
    simp only [Lookup.proceed] at h
    split at h
    · cases hask : s.ask q with
      | error e =>
        rw [hask] at h
        cases h
      | ok answer =>
        rw [hask] at h
        exact ih answer h
    · simp only [ofProgress] at h
      split at h
      · cases h
      · next hlater =>
        cases h
        exact ⟨Nat.le_min.2 ⟨Nat.le_add_right _ _, Nat.le_of_not_le hlater⟩, rfl⟩

lemma le_readyAt_of_advance {turn : Nat} {a b : Awaited α} (hready : a.readyAt ≤ now)
    (h : a.advance s now turn = .waiting b) : now ≤ b.readyAt ∧ b.deadline = a.deadline := by
  simp only [Awaited.advance] at h
  split at h
  · simp only [Waiting.resume] at h
    cases hask : s.ask a.waiting.query with
    | error e =>
      rw [hask] at h
      cases h
    | ok answer =>
      rw [hask] at h
      exact le_readyAt_of_ofProgress h
  · next hdue =>
    split at h
    · cases h
    · next hdeadline =>
      simp only [Awaited.readyAt] at hready
      omega

end Limited

/-! ### How many queries a check asks -/

lemma Lookup.persists_asksAtMost {α : Type} (n : Nat) :
    Lookup.Persists (fun _ => True) fun x : Lookup α => x.AsksAtMost n := by
  intro q next c _ h
  cases n with
  | zero => exact h.elim
  | succ n => exact (h (c.answer q)).mono (Nat.le_succ n)

lemma Limited.rests_advance_asksAtMost {α : Type} {s : Store} {now turn n : Nat} {a : Awaited α}
    (h : a.rest.AsksAtMost (n + 1)) (hready : a.readyAt ≤ now) :
    (a.advance s now turn).Rests fun x => x.AsksAtMost n := by
  simp only [Awaited.advance]
  split
  · simp only [Waiting.resume]
    cases s.ask a.waiting.query with
    | error e => trivial
    | ok answer => exact Limited.rests_ofProgress (Lookup.persists_asksAtMost n) trivial _ _ _ (h answer)
  · next hdue =>
    rw [if_pos (by simp only [Awaited.readyAt] at hready; omega)]
    trivial

lemma Principal.asksAtMost_stillValid (q : Principal) (caller : Caller) :
    (q.stillValid caller).AsksAtMost 2 := by
  cases q with
  | anonymous => trivial
  | session userId => exact fun _ => trivial
  | appToken t =>
    refine Lookup.asksAtMost_query_bind (q := .appToken t.tokenId) (n := 1) fun answer => ?_
    cases answer with
    | none => trivial
    | some record =>
      dsimp only
      split
      · exact fun _ => trivial
      · trivial

/-! ### Connections that are checked -/

/-- The principal is one of a user, of the affected one if one is given. -/
def Principal.IsAffected (affected : Option String) (q : Principal) : Prop :=
  ∃ user, q.userId = some user ∧ ∀ a ∈ affected, a = user

lemma Principal.IsAffected.ne_anonymous {affected : Option String} {q : Principal}
    (h : q.IsAffected affected) : q ≠ .anonymous := by
  obtain ⟨user, huser, -⟩ := h
  rintro rfl
  cases huser

/-- The connection is open, and somebody acts on it who is affected. -/
def Connection.Concerned (affected : Option String) (c : Connection) : Prop :=
  c.closed = false ∧ c.principal.IsAffected affected

/-- The connections that the pass has still to settle. -/
def Pass.todo (p : Pass) : List ConnectionId := (p.current.map Prod.fst).toList ++ p.remaining

lemma Pass.todo_of_isDone {p : Pass} (h : p.isDone = true) : p.todo = [] := by
  simp only [isDone, Bool.and_eq_true, List.isEmpty_iff, Option.isNone_iff_eq_none] at h
  simp [todo, h]

/-- The pass has so many steps left at most: to begin the check of a connection takes one, and each of
its queries another. -/
def Pass.IsOverIn (p : Pass) (n : Nat) : Prop :=
  match p.current with
  | none => 3 * p.remaining.length ≤ n
  | some (_, _, lookup) => ∃ k, lookup.rest.AsksAtMost k ∧ 3 * p.remaining.length + k ≤ n

lemma Pass.isOverIn_of_none {p : Pass} {n : Nat} (h : p.current = none) :
    p.IsOverIn n ↔ 3 * p.remaining.length ≤ n := by
  simp only [IsOverIn, h]

lemma Pass.isOverIn_of_some {p : Pass} {n : Nat} {id : ConnectionId} {q : Principal}
    {lookup : Awaited Bool} (h : p.current = some (id, q, lookup)) :
    p.IsOverIn n ↔ ∃ k, lookup.rest.AsksAtMost k ∧ 3 * p.remaining.length + k ≤ n := by
  simp only [IsOverIn, h]

lemma Pass.IsOverIn.mono {p : Pass} {m n : Nat} (h : p.IsOverIn m) (hmn : m ≤ n) : p.IsOverIn n := by
  cases hcur : p.current with
  | none =>
    rw [isOverIn_of_none hcur] at h ⊢
    exact Nat.le_trans h hmn
  | some check =>
    rw [isOverIn_of_some hcur] at h ⊢
    obtain ⟨k, hasks, hk⟩ := h
    exact ⟨k, hasks, Nat.le_trans hk hmn⟩

namespace World

lemma passChecks_iff {affected : Option String} {c : Connection} :
    passChecks affected c = true ↔ c.Concerned affected := by
  unfold passChecks Connection.Concerned Principal.IsAffected
  rw [Bool.and_eq_true, Bool.not_eq_true']
  apply and_congr_right
  intro _
  cases c.principal.userId with
  | none => simp
  | some user => simp [Option.all_eq_true]

/-- The principal of the connection is found to stand before the time limit. -/
def Confirms (w : World) (c : Connection) : Prop :=
  (((c.principal.stillValid c.caller).run w.store).within w.timeLimit).result = some (.ok true)

lemma timeLimit_congr {w w' : World} (h : w'.config = w.config) : w'.timeLimit = w.timeLimit :=
  congrArg (fun c : Config => c.authzTimeout.toNat) h

lemma confirms_congr {w w' : World} {c c' : Connection} (hstore : w'.store = w.store)
    (hconfig : w'.config = w.config) (hprincipal : c'.principal = c.principal)
    (hcaller : c'.caller = c.caller) : w'.Confirms c' ↔ w.Confirms c := by
  unfold Confirms
  rw [hstore, timeLimit_congr hconfig, hprincipal, hcaller]

/-! ### What becomes of connections -/

/-- The connections of the ids have lost their principals. Everything else is as it was, but for how far
passes have come and how many lookups have had to wait. -/
structure Deprives (w w' : World) (lost : List ConnectionId) : Prop where
  connection : ∀ id, w'.broker.connection? id =
    if id ∈ lost then (w.broker.connection? id).map fun c => c.setPrincipal .anonymous
    else w.broker.connection? id
  registry : w'.broker.registry = w.broker.registry
  table : w'.broker.table = w.broker.table
  sessions : w'.sessions = w.sessions
  config : w'.config = w.config
  store : w'.store = w.store
  now : w'.now = w.now
  bus : w'.bus = w.bus
  listener : w'.listener = w.listener

namespace Deprives

variable {w w' w'' : World} {lost lost' : List ConnectionId}

lemma refl (w : World) : w.Deprives w [] where
  connection id := by simp
  registry := rfl
  table := rfl
  sessions := rfl
  config := rfl
  store := rfl
  now := rfl
  bus := rfl
  listener := rfl

lemma trans (h : w.Deprives w' lost) (h' : w'.Deprives w'' lost') :
    w.Deprives w'' (lost ++ lost') where
  connection id := by
    rw [h'.connection, h.connection]
    by_cases hid : id ∈ lost
    · by_cases hid' : id ∈ lost'
      · simp only [List.mem_append, hid, hid', if_true, or_self, Option.map_map]
        rfl
      · simp [hid, hid']
    · by_cases hid' : id ∈ lost' <;> simp [hid, hid']
  registry := h'.registry.trans h.registry
  table := h'.table.trans h.table
  sessions := h'.sessions.trans h.sessions
  config := h'.config.trans h.config
  store := h'.store.trans h.store
  now := h'.now.trans h.now
  bus := h'.bus.trans h.bus
  listener := h'.listener.trans h.listener

lemma connection_of_not_mem (h : w.Deprives w' lost) {id : ConnectionId} (hid : id ∉ lost) :
    w'.broker.connection? id = w.broker.connection? id :=
  (h.connection id).trans (if_neg hid)

/-- Of a connection the principal is taken away at most. -/
lemma of_connection (h : w.Deprives w' lost) {id : ConnectionId} {c d : Connection}
    (hc : w.broker.connection? id = some c) (hd : w'.broker.connection? id = some d) :
    d.closed = c.closed ∧ (c.principal = .anonymous → d.principal = .anonymous) ∧
      (id ∈ lost → d.principal = .anonymous) := by
  rw [h.connection, hc] at hd
  by_cases hid : id ∈ lost
  · rw [if_pos hid] at hd
    cases hd
    exact ⟨rfl, fun _ => rfl, fun _ => rfl⟩
  · rw [if_neg hid] at hd
    cases hd
    exact ⟨rfl, fun h => h, fun h => absurd h hid⟩

lemma confirms_iff (h : w.Deprives w' lost) (c : Connection) : w'.Confirms c ↔ w.Confirms c :=
  confirms_congr h.store h.config rfl rfl

end Deprives

/-- The connections of the ids have been settled: those have lost their principals that are concerned
and whose principals have not been found to stand. -/
structure Settles (w : World) (affected : Option String) (settled lost : List ConnectionId)
    (w' : World) : Prop extends Deprives w w' lost where
  nodup : lost.Nodup
  only : ∀ id ∈ lost, id ∈ settled ∧ ∃ c, w.broker.connection? id = some c ∧
    c.principal.IsAffected affected ∧ ¬ w.Confirms c
  all : ∀ id ∈ settled, ∀ c, w.broker.connection? id = some c → c.Concerned affected →
    ¬ w.Confirms c → id ∈ lost

namespace Settles

variable {w w' w'' : World} {affected : Option String} {settled settled' lost lost' : List ConnectionId}

/-- Nothing is lost if those that are concerned stand. -/
lemma of_confirms (h : w.Deprives w' []) (hconfirms : ∀ id ∈ settled, ∀ c,
    w.broker.connection? id = some c → c.Concerned affected → w.Confirms c) :
    w.Settles affected settled [] w' where
  toDeprives := h
  nodup := .nil
  only _ hid := absurd hid List.not_mem_nil
  all id hid c hc hconcerned hrefuted := absurd (hconfirms id hid c hc hconcerned) hrefuted

lemma trans (h : w.Settles affected settled lost w') (h' : w'.Settles affected settled' lost' w'')
    (hapart : settled.Disjoint settled') : w.Settles affected (settled ++ settled') (lost ++ lost') w'' where
  toDeprives := h.toDeprives.trans h'.toDeprives
  nodup := by
    refine List.nodup_append'.2 ⟨h.nodup, h'.nodup, ?_⟩
    intro id hid hid'
    exact hapart (h.only id hid).1 (h'.only id hid').1
  only id hid := by
    obtain hid | hid := List.mem_append.1 hid
    · obtain ⟨hsettled, hlost⟩ := h.only id hid
      exact ⟨List.mem_append_left _ hsettled, hlost⟩
    · obtain ⟨hsettled, c, hc, haffected, hrefuted⟩ := h'.only id hid
      have hnot : id ∉ lost := fun hearly => hapart (h.only id hearly).1 hsettled
      rw [h.connection_of_not_mem hnot] at hc
      rw [h.confirms_iff] at hrefuted
      exact ⟨List.mem_append_right _ hsettled, c, hc, haffected, hrefuted⟩
  all id hid c hc hconcerned hrefuted := by
    obtain hid | hid := List.mem_append.1 hid
    · exact List.mem_append_left _ (h.all id hid c hc hconcerned hrefuted)
    · have hnot : id ∉ lost := fun hearly => hapart (h.only id hearly).1 hid
      rw [← h.connection_of_not_mem hnot] at hc
      rw [← h.confirms_iff] at hrefuted
      exact List.mem_append_right _ (h'.all id hid c hc hconcerned hrefuted)

end Settles

/-! ### One check -/

/-- A check of a connection that is under way: somebody acted on the connection when it began, and nobody
else has come since. It has some time left, and comes to what the store says. -/
structure Looks (w : World) (affected : Option String) (id : ConnectionId) (q : Principal)
    (lookup : Awaited Bool) : Prop where
  affected : q.IsAffected affected
  begun : w.now ≤ lookup.readyAt
  ends : lookup.deadline ≤ w.now + w.timeLimit
  connection : ∃ c, w.broker.connection? id = some c ∧
    (c.principal = q ∨ c.principal = .anonymous) ∧
    ∃ t, (Limited.waiting lookup).ComesTo w.store w.now
      (((q.stillValid c.caller).run w.store).within w.timeLimit).result t

variable {w w' w'' : World} {p p' p'' : Pass} {id : ConnectionId} {c : Connection} {q : Principal}

lemma demotable_iff {affected : Option String} (haffected : q.IsAffected affected) :
    c.demotable q = true ↔ c.principal = q := by
  have hnobody : q.isAnonymous = false := by
    obtain ⟨user, huser, -⟩ := haffected
    cases q with
    | anonymous => cases huser
    | session _ => rfl
    | appToken _ => rfl
  constructor
  · intro h
    simp only [Connection.demotable, Bool.and_eq_true, decide_eq_true_eq] at h
    exact h.1
  · rintro rfl
    simp [Connection.demotable, hnobody]

/-- Only the connection loses its principal, and only if it has the one that was checked. -/
lemma deprives_demoteIf (hc : w.broker.connection? id = some c) (q : Principal) :
    w.Deprives (w.modifyConnection id fun c => c.demoteIf q) (if c.demotable q then [id] else []) where
  connection i := by
    refine (Dictionary.get?_modify ..).trans ?_
    by_cases hi : i = id
    · subst hi
      rw [if_pos rfl, show w.broker.connections.get? i = some c from hc, hc]
      cases hd : c.demotable q <;> simp [Connection.demoteIf, hd, Connection.setPrincipal]
    · rw [if_neg hi, if_neg (by split <;> simp [hi])]
      rfl
  registry := rfl
  table := rfl
  sessions := rfl
  config := rfl
  store := rfl
  now := rfl
  bus := rfl
  listener := rfl

/-- A check that is over takes the principal away that it was for, unless this stands. -/
lemma exists_settles_concludeCheck (hc : w.broker.connection? id = some c)
    (hq : c.principal = q ∨ c.principal = .anonymous) (haffected : q.IsAffected p.affected)
    {valid : Bool} (hvalid : c.principal = q → (valid = true ↔ w.Confirms c)) :
    ∃ lost, w.Settles p.affected [id] lost (w.concludeCheck p id q valid).1 ∧
      (w.concludeCheck p id q valid).2 =
        { p with current := none, demoted := p.demoted + lost.length } := by
  have hown {i : ConnectionId} (hi : i ∈ [id]) {d : Connection} (hd : w.broker.connection? i = some d)
      (hconcerned : d.Concerned p.affected) : d = c ∧ c.principal = q := by
    rw [List.mem_singleton.1 hi] at hd
    obtain rfl := Option.some.inj (hd.symm.trans hc)
    exact ⟨rfl, hq.resolve_right hconcerned.2.ne_anonymous⟩
  cases valid with
  | true =>
    refine ⟨[], .of_confirms (.refl w) fun i hi d hd hconcerned => ?_, rfl⟩
    obtain ⟨rfl, hsame⟩ := hown hi hd hconcerned
    exact (hvalid hsame).1 rfl
  | false =>
    have hdeprives := deprives_demoteIf hc q
    by_cases hsame : c.principal = q
    · have hdemotable := (demotable_iff haffected).2 hsame
      rw [if_pos hdemotable] at hdeprives
      refine ⟨[id], ⟨hdeprives, List.nodup_singleton id, fun i hi => ?_, fun i hi _ _ _ _ => hi⟩, ?_⟩
      · rw [List.mem_singleton.1 hi]
        refine ⟨List.mem_singleton_self id, c, hc, hsame ▸ haffected, fun hconfirms => ?_⟩
        cases (hvalid hsame).2 hconfirms
      · simp [concludeCheck, hc, hdemotable]
    · have hdemotable := Bool.eq_false_iff.2 (mt (demotable_iff haffected).1 hsame)
      rw [hdemotable, if_neg Bool.false_ne_true] at hdeprives
      refine ⟨[], .of_confirms hdeprives fun i hi d hd hconcerned => ?_, ?_⟩
      · exact absurd (hown hi hd hconcerned).2 hsame
      · simp [concludeCheck, hc, hdemotable]

lemma current_concludeCheck (w : World) (p : Pass) (id : ConnectionId) (q : Principal) (valid : Bool) :
    (w.concludeCheck p id q valid).2.current = none := by
  simp only [concludeCheck]
  repeat' split
  all_goals rfl

lemma remaining_concludeCheck (w : World) (p : Pass) (id : ConnectionId) (q : Principal)
    (valid : Bool) : (w.concludeCheck p id q valid).2.remaining = p.remaining := by
  simp only [concludeCheck]
  repeat' split
  all_goals rfl

/-- A check waits or is over. -/
lemma settleCheck_cases (w : World) (p : Pass) (id : ConnectionId) (q : Principal)
    (progress : Limited Bool) :
    (∃ lookup, progress = .waiting lookup ∧
      w.settleCheck p id q progress = (w.countTurn, { p with current := some (id, q, lookup) })) ∨
    ∃ valid, progress.verdict? = some valid ∧
      w.settleCheck p id q progress = w.concludeCheck p id q valid := by
  cases progress with
  | finished result =>
    cases result with
    | ok valid => exact .inr ⟨valid, rfl, rfl⟩
    | error e => exact .inr ⟨false, rfl, rfl⟩
  | timedOut => exact .inr ⟨false, rfl, rfl⟩
  | waiting lookup => exact .inl ⟨lookup, rfl, rfl⟩

/-! ### Several checks -/

/-- The pass has settled the first of the connections that it had still to settle, and counted those that
have lost their principals. -/
structure Advances (w : World) (p : Pass) (todo settled lost : List ConnectionId) (w' : World)
    (p' : Pass) : Prop extends Settles w p.affected settled lost w' where
  todo : todo = settled ++ p'.todo
  affected : p'.affected = p.affected
  demoted : p'.demoted = p.demoted + lost.length
  looks : ∀ id q lookup, p'.current = some (id, q, lookup) → w'.Looks p.affected id q lookup

variable {ids settled settled' lost lost' : List ConnectionId}

/-- Connections that are settled at once, and what becomes of those that follow them. -/
lemma Settles.advances (h : w.Settles p.affected settled lost w')
    (h' : w'.Advances { p with current := none, demoted := p.demoted + lost.length } ids settled' lost'
      w'' p'') (hids : (settled ++ ids).Nodup) :
    w.Advances p (settled ++ ids) (settled ++ settled') (lost ++ lost') w'' p'' where
  toSettles := by
    refine h.trans h'.toSettles ?_
    rw [h'.todo, ← List.append_assoc] at hids
    exact (List.nodup_append'.1 (List.nodup_append'.1 hids).1).2.2
  todo := by rw [h'.todo, List.append_assoc]
  affected := h'.affected
  demoted := by rw [h'.demoted, List.length_append, Nat.add_assoc]
  looks := h'.looks

/-- A check that has to wait settles nothing. -/
lemma advances_countTurn {lookup : Awaited Bool} {demoted : Nat}
    (hlooks : w.Looks p.affected id q lookup) (hdemoted : demoted = p.demoted) :
    w.Advances p (id :: ids) [] [] w.countTurn
      { p with remaining := ids, current := some (id, q, lookup), demoted } where
  toDeprives := ⟨(Deprives.refl w).connection, rfl, rfl, rfl, rfl, rfl, rfl, rfl, rfl⟩
  nodup := .nil
  only _ hid := absurd hid List.not_mem_nil
  all _ hid := absurd hid List.not_mem_nil
  todo := rfl
  affected := rfl
  demoted := hdemoted
  looks i r l h := by
    cases h
    exact ⟨hlooks.affected, hlooks.begun, hlooks.ends, hlooks.connection⟩

/-- Connections that there are not, and those that are not concerned, are passed over. -/
lemma Advances.pass_over (hskip : ∀ c, w.broker.connection? id = some c → ¬ c.Concerned p.affected)
    (h : w.Advances p ids settled lost w' p') (hids : (id :: ids).Nodup) :
    w.Advances p (id :: ids) (id :: settled) lost w' p' := by
  have hfirst : w.Settles p.affected [id] [] w := .of_confirms (.refl w) fun i hi c hc hconcerned => by
    rw [List.mem_singleton.1 hi] at hc
    exact absurd hconcerned (hskip c hc)
  refine hfirst.advances (p := p) ?_ hids
  exact ⟨h.toSettles, h.todo, h.affected, h.demoted, h.looks⟩

lemma comesTo_start_check (w : World) (q : Principal) (caller : Caller) :
    let t := ((q.stillValid caller).run w.store).within w.timeLimit
    (Limited.start w.store w.now w.timeLimit w.turns (q.stillValid caller)).ComesTo w.store w.now
      t.result (w.now + t.elapsed) :=
  Limited.comesTo_start w.store w.now w.timeLimit w.turns _

/-- A pass that has nothing in hand settles connections until a check has to wait. -/
theorem exists_advances_checkRemaining (hids : ids.Nodup) (hcur : p.current = none) :
    ∃ settled lost,
      w.Advances p ids settled lost (w.checkRemaining p ids).1 (w.checkRemaining p ids).2 := by
  induction ids generalizing w p with
  | nil =>
    refine ⟨[], [], .of_confirms (.refl w) fun _ hid => absurd hid List.not_mem_nil, ?_, rfl, rfl, ?_⟩
    · simp [checkRemaining, Pass.todo, hcur]
    · intro i r lookup h
      cases hcur.symm.trans h
  | cons id rest ih =>
    have hrest := (List.nodup_cons.1 hids).2
    have hpass (hskip : ∀ c, w.broker.connection? id = some c → ¬ c.Concerned p.affected) :
        ∃ settled lost, w.Advances p (id :: rest) settled lost (w.checkRemaining p rest).1
          (w.checkRemaining p rest).2 := by
      obtain ⟨settled, lost, hadvances⟩ := ih (w := w) (p := p) hrest hcur
      exact ⟨id :: settled, lost, hadvances.pass_over hskip hids⟩
    unfold checkRemaining
    cases hc : w.broker.connection? id with
    | none =>
      refine hpass fun c hc' => ?_
      rw [hc] at hc'
      cases hc'
    | some c =>
      dsimp only
      by_cases hchecks : passChecks p.affected c = true
      · rw [if_pos hchecks]
        have hconcerned := passChecks_iff.1 hchecks
        have hcomesTo := comesTo_start_check w c.principal c.caller
        obtain ⟨lookup, hwaits, hsettle⟩ | ⟨valid, hvalid, hsettle⟩ := settleCheck_cases w p id
          c.principal (.start w.store w.now w.timeLimit w.turns (c.principal.stillValid c.caller))
        · -- the check has to wait
          obtain ⟨hbegun, hends⟩ := Limited.le_readyAt_of_ofProgress hwaits
          rw [hsettle]
          refine ⟨[], [], advances_countTurn ⟨hconcerned.2, hbegun, Nat.le_of_eq hends, c, hc,
            .inl rfl, _, hwaits ▸ hcomesTo⟩ rfl⟩
        · -- the check is over at once
          have hconfirms : c.principal = c.principal → (valid = true ↔ w.Confirms c) :=
            fun _ => hcomesTo.verdict hvalid
          obtain ⟨lost, hsettles, hcount⟩ := exists_settles_concludeCheck hc (.inl rfl) hconcerned.2
            hconfirms
          rw [hsettle]
          simp only [hcount, Option.isSome_none, Bool.false_eq_true, if_false]
          obtain ⟨settled, lost', hadvances⟩ := ih (w := (w.concludeCheck p id c.principal valid).1)
            (p := { p with current := none, demoted := p.demoted + lost.length }) hrest rfl
          exact ⟨_, _, hsettles.advances hadvances hids⟩
      · rw [if_neg hchecks]
        refine hpass fun c' hc' => ?_
        obtain rfl := Option.some.inj (hc.symm.trans hc')
        exact mt passChecks_iff.2 hchecks

/-- So does a pass whose check is ready to go on. -/
theorem exists_advances_advancePass (hids : p.todo.Nodup)
    (hlooks : ∀ id q lookup, p.current = some (id, q, lookup) → w.Looks p.affected id q lookup) :
    ∃ settled lost,
      w.Advances p p.todo settled lost (w.advancePass p).1 (w.advancePass p).2 := by
  unfold advancePass
  cases hcur : p.current with
  | none =>
    have htodo : p.todo = p.remaining := by simp [Pass.todo, hcur]
    rw [htodo] at hids ⊢
    exact exists_advances_checkRemaining hids hcur
  | some check =>
    obtain ⟨id, q, lookup⟩ := check
    have htodo : p.todo = id :: p.remaining := by simp [Pass.todo, hcur]
    rw [htodo] at hids ⊢
    obtain ⟨haffected, hbegun, hends, c, hc, hq, t, hcomesTo⟩ := hlooks id q lookup hcur
    dsimp only
    by_cases hready : lookup.readyAt ≤ w.now
    · -- time does not pass beyond what is ready, so the check goes on at the time that it is ready
      have hnow : lookup.readyAt = w.now := Nat.le_antisymm hready hbegun
      have hadvance := hcomesTo.advance w.turns
      rw [hnow] at hadvance
      rw [if_pos hready]
      obtain ⟨next, hwaits, hsettle⟩ | ⟨valid, hvalid, hsettle⟩ := settleCheck_cases w
        { p with current := none } id q (lookup.advance w.store w.now w.turns)
      · obtain ⟨hlater, hdeadline⟩ := Limited.le_readyAt_of_advance hready hwaits
        rw [hsettle]
        exact ⟨[], [], advances_countTurn ⟨haffected, hlater, hdeadline ▸ hends, c, hc, hq, t,
          hwaits ▸ hadvance⟩ rfl⟩
      · have hconfirms : c.principal = q → (valid = true ↔ w.Confirms c) := by
          rintro rfl
          exact hadvance.verdict hvalid
        obtain ⟨lost, hsettles, hcount⟩ := exists_settles_concludeCheck
          (p := { p with current := none }) hc hq haffected hconfirms
        rw [hsettle]
        simp only [hcount, Option.isSome_none, Bool.false_eq_true, if_false]
        obtain ⟨settled, lost', hadvances⟩ := exists_advances_checkRemaining
          (w := (w.concludeCheck { p with current := none } id q valid).1)
          (p := { p with current := none, demoted := p.demoted + lost.length })
          (List.nodup_cons.1 hids).2 rfl
        exact ⟨_, _, hsettles.advances (p := p) hadvances hids⟩
    · rw [if_neg hready]
      refine ⟨[], [], .of_confirms (.refl w) fun _ hid => absurd hid List.not_mem_nil, ?_, rfl, rfl,
        hlooks⟩
      rw [List.nil_append, htodo]

/-! ### How many steps a pass takes -/

lemma isOverIn_checkRemaining (hcur : p.current = none) (ids : List ConnectionId) :
    (w.checkRemaining p ids).2.IsOverIn (3 * ids.length - 1) := by
  induction ids generalizing w p with
  | nil => simp [checkRemaining, Pass.IsOverIn, hcur]
  | cons id rest ih =>
    have hrest (w : World) {p : Pass} (hcur : p.current = none) :
        (w.checkRemaining p rest).2.IsOverIn (3 * (id :: rest).length - 1) :=
      (ih hcur).mono (by simp only [List.length_cons]; omega)
    unfold checkRemaining
    split
    · exact hrest w hcur
    · next c hc =>
      split
      · obtain ⟨lookup, hwaits, hsettle⟩ | ⟨valid, -, hsettle⟩ := settleCheck_cases w p id c.principal
          (.start w.store w.now w.timeLimit w.turns (c.principal.stillValid c.caller))
        · have hrests := Limited.rests_start (Lookup.persists_asksAtMost 2) (s := w.store) trivial w.now
            w.timeLimit w.turns (Principal.asksAtMost_stillValid c.principal c.caller)
          rw [hwaits] at hrests
          simp only [hsettle, Option.isSome_some, if_true]
          refine (Pass.isOverIn_of_some rfl).2 ⟨2, hrests, ?_⟩
          simp only [List.length_cons]
          omega
        · rw [hsettle]
          simp only [current_concludeCheck, Option.isSome_none, Bool.false_eq_true, if_false]
          exact hrest _ (current_concludeCheck w p id c.principal valid)
      · exact hrest w hcur

/-- A pass that can go on has fewer steps to take afterwards. -/
lemma isOverIn_advancePass {n : Nat} (h : p.IsOverIn n) (hgoes : p.isDone = false)
    (hready : ∀ id q lookup, p.current = some (id, q, lookup) → lookup.readyAt ≤ w.now) :
    0 < n ∧ (w.advancePass p).2.IsOverIn (n - 1) := by
  unfold advancePass
  cases hcur : p.current with
  | none =>
    rw [Pass.isOverIn_of_none hcur] at h
    have hsome : 0 < p.remaining.length := by
      rw [List.length_pos_iff]
      rintro hnil
      simp [Pass.isDone, hnil, hcur] at hgoes
    exact ⟨by omega, (isOverIn_checkRemaining hcur p.remaining).mono (by omega)⟩
  | some check =>
    obtain ⟨id, q, lookup⟩ := check
    obtain ⟨k, hasks, hk⟩ := (Pass.isOverIn_of_some hcur).1 h
    have hready := hready id q lookup hcur
    cases k with
    | zero => exact hasks.elim
    | succ k =>
      dsimp only
      rw [if_pos hready]
      refine ⟨by omega, ?_⟩
      obtain ⟨next, hwaits, hsettle⟩ | ⟨valid, -, hsettle⟩ := settleCheck_cases w
        { p with current := none } id q (lookup.advance w.store w.now w.turns)
      · have hrests : (lookup.advance w.store w.now w.turns).Rests fun x => x.AsksAtMost k :=
          Limited.rests_advance_asksAtMost hasks hready
        rw [hwaits] at hrests
        simp only [hsettle, Option.isSome_some, if_true]
        refine (Pass.isOverIn_of_some rfl).2 ⟨k, hrests, ?_⟩
        dsimp only
        omega
      · rw [hsettle]
        simp only [current_concludeCheck, Option.isSome_none, Bool.false_eq_true, if_false,
          remaining_concludeCheck]
        exact (isOverIn_checkRemaining (current_concludeCheck _ _ _ _ _) p.remaining).mono (by omega)

end World

end EventGateway
