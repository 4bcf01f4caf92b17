import EventGateway.Proofs.Access.Revocation
import EventGateway.Proofs.Service.Steps
import EventGateway.Proofs.Session.Readers

/-!
# Passes and revoked principals

A pass that goes on while a revocation is in force does not leave a connection alone whose principal is
revoked: as long as the connection has the principal, the pass has still to come to the connection, or
is looking the principal up.
-/

namespace EventGateway

/-- Has the pass still to come to the connection, or is it looking its principal up? -/
def Pass.Handles (p : Pass) (id : ConnectionId) (q : Principal) : Prop :=
  id ∈ p.remaining ∨ ∃ lookup, p.current = some (id, q, lookup)

lemma Pass.not_handles_of_isDone {p : Pass} (h : p.isDone = true) (id : ConnectionId)
    (q : Principal) : ¬ p.Handles id q := by
  simp only [Pass.isDone, Bool.and_eq_true, List.isEmpty_iff, Option.isNone_iff_eq_none] at h
  rintro (hid | ⟨lookup, hlookup⟩)
  · rw [h.1] at hid
    cases hid
  · rw [h.2] at hlookup
    cases hlookup

/-- The lookup that the pass waits for, if it is about a principal that is revoked, does not find that
it stands. -/
def Pass.Refutes (p : Pass) (r : Revocation) : Prop :=
  ∀ id q lookup, p.current = some (id, q, lookup) → r.Covers q → r.Refutes lookup.rest

/-- Does the pass check the connections of the principal's user? -/
def Pass.Concerns (p : Pass) (q : Principal) : Prop :=
  ∀ user, q.userId = some user → p.affected.all (· = user) = true

namespace World

/-- Only principals are taken away. -/
lemma Demotes.exists_line {w w' : World} (h : w.Demotes w') {id : ConnectionId} {l : Line}
    (hl : w.line? id = some l) : ∃ l', w'.line? id = some l' ∧
      (l'.connection.principal = l.connection.principal ∨ l'.connection.principal = .anonymous) ∧
      l'.session = l.session ∧ l'.connection.closed = l.connection.closed := by
  obtain ⟨ps, hps⟩ := h.line id
  refine ⟨ps.foldl Line.demote l, by rw [hps, hl]; rfl, ?_⟩
  exact l.demotions_leave ps

lemma Demotes.anonymous {w w' : World} (h : w.Demotes w') {id : ConnectionId} {l : Line}
    (hl : w.line? id = some l) (ha : l.connection.principal = .anonymous) :
    ∃ l', w'.line? id = some l' ∧ l'.connection.principal = .anonymous := by
  obtain ⟨l', hl', hp, -⟩ := h.exists_line hl
  exact ⟨l', hl', hp.elim (fun hp => hp.trans ha) fun hp => hp⟩

/-! ### One check -/

lemma settleCheck_affected (w : World) (p : Pass) (id : ConnectionId) (q : Principal)
    (progress : Limited Bool) : (w.settleCheck p id q progress).2.affected = p.affected ∧
      (w.settleCheck p id q progress).2.remaining = p.remaining := by
  have hconclude (valid : Bool) : (w.concludeCheck p id q valid).2.affected = p.affected ∧
      (w.concludeCheck p id q valid).2.remaining = p.remaining := by
    simp only [concludeCheck]
    split
    · exact ⟨rfl, rfl⟩
    · dsimp only
      split <;> exact ⟨rfl, rfl⟩
  cases progress with
  | finished r =>
    cases r with
    | ok valid => exact hconclude valid
    | error e => exact hconclude false
  | timedOut => exact hconclude false
  | waiting lookup => exact ⟨rfl, rfl⟩

/-- A check waits, or it is over and the pass has nothing in hand. -/
lemma settleCheck_current (w : World) (p : Pass) (id : ConnectionId) (q : Principal)
    (progress : Limited Bool) :
    (∃ lookup, progress = .waiting lookup ∧
      (w.settleCheck p id q progress).2.current = some (id, q, lookup)) ∨
    (w.settleCheck p id q progress).2.current = none := by
  have hconclude (valid : Bool) : (w.concludeCheck p id q valid).2.current = none := by
    simp only [concludeCheck]
    split
    · rfl
    · dsimp only
      split <;> rfl
  cases progress with
  | finished r =>
    cases r with
    | ok valid => exact .inr (hconclude valid)
    | error e => exact .inr (hconclude false)
  | timedOut => exact .inr (hconclude false)
  | waiting lookup => exact .inl ⟨lookup, rfl, rfl⟩

variable {r : Revocation}

/-- The check of a revoked principal that is over takes the principal away. -/
lemma anonymous_of_settleCheck {w : World} {p : Pass} {id : ConnectionId} {l : Line}
    (hl : w.line? id = some l) (hq : r.Covers l.connection.principal) {progress : Limited Bool}
    (hprogress : progress.Rests r.Refutes)
    (hover : (w.settleCheck p id l.connection.principal progress).2.current = none) :
    ∃ l', (w.settleCheck p id l.connection.principal progress).1.line? id = some l' ∧
      l'.connection.principal = .anonymous := by
  have hstands : progress.stands = false := by
    cases progress with
    | finished result =>
      cases result with
      | ok valid =>
        cases valid with
        | true => exact absurd rfl hprogress
        | false => rfl
      | error e => rfl
    | timedOut => rfl
    | waiting lookup => cases hover
  have hline := (modifies_settleCheck w p id l.connection.principal progress).line_own hl
  rw [hstands] at hline
  refine ⟨l.demote l.connection.principal, hline, ?_⟩
  have hnot : l.connection.principal.isAnonymous = false := by
    cases hp : l.connection.principal with
    | anonymous => exact absurd (hp ▸ hq) (Revocation.not_covers_anonymous r)
    | _ => rfl
  simp [Line.demote, Line.modifyConnection, Connection.demoteIf, Connection.demotable, hnot]

/-- Checks of other connections leave the line alone. -/
lemma line?_settleCheck_of_ne {w : World} {p : Pass} {i id : ConnectionId} (hne : id ≠ i)
    (q : Principal) (progress : Limited Bool) :
    (w.settleCheck p i q progress).1.line? id = w.line? id := by
  rw [(modifies_settleCheck w p i q progress).line, if_neg hne]

lemma rests_check {w : World} (hr : r.InForce w.store.content) {q : Principal} (hq : r.Covers q)
    (caller : Caller) :
    (Limited.start w.store w.now w.timeLimit w.turns (q.stillValid caller)).Rests r.Refutes :=
  Limited.rests_start (Lookup.persists_avoids _ _) hr _ _ _ (Revocation.refutes_stillValid hq caller)

/-! ### A pass goes on -/

/-- The connection has lost the principal, or the pass has not done with it. -/
def Pursues (w : World) (p : Pass) (id : ConnectionId) (q : Principal) : Prop :=
  ∃ l, w.line? id = some l ∧
    (l.connection.principal = .anonymous ∨ (l.connection.principal = q ∧ p.Handles id q))

/-- Nothing is left to do once the connection has lost its principal. -/
lemma Demotes.pursues {w w' : World} (h : w.Demotes w') {id : ConnectionId} {l : Line}
    (hl : w.line? id = some l) (ha : l.connection.principal = .anonymous) (p : Pass)
    (q : Principal) : w'.Pursues p id q := by
  obtain ⟨l', hl', hprincipal⟩ := h.anonymous hl ha
  exact ⟨l', hl', .inl hprincipal⟩

lemma passChecks_of_concerns {p : Pass} {c : Connection} (hopen : c.closed = false)
    (hq : r.Covers c.principal) (hp : p.Concerns c.principal) : passChecks p.affected c = true := by
  simp only [passChecks]
  cases hu : c.principal.userId with
  | none =>
    cases hc : c.principal with
    | anonymous => exact absurd (hc ▸ hq) (Revocation.not_covers_anonymous r)
    | session u => simp [hc] at hu
    | appToken t => simp [hc] at hu
  | some user => simp [hopen, hp user hu]

/-- A connection that the pass has still to come to. -/
lemma pursues_checkRemaining {w : World} (hr : r.InForce w.store.content) {p : Pass}
    {ids : List ConnectionId} {id : ConnectionId} (hid : id ∈ ids) {l : Line}
    (hl : w.line? id = some l) (hopen : l.connection.closed = false)
    (hq : r.Covers l.connection.principal) (hp : p.Concerns l.connection.principal) :
    (w.checkRemaining p ids).1.Pursues (w.checkRemaining p ids).2 id l.connection.principal := by
  induction ids generalizing w p with
  | nil => cases hid
  | cons i rest ih =>
    by_cases hi : id = i
    · subst hi
      have hc := (line?_eq_some_iff.1 hl).2
      simp only [checkRemaining, hc, passChecks_of_concerns hopen hq hp, if_true]
      have hprogress := rests_check hr hq l.connection.caller
      rcases settleCheck_current w p id l.connection.principal (.start w.store w.now w.timeLimit
        w.turns (l.connection.principal.stillValid l.connection.caller)) with ⟨lookup, -, hcur⟩ | hcur
      · rw [if_pos (by rw [hcur]; rfl)]
        obtain ⟨l', hl', hprincipal, -⟩ :=
          (demotes_settleCheck w p id l.connection.principal _).exists_line hl
        exact ⟨l', hl', hprincipal.symm.imp_right fun hsame => ⟨hsame, .inr ⟨lookup, hcur⟩⟩⟩
      · rw [if_neg (by rw [hcur]; simp)]
        obtain ⟨k, hk, hanonymous⟩ := anonymous_of_settleCheck hl hq hprogress hcur
        exact (demotes_checkRemaining _ _ rest).pursues hk hanonymous _ _
    · have hrest : id ∈ rest := (List.mem_cons.1 hid).resolve_left hi
      simp only [checkRemaining]
      cases hc : w.broker.connection? i with
      | none => exact ih hr hrest hl hp
      | some c =>
        dsimp only
        split
        · split
          · exact ⟨l, (line?_settleCheck_of_ne hi _ _).trans hl, .inr ⟨rfl, .inl hrest⟩⟩
          · have hkeeps := (modifies_settleCheck w p i c.principal (.start w.store w.now w.timeLimit
              w.turns (c.principal.stillValid c.caller))).toKeeps
            refine ih (by rw [hkeeps.store]; exact hr) hrest
              ((line?_settleCheck_of_ne hi _ _).trans hl) fun user hu => ?_
            rw [(settleCheck_affected _ _ _ _ _).1]
            exact hp user hu
        · exact ih hr hrest hl hp

/-- After a check the pass waits or goes on with the next connection. -/
lemma pursues_goOn {w : World} (hr : r.InForce w.store.content) {p : Pass} {id : ConnectionId}
    {q : Principal} (hq : r.Covers q) (hp : p.Concerns q) (h : w.Pursues p id q)
    (hopen : ∀ l, w.line? id = some l → l.connection.closed = false) :
    (if p.current.isSome then (w, p) else w.checkRemaining p p.remaining).1.Pursues
      (if p.current.isSome then (w, p) else w.checkRemaining p p.remaining).2 id q := by
  split
  · exact h
  · next hcur =>
    obtain ⟨l, hl, hanonymous | ⟨rfl, hhandles⟩⟩ := h
    · exact (demotes_checkRemaining w p p.remaining).pursues hl hanonymous _ _
    · have hid : id ∈ p.remaining := by
        rcases hhandles with hid | ⟨lookup, hlookup⟩
        · exact hid
        · simp [hlookup] at hcur
      exact pursues_checkRemaining hr hid hl (hopen l hl) hq hp

/-- A connection that the pass has not done with. -/
lemma pursues_advancePass {w : World} (hr : r.InForce w.store.content) {p : Pass}
    {id : ConnectionId} {l : Line} (hl : w.line? id = some l)
    (hopen : l.connection.closed = false) (hq : r.Covers l.connection.principal)
    (hp : p.Concerns l.connection.principal) (hhandles : p.Handles id l.connection.principal)
    (hrefutes : p.Refutes r) :
    (w.advancePass p).1.Pursues (w.advancePass p).2 id l.connection.principal := by
  simp only [advancePass]
  split
  · next hcur =>
    have hid : id ∈ p.remaining := hhandles.resolve_right (by simp [hcur])
    exact pursues_checkRemaining hr hid hl hopen hq hp
  · next i q lookup hcur =>
    split
    · have hleaves := settleCheck_affected w { p with current := none } i q
        (lookup.advance w.store w.now w.turns)
      have hdemotes := demotes_settleCheck w { p with current := none } i q
        (lookup.advance w.store w.now w.turns)
      obtain ⟨k, hk, hprincipal, -, hclosed⟩ := hdemotes.exists_line hl
      have hforce : r.InForce (w.settleCheck { p with current := none } i q
          (lookup.advance w.store w.now w.turns)).1.store.content := by
        rw [hdemotes.store]
        exact hr
      refine pursues_goOn
        (p := (w.settleCheck { p with current := none } i q (lookup.advance w.store w.now w.turns)).2)
        hforce hq (fun user hu => ?_) ?_ fun l' hl' => ?_
      · rw [hleaves.1]
        exact hp user hu
      · rcases hprincipal.symm with hanonymous | hsame
        · exact ⟨k, hk, .inl hanonymous⟩
        · rcases hhandles with hid | ⟨lookup', hlookup⟩
          · exact ⟨k, hk, .inr ⟨hsame, .inl (by rw [hleaves.2]; exact hid)⟩⟩
          · rw [hcur] at hlookup
            cases hlookup
            have hprogress : (lookup.advance w.store w.now w.turns).Rests r.Refutes :=
              Limited.rests_advance (Lookup.persists_avoids _ _) hr _ _ (hrefutes _ _ _ hcur hq)
            rcases settleCheck_current w { p with current := none } id l.connection.principal
              (lookup.advance w.store w.now w.turns) with ⟨lookup', -, hwaits⟩ | hover
            · exact ⟨k, hk, .inr ⟨hsame, .inr ⟨lookup', hwaits⟩⟩⟩
            · obtain ⟨l', hl', hanonymous⟩ := anonymous_of_settleCheck hl hq hprogress hover
              exact ⟨l', hl', .inl hanonymous⟩
      · rw [hk] at hl'
        cases hl'
        exact hclosed.trans hopen
    · exact ⟨l, hl, .inr ⟨rfl, hhandles⟩⟩

/-! ### What the pass looks up -/

lemma refutes_settleCheck (w : World) (p : Pass) (i : ConnectionId) {q : Principal}
    {progress : Limited Bool} (h : r.Covers q → progress.Rests r.Refutes) :
    (w.settleCheck p i q progress).2.Refutes r := by
  intro j q' lookup hcur hq
  rcases settleCheck_current w p i q progress with ⟨lookup', rfl, hwaits⟩ | hover
  · rw [hwaits] at hcur
    cases hcur
    exact h hq
  · rw [hover] at hcur
    cases hcur

lemma refutes_checkRemaining {w : World} (hr : r.InForce w.store.content) {p : Pass}
    (hp : p.Refutes r) (ids : List ConnectionId) : (w.checkRemaining p ids).2.Refutes r := by
  induction ids generalizing w p with
  | nil => exact hp
  | cons i rest ih =>
    unfold checkRemaining
    split
    · exact ih hr hp
    · next c hc =>
      split
      · have hsettled := refutes_settleCheck w p i (q := c.principal) fun hq =>
          rests_check hr hq c.caller
        dsimp only
        split
        · exact hsettled
        · refine ih ?_ hsettled
          rw [(demotes_settleCheck w p i _ _).store]
          exact hr
      · exact ih hr hp

lemma refutes_advancePass {w : World} (hr : r.InForce w.store.content) {p : Pass}
    (hp : p.Refutes r) : (w.advancePass p).2.Refutes r := by
  unfold advancePass
  split
  · exact refutes_checkRemaining hr hp _
  · next i q lookup hcur =>
    split
    · have hsettled := refutes_settleCheck w { p with current := none } i fun hq =>
        Limited.rests_advance (Lookup.persists_avoids _ _) hr w.now w.turns (hp i q lookup hcur hq)
      dsimp only
      split
      · exact hsettled
      · refine refutes_checkRemaining ?_ hsettled _
        rw [(demotes_settleCheck w _ i _ _).store]
        exact hr
    · exact hp

lemma affected_checkRemaining (w : World) (p : Pass) (ids : List ConnectionId) :
    (w.checkRemaining p ids).2.affected = p.affected := by
  induction ids generalizing w p with
  | nil => rfl
  | cons i rest ih =>
    unfold checkRemaining
    split
    · exact ih w p
    · split
      · have h := fun c : Connection => (settleCheck_affected w p i c.principal (.start w.store w.now
          w.timeLimit w.turns (c.principal.stillValid c.caller))).1
        dsimp only
        split
        · exact h _
        · exact (ih _ _).trans (h _)
      · exact ih w p

lemma affected_advancePass (w : World) (p : Pass) : (w.advancePass p).2.affected = p.affected := by
  unfold advancePass
  split
  · exact affected_checkRemaining w p _
  · split
    · dsimp only
      split
      · exact (settleCheck_affected w _ _ _ _).1
      · exact (affected_checkRemaining _ _ _).trans (settleCheck_affected w _ _ _ _).1
    · rfl

/-! ### The passes of the service -/

/-- A pass that begins has all connections before it that are registered. -/
lemma passes_startPass {w : World} {affected : Option String} {index : Nat} {p : Pass}
    (h : (w.startPass affected).passes[index]? = some p) : w.passes[index]? = some p ∨
      (w.passes[index]? = none ∧ p = { affected, remaining := w.broker.registry }) := by
  have h : (w.passes ++ [({ affected, remaining := w.broker.registry } : Pass)])[index]? = some p := h
  rcases Nat.lt_trichotomy index w.passes.length with hlt | rfl | hlt
  · exact .inl (by rwa [List.getElem?_append_left hlt] at h)
  · simp only [List.getElem?_concat_length, Option.some.injEq] at h
    exact .inr ⟨by simp, h.symm⟩
  · rw [List.getElem?_eq_none (by simp; omega)] at h
    cases h

/-- What becomes of the passes: they are left alone, the one whose task it is goes on, or a new one
begins, with all connections that are registered still to come. -/
lemma passes_step {w : World} {a : Action} {index : Nat} {p : Pass}
    (h : (w.step a).passes[index]? = some p) :
    w.passes[index]? = some p ∨
    (∃ p', a = .task (.pass index) ∧ w.passes[index]? = some p' ∧ p = (w.advancePass p').2 ∧
      ∀ id, (w.step a).line? id = (w.advancePass p').1.line? id) ∨
    (w.passes[index]? = none ∧ (∃ affected, p = { affected, remaining := w.broker.registry }) ∧
      ∀ id, (w.step a).line? id = w.line? id) := by
  have hdispatch {v : World} (hpasses : v.passes = w.passes) (hbroker : v.broker = w.broker)
      (hline : ∀ id, v.line? id = w.line? id) (m : Message)
      (hm : (v.dispatch m).passes[index]? = some p) : w.passes[index]? = some p ∨
      (w.passes[index]? = none ∧ (∃ affected, p = { affected, remaining := w.broker.registry }) ∧
        ∀ id, (v.dispatch m).line? id = w.line? id) := by
    obtain hk | ⟨affected, hs⟩ := dispatch_keeps v m
    · exact .inl (by rwa [hk.passes, hpasses] at hm)
    · rw [hs] at hm
      apply (passes_startPass hm).imp (fun hm => hpasses ▸ hm)
      rintro ⟨hn, hreg⟩
      refine ⟨hpasses ▸ hn, ⟨affected, hbroker ▸ hreg⟩, ?_⟩
      intro id
      rw [hs]
      exact hline id
  cases a with
  | task t =>
    cases t with
    | listener =>
      simp only [step, work, listen] at h ⊢
      split at h
      · split at h
        · next m next _ =>
          exact (hdispatch (v := { w with listener := .listening next }) rfl rfl (fun _ => rfl) m
            h).imp_right .inr
        · exact .inl h
      · split at h <;> exact .inl h
    | delivery t => exact .inl ((modifies_deliver w t).passes ▸ h)
    | pass k =>
      simp only [step, work, runPass] at h ⊢
      cases hk : w.passes[k]? with
      | none => exact .inl (by simpa [hk] using h)
      | some p' =>
        simp only [hk] at h ⊢
        rw [(demotes_advancePass w p').passes] at h
        by_cases heq : k = index
        · subst heq
          obtain ⟨hlt, -⟩ := List.getElem?_eq_some_iff.1 hk
          simp only [List.getElem?_set_self hlt, Option.some.injEq] at h
          exact .inr (.inl ⟨p', rfl, hk, h.symm, fun _ => rfl⟩)
        · rw [List.getElem?_set_ne heq] at h
          exact .inl h
    | reader i => exact .inl ((modifies_read w i).passes ▸ h)
    | heartbeat i => exact .inl ((modifies_missHeartbeat w i).passes ▸ h)
    | writer i => exact .inl ((modifies_write w i).passes ▸ h)
  | connect i caller =>
    refine .inl ?_
    simp only [step, connect] at h
    split at h <;> exact h
  | dispatch m => exact (hdispatch rfl rfl (fun _ => rfl) m h).imp_right .inr
  | elapse target =>
    refine .inl ?_
    simp only [step, elapse] at h
    split at h <;> exact h
  | reauthorize affected =>
    apply (passes_startPass h).imp_right
    rintro ⟨hn, hreg⟩
    exact .inr ⟨hn, ⟨affected, hreg⟩, fun _ => rfl⟩
  | arrive i arrival => exact .inl h
  | leave i => exact .inl h
  | updateStore u => exact .inl h
  | publish m => exact .inl h
  | breakTransport failures => exact .inl h
  | setTransportDown b => exact .inl h
  | reorder order => exact .inl h

end World

end EventGateway
