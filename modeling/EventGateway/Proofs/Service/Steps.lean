import EventGateway.Proofs.Service.Lines
import EventGateway.Proofs.Session.Moves
import Mathlib.Tactic.Set

/-!
# Steps of the service

Everything that one action can do to the line of a connection. An event reaches the connections that it
is routed to, each once; a pass takes principals away; whatever else happens to a line is the work of a
task of its own or comes from its client. What holds of a line that is opened and survives every move
holds of all lines at all times.
-/

namespace EventGateway

/-- Do the credentials still stand, as far as the check of them has come? -/
def Limited.stands : Limited Bool → Bool
  | .finished (.ok valid) => valid
  | .waiting _ => true
  | _ => false

namespace World

/-! ### Events are routed -/

/-- Reserves a slot for an event on one connection, if it accepts one. -/
def reserveOn (w : World) (e : Event) (id : ConnectionId) : World :=
  match (w.broker.connection? id).bind Connection.openSlot? with
  | some slot => { w with broker := w.broker.modify id Connection.reserve }.addDelivery e ⟨id, slot⟩
  | none => w

lemma foldl_addDelivery_reserveAll (w : World) (e : Event) (ids : List ConnectionId) :
    (w.broker.reserveAll ids).2.foldl (fun w t => w.addDelivery e t)
        { w with broker := (w.broker.reserveAll ids).1 } =
      ids.foldl (fun w id => w.reserveOn e id) w := by
  induction ids generalizing w with
  | nil => rfl
  | cons id rest ih =>
    rw [List.foldl_cons, ← ih]
    simp only [Broker.reserveAll, Broker.reserve, reserveOn]
    cases (w.broker.connection? id).bind Connection.openSlot? <;> rfl

lemma reserve_keeps (c : Connection) :
    c.reserve.rooms = c.rooms ∧ c.reserve.closed = c.closed := by
  simp only [Connection.reserve]
  split <;> exact ⟨rfl, rfl⟩

lemma modifies_reserveOn (w : World) (e : Event) (id : ConnectionId) :
    w.Modifies (w.reserveOn e id) id (Line.reserve e) := by
  simp only [reserveOn]
  have hline (l : Line) (hl : w.line? id = some l) (slot : Nat) :
      (w.broker.connection? id).bind Connection.openSlot? = some slot ↔
        l.connection.accepts = true ∧ l.connection.outbound.nextSlot = slot := by
    rw [(line?_eq_some_iff.1 hl).2]
    exact Connection.openSlot?_eq_some_iff
  split
  · next slot hslot =>
    refine ((modifies_broker (Broker.alters_modify _ _ _)
      (.single (.modify id fun c _ => reserve_keeps c))).trans
      (modifies_modifySession _ id _)).congr fun l hl => ?_
    rw [Line.reserve, if_pos ((hline l hl slot).1 hslot).1]
    rfl
  · next hslot =>
    refine .self fun l hl => ?_
    have ha : ¬ l.connection.accepts = true := fun ha => by
      simp [(hline l hl _).2 ⟨ha, rfl⟩] at hslot
    rw [Line.reserve, if_neg ha]

/-- Several connections, each once. -/
lemma line?_foldl_reserveOn (w : World) (e : Event) {ids : List ConnectionId} (hids : ids.Nodup) :
    w.Keeps (ids.foldl (fun w id => w.reserveOn e id) w) ∧
      ∀ i, (ids.foldl (fun w id => w.reserveOn e id) w).line? i =
        if i ∈ ids then (w.line? i).map (Line.reserve e) else w.line? i := by
  induction ids generalizing w with
  | nil => exact ⟨.refl w, fun i => by simp⟩
  | cons id rest ih =>
    obtain ⟨hnot, hrest⟩ := List.nodup_cons.1 hids
    have hfirst := modifies_reserveOn w e id
    obtain ⟨hkeeps, hline⟩ := ih (w.reserveOn e id) hrest
    refine ⟨hfirst.toKeeps.trans hkeeps, ?_⟩
    intro i
    rw [List.foldl_cons, hline, hfirst.line]
    by_cases hi : i = id
    · subst hi
      simp [hnot]
    · simp [hi]

/-- The event that a message brings to a connection, if it is routed to it. -/
def routed? (w : World) (m : Message) (id : ConnectionId) : Option Event :=
  if m.isControl then none else m.event?.filter fun e => id ∈ w.broker.candidates e.rooms

lemma line?_dispatch (w : World) (m : Message) (i : ConnectionId) :
    (w.dispatch m).line? i =
      match w.routed? m i with
      | some e => (w.line? i).map (Line.reserve e)
      | none => w.line? i := by
  simp only [dispatch, routed?]
  split
  · split <;> rfl
  · cases hm : m.event? with
    | none => rfl
    | some e =>
      have hline := (line?_foldl_reserveOn w e (w.broker.nodup_candidates e.rooms)).2 i
      rw [← foldl_addDelivery_reserveAll] at hline
      apply hline.trans
      by_cases hi : i ∈ w.broker.candidates e.rooms <;> simp [hi, Option.filter]

/-- A message changes at most lines and passes. -/
lemma dispatch_keeps (w : World) (m : Message) :
    w.Keeps (w.dispatch m) ∨ ∃ affected, w.dispatch m = w.startPass affected := by
  simp only [dispatch]
  split
  · split
    · exact .inr ⟨_, rfl⟩
    · exact .inl (.refl w)
  · split
    · next e _ =>
      have hkeeps := (line?_foldl_reserveOn w e (w.broker.nodup_candidates e.rooms)).1
      rw [← foldl_addDelivery_reserveAll] at hkeeps
      exact .inl hkeeps
    · exact .inl (.refl w)

/-! ### Passes take principals away -/

/-- The worlds differ in principals that have been taken away. -/
structure Demotes (w w' : World) : Prop extends Keeps w w' where
  line : ∀ i, ∃ ps : List Principal, w'.line? i = (w.line? i).map fun l => ps.foldl Line.demote l

lemma Demotes.refl (w : World) : w.Demotes w where
  toKeeps := .refl w
  line i := ⟨[], by cases w.line? i <;> rfl⟩

lemma Demotes.trans {w w' w'' : World} (h : w.Demotes w') (h' : w'.Demotes w'') : w.Demotes w'' where
  toKeeps := h.toKeeps.trans h'.toKeeps
  line i := by
    obtain ⟨ps, hps⟩ := h.line i
    obtain ⟨qs, hqs⟩ := h'.line i
    refine ⟨ps ++ qs, ?_⟩
    rw [hqs, hps, Option.map_map]
    simp only [List.foldl_append]
    rfl

lemma Modifies.demotes {w w' : World} {id : ConnectionId} {ps : List Principal}
    (h : w.Modifies w' id fun l => ps.foldl Line.demote l) : w.Demotes w' where
  toKeeps := h.toKeeps
  line i := by
    rw [h.line]
    split
    · exact ⟨ps, rfl⟩
    · exact ⟨[], by cases w.line? i <;> rfl⟩

lemma demoteIf_keeps (p : Principal) (c : Connection) :
    (c.demoteIf p).rooms = c.rooms ∧ (c.demoteIf p).closed = c.closed := by
  simp only [Connection.demoteIf]
  split <;> exact ⟨rfl, rfl⟩

/-- The one connection whose check comes to its end loses its principal, or nothing happens. -/
lemma modifies_concludeCheck (w : World) (p : Pass) (id : ConnectionId) (principal : Principal)
    (valid : Bool) : w.Modifies (w.concludeCheck p id principal valid).1 id fun l =>
      if valid then l else l.demote principal := by
  cases valid with
  | true => exact .self fun _ _ => rfl
  | false => exact modifies_modifyConnection w id fun c _ => demoteIf_keeps principal c

lemma modifies_settleCheck (w : World) (p : Pass) (id : ConnectionId) (principal : Principal)
    (progress : Limited Bool) : w.Modifies (w.settleCheck p id principal progress).1 id fun l =>
      if progress.stands then l else l.demote principal := by
  cases progress with
  | finished r =>
    cases r with
    | ok valid => exact modifies_concludeCheck w p id principal valid
    | error _ => exact modifies_concludeCheck w p id principal false
  | timedOut => exact modifies_concludeCheck w p id principal false
  | waiting lookup => exact modifies_countTurn w id

lemma demotes_settleCheck (w : World) (p : Pass) (id : ConnectionId) (principal : Principal)
    (progress : Limited Bool) : w.Demotes (w.settleCheck p id principal progress).1 := by
  have h := modifies_settleCheck w p id principal progress
  cases hs : progress.stands with
  | true => exact Modifies.demotes (h.congr (g := fun l => [].foldl Line.demote l) (by simp [hs]))
  | false =>
    exact Modifies.demotes (h.congr (g := fun l => [principal].foldl Line.demote l) (by simp [hs]))

lemma demotes_checkRemaining (w : World) (p : Pass) (ids : List ConnectionId) :
    w.Demotes (w.checkRemaining p ids).1 := by
  induction ids generalizing w p with
  | nil => exact .refl w
  | cons id rest ih =>
    unfold checkRemaining
    split
    · exact ih w p
    · split
      · dsimp only
        split
        · exact demotes_settleCheck w p id _ _
        · exact (demotes_settleCheck w p id _ _).trans (ih _ _)
      · exact ih w p

lemma demotes_advancePass (w : World) (p : Pass) : w.Demotes (w.advancePass p).1 := by
  unfold advancePass
  split
  · exact demotes_checkRemaining w p _
  · split
    · next lookup _ _ =>
      dsimp only
      split
      · exact demotes_settleCheck w _ _ _ _
      · exact (demotes_settleCheck w _ _ _ _).trans (demotes_checkRemaining _ _ _)
    · exact .refl w

/-- A pass changes lines and, besides, only itself. -/
lemma demotes_runPass (w : World) (index : Nat) :
    ∃ w', w.Demotes w' ∧ ∃ passes, w.runPass index = { w' with passes } := by
  simp only [runPass]
  split
  · next p _ => exact ⟨_, demotes_advancePass w p, _, rfl⟩
  · exact ⟨w, .refl w, w.passes, rfl⟩

/-! ### What an action does -/

/-- The message that reaches the broker by an action. -/
def dispatched? (w : World) : Action → Option Message
  | .dispatch m => some m
  | .task .listener =>
    match w.listener with
    | .listening place => (w.bus.hub.receive? place).map Prod.fst
    | .retrying _ _ => none
  | _ => none

/-- What an action does to the line of a connection that there is. -/
inductive Effect (w : World) (id : ConnectionId) : Action → Line → Line → Prop
  | read (l : Line) : Effect w id (.task (.reader id)) l (l.read w.moment)
  | missHeartbeat (l : Line) : Effect w id (.task (.heartbeat id)) l (l.missHeartbeat w.now)
  | write (l : Line) : Effect w id (.task (.writer id)) l l.write
  | deliver (l : Line) (slot : Nat) :
    Effect w id (.task (.delivery ⟨id, slot⟩)) l (l.deliver w.moment slot)
  | demote (l : Line) (index : Nat) (ps : List Principal) :
    Effect w id (.task (.pass index)) l (ps.foldl Line.demote l)
  | reserve (l : Line) {a : Action} {m : Message} {e : Event} :
    w.dispatched? a = some m → w.routed? m id = some e → Effect w id a l (l.reserve e)
  | arrive (l : Line) (arrival : Arrival) : Effect w id (.arrive id arrival) l (l.arrive arrival)
  | depart (l : Line) : Effect w id (.leave id) l l.depart
  /-- Other tasks, and messages that are not routed to the connection. -/
  | spare (l : Line) {a : Action} : (∀ slot, a ≠ .task (.delivery ⟨id, slot⟩)) →
    (∀ m, w.dispatched? a = some m → w.routed? m id = none) → Effect w id a l l

/-- An event that is routed to the connection is reserved a slot. -/
lemma Effect.reserves {w : World} {id : ConnectionId} {a : Action} {l l' : Line} {m : Message}
    {e : Event} (h : w.Effect id a l l') (hm : w.dispatched? a = some m)
    (he : w.routed? m id = some e) : l' = l.reserve e := by
  cases h with
  | reserve _ hd hr =>
    rw [hm, Option.some.injEq] at hd
    rw [← hd, he, Option.some.injEq] at hr
    rw [hr]
  | spare _ _ hnone =>
    have := hnone m hm
    simp [he] at this
  | _ => simp [dispatched?] at hm

lemma Modifies.effect {w w' : World} {i : ConnectionId} {f : Line → Line} (h : w.Modifies w' i f)
    {a : Action} (hi : ∀ l, w.Effect i a l (f l)) {id : ConnectionId}
    (hspare : id ≠ i → ∀ l, w.Effect id a l l) {l : Line} (hl : w.line? id = some l) :
    ∃ l', w'.line? id = some l' ∧ w.Effect id a l l' := by
  rw [h.line]
  by_cases heq : id = i
  · subst heq
    exact ⟨f l, by simp [hl], hi l⟩
  · exact ⟨l, by simp [heq, hl], hspare heq l⟩

lemma effect_dispatch {w w' : World} {a : Action} {m : Message} (ha : w.dispatched? a = some m)
    (hnot : ∀ id slot, a ≠ .task (.delivery ⟨id, slot⟩)) {id : ConnectionId} {l : Line}
    (hl : w.line? id = some l)
    (hw : w'.line? id = match w.routed? m id with
      | some e => (w.line? id).map (Line.reserve e)
      | none => w.line? id) :
    ∃ l', w'.line? id = some l' ∧ w.Effect id a l l' := by
  rw [hw]
  cases hr : w.routed? m id with
  | some e => exact ⟨l.reserve e, by simp [hl], .reserve l ha hr⟩
  | none =>
    refine ⟨l, by simp [hl], .spare l (hnot id) fun m' hm' => ?_⟩
    rw [ha, Option.some.injEq] at hm'
    exact hm' ▸ hr

/-- An action that brings no message and is no delivery. -/
lemma effect_spare {w : World} {a : Action} {id : ConnectionId} (l : Line)
    (hd : w.dispatched? a = none) (hnot : ∀ slot, a ≠ .task (.delivery ⟨id, slot⟩)) :
    w.Effect id a l l :=
  .spare l hnot fun m hm => by simp [hd] at hm

lemma line?_connect {w : World} {i id : ConnectionId} (caller : Caller)
    (hc : w.broker.connection? i = none) :
    (w.connect i caller).line? id =
      if id = i then some (.opened w.config w.now i caller) else w.line? id := by
  have hsent : (({ id := i, caller } : Connection).send
      (helloFrame i w.config.heartbeatInterval.toNat)).id = i := by
    simp only [Connection.send]
    split <;> rfl
  simp only [connect]
  rw [hc]
  simp only [line?_eq_bind, Dictionary.get?_insert]
  have hget : ((w.broker.add (({ id := i, caller } : Connection).send
      (helloFrame i w.config.heartbeatInterval.toNat))).register i).connection? id =
      if id = i then some (({ id := i, caller } : Connection).send
        (helloFrame i w.config.heartbeatInterval.toNat)) else w.broker.connection? id := by
    refine (Dictionary.get?_insert w.broker.connections _ _ _).trans ?_
    rw [hsent]
    rfl
  rw [hget]
  split <;> rfl

lemma effect_of_line?_eq {w : World} {a : Action} {id : ConnectionId} {l : Line}
    (hl : w.line? id = some l) (hw : (w.step a).line? id = w.line? id)
    (hd : w.dispatched? a = none) (hnot : ∀ slot, a ≠ .task (.delivery ⟨id, slot⟩)) :
    ∃ l', (w.step a).line? id = some l' ∧ w.Effect id a l l' :=
  ⟨l, hw.trans hl, effect_spare l hd hnot⟩

lemma line?_reorder (w : World) (order : List ConnectionId) (id : ConnectionId) :
    (w.step (.reorder order)).line? id = w.line? id := by
  simp only [step, line?_eq_bind, Broker.connection?_reorder]

lemma effect_listen {w : World} {id : ConnectionId} {l : Line} (hl : w.line? id = some l) :
    ∃ l', (w.step (.task .listener)).line? id = some l' ∧ w.Effect id (.task .listener) l l' := by
  have hnot : ∀ id slot, Action.task .listener ≠ .task (.delivery ⟨id, slot⟩) := by simp
  cases hlisten : w.listener with
  | listening place =>
    cases hr : w.bus.hub.receive? place with
    | none =>
      have hstep : w.step (.task .listener) = w := by simp [step, work, listen, hlisten, hr]
      exact effect_of_line?_eq hl (by rw [hstep]) (by simp [dispatched?, hlisten, hr]) (hnot id)
    | some received =>
      obtain ⟨m, next⟩ := received
      have hstep : w.step (.task .listener) =
          ({ w with listener := .listening next }).dispatch m := by
        simp [step, work, listen, hlisten, hr]
      rw [hstep]
      exact effect_dispatch (by simp [dispatched?, hlisten, hr]) hnot hl
        (line?_dispatch { w with listener := .listening next } m id)
  | retrying due backoff =>
    refine effect_of_line?_eq hl ?_ (by simp [dispatched?, hlisten]) (hnot id)
    simp only [step, work, listen, hlisten]
    split <;> rfl

lemma effect_work {w : World} {t : Task} {id : ConnectionId} {l : Line} (hl : w.line? id = some l) :
    ∃ l', (w.step (.task t)).line? id = some l' ∧ w.Effect id (.task t) l l' := by
  cases t with
  | listener => exact effect_listen hl
  | delivery t =>
    refine (modifies_deliver w t).effect (fun l => .deliver l t.slot) (fun hne l => ?_) hl
    refine effect_spare l rfl fun slot h => hne ?_
    cases h
    rfl
  | pass index =>
    obtain ⟨w', hd, passes, heq⟩ := demotes_runPass w index
    obtain ⟨ps, hps⟩ := hd.line id
    refine ⟨ps.foldl Line.demote l, ?_, .demote l index ps⟩
    have : (w.step (.task (.pass index))).line? id = w'.line? id := by
      simp only [step, work, heq]
      rfl
    rw [this, hps, hl]
    rfl
  | reader i =>
    exact (modifies_read w i).effect (fun l => .read l) (fun _ l => effect_spare l rfl (by simp)) hl
  | heartbeat i =>
    exact (modifies_missHeartbeat w i).effect (fun l => .missHeartbeat l)
      (fun _ l => effect_spare l rfl (by simp)) hl
  | writer i =>
    exact (modifies_write w i).effect (fun l => .write l) (fun _ l => effect_spare l rfl (by simp)) hl

/-- Everything that an action can do to the line of a connection. -/
theorem effect_step {w : World} {a : Action} {id : ConnectionId} {l : Line}
    (hl : w.line? id = some l) : ∃ l', (w.step a).line? id = some l' ∧ w.Effect id a l l' := by
  cases a with
  | task t => exact effect_work hl
  | connect i caller =>
    refine effect_of_line?_eq hl ?_ rfl (by simp)
    cases hc : w.broker.connection? i with
    | some c => simp [step, connect, hc]
    | none =>
      refine (line?_connect caller hc).trans (if_neg ?_)
      rintro rfl
      simp [line?_eq_none_of_connection? hc] at hl
  | arrive i arrival =>
    exact (modifies_modifySession w i _).effect (fun l => .arrive l arrival)
      (fun _ l => effect_spare l rfl (by simp)) hl
  | leave i =>
    exact (modifies_modifySession w i _).effect (fun l => .depart l)
      (fun _ l => effect_spare l rfl (by simp)) hl
  | dispatch m => exact effect_dispatch rfl (by simp) hl (line?_dispatch w m id)
  | elapse target =>
    refine effect_of_line?_eq hl ?_ rfl (by simp)
    simp only [step, elapse]
    split <;> rfl
  | updateStore u => exact effect_of_line?_eq hl rfl rfl (by simp)
  | publish m => exact effect_of_line?_eq hl rfl rfl (by simp)
  | reauthorize affected => exact effect_of_line?_eq hl rfl rfl (by simp)
  | breakTransport failures => exact effect_of_line?_eq hl rfl rfl (by simp)
  | setTransportDown b => exact effect_of_line?_eq hl rfl rfl (by simp)
  | reorder order => exact effect_of_line?_eq hl (line?_reorder w order id) rfl (by simp)

lemma Effect.leads {w : World} {id : ConnectionId} {a : Action} {l l' : Line}
    (h : w.Effect id a l l') : l.Leads l' := by
  cases h with
  | read => exact (l.sidesteps_read _).leads
  | missHeartbeat => exact (l.sidesteps_missHeartbeat _).leads
  | write => exact l.sidesteps_write.leads
  | deliver slot => exact l.leads_deliver _ _
  | demote _ _ ps => exact (l.sidesteps_demotions ps).leads
  | reserve => exact .single (.reserve l _)
  | arrive _ arrival => exact (l.sidesteps_arrive arrival).leads
  | depart => exact l.sidesteps_depart.leads
  | spare => exact .refl

/-! ### What an action leaves as it is -/

/-- What an action does not do: it changes no settings, breaks no pair of a session and a connection,
forgets no pass, and makes no lines, unless it is the opening of a connection. -/
structure Grows (w w' : World) (a : Action) : Prop where
  broker : w.broker.Leads w'.broker
  paired : w.Paired → w'.Paired
  config : w'.config = w.config
  passes : w.passes.length ≤ w'.passes.length
  opened : ∀ i l, w'.line? i = some l → w.line? i = none →
    ∃ caller, a = .connect i caller ∧ l = .opened w.config w.now i caller

lemma Keeps.grows {w w' : World} (h : w.Keeps w') (a : Action) : w.Grows w' a where
  broker := h.broker
  paired := h.paired
  config := h.config
  passes := Nat.le_of_eq (congrArg List.length h.passes.symm)
  opened i l hl hn := by
    have := h.known i
    simp [hl, hn] at this

lemma grows_connect (w : World) (i : ConnectionId) (caller : Caller) :
    w.Grows (w.connect i caller) (.connect i caller) := by
  cases hc : w.broker.connection? i with
  | some c =>
    have : w.connect i caller = w := by simp [connect, hc]
    rw [this]
    exact (Keeps.refl w).grows _
  | none =>
    set c : Connection := ({ id := i, caller } : Connection).send
      (helloFrame i w.config.heartbeatInterval.toNat) with hdef
    have hid : c.id = i := by
      rw [hdef, Connection.send]
      split <;> rfl
    have hrooms := send_keeps (helloFrame i w.config.heartbeatInterval.toNat)
      ({ id := i, caller } : Connection)
    have hbroker : (w.connect i caller).broker = (w.broker.add c).register c.id := by
      simp only [connect, hc]
      rw [hid]
    have hsessions : (w.connect i caller).sessions =
        w.sessions.insert i (.opened w.config.checkedGrace w.now) := by
      simp only [connect, hc]
    have hconfig : (w.connect i caller).config = w.config := by simp only [connect, hc]
    have hpasses : (w.connect i caller).passes = w.passes := by simp only [connect, hc]
    refine ⟨?_, ?_, hconfig, Nat.le_of_eq (congrArg List.length hpasses.symm), ?_⟩
    · rw [hbroker]
      exact .single (.connect (hid ▸ hc) hrooms.2 hrooms.1)
    · intro hp id
      have hget : ((w.broker.add c).register c.id).connection? id =
          if id = i then some c else w.broker.connection? id := by
        refine (Dictionary.get?_insert w.broker.connections c.id id c).trans ?_
        rw [hid]
        rfl
      rw [hbroker, hsessions, hget, Dictionary.get?_insert]
      split
      · rfl
      · exact hp id
    · intro id l hl hn
      rw [line?_connect caller hc] at hl
      split at hl
      · next hi => exact ⟨caller, by rw [hi], by rw [hi]; exact (Option.some.inj hl).symm⟩
      · simp [hn] at hl

theorem grows_step (w : World) (a : Action) : w.Grows (w.step a) a := by
  have hsame {w' : World} (hb : w'.broker = w.broker) (hs : w'.sessions = w.sessions)
      (hc : w'.config = w.config) (hp : w.passes.length ≤ w'.passes.length) : w.Grows w' a := by
    have hline (i : ConnectionId) : w'.line? i = w.line? i := by
      rw [line?_eq_bind, line?_eq_bind, hb, hs]
    exact ⟨hb ▸ .refl, fun hpaired i => by rw [hs, hb]; exact hpaired i, hc, hp,
      fun i l hl hn => by simp [← hline, hl] at hn⟩
  have hdispatch (m : Message) : w.Grows (w.dispatch m) a := by
    obtain h | ⟨affected, h⟩ := dispatch_keeps w m
    · exact h.grows a
    · rw [h]
      exact hsame rfl rfl rfl (by simp [startPass])
  cases a with
  | task t =>
    cases t with
    | listener =>
      simp only [step, work, listen]
      split
      · split
        · next m next _ =>
          obtain h | ⟨affected, h⟩ := dispatch_keeps { w with listener := .listening next } m
          · have hg := h.grows (.task .listener)
            exact ⟨hg.broker, hg.paired, hg.config, hg.passes, hg.opened⟩
          · rw [h]
            exact hsame rfl rfl rfl (by simp [startPass])
        · exact hsame rfl rfl rfl (Nat.le_refl _)
      · split <;> exact hsame rfl rfl rfl (Nat.le_refl _)
    | delivery t => exact (modifies_deliver w t).toKeeps.grows _
    | pass index =>
      obtain ⟨w', hd, passes, heq⟩ := demotes_runPass w index
      have hg := hd.toKeeps.grows (.task (.pass index))
      have hlength : (w.runPass index).passes.length = w.passes.length := by
        simp only [runPass]
        split
        · simp [(demotes_advancePass w _).passes]
        · rfl
      simp only [step, work]
      exact ⟨heq ▸ hg.broker, heq ▸ hg.paired, heq ▸ hg.config, Nat.le_of_eq hlength.symm,
        heq ▸ hg.opened⟩
    | reader i => exact (modifies_read w i).toKeeps.grows _
    | heartbeat i => exact (modifies_missHeartbeat w i).toKeeps.grows _
    | writer i => exact (modifies_write w i).toKeeps.grows _
  | connect i caller => exact grows_connect w i caller
  | arrive i arrival => exact (modifies_modifySession w i _).toKeeps.grows _
  | leave i => exact (modifies_modifySession w i _).toKeeps.grows _
  | dispatch m => exact hdispatch m
  | elapse target =>
    simp only [step, elapse]
    split <;> exact hsame rfl rfl rfl (Nat.le_refl _)
  | updateStore u => exact hsame rfl rfl rfl (Nat.le_refl _)
  | publish m => exact hsame rfl rfl rfl (Nat.le_refl _)
  | reauthorize affected => exact hsame rfl rfl rfl (by simp [step, startPass])
  | breakTransport failures => exact hsame rfl rfl rfl (Nat.le_refl _)
  | setTransportDown b => exact hsame rfl rfl rfl (Nat.le_refl _)
  | reorder order =>
    refine ⟨.single (.reorder w.broker order), fun hpaired i => ?_, rfl, Nat.le_refl _, fun i l hl hn => ?_⟩
    · simp only [step, Broker.connection?_reorder]
      exact hpaired i
    · rw [line?_reorder, hn] at hl
      cases hl

/-- Time passes in no other step than those that let it. -/
lemma now_step {a : Action} (ha : ∀ target, a ≠ .elapse target) (w : World) :
    (w.step a).now = w.now := by
  have hdispatch (w : World) (m : Message) : (w.dispatch m).now = w.now := by
    obtain h | ⟨affected, h⟩ := dispatch_keeps w m
    · exact h.now
    · rw [h]
      rfl
  cases a with
  | task t =>
    cases t with
    | listener =>
      simp only [step, work, listen]
      split
      · split
        · exact hdispatch _ _
        · rfl
      · split <;> rfl
    | delivery t => exact (modifies_deliver w t).now
    | pass index =>
      obtain ⟨w', hd, passes, heq⟩ := demotes_runPass w index
      simp only [step, work, heq]
      exact hd.now
    | reader i => exact (modifies_read w i).now
    | heartbeat i => exact (modifies_missHeartbeat w i).now
    | writer i => exact (modifies_write w i).now
  | connect i caller =>
    simp only [step, connect]
    split <;> rfl
  | dispatch m => exact hdispatch w m
  | elapse target => exact absurd rfl (ha target)
  | arrive | leave | updateStore | publish | reauthorize | breakTransport | setTransportDown | reorder =>
    rfl

/-- The store stays as it is in every step but its own updates. -/
lemma store_step {a : Action} (ha : ∀ u, a ≠ .updateStore u) (w : World) :
    (w.step a).store = w.store := by
  have hdispatch (w : World) (m : Message) : (w.dispatch m).store = w.store := by
    obtain h | ⟨affected, h⟩ := dispatch_keeps w m
    · exact h.store
    · rw [h]
      rfl
  cases a with
  | task t =>
    cases t with
    | listener =>
      simp only [step, work, listen]
      split
      · split
        · exact hdispatch _ _
        · rfl
      · split <;> rfl
    | delivery t => exact (modifies_deliver w t).store
    | pass index =>
      obtain ⟨w', hd, passes, heq⟩ := demotes_runPass w index
      simp only [step, work, heq]
      exact hd.store
    | reader i => exact (modifies_read w i).store
    | heartbeat i => exact (modifies_missHeartbeat w i).store
    | writer i => exact (modifies_write w i).store
  | connect i caller =>
    simp only [step, connect]
    split <;> rfl
  | dispatch m => exact hdispatch w m
  | elapse target =>
    simp only [step, elapse]
    split <;> rfl
  | updateStore u => exact absurd rfl (ha u)
  | arrive | leave | publish | reauthorize | breakTransport | setTransportDown | reorder => rfl

/-- Time passes to the target or not at all, and not beyond what a task has to do. -/
lemma elapse_cases (w : World) (target : Nat) :
    w.elapse target = w ∨ (w.elapse target).now = target ∧ w.now ≤ target ∧
      ∀ t ∈ w.tasks, ∀ due, w.readyAt? t = some due → target ≤ due := by
  simp only [elapse]
  split
  · next h =>
    refine .inr ⟨rfl, h.1, fun t ht due hdue => ?_⟩
    have hmem : due ∈ w.tasks.filterMap w.readyAt? := List.mem_filterMap.2 ⟨t, ht, hdue⟩
    cases hhorizon : w.horizon? with
    | none =>
      rw [horizon?, List.min?_eq_none_iff] at hhorizon
      rw [hhorizon] at hmem
      cases hmem
    | some first =>
      have hfirst : target ≤ first := by simpa [hhorizon] using h.2
      rw [horizon?] at hhorizon
      exact (List.le_min?_iff hhorizon).1 hfirst due hmem
  · exact .inl rfl

lemma le_elapse (w : World) (target : Nat) : w.now ≤ (w.elapse target).now := by
  obtain hsame | ⟨hnow, hle, -⟩ := elapse_cases w target
  · exact Nat.le_of_eq (congrArg now hsame.symm)
  · rw [hnow]
    exact hle

/-! ### Runs -/

/-- Is the broker consistent, and has every session its connection? -/
structure Sound (w : World) : Prop where
  broker : w.broker.Consistent
  paired : w.Paired

lemma sound_start (config : Config) (store : Store) : (start config store).Sound where
  broker := Broker.consistent_empty
  paired _ := rfl

lemma Sound.step {w : World} (h : w.Sound) (a : Action) : (w.step a).Sound where
  broker := h.broker.leads (grows_step w a).broker
  paired := (grows_step w a).paired h.paired

lemma Sound.run {w : World} (h : w.Sound) (actions : List Action) : (w.run actions).Sound := by
  induction actions generalizing w with
  | nil => exact h
  | cons a rest ih => exact ih (h.step a)

lemma line?_start (config : Config) (store : Store) (id : ConnectionId) :
    (start config store).line? id = none := rfl

/-- A line that there is goes on to be there, and only moves are made on it. -/
lemma leads_run {w : World} {id : ConnectionId} {l : Line} (hl : w.line? id = some l)
    (actions : List Action) : ∃ k, (w.run actions).line? id = some k ∧ l.Leads k := by
  induction actions generalizing w l with
  | nil => exact ⟨l, hl, .refl⟩
  | cons a rest ih =>
    obtain ⟨j, hj, heffect⟩ := effect_step (a := a) hl
    obtain ⟨k, hk, hleads⟩ := ih hj
    exact ⟨k, hk, heffect.leads.trans hleads⟩

/-- What holds of every line that is opened, and survives every move, holds of all lines of a run. -/
theorem line_invariant {P : ConnectionId → Line → Prop} {w : World}
    (hopened : ∀ now id caller, P id (.opened w.config now id caller))
    (hmove : ∀ id l k, Line.Move l k → P id l → P id k)
    (hw : ∀ id l, w.line? id = some l → P id l) (actions : List Action) {id : ConnectionId} {l : Line}
    (hl : (w.run actions).line? id = some l) : P id l := by
  induction actions generalizing w with
  | nil => exact hw id l hl
  | cons a rest ih =>
    have hgrows := grows_step w a
    refine ih (fun now i caller => ?_) (fun i k hk => ?_) hl
    · rw [hgrows.config]
      exact hopened now i caller
    · cases hline : w.line? i with
      | some l =>
        obtain ⟨l', hl', heffect⟩ := effect_step (a := a) hline
        rw [hk, Option.some.injEq] at hl'
        exact hl' ▸ heffect.leads.invariant (hmove i) (hw i l hline)
      | none =>
        obtain ⟨caller, -, rfl⟩ := hgrows.opened i k hk hline
        exact hopened _ _ _

end World

end EventGateway
