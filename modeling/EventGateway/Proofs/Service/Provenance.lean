import EventGateway.Proofs.Event.Frames
import EventGateway.Proofs.Service.History
import EventGateway.Proofs.Service.Order
import EventGateway.Proofs.Session.Slots
import Mathlib.Data.List.Induction

/-!
# Where frames come from

Every frame of an event that is written on a connection goes back to one message. When the message
reached the broker, the connection was registered and in a room of the event, and a slot was reserved on
it; what is written is what the check of this slot decided for the principal that the connection had
when the check began. The invariant is that the deliveries of a connection are exactly the slots that
have been reserved in the history, each as far as its check has come.
-/

namespace EventGateway

/-! ### Checks -/

namespace Limited

variable {α : Type}

/-- Goes on at a moment, unless it has come to its end. -/
def goOn (m : Moment) : Limited α → Limited α
  | .waiting lookup => m.advance lookup
  | r => r

/-- What is decided, if the check has come to its end. One that failed or took too long denies. -/
def decision? : Limited Decision → Option Decision
  | .finished r => some (decisionResult r)
  | .timedOut => some .deny
  | .waiting _ => none

end Limited

/-- The stage of a delivery whose check has come so far. -/
def Stage.ofCheck : Option (Principal × Limited Decision) → Stage
  | none => .queued
  | some (p, .waiting lookup) => .deciding p lookup
  | some (p, .finished r) => .decided p (decisionResult r)
  | some (p, .timedOut) => .decided p .deny

lemma Stage.ofCheck_eq_decided_iff {check : Option (Principal × Limited Decision)} {p : Principal}
    {decision : Decision} : ofCheck check = .decided p decision ↔
      ∃ r, check = some (p, r) ∧ r.decision? = some decision := by
  rcases check with _ | ⟨q, r⟩
  · simp [ofCheck]
  · cases r <;> simp [ofCheck, Limited.decision?]

namespace Line

/-! ### What becomes of the deliveries -/

lemma deliveries_of_sidesteps {l k : Line} (h : l.Sidesteps k) :
    k.session.deliveries = l.session.deliveries := by
  induction h with
  | refl => rfl
  | @tail j _ _ ha ih =>
    refine Eq.trans ?_ ih
    cases ha with
    | quiet hq => exact hq.deliveries
    | send => rfl
    | endReader => rfl
    | write =>
      obtain ⟨outbound, writing, written, heq, -⟩ := j.write_leaves
      rw [heq]

lemma deliveries_settleDelivery (l : Line) (slot : Nat) (e : Event) (p : Principal)
    (r : Limited Decision) : (l.settleDelivery slot e p r).session.deliveries =
      l.session.deliveries.modify slot fun d => { d with stage := .ofCheck (some (p, r)) } := by
  cases r <;> rfl

/-- A lookup whose time has not come does not go on. -/
lemma advance_of_lt {α : Type} {m : Moment} {lookup : Awaited α} (h : ¬ lookup.readyAt ≤ m.now) :
    m.advance lookup = .waiting lookup := by
  unfold Awaited.readyAt at h
  simp only [Moment.advance, Awaited.advance]
  rw [if_neg (by omega), if_neg (by omega)]

/-- How far the check has come after one more step of its task. -/
def nextCheck (m : Moment) (e : Event) (p : Principal) :
    Option (Principal × Limited Decision) → Principal × Limited Decision
  | none => (p, m.start (e.decision p.userId))
  | some (q, r) => (q, r.goOn m)

lemma delivery_deliver {l : Line} {m : Moment} {slot : Nat} {d : Delivery}
    (hd : l.session.deliveries[slot]? = some d) {check : Option (Principal × Limited Decision)}
    (hs : d.stage = .ofCheck check) : (l.deliver m slot).session.deliveries[slot]? =
      some { d with stage := .ofCheck (some (nextCheck m d.event l.connection.principal check)) } := by
  have hsame {stage : Stage} (h : stage = d.stage) : some d = some { d with stage } := by rw [h]
  simp only [deliver, hd, hs]
  rcases check with _ | ⟨p, r⟩
  · simp only [Stage.ofCheck]
    rw [deliveries_settleDelivery, List.getElem?_modify_eq, hd]
    rfl
  · cases r with
    | waiting lookup =>
      simp only [Stage.ofCheck]
      split
      · rw [deliveries_settleDelivery, List.getElem?_modify_eq, hd]
        rfl
      · next hready =>
        rw [hd]
        apply hsame
        rw [hs, nextCheck, Limited.goOn, advance_of_lt hready]
        rfl
    | finished r =>
      simp only [Stage.ofCheck, hd]
      exact hsame (by rw [hs]; rfl)
    | timedOut =>
      simp only [Stage.ofCheck, hd]
      exact hsame (by rw [hs]; rfl)

lemma delivery_deliver_of_ne {l : Line} {m : Moment} {slot s : Nat} (hne : slot ≠ s) :
    (l.deliver m slot).session.deliveries[s]? = l.session.deliveries[s]? := by
  obtain heq | ⟨d, progress, -, -, p, heq⟩ := l.deliver_cases m slot
  · rw [heq]
  · rw [heq, deliveries_settleDelivery, List.getElem?_modify_ne _ _ hne]

end Line

namespace World

/-! ### What the history tells of a slot -/

/-- A message of an event reaches the broker, and a slot is reserved for it on a connection, which is
registered and in a room of the event. -/
structure Reserves (w : World) (a : Action) (id : ConnectionId) (m : Message) (e : Event)
    (slot : Nat) : Prop where
  dispatched : w.dispatched? a = some m
  plain : m.isControl = false
  parsed : Event.ofWire m.body = .ok e
  own : e.name.channel = m.channel
  registered : w.broker.isRegistered id = true
  inRoom : ∃ room ∈ e.rooms, w.broker.Holds id room
  slot : (w.broker.connection? id).bind Connection.openSlot? = some slot

/-- The slot was reserved for the event in the step of the given position. -/
def ReservedAt (history : List Happening) (id : ConnectionId) (n slot : Nat) (e : Event) : Prop :=
  ∃ w a m, history[n]? = some (w, a) ∧ w.Reserves a id m e slot

/-- Is the action a step of the task of the delivery? -/
def Action.delivers (t : Ticket) : Action → Bool
  | .task (.delivery s) => s = t
  | _ => false

lemma Action.eq_of_delivers {t : Ticket} {a : Action} (h : a.delivers t = true) :
    a = .task (.delivery t) := by
  unfold delivers at h
  split at h
  · exact congrArg (fun s => Action.task (.delivery s)) (of_decide_eq_true h)
  · cases h

/-- The states after a position in which the task of a delivery took a step. -/
def checkpoints (history : List Happening) (n : Nat) (t : Ticket) : List World :=
  ((history.drop (n + 1)).filter fun h => h.2.delivers t).map Prod.fst

/-- How far the check of an event has come by the steps of its task: it begins at the first of them,
with the principal that the connection has there, and goes on at the others. -/
def check (e : Event) (id : ConnectionId) : List World → Option (Principal × Limited Decision)
  | [] => none
  | w :: later => (w.broker.connection? id).map fun c =>
    (c.principal,
      later.foldl (fun r w => r.goOn w.moment) (w.moment.start (e.decision c.principal.userId)))

/-- How far the check of a slot has come that was reserved at a position. -/
def checkOf (history : List Happening) (id : ConnectionId) (n slot : Nat) (e : Event) :
    Option (Principal × Limited Decision) :=
  check e id (checkpoints history n ⟨id, slot⟩)

/-- A step of a check is taken after its slot was reserved. -/
lemma getElem?_of_mem_checkpoints {history : List Happening} {i : Nat} {t : Ticket} {v : World}
    (h : v ∈ checkpoints history i t) : ∃ k, i < k ∧ history[k]? = some (v, .task (.delivery t)) := by
  obtain ⟨⟨v', a⟩, hx, rfl⟩ := List.mem_map.1 h
  obtain ⟨hx, hdelivers⟩ := List.mem_filter.1 hx
  obtain ⟨j, hj⟩ := List.mem_iff_getElem?.1 hx
  rw [List.getElem?_drop] at hj
  have ha : a = .task (.delivery t) := Action.eq_of_delivers hdelivers
  exact ⟨i + 1 + j, by omega, ha ▸ hj⟩

/-- A check that has begun has read the principal in the first of its steps. -/
lemma exists_checkpoint {history : List Happening} {id : ConnectionId} {i slot : Nat} {e : Event}
    {p : Principal} {r : Limited Decision}
    (h : checkOf history id i slot e = some (p, r)) :
    ∃ v later c, checkpoints history i ⟨id, slot⟩ = v :: later ∧
      v.broker.connection? id = some c ∧ c.principal = p ∧
      later.foldl (fun r w => r.goOn w.moment) (v.moment.start (e.decision p.userId)) = r := by
  simp only [checkOf] at h
  cases hpoints : checkpoints history i ⟨id, slot⟩ with
  | nil => simp [hpoints, check] at h
  | cons v later =>
    rw [hpoints] at h
    simp only [check] at h
    obtain ⟨c, hc, heq⟩ := Option.map_eq_some_iff.1 h
    cases heq
    exact ⟨v, later, c, rfl, hc, rfl, rfl⟩

/-- One more step of the task. The check has begun by then if there were steps before. -/
lemma check_concat {e : Event} {id : ConnectionId} {worlds : List World} {w : World} {c : Connection}
    (hc : w.broker.connection? id = some c)
    (hbegun : worlds ≠ [] → (check e id worlds).isSome = true) :
    check e id (worlds ++ [w]) =
      some (Line.nextCheck w.moment e c.principal (check e id worlds)) := by
  cases worlds with
  | nil => simp [check, hc, Line.nextCheck]
  | cons v later =>
    have hv := hbegun (by simp)
    simp only [check, Option.isSome_map, List.cons_append, List.foldl_append, List.foldl_cons,
      List.foldl_nil] at hv ⊢
    obtain ⟨c', hc'⟩ := Option.isSome_iff_exists.1 hv
    simp [hc', Line.nextCheck]

lemma checkpoints_concat {history : List Happening} {n : Nat} (hn : n < history.length)
    (t : Ticket) (h : Happening) : checkpoints (history ++ [h]) n t =
      checkpoints history n t ++ if h.2.delivers t then [h.1] else [] := by
  simp only [checkpoints]
  rw [List.drop_append_of_le_length (by omega), List.filter_append, List.map_append]
  split <;> simp_all

lemma ReservedAt.lt {history : List Happening} {id : ConnectionId} {n slot : Nat} {e : Event}
    (h : ReservedAt history id n slot e) : n < history.length := by
  obtain ⟨w, a, m, hn, -⟩ := h
  exact (List.getElem?_eq_some_iff.1 hn).1

lemma reservedAt_concat {history : List Happening} {w : World} {a : Action} {id : ConnectionId}
    {n slot : Nat} {e : Event} : ReservedAt (history ++ [(w, a)]) id n slot e ↔
      ReservedAt history id n slot e ∨ (n = history.length ∧ ∃ m, w.Reserves a id m e slot) := by
  constructor
  · rintro ⟨v, b, m, hn, hr⟩
    rcases getElem?_concat hn with hn | ⟨rfl, heq⟩
    · exact .inl ⟨v, b, m, hn, hr⟩
    · cases heq
      exact .inr ⟨rfl, m, hr⟩
  · rintro (⟨v, b, m, hn, hr⟩ | ⟨rfl, m, hr⟩)
    · have hlt := (List.getElem?_eq_some_iff.1 hn).1
      exact ⟨v, b, m, (List.getElem?_append_left hlt).trans hn, hr⟩
    · exact ⟨w, a, m, by simp, hr⟩

/-- Only a message that is routed to the connection reserves a slot on it. -/
lemma Reserves.routed {w : World} {a : Action} {id : ConnectionId} {m : Message} {e : Event}
    {slot : Nat} (h : w.Reserves a id m e slot) (hw : w.broker.Consistent) :
    w.routed? m id = some e := by
  have hevent : m.event? = some e := by simp [Message.event?, h.parsed, h.own]
  have hopen : w.broker.HasOpen id := by
    rw [← hw.registered]
    exact List.contains_iff_mem.1 h.registered
  simp [routed?, h.plain, hevent, Option.filter, hw.mem_candidates_iff.2 ⟨hopen, h.inRoom⟩]

lemma reserves_of_routed {w : World} (hw : w.broker.Consistent) {a : Action} {id : ConnectionId}
    {m : Message} {e : Event} {l : Line} (hl : w.line? id = some l)
    (hd : w.dispatched? a = some m) (hr : w.routed? m id = some e)
    (ha : l.connection.accepts = true) :
    w.Reserves a id m e l.connection.outbound.nextSlot := by
  unfold routed? at hr
  split at hr
  · cases hr
  · next hplain =>
    obtain ⟨hevent, hid⟩ := Option.filter_eq_some_iff.1 hr
    have hmem : id ∈ w.broker.candidates e.rooms := by simpa using hid
    obtain ⟨hopen, hroom⟩ := hw.mem_candidates_iff.1 hmem
    unfold Message.event? at hevent
    split at hevent
    · next e' hparsed =>
      split at hevent
      · next hown =>
        cases hevent
        refine ⟨hd, by simpa using hplain, hparsed, hown, ?_, hroom, ?_⟩
        · exact List.contains_iff_mem.2 ((hw.registered id).2 hopen)
        · rw [(line?_eq_some_iff.1 hl).2]
          exact if_pos ha
      · cases hevent
    · cases hevent

/-! ### The invariant -/

/-- The deliveries of a line are the slots that have been reserved, each as far as its check has
come. -/
structure Explained (history : List Happening) (id : ConnectionId) (l : Line) : Prop where
  reserved : ∀ slot d, l.session.deliveries[slot]? = some d →
    ∃ n, ReservedAt history id n slot d.event
  stage : ∀ n slot e, ReservedAt history id n slot e →
    ∃ d, l.session.deliveries[slot]? = some d ∧ d.event = e ∧
      d.stage = .ofCheck (checkOf history id n slot e) ∧
      (checkpoints history n ⟨id, slot⟩ ≠ [] → (checkOf history id n slot e).isSome = true)

section

variable {w : World} {history : List Happening} {a : Action} {id : ConnectionId} {l k : Line}

/-- What neither reserves a slot nor takes a step of a delivery does not matter. -/
lemma Explained.of_deliveries_eq (h : Explained history id l)
    (hd : k.session.deliveries = l.session.deliveries)
    (hnot : ∀ slot, a.delivers ⟨id, slot⟩ = false)
    (hres : ∀ m e slot, ¬ w.Reserves a id m e slot) : Explained (history ++ [(w, a)]) id k where
  reserved slot d hs := by
    obtain ⟨n, hn⟩ := h.reserved slot d (hd ▸ hs)
    exact ⟨n, reservedAt_concat.2 (.inl hn)⟩
  stage n slot e hr := by
    rcases reservedAt_concat.1 hr with hr | ⟨-, m, hr⟩
    · have hcheck : checkpoints (history ++ [(w, a)]) n ⟨id, slot⟩ =
          checkpoints history n ⟨id, slot⟩ := by simp [checkpoints_concat hr.lt, hnot]
      simp only [checkOf]
      rw [hd, hcheck]
      exact h.stage n slot e hr
    · exact absurd hr (hres m e slot)

/-- A slot is reserved behind the others, and nothing has been done about it. -/
lemma Explained.reserve (h : Explained history id l) (hw : w.broker.Consistent)
    (hl : w.line? id = some l) (hcount : l.session.deliveries.length = l.connection.outbound.nextSlot)
    {m : Message} {e : Event} (hd : w.dispatched? a = some m) (hr : w.routed? m id = some e) :
    Explained (history ++ [(w, a)]) id (l.reserve e) := by
  have hnot (slot : Nat) : a.delivers ⟨id, slot⟩ = false := by
    cases a with
    | task t =>
      cases t with
      | delivery t => simp [dispatched?] at hd
      | _ => rfl
    | _ => rfl
  have hslot {m' : Message} {e' : Event} {slot : Nat} (hres : w.Reserves a id m' e' slot) :
      e' = e ∧ l.connection.accepts = true ∧ slot = l.connection.outbound.nextSlot := by
    have hm : m' = m := Option.some.inj (hres.dispatched.symm.trans hd)
    have hs := hres.slot
    rw [(line?_eq_some_iff.1 hl).2, Option.bind_some, Connection.openSlot?_eq_some_iff] at hs
    exact ⟨Option.some.inj ((hres.routed hw).symm.trans (hm ▸ hr)), hs.1, hs.2.symm⟩
  by_cases ha : l.connection.accepts = true
  · have hdel : (l.reserve e).session.deliveries = l.session.deliveries ++ [{ event := e }] := by
      simp [Line.reserve, ha]
    constructor
    · intro slot d hs
      rw [hdel] at hs
      rcases Nat.lt_trichotomy slot l.session.deliveries.length with hlt | rfl | hlt
      · rw [List.getElem?_append_left hlt] at hs
        obtain ⟨n, hn⟩ := h.reserved slot d hs
        exact ⟨n, reservedAt_concat.2 (.inl hn)⟩
      · simp only [List.getElem?_concat_length, Option.some.injEq] at hs
        refine ⟨history.length, reservedAt_concat.2 (.inr ⟨rfl, m, ?_⟩)⟩
        rw [← hs, hcount]
        exact reserves_of_routed hw hl hd hr ha
      · rw [List.getElem?_eq_none (by simp; omega)] at hs
        cases hs
    · intro n slot e' hres
      rw [hdel]
      rcases reservedAt_concat.1 hres with hres | ⟨rfl, m', hres⟩
      · obtain ⟨d, hs, hrest⟩ := h.stage n slot e' hres
        have hlt := (List.getElem?_eq_some_iff.1 hs).1
        have hcheck : checkpoints (history ++ [(w, a)]) n ⟨id, slot⟩ =
            checkpoints history n ⟨id, slot⟩ := by simp [checkpoints_concat hres.lt, hnot]
        simp only [checkOf]
        rw [hcheck]
        exact ⟨d, (List.getElem?_append_left hlt).trans hs, hrest⟩
      · obtain ⟨rfl, -, rfl⟩ := hslot hres
        have hcheck : checkpoints (history ++ [(w, a)]) history.length
            ⟨id, l.connection.outbound.nextSlot⟩ = [] := by simp [checkpoints]
        refine ⟨{ event := e' }, ?_, rfl, ?_, fun hne => absurd hcheck hne⟩
        · rw [← hcount]
          simp
        · rw [checkOf, hcheck]
          rfl
  · have heq : l.reserve e = l := by simp [Line.reserve, ha]
    rw [heq]
    exact h.of_deliveries_eq rfl hnot fun m' e' slot hres => ha (hslot hres).2.1

/-- The task of a delivery takes a step. -/
lemma Explained.deliver (h : Explained history id l) (hl : w.line? id = some l) (slot : Nat) :
    Explained (history ++ [(w, .task (.delivery ⟨id, slot⟩))]) id (l.deliver w.moment slot) := by
  have hres (m : Message) (e : Event) (s : Nat) :
      ¬ w.Reserves (.task (.delivery ⟨id, slot⟩)) id m e s := fun hr => by
    simpa [dispatched?] using hr.dispatched
  constructor
  · intro s d hs
    by_cases hne : slot = s
    · subst hne
      cases hd : l.session.deliveries[slot]? with
      | none => simp [Line.deliver, hd] at hs
      | some d' =>
        obtain ⟨n, hn⟩ := h.reserved slot d' hd
        obtain ⟨d'', hd'', -, hstage, -⟩ := h.stage n slot _ hn
        rw [hd, Option.some.injEq] at hd''
        subst hd''
        rw [Line.delivery_deliver hd hstage, Option.some.injEq] at hs
        refine ⟨n, reservedAt_concat.2 (.inl ?_)⟩
        rw [← hs]
        exact hn
    · rw [Line.delivery_deliver_of_ne hne] at hs
      obtain ⟨n, hn⟩ := h.reserved s d hs
      exact ⟨n, reservedAt_concat.2 (.inl hn)⟩
  · intro n s e hr
    rcases reservedAt_concat.1 hr with hr | ⟨-, m, hr⟩
    · obtain ⟨d, hd, hevent, hstage, hbegun⟩ := h.stage n s e hr
      by_cases hne : slot = s
      · subst hne
        have hcheck : checkOf (history ++ [(w, .task (.delivery ⟨id, slot⟩))]) id n slot e =
            some (Line.nextCheck w.moment e l.connection.principal (checkOf history id n slot e)) := by
          simp only [checkOf]
          rw [checkpoints_concat hr.lt, if_pos (by simp [Action.delivers])]
          exact check_concat (line?_eq_some_iff.1 hl).2 hbegun
        rw [hcheck, Line.delivery_deliver hd hstage]
        exact ⟨_, rfl, hevent, by rw [hevent], fun _ => rfl⟩
      · have hcheck : checkpoints (history ++ [(w, .task (.delivery ⟨id, slot⟩))]) n ⟨id, s⟩ =
            checkpoints history n ⟨id, s⟩ := by
          simp [checkpoints_concat hr.lt, Action.delivers, hne]
        simp only [checkOf]
        rw [hcheck, Line.delivery_deliver_of_ne hne]
        exact ⟨d, hd, hevent, hstage, hbegun⟩
    · exact absurd hr (hres m e s)

/-- The invariant survives every action. -/
lemma Explained.step (h : Explained history id l) (hw : w.broker.Consistent)
    (hl : w.line? id = some l) (hcount : l.session.deliveries.length = l.connection.outbound.nextSlot)
    (heffect : w.Effect id a l k) : Explained (history ++ [(w, a)]) id k := by
  have hquiet {a : Action} (hd : w.dispatched? a = none) (m : Message) (e : Event) (slot : Nat) :
      ¬ w.Reserves a id m e slot := fun hr => by simpa [hd] using hr.dispatched
  cases heffect with
  | read =>
    exact h.of_deliveries_eq (Line.deliveries_of_sidesteps (l.sidesteps_read _)) (fun _ => rfl)
      (hquiet rfl)
  | missHeartbeat =>
    exact h.of_deliveries_eq (Line.deliveries_of_sidesteps (l.sidesteps_missHeartbeat _))
      (fun _ => rfl) (hquiet rfl)
  | write =>
    exact h.of_deliveries_eq (Line.deliveries_of_sidesteps l.sidesteps_write) (fun _ => rfl)
      (hquiet rfl)
  | deliver _ slot => exact h.deliver hl slot
  | demote _ _ ps =>
    exact h.of_deliveries_eq (Line.deliveries_of_sidesteps (l.sidesteps_demotions ps))
      (fun _ => rfl) (hquiet rfl)
  | reserve _ hd hr => exact h.reserve hw hl hcount hd hr
  | arrive => exact h.of_deliveries_eq rfl (fun _ => rfl) (hquiet rfl)
  | depart => exact h.of_deliveries_eq rfl (fun _ => rfl) (hquiet rfl)
  | spare _ hnot hrouted =>
    refine h.of_deliveries_eq rfl (fun slot => ?_) fun m e slot hr => ?_
    · cases a with
      | task t =>
        cases t with
        | delivery t =>
          simp only [Action.delivers, decide_eq_false_iff_not]
          rintro rfl
          exact hnot slot rfl
        | _ => rfl
      | _ => rfl
    · have := hrouted m hr.dispatched
      simp [hr.routed hw] at this

end

/-- A connection that does not exist gets no slot. -/
lemma not_reserves_of_line?_eq_none {w : World} (hw : w.Paired) {id : ConnectionId}
    (hl : w.line? id = none) (a : Action) (m : Message) (e : Event) (slot : Nat) :
    ¬ w.Reserves a id m e slot := by
  intro hr
  have hslot := hr.slot
  have hpair := hw id
  rw [line?_eq_bind] at hl
  cases hc : w.broker.connection? id with
  | none => simp [hc] at hslot
  | some c =>
    rw [hc, Option.isSome_some] at hpair
    obtain ⟨s, hs⟩ := Option.isSome_iff_exists.1 hpair
    simp [hc, hs] at hl

/-- The invariants of the queue hold on every line of a run. -/
lemma queue_invariants {config : Config} {store : Store} {actions : List Action} {id : ConnectionId}
    {l : Line} (hl : ((start config store).run actions).line? id = some l) :
    l.Drains ∧ l.NumbersSlots ∧ l.Tallies (helloFrame id config.heartbeatInterval.toNat) := by
  obtain ⟨hd, hn⟩ := (Line.Arises.service config store actions hl).invariants
  refine ⟨hd, hn, ?_⟩
  refine line_invariant
    (P := fun id l => l.Tallies (helloFrame id config.heartbeatInterval.toNat)) ?_ ?_ ?_ actions hl
  · intro now id caller
    exact Line.tallies_opened config now id caller
  · intro id l k hm h
    exact h.move hm
  · intro id l hl
    simp [line?_start] at hl

lemma explained_run (config : Config) (store : Store) (actions : List Action) (id : ConnectionId) :
    (∀ l, ((start config store).run actions).line? id = some l →
      Explained ((start config store).history actions) id l) ∧
    (((start config store).run actions).line? id = none →
      ∀ n slot e, ¬ ReservedAt ((start config store).history actions) id n slot e) := by
  induction actions using List.reverseRecOn with
  | nil =>
    refine ⟨fun l hl => by simp [run, line?_start] at hl, fun _ n slot e => ?_⟩
    rintro ⟨w, a, m, hn, -⟩
    simp [history] at hn
  | append_singleton actions a ih =>
    have hw := (sound_start config store).run actions
    rw [run_concat, history_concat]
    generalize hrun : (start config store).run actions = w at *
    cases hl : w.line? id with
    | some l =>
      obtain ⟨k, hk, heffect⟩ := effect_step (a := a) hl
      have hcount := (queue_invariants (hrun ▸ hl)).2.2.count
      refine ⟨?_, fun hnone => by simp [hk] at hnone⟩
      intro k' hk'
      rw [hk, Option.some.injEq] at hk'
      exact hk' ▸ (ih.1 l hl).step hw.broker hl hcount heffect
    | none =>
      have hnot (n slot : Nat) (e : Event) :
          ¬ ReservedAt ((start config store).history actions ++ [(w, a)]) id n slot e := by
        rw [reservedAt_concat]
        rintro (hr | ⟨-, m, hr⟩)
        · exact ih.2 hl n slot e hr
        · exact not_reserves_of_line?_eq_none hw.paired hl a m e slot hr
      refine ⟨?_, fun _ => hnot⟩
      intro k hk
      obtain ⟨caller, -, rfl⟩ := (grows_step w a).opened id k hk hl
      refine ⟨?_, fun n slot e hr => absurd hr (hnot n slot e)⟩
      intro slot d hd
      have hempty : (Line.opened w.config w.now id caller).session.deliveries = [] :=
        Session.deliveries_opened ..
      simp [hempty] at hd

/-- Where every frame comes from that is written on a connection. What is written outside of slots is
the greeting or a reply, and no frame of an event. What is written in a slot goes back to a message of
an event that reached the broker while the connection was registered and in a room of the event, and is
what the check of the event decided for the principal that the connection had when it began: the payload
if it allowed that, the placeholder if it allowed that, and nothing if it denied. No message brings a
connection two frames. -/
theorem frames_come_from_messages {config : Config} {store : Store} {actions : List Action}
    {id : ConnectionId} {l : Line}
    (hl : ((start config store).run actions).line? id = some l) :
    let history := (start config store).history actions
    (∀ text, .frame none text ∈ l.session.written → ¬ IsEventFrame text ∧
      (text = helloFrame id config.heartbeatInterval.toNat ∨
        ∃ reference result, text = renderReply reference result)) ∧
    (∀ slot text, .frame (some slot) text ∈ l.session.written →
      (∃ n e, ReservedAt history id n slot e) ∧
      ∀ n e, ReservedAt history id n slot e → ∃ p r decision,
        checkOf history id n slot e = some (p, r) ∧ r.decision? = some decision ∧
        (text = e.frame ∨ text = e.hiddenFrame) ∧
        (text = e.frame ↔ decision = .allow) ∧
        (text = e.hiddenFrame ↔ decision = .allowRedacted)) ∧
    (∀ (i j n slot slot' : Nat) (text text' : String) (e e' : Event),
      l.session.written[i]? = some (.frame (some slot) text) →
      l.session.written[j]? = some (.frame (some slot') text') →
      ReservedAt history id n slot e → ReservedAt history id n slot' e' → i = j) := by
  intro history
  obtain ⟨hdrains, hslots, htallies⟩ := queue_invariants hl
  have hexplained := (explained_run config store actions id).1 l hl
  refine ⟨?_, ?_, ?_⟩
  · intro text hm
    have hkind := htallies.of_mem_written hdrains hm
    refine ⟨?_, hkind⟩
    rcases hkind with rfl | ⟨reference, result, rfl⟩
    · exact not_isEventFrame_helloFrame _ _
    · exact not_isEventFrame_renderReply _ _
  · intro slot text hm
    obtain ⟨d, p, decision, hd, hs, htext⟩ := htallies.delivery_of_mem_written hdrains hm
    obtain ⟨n, hn⟩ := hexplained.reserved slot d hd
    refine ⟨⟨n, d.event, hn⟩, ?_⟩
    intro n e hr
    obtain ⟨d', hd', rfl, hstage, -⟩ := hexplained.stage n slot e hr
    rw [hd, Option.some.injEq] at hd'
    subst hd'
    obtain ⟨r, hcheck, hdecision⟩ := Stage.ofCheck_eq_decided_iff.1 (hstage.symm.trans hs)
    refine ⟨p, r, decision, hcheck, hdecision, ?_⟩
    have hne := frame_ne_hiddenFrame d.event d.event
    cases decision with
    | allow =>
      cases htext
      simp [hne]
    | allowRedacted =>
      simp only [Event.delivered, Option.ite_none_right_eq_some, Option.some.injEq] at htext
      obtain ⟨-, rfl⟩ := htext
      simp [hne.symm]
    | deny => cases htext
  · rintro i j n slot slot' text text' e e' hi hj ⟨w, a, m, hn, hr⟩ ⟨w', a', m', hn', hr'⟩
    cases hn.symm.trans hn'
    have hslot : slot = slot' := Option.some.inj (hr.slot.symm.trans hr'.slot)
    exact hdrains.slots_distinct hslots hi hj rfl (hslot ▸ rfl)

/-- An event that everybody in the global room may see. -/
def accountEvent : Event := ⟨.globalUserUpdate, {}, ['7']⟩

/-- A client joins the global room, and the message of an event reaches it. -/
def oneMessage : List Action := [
  .connect "c" {},
  .arrive "c" (.text
    "\x7b\"op\":\"subscribe\",\"d\":\x7b\"global\":[\"users\"]\x7d\x7d"),
  .task (.reader "c"),
  .dispatch (.ofEvent accountEvent),
  .task (.delivery ⟨"c", 0⟩),
  .task (.writer "c"),
  .task (.writer "c"),
  .task (.writer "c")]

/-- The event is written, and it is found where the frame comes from. -/
theorem frame_of_one_message :
    ∃ l, ((start { jwtSecret := "s" } {}).run oneMessage).line? "c" = some l ∧
      .frame (some 0) accountEvent.frame ∈ l.session.written ∧
      ∃ n e, ReservedAt ((start { jwtSecret := "s" } {}).history oneMessage) "c" n 0 e := by
  have hwritten : (((start { jwtSecret := "s" } {}).run oneMessage).line? "c").bind
      (fun l => l.session.written[2]?) = some (.frame (some 0) accountEvent.frame) := by
    decide +kernel
  obtain ⟨l, hl, hget⟩ := Option.bind_eq_some_iff.1 hwritten
  have hm := List.mem_of_getElem? hget
  exact ⟨l, hl, hm, ((frames_come_from_messages hl).2.1 0 _ hm).1⟩

end World

end EventGateway
