import EventGateway.Proofs.Session.LineTasks
import Mathlib.Logic.Relation
import Mathlib.Tactic.Lemma

/-!
# Moves

Every task does to a line a few moves of six kinds: it queues a reply, reserves a slot, goes on with the
decision about a delivery, settles its slot, ends the reader or writes. Whatever else it does concerns
neither the queue nor what is written. An invariant of the queue is shown once for each kind of move.
-/

namespace EventGateway

namespace Line

/-- The lines differ at most in what the reader works on, in the principal and in the rooms. -/
structure Quiet (l k : Line) : Prop where
  outbound : k.connection.outbound = l.connection.outbound
  closed : k.connection.closed = l.connection.closed
  caller : k.connection.caller = l.connection.caller
  deliveries : k.session.deliveries = l.session.deliveries
  ending : k.session.ending = l.session.ending
  writing : k.session.writing = l.session.writing
  written : k.session.written = l.session.written

lemma Quiet.refl (l : Line) : l.Quiet l := ⟨rfl, rfl, rfl, rfl, rfl, rfl, rfl⟩

lemma Quiet.trans {l k j : Line} (h : l.Quiet k) (h' : k.Quiet j) : l.Quiet j :=
  ⟨h'.1.trans h.1, h'.2.trans h.2, h'.3.trans h.3, h'.4.trans h.4, h'.5.trans h.5, h'.6.trans h.6,
    h'.7.trans h.7⟩

lemma quiet_modifyConnection {f : Connection → Connection} {l : Line}
    (hf : (f l.connection).outbound = l.connection.outbound ∧
      (f l.connection).closed = l.connection.closed ∧
      (f l.connection).caller = l.connection.caller) : l.Quiet (l.modifyConnection f) :=
  ⟨hf.1, hf.2.1, hf.2.2, rfl, rfl, rfl, rfl⟩

lemma quiet_join (l : Line) (room : Room) : l.Quiet (l.join room) := by
  apply quiet_modifyConnection
  simp only [Connection.join]
  split <;> exact ⟨rfl, rfl, rfl⟩

lemma quiet_leave (l : Line) (room : Room) : l.Quiet (l.leave room) := by
  apply quiet_modifyConnection
  simp only [Connection.leave]
  split <;> exact ⟨rfl, rfl, rfl⟩

lemma quiet_foldl {α : Type} {f : Line → α → Line} (hf : ∀ l a, Quiet l (f l a)) (l : Line)
    (as : List α) : l.Quiet (as.foldl f l) := by
  apply List.foldlRecOn as f (.refl l)
  intro k hk a _
  exact hk.trans (hf k a)

lemma quiet_of_subscribe {l k : Line} {rooms : List Room} (h : l.subscribe rooms = .ok k) :
    l.Quiet k := by
  obtain rfl | rfl := eq_of_subscribe h
  · exact .refl k
  · exact quiet_foldl quiet_join l rooms

/-- What may be done to a line that does not concern its deliveries. -/
inductive Aside : Line → Line → Prop
  /-- Something that concerns neither the queue nor what is written. -/
  | quiet {l k : Line} : l.Quiet k → Aside l k
  /-- A reply is queued, if it is accepted. -/
  | send (l : Line) (reference : Option UInt64) (result : Except CommandError ReplyMembers) :
    Aside l (l.modifyConnection fun c => c.send (renderReply reference result))
  | endReader (l : Line) (code : Option CloseCode) : Aside l (l.endReader code)
  | write (l : Line) : Aside l l.write

/-- What may be done to a line. -/
inductive Move : Line → Line → Prop
  | aside {l k : Line} : Aside l k → Move l k
  | reserve (l : Line) (e : Event) : Move l (l.reserve e)
  /-- The decision about a delivery begins or goes on. -/
  | consider {l : Line} {slot : Nat} {d : Delivery} (p : Principal) (lookup : Awaited Decision) :
    l.session.deliveries[slot]? = some d → d.stage.isDecided = false →
    Move l (l.setStage slot (.deciding p lookup))
  /-- A delivery is decided on. -/
  | conclude {l : Line} {slot : Nat} {d : Delivery} (p : Principal) (decision : Decision) :
    l.session.deliveries[slot]? = some d → d.stage.isDecided = false →
    Move l (l.conclude slot d.event p decision)

/-- What may be done to a line by several moves. -/
abbrev Leads : Line → Line → Prop := Relation.ReflTransGen Move

/-- What may be done to a line by several moves that do not concern its deliveries. -/
abbrev Sidesteps : Line → Line → Prop := Relation.ReflTransGen Aside

lemma Sidesteps.leads {l k : Line} (h : l.Sidesteps k) : l.Leads k :=
  Relation.ReflTransGen.mono (fun _ _ => .aside) _ _ h

lemma Quiet.sidesteps {l k : Line} (h : l.Quiet k) : l.Sidesteps k := .single (.quiet h)

/-! ### The reader -/

lemma sidesteps_reply (l : Line) (reference : Option UInt64)
    (result : Except CommandError ReplyMembers) : l.Sidesteps (l.reply reference result) := by
  simp only [reply]
  split
  · exact .single (.send l reference result)
  · exact .single (.endReader l _)

lemma quiet_setReader (l : Line) (reader : Reader) : l.Quiet (l.setReader reader) :=
  ⟨rfl, rfl, rfl, rfl, rfl, rfl, rfl⟩

lemma sidesteps_finishAuthentication (l : Line) (reference : Option UInt64)
    (result : Except CommandError Principal) :
    l.Sidesteps (l.finishAuthentication reference result) := by
  cases result with
  | ok p =>
    have hq : l.Quiet ((l.setReader .idle).modifyConnection fun c => c.setPrincipal p) :=
      ⟨rfl, rfl, rfl, rfl, rfl, rfl, rfl⟩
    exact hq.sidesteps.trans (sidesteps_reply _ _ _)
  | error e => exact (quiet_setReader l .idle).sidesteps.trans (sidesteps_reply _ _ _)

lemma sidesteps_settleAuthentication (l : Line) (reference : Option UInt64)
    (progress : Limited (Except CommandError Principal)) :
    l.Sidesteps (l.settleAuthentication reference progress) := by
  cases progress with
  | finished r => exact sidesteps_finishAuthentication l reference _
  | timedOut => exact sidesteps_finishAuthentication l reference (.error .timeout)
  | waiting lookup => exact (quiet_setReader l _).sidesteps

lemma sidesteps_perform (l : Line) (m : Moment) (reference : Option UInt64) (command : Command) :
    l.Sidesteps (l.perform m reference command) := by
  cases command with
  | authenticate token => exact sidesteps_settleAuthentication l reference _
  | subscribe rooms =>
    simp only [perform]
    split
    · exact sidesteps_reply l reference _
    · next h => exact (quiet_of_subscribe h).sidesteps.trans (sidesteps_reply _ _ _)
  | unsubscribe rooms =>
    exact (quiet_foldl quiet_leave l rooms).sidesteps.trans (sidesteps_reply _ _ _)
  | status => exact sidesteps_reply l reference _
  | heartbeat =>
    have hq : l.Quiet (l.modifySession fun s =>
        { s with heartbeatDue := m.now + m.config.heartbeatGrace.toNat }) :=
      ⟨rfl, rfl, rfl, rfl, rfl, rfl, rfl⟩
    exact hq.sidesteps.trans (sidesteps_reply _ _ _)

lemma sidesteps_receive (l : Line) (m : Moment) (arrival : Arrival) :
    l.Sidesteps (l.receive m arrival) := by
  cases arrival with
  | text text =>
    simp only [receive, receiveText]
    split
    · exact sidesteps_reply l none _
    · split
      · exact sidesteps_reply l _ _
      · exact sidesteps_perform l m _ _
  | other => exact .refl
  | ended => exact .single (.endReader l none)

lemma sidesteps_read (m : Moment) (l : Line) : l.Sidesteps (l.read m) := by
  simp only [read]
  split
  · split
    · exact .refl
    · next rest _ =>
      have hq : l.Quiet (l.modifySession fun s => { s with inbox := rest }) :=
        ⟨rfl, rfl, rfl, rfl, rfl, rfl, rfl⟩
      exact hq.sidesteps.trans (sidesteps_receive _ m _)
  · split
    · exact sidesteps_settleAuthentication l _ _
    · exact .refl
  · exact .refl

lemma sidesteps_missHeartbeat (now : Nat) (l : Line) : l.Sidesteps (l.missHeartbeat now) := by
  obtain heq | ⟨-, -, heq⟩ := l.missHeartbeat_cases now
  · rw [heq]
  · rw [heq]
    exact .single (.endReader l _)

lemma sidesteps_write (l : Line) : l.Sidesteps l.write := .single (.write l)

/-! ### Deliveries -/

lemma leads_settleDelivery {l : Line} {slot : Nat} {d : Delivery}
    (h : l.session.deliveries[slot]? = some d) (hd : d.stage.isDecided = false) (p : Principal)
    (progress : Limited Decision) : l.Leads (l.settleDelivery slot d.event p progress) := by
  cases progress with
  | finished r => exact .single (.conclude p _ h hd)
  | timedOut => exact .single (.conclude p _ h hd)
  | waiting lookup => exact .single (.consider p lookup h hd)

lemma leads_deliver (m : Moment) (slot : Nat) (l : Line) : l.Leads (l.deliver m slot) := by
  obtain heq | ⟨d, progress, hd, hstage, p, heq⟩ := l.deliver_cases m slot
  · rw [heq]
  · rw [heq]
    exact leads_settleDelivery hd hstage p progress

/-! ### What comes from outside -/

lemma quiet_demote (l : Line) (p : Principal) : l.Quiet (l.demote p) := by
  apply quiet_modifyConnection
  simp only [Connection.demoteIf]
  split <;> exact ⟨rfl, rfl, rfl⟩

lemma sidesteps_demotions (l : Line) (ps : List Principal) : l.Sidesteps (ps.foldl demote l) :=
  (quiet_foldl quiet_demote l ps).sidesteps

lemma sidesteps_arrive (arrival : Arrival) (l : Line) : l.Sidesteps (l.arrive arrival) :=
  Quiet.sidesteps ⟨rfl, rfl, rfl, rfl, rfl, rfl, rfl⟩

lemma sidesteps_depart (l : Line) : l.Sidesteps l.depart :=
  Quiet.sidesteps ⟨rfl, rfl, rfl, rfl, rfl, rfl, rfl⟩

/-- What every move preserves is preserved. -/
lemma Leads.invariant {P : Line → Prop} (hP : ∀ l k, Move l k → P l → P k) {l k : Line}
    (h : l.Leads k) (hl : P l) : P k := by
  induction h with
  | refl => exact hl
  | tail _ hm ih => exact hP _ _ hm ih

/-- A connection that is closed stays closed. -/
lemma Move.closed {l k : Line} (h : Move l k) (hl : l.connection.closed = true) :
    k.connection.closed = true := by
  cases h with
  | aside ha =>
    cases ha with
    | quiet hq => exact hq.closed.trans hl
    | send => simp [modifyConnection, Connection.send, Connection.accepts, hl]
    | endReader => rfl
    | write =>
      obtain ⟨outbound, writing, written, heq, -⟩ := l.write_leaves
      rw [heq]
      exact hl
  | reserve e => simp [Line.reserve, Connection.accepts, hl]
  | consider => exact hl
  | conclude => exact hl

/-- A connection comes from the same place all the time. -/
lemma Move.caller {l k : Line} (h : Move l k) : k.connection.caller = l.connection.caller := by
  cases h with
  | aside ha =>
    cases ha with
    | quiet hq => exact hq.caller
    | send =>
      simp only [modifyConnection, Connection.send]
      split <;> rfl
    | endReader => rfl
    | write =>
      obtain ⟨outbound, writing, written, heq, -⟩ := l.write_leaves
      rw [heq]
  | reserve e =>
    simp only [Line.reserve, Connection.reserve]
    split <;> rfl
  | consider => rfl
  | conclude => rfl

lemma Leads.caller {l k : Line} (h : l.Leads k) : k.connection.caller = l.connection.caller :=
  h.invariant (P := fun j => j.connection.caller = l.connection.caller)
    (fun _ _ hmove hj => hmove.caller.trans hj) rfl

end Line

end EventGateway
