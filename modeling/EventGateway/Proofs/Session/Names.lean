import EventGateway.Proofs.Event.Frames
import EventGateway.Proofs.Session.Masks
import EventGateway.Proofs.Session.Outcomes

/-!
# Lines without names and turns

Two things on a line come from outside and tell of other connections: its name, and the turns of the
lookups that wait. The name stands in the greeting and the turns nowhere, and nothing that happens to a
line looks at them: whatever is done to a line, it is the same to take them off before or afterwards.
-/

namespace EventGateway

/-! ### Turns -/

section

variable {α : Type}

/-- The lookup without its turn. -/
def Awaited.turnless (a : Awaited α) : Awaited α := { a with turn := 0 }

def Limited.turnless : Limited α → Limited α
  | .waiting a => .waiting a.turnless
  | r => r

/-- The moment without the turn that comes next. -/
def Moment.turnless (m : Moment) : Moment := { m with turn := 0 }

lemma Limited.turnless_ofProgress (now deadline turn : Nat) (p : Progress α) :
    (ofProgress now deadline turn p).turnless = ofProgress now deadline 0 p := by
  cases p with
  | finished r => rfl
  | waiting w =>
    simp only [ofProgress]
    split <;> rfl

lemma Moment.turnless_start (m : Moment) (lookup : Lookup α) :
    (m.start lookup).turnless = m.turnless.start lookup :=
  Limited.turnless_ofProgress _ _ _ _

lemma Moment.turnless_advance (m : Moment) (a : Awaited α) :
    (m.advance a).turnless = m.turnless.advance a.turnless := by
  simp only [advance, Awaited.advance, apply_ite Limited.turnless, Limited.turnless_ofProgress]
  rfl

end

def Reader.turnless : Reader → Reader
  | .authenticating reference lookup => .authenticating reference lookup.turnless
  | r => r

def Stage.turnless : Stage → Stage
  | .deciding p lookup => .deciding p lookup.turnless
  | s => s

def Delivery.turnless (d : Delivery) : Delivery := { d with stage := d.stage.turnless }

/-! ### Queues -/

/-- The entry with another text, if it was ready when it was queued. -/
def Entry.retold (f : String → String) : Entry → Entry
  | .ready text => .ready (f text)
  | e => e

def Output.retold (f : String → String) : Output → Output
  | .frame none text => .frame none (f text)
  | o => o

variable (f : String → String)

lemma Entry.retold_settle (e : Entry) (slot : Nat) (text? : Option String) :
    (e.settle slot text?).retold f = (e.retold f).settle slot text? := by
  cases e with
  | ready text => rfl
  | pending s => by_cases h : s = slot <;> simp [settle, awaits, retold, h]
  | settled s text => rfl

/-! ### Connections and sessions -/

namespace Connection

/-- The connection without its name, and with other texts for what was ready. -/
def nameless (c : Connection) : Connection :=
  { c with id := "", outbound := c.outbound.mapEntries (Entry.retold f) }

@[simp] lemma accepts_nameless (c : Connection) : (c.nameless f).accepts = c.accepts := by
  simp [accepts, nameless, Outbound.accepts_mapEntries]

lemma nameless_send (c : Connection) (frame : String) :
    (c.send frame).nameless f = (c.nameless f).send (f frame) := by
  simp only [send, accepts_nameless]
  split
  · simp only [nameless, Outbound.mapEntries_push]
    rfl
  · rfl

lemma nameless_reserve (c : Connection) : c.reserve.nameless f = (c.nameless f).reserve := by
  simp only [reserve, accepts_nameless]
  split
  · simp only [nameless, Outbound.mapEntries_pushSlot (Entry.retold f) _ rfl]
  · rfl

lemma nameless_settle (c : Connection) (slot : Nat) (text? : Option String) :
    (c.settle slot text?).nameless f = (c.nameless f).settle slot text? := by
  have houtbound := Outbound.mapEntries_settle (Entry.retold f) c.outbound fun e =>
    e.retold_settle f slot text?
  simp only [settle, nameless, houtbound]

lemma nameless_join (c : Connection) (room : Room) :
    (c.join room).nameless f = (c.nameless f).join room := by
  by_cases h : room ∈ c.rooms <;> simp [join, nameless, h]

lemma nameless_leave (c : Connection) (room : Room) :
    (c.leave room).nameless f = (c.nameless f).leave room := by
  by_cases h : room ∈ c.rooms <;> simp [leave, nameless, h]

end Connection

/-- The session without turns, and with other texts for what was written of no slot. -/
def Session.turnless (s : Session) : Session :=
  { s with
    reader := s.reader.turnless
    deliveries := s.deliveries.map Delivery.turnless
    written := s.written.map (Output.retold f) }

lemma Session.turnless_opened (grace : Except Overflow UInt64) (now : Nat) :
    (Session.opened grace now).turnless f = .opened grace now := by
  cases grace <;> rfl

/-! ### Lines -/

namespace Line

/-- The line without its name and without turns, and with other texts for what was ready. -/
def nameless (l : Line) : Line := ⟨l.session.turnless f, l.connection.nameless f⟩

variable {f} {l : Line}

lemma nameless_modifyConnection {g : Connection → Connection}
    (hg : ∀ c, (g c).nameless f = g (c.nameless f)) (l : Line) :
    (l.modifyConnection g).nameless f = (l.nameless f).modifyConnection g := by
  simp only [modifyConnection, nameless, hg]

/-! ### The reader -/

section

variable (hf : ∀ reference result, f (renderReply reference result) = renderReply reference result)
include hf

/-- Replies tell no name. -/
lemma nameless_reply (l : Line) (reference : Option UInt64)
    (result : Except CommandError ReplyMembers) :
    (l.reply reference result).nameless f = (l.nameless f).reply reference result := by
  have hclosed : (l.nameless f).connection.closed = l.connection.closed := rfl
  have haccepts : (l.nameless f).connection.accepts = l.connection.accepts :=
    l.connection.accepts_nameless f
  simp only [reply, hclosed, haccepts]
  split
  · apply nameless_modifyConnection
    intro c
    rw [Connection.nameless_send, hf]
  · rfl

lemma nameless_finishAuthentication (l : Line) (reference : Option UInt64)
    (result : Except CommandError Principal) :
    (l.finishAuthentication reference result).nameless f =
      (l.nameless f).finishAuthentication reference result := by
  cases result with
  | ok p => exact nameless_reply hf _ reference _
  | error e => exact nameless_reply hf _ reference _

lemma nameless_settleAuthentication (l : Line) (reference : Option UInt64)
    (progress : Limited (Except CommandError Principal)) :
    (l.settleAuthentication reference progress).nameless f =
      (l.nameless f).settleAuthentication reference progress.turnless := by
  cases progress with
  | finished r => exact nameless_finishAuthentication hf l reference _
  | timedOut => exact nameless_finishAuthentication hf l reference _
  | waiting lookup => rfl

omit hf in
lemma nameless_joins (l : Line) (rooms : List Room) :
    (rooms.foldl join l).nameless f = rooms.foldl join (l.nameless f) := by
  induction rooms generalizing l with
  | nil => rfl
  | cons room rest ih =>
    have hjoin : (l.join room).nameless f = (l.nameless f).join room :=
      nameless_modifyConnection (fun c => c.nameless_join f room) l
    rw [List.foldl_cons, List.foldl_cons, ih, hjoin]

omit hf in
lemma nameless_leaves (l : Line) (rooms : List Room) :
    (rooms.foldl leave l).nameless f = rooms.foldl leave (l.nameless f) := by
  induction rooms generalizing l with
  | nil => rfl
  | cons room rest ih =>
    have hleave : (l.leave room).nameless f = (l.nameless f).leave room :=
      nameless_modifyConnection (fun c => c.nameless_leave f room) l
    rw [List.foldl_cons, List.foldl_cons, ih, hleave]

omit hf in
lemma subscribe_nameless (l : Line) (rooms : List Room) :
    (l.nameless f).subscribe rooms = (l.subscribe rooms).map (nameless f) := by
  have hclosed : (l.nameless f).connection.closed = l.connection.closed := rfl
  have hprincipal : (l.nameless f).connection.principal = l.connection.principal := rfl
  simp only [subscribe, hclosed, hprincipal]
  split
  · rfl
  · split
    · rfl
    · rw [← nameless_joins]
      rfl

lemma nameless_perform (m : Moment) (l : Line) (reference : Option UInt64) (command : Command) :
    (l.perform m reference command).nameless f =
      (l.nameless f).perform m.turnless reference command := by
  cases command with
  | authenticate token =>
    simp only [perform]
    rw [nameless_settleAuthentication hf, Moment.turnless_start]
    rfl
  | subscribe rooms =>
    simp only [perform, subscribe_nameless]
    cases l.subscribe rooms with
    | error e => exact nameless_reply hf l reference _
    | ok k => exact nameless_reply hf k reference _
  | unsubscribe rooms =>
    simp only [perform]
    rw [nameless_reply hf, ← nameless_leaves]
    rfl
  | status => exact nameless_reply hf l reference _
  | heartbeat => exact nameless_reply hf _ reference _

lemma nameless_receive (m : Moment) (l : Line) (arrival : Arrival) :
    (l.receive m arrival).nameless f = (l.nameless f).receive m.turnless arrival := by
  cases arrival with
  | text text =>
    simp only [receive, receiveText]
    split
    · exact nameless_reply hf l none _
    · split
      · exact nameless_reply hf l _ _
      · exact nameless_perform hf m l _ _
  | other => rfl
  | ended => rfl

lemma nameless_read (m : Moment) (l : Line) :
    (l.read m).nameless f = (l.nameless f).read m.turnless := by
  have hreader : (l.nameless f).session.reader = l.session.reader.turnless := rfl
  have hinbox : (l.nameless f).session.inbox = l.session.inbox := rfl
  simp only [read, hreader, hinbox]
  cases l.session.reader with
  | idle =>
    cases l.session.inbox with
    | nil => rfl
    | cons arrival rest => exact nameless_receive hf m _ arrival
  | authenticating reference lookup =>
    simp only [Reader.turnless]
    rw [← Moment.turnless_advance, ← nameless_settleAuthentication hf, ← apply_ite (nameless f)]
    rfl
  | ended => rfl

end

lemma nameless_missHeartbeat (now : Nat) (l : Line) :
    (l.missHeartbeat now).nameless f = (l.nameless f).missHeartbeat now := by
  have hready : (l.nameless f).session.heartbeatReadyAt? = l.session.heartbeatReadyAt? := by
    simp only [Session.heartbeatReadyAt?, nameless, Session.turnless]
    cases l.session.reader <;> rfl
  simp only [missHeartbeat, hready]
  split
  · split <;> rfl
  · rfl

/-! ### The writer -/

lemma nameless_modifyOutbound {g : Outbound → Outbound}
    (hg : ∀ o, (g o).mapEntries (Entry.retold f) = g (o.mapEntries (Entry.retold f))) (l : Line) :
    (l.modifyOutbound g).nameless f = (l.nameless f).modifyOutbound g := by
  simp only [modifyOutbound, modifyConnection, nameless, Connection.nameless, hg]

lemma nameless_emit (l : Line) (o : Output) :
    (l.emit o).nameless f = (l.nameless f).emit (o.retold f) := by
  obtain ⟨s, c⟩ := l
  by_cases hs : s.present <;> simp [emit, modifySession, nameless, Session.turnless, hs]

lemma nameless_writeHeld (l : Line) (e : Entry) :
    (l.writeHeld e).nameless f = (l.nameless f).writeHeld (e.retold f) := by
  have hpresent : (l.nameless f).session.present = l.session.present := rfl
  have hframe (slot? : Option Nat) (text : String) :
      (if l.session.present then (l.modifyOutbound Outbound.release).emit (.frame slot? text)
        else l.endWriter).nameless f =
      if (l.nameless f).session.present then
        ((l.nameless f).modifyOutbound Outbound.release).emit ((Output.frame slot? text).retold f)
      else (l.nameless f).endWriter := by
    rw [hpresent]
    split
    · rw [nameless_emit]
      rfl
    · rfl
  cases e with
  | ready text => exact hframe none text
  | pending slot => rfl
  | settled slot text? =>
    cases text? with
    | none => rfl
    | some text => exact hframe (some slot) text

lemma nameless_write (l : Line) : l.write.nameless f = (l.nameless f).write := by
  have hwriting : (l.nameless f).session.writing = l.session.writing := rfl
  have hending : (l.nameless f).session.ending = l.session.ending := rfl
  have htake : (l.nameless f).connection.outbound.take =
      l.connection.outbound.take.mapEntries (Entry.retold f) :=
    (Outbound.mapEntries_take _ _).symm
  simp only [write, hwriting, hending]
  split
  · split
    · next code _ =>
      have hemit : (l.emit (.close code)).nameless f = (l.nameless f).emit (.close code) :=
        l.nameless_emit (.close code)
      rw [← hemit]
      rfl
    · rfl
    · simp only [writeNext, htake]
      cases hh : l.connection.outbound.take.held with
      | none => simp [Outbound.mapEntries, hh]
      | some e =>
        simp only [Outbound.mapEntries, hh, Option.map_some]
        rw [nameless_writeHeld, nameless_modifyOutbound (Outbound.mapEntries_take _)]
  · rfl

/-! ### Deliveries -/

lemma nameless_setStage (l : Line) (slot : Nat) (stage : Stage) :
    (l.setStage slot stage).nameless f = (l.nameless f).setStage slot stage.turnless := by
  have hmodify (ds : List Delivery) :
      (ds.modify slot fun d => { d with stage }).map Delivery.turnless =
        (ds.map Delivery.turnless).modify slot fun d => { d with stage := stage.turnless } := by
    apply List.ext_getElem?
    intro i
    rw [List.getElem?_map, List.getElem?_modify, List.getElem?_modify, List.getElem?_map]
    cases ds[i]? with
    | none => rfl
    | some d =>
      simp only [Option.map_some]
      split <;> rfl
  simp only [setStage, modifySession, nameless, Session.turnless, hmodify]

lemma nameless_conclude (l : Line) (slot : Nat) (e : Event) (p : Principal) (decision : Decision) :
    (l.conclude slot e p decision).nameless f = (l.nameless f).conclude slot e p decision := by
  simp only [conclude]
  rw [nameless_modifyConnection fun c => c.nameless_settle f slot _, nameless_setStage]
  rfl

lemma nameless_settleDelivery (l : Line) (slot : Nat) (e : Event) (p : Principal)
    (progress : Limited Decision) :
    (l.settleDelivery slot e p progress).nameless f =
      (l.nameless f).settleDelivery slot e p progress.turnless := by
  cases progress with
  | finished r => exact nameless_conclude l slot e p _
  | timedOut => exact nameless_conclude l slot e p _
  | waiting lookup => exact nameless_setStage l slot _

lemma nameless_deliver (m : Moment) (slot : Nat) (l : Line) :
    (l.deliver m slot).nameless f = (l.nameless f).deliver m.turnless slot := by
  have hdelivery : (l.nameless f).session.deliveries[slot]? =
      l.session.deliveries[slot]?.map Delivery.turnless := List.getElem?_map
  have hprincipal : (l.nameless f).connection.principal = l.connection.principal := rfl
  simp only [deliver, hdelivery, hprincipal]
  cases l.session.deliveries[slot]? with
  | none => rfl
  | some d =>
    simp only [Option.map_some, Delivery.turnless]
    cases d.stage with
    | queued =>
      simp only [Stage.turnless]
      rw [nameless_settleDelivery, Moment.turnless_start]
    | deciding p lookup =>
      simp only [Stage.turnless]
      rw [← Moment.turnless_advance, ← nameless_settleDelivery, ← apply_ite (nameless f)]
      rfl
    | decided p decision => rfl

lemma nameless_reserve (e : Event) (l : Line) :
    (l.reserve e).nameless f = (l.nameless f).reserve e := by
  have haccepts : (l.nameless f).connection.accepts = l.connection.accepts :=
    l.connection.accepts_nameless f
  simp only [reserve, haccepts]
  split
  · have hreserve := l.connection.nameless_reserve f
    simp only [nameless, hreserve, Session.turnless, List.map_append]
    rfl
  · rfl

end Line

end EventGateway
