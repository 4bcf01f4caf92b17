import EventGateway.Proofs.Session.Masks
import EventGateway.Service.Step

/-!
# Runs of a masked service

The mask of the service takes the payloads off its events and out of the queues of its connections, and
it takes off the messages of the transport everything but their number. Every task commutes with the
mask, and so does everything that happens outside, so two services with the same mask go on in the same
way for as long as the messages that reach them bring the same events, but for payloads.
-/

namespace EventGateway

/-! ### Dictionaries -/

namespace Dictionary

variable {κ α β : Type}

/-- Changes all values. -/
def mapValues (g : α → β) (d : Dictionary κ α) : Dictionary κ β where
  entries := d.entries.map fun e => (e.1, g e.2)
  nodup := by simpa [Function.comp_def] using d.nodup

@[simp] lemma keys_mapValues (g : α → β) (d : Dictionary κ α) : (d.mapValues g).keys = d.keys := by
  simp [keys, mapValues]

variable [DecidableEq κ]

@[simp] lemma get?_mapValues (g : α → β) (d : Dictionary κ α) (key : κ) :
    (d.mapValues g).get? key = (d.get? key).map g := by
  simp [get?, mapValues, List.find?_map, Function.comp_def]

lemma mapValues_modify {g : α → β} {f : α → α} {f' : β → β} (h : ∀ v, g (f v) = f' (g v))
    (d : Dictionary κ α) (key : κ) :
    (d.modify key f).mapValues g = (d.mapValues g).modify key f' := by
  ext1
  simp only [mapValues, modify, List.map_map]
  apply List.map_congr_left
  intro e _
  simp only [Function.comp]
  split
  · rw [h]
  · rfl

@[simp] lemma mapValues_insert (g : α → β) (d : Dictionary κ α) (key : κ) (value : α) :
    (d.insert key value).mapValues g = (d.mapValues g).insert key (g value) := by
  unfold insert
  simp only [keys_mapValues]
  split
  · have h (v : α) : g ((fun _ => value) v) = (fun _ => g value) (g v) := rfl
    exact mapValues_modify h d key
  · ext1
    simp [mapValues]

end Dictionary

/-! ### The broker -/

namespace Broker

/-- The broker without the texts of slots. -/
def masked (b : Broker) : Broker := { b with connections := b.connections.mapValues Connection.masked }

variable (b : Broker) (id : ConnectionId)

@[simp] lemma connection?_masked :
    b.masked.connection? id = (b.connection? id).map Connection.masked :=
  Dictionary.get?_mapValues _ _ _

lemma masked_modify_of {f g : Connection → Connection} (h : ∀ c, (f c).masked = g c.masked) :
    (b.modify id f).masked = b.masked.modify id g := by
  simp [modify, masked, Dictionary.mapValues_modify h]

lemma masked_modify {f : Connection → Connection} (h : ∀ c, (f c).masked = f c.masked) :
    (b.modify id f).masked = b.masked.modify id f :=
  masked_modify_of b id h

@[simp] lemma masked_add (c : Connection) : (b.add c).masked = b.masked.add c.masked := by
  simp only [add, masked, Dictionary.mapValues_insert]
  rfl

@[simp] lemma masked_register : (b.register id).masked = b.masked.register id := rfl

lemma masked_reorder (order : List ConnectionId) :
    (b.reorder order).masked = b.masked.reorder order :=
  apply_ite masked ..

@[simp] lemma masked_disconnect : (b.disconnect id).masked = b.masked.disconnect id := by
  unfold disconnect
  rw [connection?_masked]
  cases b.connection? id with
  | none => rfl
  | some c =>
    simp only [masked, Option.map_some]
    rw [Dictionary.mapValues_modify Connection.masked_close]
    rfl

@[simp] lemma masked_settle (t : Ticket) (text? : Option String) :
    (b.settle t text?).masked = b.masked.settle t (maskText text?) :=
  masked_modify_of b t.connection fun c => Connection.masked_settle c t.slot text?

/-! ### Rooms -/

@[simp] lemma masked_join (room : Room) : (b.join id room).masked = b.masked.join id room := by
  unfold join
  rw [connection?_masked]
  cases b.connection? id with
  | none => rfl
  | some c =>
    have hrooms (c : Connection) : ({ c with rooms := c.rooms.insert room } : Connection).masked =
        { c.masked with rooms := c.masked.rooms.insert room } := rfl
    simp only [Option.map_some, apply_ite masked]
    congr 1
    exact congrArg (fun m : Broker => { m with table := b.table.insert room id })
      (masked_modify b id hrooms)

@[simp] lemma masked_leave (room : Room) : (b.leave id room).masked = b.masked.leave id room := by
  unfold leave
  rw [connection?_masked]
  cases b.connection? id with
  | none => rfl
  | some c =>
    have hrooms (c : Connection) : ({ c with rooms := c.rooms.erase room } : Connection).masked =
        { c.masked with rooms := c.masked.rooms.erase room } := rfl
    simp only [Option.map_some, apply_ite masked]
    congr 1
    exact congrArg (fun m : Broker => { m with table := b.table.remove room id })
      (masked_modify b id hrooms)

lemma masked_foldl {f : Broker → Room → Broker} (h : ∀ b room, (f b room).masked = f b.masked room)
    (rooms : List Room) : (rooms.foldl f b).masked = rooms.foldl f b.masked := by
  induction rooms generalizing b with
  | nil => rfl
  | cons room rest ih => rw [List.foldl_cons, List.foldl_cons, ih, h]

lemma subscribe_masked (rooms : List Room) :
    b.masked.subscribe id rooms = (b.subscribe id rooms).map masked := by
  unfold subscribe
  rw [connection?_masked]
  cases b.connection? id with
  | none => rfl
  | some c =>
    have hclosed : c.masked.closed = c.closed := rfl
    have hprincipal : c.masked.principal = c.principal := rfl
    simp only [Option.map_some, hclosed, hprincipal]
    split
    · rfl
    · cases rooms.findSome? c.principal.refusal? with
      | some e => rfl
      | none => exact congrArg Except.ok (masked_foldl b (fun b => masked_join b id) rooms).symm

@[simp] lemma masked_unsubscribe (rooms : List Room) :
    (b.unsubscribe id rooms).masked = b.masked.unsubscribe id rooms :=
  masked_foldl b (fun b => masked_leave b id) rooms

/-! ### Dispatch -/

lemma reserve_masked :
    b.masked.reserve id = ((b.reserve id).1.masked, (b.reserve id).2) := by
  unfold reserve
  have hslot : (b.masked.connection? id).bind Connection.openSlot? =
      (b.connection? id).bind Connection.openSlot? := by
    cases hc : b.connection? id <;> simp [hc]
  rw [hslot]
  cases (b.connection? id).bind Connection.openSlot? with
  | none => rfl
  | some slot =>
    simp only [Prod.mk.injEq, and_true]
    exact (masked_modify b id Connection.masked_reserve).symm

lemma reserveAll_masked (ids : List ConnectionId) :
    b.masked.reserveAll ids = ((b.reserveAll ids).1.masked, (b.reserveAll ids).2) := by
  induction ids generalizing b with
  | nil => rfl
  | cons id ids ih => simp [reserveAll, reserve_masked, ih]

lemma dispatch_masked (e : Event) :
    b.masked.dispatch e.masked = ((b.dispatch e).1.masked, (b.dispatch e).2) :=
  reserveAll_masked b (b.candidates e.rooms)

end Broker

/-! ### The transport -/

/-- The transport with nothing known about its messages but their number. -/
def Bus.masked (bus : Bus) : Bus := { bus with hub := ⟨bus.hub.log.map fun _ => default⟩ }

@[simp] lemma Bus.masked_publish (bus : Bus) (m : Message) :
    (bus.publish m).masked = bus.masked.publish default := by
  cases h : bus.down <;> simp [publish, masked, Hub.publish, h]

@[simp] lemma Bus.size_log_masked (bus : Bus) : bus.masked.hub.log.size = bus.hub.log.size := by
  simp [masked]

lemma Listener.retry_masked (bus : Bus) (now backoff : Nat) :
    retry bus.masked now backoff =
      ((retry bus now backoff).1.masked, (retry bus now backoff).2) := by
  by_cases h : bus.failures = 0 <;> simp [retry, Bus.subscribe, Bus.masked, Hub.subscribe, h]

lemma Listener.hub_retry (bus : Bus) (now backoff : Nat) :
    (retry bus now backoff).1.hub = bus.hub := by
  by_cases h : bus.failures = 0 <;> simp [retry, Bus.subscribe, h]

namespace World

/-- The service without the payloads of events and the texts that come from them. -/
def masked (w : World) : World :=
  { w with
    bus := w.bus.masked
    broker := w.broker.masked
    sessions := w.sessions.mapValues Session.masked }

variable (w : World) (id : ConnectionId)

@[simp] lemma store_masked : w.masked.store = w.store := rfl

@[simp] lemma now_masked : w.masked.now = w.now := rfl

@[simp] lemma turns_masked : w.masked.turns = w.turns := rfl

@[simp] lemma broker_masked : w.masked.broker = w.broker.masked := rfl

@[simp] lemma bus_masked : w.masked.bus = w.bus.masked := rfl

@[simp] lemma listener_masked : w.masked.listener = w.listener := rfl

@[simp] lemma passes_masked : w.masked.passes = w.passes := rfl

@[simp] lemma timeLimit_masked : w.masked.timeLimit = w.timeLimit := rfl

@[simp] lemma masked_countTurn : w.countTurn.masked = w.masked.countTurn := rfl

@[simp] lemma get?_sessions_masked :
    w.masked.sessions.get? id = (w.sessions.get? id).map Session.masked :=
  Dictionary.get?_mapValues _ _ _

lemma masked_modifySession_of {f g : Session → Session} (h : ∀ s, (f s).masked = g s.masked) :
    (w.modifySession id f).masked = w.masked.modifySession id g := by
  simp [modifySession, masked, Dictionary.mapValues_modify h]

lemma masked_modifySession {f : Session → Session} (h : ∀ s, (f s).masked = f s.masked) :
    (w.modifySession id f).masked = w.masked.modifySession id f :=
  masked_modifySession_of w id h

lemma masked_modifyConnection_of {f g : Connection → Connection}
    (h : ∀ c, (f c).masked = g c.masked) :
    (w.modifyConnection id f).masked = w.masked.modifyConnection id g := by
  simp [modifyConnection, masked, Broker.masked_modify_of _ _ h]

lemma masked_modifyConnection {f : Connection → Connection} (h : ∀ c, (f c).masked = f c.masked) :
    (w.modifyConnection id f).masked = w.masked.modifyConnection id f :=
  masked_modifyConnection_of w id h

lemma masked_setBroker (b : Broker) :
    ({ w with broker := b } : World).masked = { w.masked with broker := b.masked } := rfl

@[simp] lemma line?_masked : w.masked.line? id = (w.line? id).map Line.masked := by
  simp only [line?, get?_sessions_masked, broker_masked, Broker.connection?_masked]
  cases w.sessions.get? id <;> cases w.broker.connection? id <;> rfl

/-! ### Readers -/

@[simp] lemma masked_endReader (code : Option CloseCode) :
    (w.endReader id code).masked = w.masked.endReader id code := by
  unfold endReader
  rw [masked_modifySession, masked_setBroker, Broker.masked_disconnect]
  · rfl
  · exact fun _ => rfl

@[simp] lemma masked_reply (reference : Option UInt64) (result : Except CommandError ReplyMembers) :
    (w.reply id reference result).masked = w.masked.reply id reference result := by
  unfold reply
  rw [broker_masked, Broker.connection?_masked]
  cases w.broker.connection? id with
  | none => rfl
  | some c =>
    have hclosed : c.masked.closed = c.closed := rfl
    simp only [Option.map_some, Connection.accepts_masked, hclosed, apply_ite masked,
      masked_endReader]
    rw [masked_modifyConnection]
    exact fun c => Connection.masked_send c _

lemma masked_replyWith (reference : Option UInt64) {members : Connection → ReplyMembers}
    (h : ∀ c, members c.masked = members c) :
    (w.replyWith id reference members).masked = w.masked.replyWith id reference members := by
  unfold replyWith
  rw [broker_masked, Broker.connection?_masked]
  cases w.broker.connection? id with
  | none => rfl
  | some c => simp [h]

@[simp] lemma masked_setReader (reader : Reader) :
    (w.setReader id reader).masked = w.masked.setReader id reader :=
  masked_modifySession w id fun _ => rfl

@[simp] lemma masked_finishAuthentication (reference : Option UInt64)
    (result : Except CommandError Principal) :
    (w.finishAuthentication id reference result).masked =
      w.masked.finishAuthentication id reference result := by
  cases result with
  | error e => simp [finishAuthentication]
  | ok p =>
    simp only [finishAuthentication, masked_reply]
    rw [masked_modifyConnection, masked_setReader]
    exact fun c => Connection.masked_setPrincipal c p

@[simp] lemma masked_settleAuthentication (reference : Option UInt64)
    (r : Limited (Except CommandError Principal)) :
    (w.settleAuthentication id reference r).masked = w.masked.settleAuthentication id reference r := by
  cases r <;> simp [settleAuthentication]

@[simp] lemma masked_perform (reference : Option UInt64) (command : Command) :
    (w.perform id reference command).masked = w.masked.perform id reference command := by
  cases command with
  | authenticate token =>
    simp only [perform, broker_masked, Broker.connection?_masked]
    cases w.broker.connection? id with
    | none => rfl
    | some c => exact masked_settleAuthentication _ _ _ _
  | subscribe rooms =>
    simp only [perform, broker_masked, Broker.subscribe_masked]
    cases w.broker.subscribe id rooms with
    | error e => exact masked_reply _ _ _ _
    | ok b => exact masked_replyWith _ _ _ fun _ => rfl
  | unsubscribe rooms =>
    simp only [perform]
    rw [masked_replyWith _ _ _ fun _ => rfl, masked_setBroker, Broker.masked_unsubscribe]
    rfl
  | status => exact masked_replyWith _ _ _ fun _ => rfl
  | heartbeat =>
    simp only [perform, masked_reply]
    rw [masked_modifySession]
    · rfl
    · exact fun _ => rfl

@[simp] lemma masked_receive (arrival : Arrival) :
    (w.receive id arrival).masked = w.masked.receive id arrival := by
  cases arrival with
  | other => rfl
  | ended => exact masked_endReader _ _ _
  | text text =>
    simp only [receive, receiveText]
    split
    · exact masked_reply _ _ _ _
    · split
      · exact masked_reply _ _ _ _
      · exact masked_perform _ _ _ _

@[simp] lemma masked_read : (w.read id).masked = w.masked.read id := by
  unfold read
  rw [get?_sessions_masked]
  cases w.sessions.get? id with
  | none => rfl
  | some s =>
    have hreader : s.masked.reader = s.reader := rfl
    have hinbox : s.masked.inbox = s.inbox := rfl
    simp only [Option.map_some, hreader, hinbox]
    cases s.reader with
    | idle =>
      cases s.inbox with
      | nil => rfl
      | cons arrival rest =>
        simp only [masked_receive]
        rw [masked_modifySession]
        exact fun _ => rfl
    | authenticating reference lookup =>
      simp only [apply_ite masked, masked_settleAuthentication]
      rfl
    | ended => rfl

@[simp] lemma masked_missHeartbeat : (w.missHeartbeat id).masked = w.masked.missHeartbeat id := by
  unfold missHeartbeat
  have hready : (w.masked.sessions.get? id).bind Session.heartbeatReadyAt? =
      (w.sessions.get? id).bind Session.heartbeatReadyAt? := by
    rw [get?_sessions_masked]
    cases w.sessions.get? id <;> rfl
  rw [hready]
  split
  · simp only [apply_ite masked, masked_endReader]
    rfl
  · rfl

/-! ### Writers -/

@[simp] lemma masked_write : (w.write id).masked = w.masked.write id := by
  simp only [write, modifyLine, line?_masked]
  cases hl : w.line? id with
  | none => rfl
  | some l =>
    simp only [Option.map_some, ← Line.masked_write]
    rw [masked_modifyConnection_of _ id (g := fun _ => l.write.masked.connection) fun _ => rfl,
      masked_modifySession_of w id (g := fun _ => l.write.masked.session) fun _ => rfl]

/-! ### Passes -/

/-- The service without payloads, and a pass as it is. -/
def maskedBeside (r : World × Pass) : World × Pass := (r.1.masked, r.2)

@[simp] lemma maskedBeside_fst (r : World × Pass) : (maskedBeside r).1 = r.1.masked := rfl

@[simp] lemma maskedBeside_snd (r : World × Pass) : (maskedBeside r).2 = r.2 := rfl

lemma concludeCheck_masked (p : Pass) (principal : Principal) (valid : Bool) :
    w.masked.concludeCheck p id principal valid =
      maskedBeside (w.concludeCheck p id principal valid) := by
  cases valid with
  | true => rfl
  | false =>
    have hdemoted : (w.masked.broker.connection? id).any (·.demotable principal) =
        (w.broker.connection? id).any (·.demotable principal) := by
      rw [broker_masked, Broker.connection?_masked]
      cases w.broker.connection? id <;> rfl
    have hmodify := masked_modifyConnection w id fun c => Connection.masked_demoteIf c principal
    simp only [concludeCheck, hdemoted, ← hmodify]
    rfl

lemma settleCheck_masked (p : Pass) (principal : Principal) (r : Limited Bool) :
    w.masked.settleCheck p id principal r = maskedBeside (w.settleCheck p id principal r) := by
  cases r with
  | finished r =>
    cases r with
    | ok valid => exact concludeCheck_masked w id p principal valid
    | error e => exact concludeCheck_masked w id p principal false
  | timedOut => exact concludeCheck_masked w id p principal false
  | waiting lookup => rfl

lemma checkRemaining_masked (p : Pass) (ids : List ConnectionId) :
    w.masked.checkRemaining p ids = maskedBeside (w.checkRemaining p ids) := by
  induction ids generalizing w p with
  | nil => rfl
  | cons id rest ih =>
    simp only [checkRemaining, broker_masked, Broker.connection?_masked]
    cases w.broker.connection? id with
    | none => exact ih w p
    | some c =>
      have hchecks : passChecks p.affected c.masked = passChecks p.affected c := rfl
      have hprincipal : c.masked.principal = c.principal := rfl
      have hcaller : c.masked.caller = c.caller := rfl
      simp only [Option.map_some, hchecks, hprincipal, hcaller, store_masked, now_masked,
        timeLimit_masked, turns_masked, settleCheck_masked, maskedBeside_fst, maskedBeside_snd, ih,
        apply_ite maskedBeside]
      rfl

lemma advancePass_masked (p : Pass) :
    w.masked.advancePass p = maskedBeside (w.advancePass p) := by
  unfold advancePass
  split
  · exact checkRemaining_masked w p p.remaining
  · simp only [now_masked, store_masked, turns_masked, settleCheck_masked, maskedBeside_fst,
      maskedBeside_snd, checkRemaining_masked, apply_ite maskedBeside]
    rfl

@[simp] lemma masked_runPass (index : Nat) : (w.runPass index).masked = w.masked.runPass index := by
  unfold runPass
  rw [passes_masked]
  split
  · simp only [advancePass_masked]
    rfl
  · rfl

/-! ### Deliveries -/

lemma masked_setStage (t : Ticket) (stage : Stage) :
    (w.setStage t stage).masked = w.masked.setStage t stage := by
  apply masked_modifySession
  intro s
  have hmodify : (s.deliveries.modify t.slot fun d => { d with stage }).map Delivery.masked =
      (s.deliveries.map Delivery.masked).modify t.slot fun d => { d with stage } := by
    apply List.ext_getElem?
    intro i
    rw [List.getElem?_map, List.getElem?_modify, List.getElem?_modify, List.getElem?_map]
    cases s.deliveries[i]? with
    | none => rfl
    | some d =>
      simp only [Option.map_some]
      split <;> rfl
  simp only [Session.masked, hmodify]

@[simp] lemma delivery?_masked (t : Ticket) :
    w.masked.delivery? t = (w.delivery? t).map Delivery.masked := by
  simp only [delivery?, get?_sessions_masked]
  cases w.sessions.get? t.connection <;> simp [Session.masked]

/-- Of the payload of what is decided only the text in the slot is left. -/
lemma masked_decideDelivery (t : Ticket) (e : Event) (p : Principal) (d : Decision) :
    (w.decideDelivery t e p d).masked =
      { w.masked.setStage t (.decided p d) with
        broker := w.masked.broker.settle t (maskText (e.masked.delivered d)) } := by
  simp only [decideDelivery, masked_setBroker, masked_setStage, Broker.masked_settle,
    maskText_delivered_masked]
  rfl

section

variable {w} {w' : World}

lemma masked_settleDelivery_congr (h : w.masked = w'.masked) {e e' : Event}
    (he : e.masked = e'.masked) (t : Ticket) (p : Principal) (r : Limited Decision) :
    (w.settleDelivery t e p r).masked = (w'.settleDelivery t e' p r).masked := by
  cases r with
  | finished r => simp only [settleDelivery, masked_decideDelivery, h, he]
  | timedOut => simp only [settleDelivery, masked_decideDelivery, h, he]
  | waiting lookup => simp only [settleDelivery, masked_setStage, masked_countTurn, h]

/-- A check does not look at the payload of the event. -/
lemma masked_deliver_congr (h : w.masked = w'.masked) (t : Ticket) :
    (w.deliver t).masked = (w'.deliver t).masked := by
  have hdelivery : (w.delivery? t).map Delivery.masked = (w'.delivery? t).map Delivery.masked := by
    rw [← delivery?_masked, ← delivery?_masked, h]
  have hconnection : (w.broker.connection? t.connection).map Connection.masked =
      (w'.broker.connection? t.connection).map Connection.masked := by
    rw [← Broker.connection?_masked, ← Broker.connection?_masked]
    exact congrArg (fun v => v.broker.connection? t.connection) h
  simp only [deliver]
  cases hd : w.delivery? t with
  | none =>
    rw [hd, Option.map_none, eq_comm, Option.map_eq_none_iff] at hdelivery
    simp only [hdelivery, h]
  | some d =>
    rw [hd, Option.map_some, eq_comm, Option.map_eq_some_iff] at hdelivery
    obtain ⟨d', hd', hdd'⟩ := hdelivery
    cases hc : w.broker.connection? t.connection with
    | none =>
      rw [hc, Option.map_none, eq_comm, Option.map_eq_none_iff] at hconnection
      simp only [hd', hconnection, h]
    | some c =>
      rw [hc, Option.map_some, eq_comm, Option.map_eq_some_iff] at hconnection
      obtain ⟨c', hc', hcc'⟩ := hconnection
      have hstage : d'.stage = d.stage :=
        show d'.masked.stage = d.masked.stage by rw [hdd']
      have hevent : d'.event.masked = d.event.masked := congrArg Delivery.event hdd'
      have hprincipal : c'.principal = c.principal :=
        show c'.masked.principal = c.masked.principal by rw [hcc']
      have hdecision (viewer : Option String) :
          d'.event.decision viewer = d.event.decision viewer := by
        rw [← Event.decision_masked, hevent, Event.decision_masked]
      have hstore : w'.store = w.store := (congrArg World.store h).symm
      have hnow : w'.now = w.now := (congrArg World.now h).symm
      have hturns : w'.turns = w.turns := (congrArg World.turns h).symm
      have hlimit : w'.timeLimit = w.timeLimit := (congrArg World.timeLimit h).symm
      simp only [hd', hc', hstage, hprincipal, hdecision, hstore, hnow, hturns, hlimit]
      cases d.stage with
      | queued => exact masked_settleDelivery_congr h hevent.symm t _ _
      | deciding p lookup =>
        simp only [apply_ite masked, masked_settleDelivery_congr h hevent.symm t, h]
      | decided p decision => exact h

end

/-! ### Dispatch -/

lemma masked_addDelivery (e : Event) (t : Ticket) :
    (w.addDelivery e t).masked = w.masked.addDelivery e.masked t := by
  apply masked_modifySession_of
  intro s
  simp [Session.masked, Delivery.masked]

/-- Gives an event its slots. -/
def route (e : Event) : World :=
  (w.broker.dispatch e).2.foldl (fun w t => w.addDelivery e t)
    { w with broker := (w.broker.dispatch e).1 }

@[simp] lemma masked_route (e : Event) : (w.route e).masked = w.masked.route e.masked := by
  have hfold (tickets : List Ticket) (v : World) :
      (tickets.foldl (fun w t => w.addDelivery e t) v).masked =
        tickets.foldl (fun w t => w.addDelivery e.masked t) v.masked := by
    induction tickets generalizing v with
    | nil => rfl
    | cons t rest ih => rw [List.foldl_cons, List.foldl_cons, ih, masked_addDelivery]
  simp only [route, hfold, broker_masked, Broker.dispatch_masked]
  rfl

/-! ### What happens outside -/

lemma masked_startPass (affected : Option String) :
    (w.startPass affected).masked = w.masked.startPass affected := rfl

lemma masked_resubscribe (backoff : Nat) :
    ({ w with
      bus := (Listener.retry w.bus w.now backoff).1
      listener := (Listener.retry w.bus w.now backoff).2 } : World).masked =
    { w.masked with
      bus := (Listener.retry w.masked.bus w.masked.now backoff).1
      listener := (Listener.retry w.masked.bus w.masked.now backoff).2 } := by
  rw [bus_masked, Listener.retry_masked]
  rfl

lemma masked_publish (m : Message) :
    (w.step (.publish m)).masked = w.masked.step (.publish default) :=
  congrArg (fun bus => { w.masked with bus }) (Bus.masked_publish w.bus m)

lemma masked_step_reorder (order : List ConnectionId) :
    (w.step (.reorder order)).masked = w.masked.step (.reorder order) := by
  simp only [step, masked_setBroker, Broker.masked_reorder, broker_masked]

@[simp] lemma masked_connect (caller : Caller) :
    (w.connect id caller).masked = w.masked.connect id caller := by
  simp only [connect, broker_masked, Broker.connection?_masked]
  cases w.broker.connection? id with
  | some c => rfl
  | none =>
    simp only [Option.map_none, masked, Broker.masked_register, Broker.masked_add,
      Connection.masked_send, Dictionary.mapValues_insert, Session.masked_opened]
    rfl

lemma bus_connect (caller : Caller) : (w.connect id caller).bus = w.bus := by
  unfold connect
  split <;> rfl

lemma bus_elapse (target : Nat) : (w.elapse target).bus = w.bus := by
  unfold elapse
  split <;> rfl

lemma readyAt?_masked (t : Task) : w.masked.readyAt? t = w.readyAt? t := by
  cases t with
  | listener =>
    simp only [readyAt?, listener_masked, bus_masked]
    cases w.listener with
    | listening place =>
      have hbacklog : w.bus.masked.hub.backlog place = w.bus.hub.backlog place := by
        simp [Hub.backlog, Hub.oldest]
      simp only [Listener.readyAt?, hbacklog]
    | retrying due backoff => rfl
  | delivery t =>
    simp only [readyAt?, delivery?_masked]
    cases w.delivery? t <;> rfl
  | pass index => rfl
  | reader i =>
    simp only [readyAt?, get?_sessions_masked]
    cases w.sessions.get? i <;> rfl
  | heartbeat i =>
    simp only [readyAt?, get?_sessions_masked]
    cases w.sessions.get? i <;> rfl
  | writer i =>
    simp only [readyAt?, writerReadyAt?, line?_masked]
    cases w.line? i <;> simp

lemma tasks_masked : w.masked.tasks = w.tasks := by
  simp [tasks, masked, Dictionary.mapValues, List.flatMap_map, ticketsOf, Session.masked]

@[simp] lemma masked_elapse (target : Nat) : (w.elapse target).masked = w.masked.elapse target := by
  have hhorizon : w.masked.horizon? = w.horizon? := by
    simp only [horizon?, tasks_masked, funext (readyAt?_masked w)]
  simp only [elapse, now_masked, hhorizon, apply_ite masked]
  rfl

end World

end EventGateway
