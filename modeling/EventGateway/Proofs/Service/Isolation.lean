import EventGateway.Proofs.Service.History
import EventGateway.Proofs.Session.Names

/-!
# Connections do not interfere

All connections share the registry, the table of rooms, the dispatch of events and the store. Yet a
connection does not notice the others. What it sees of a run is what happens outside all connections,
what its own client does, and when its own tasks go on, for the store may be another one a moment later;
what is done by or to other connections it does not see. What it sees determines its line, so on a
connection that sees the same of two runs the same is queued and written.
-/

namespace EventGateway

/-! ### What a connection sees of an action -/

/-- What an action is to one connection, whose name is not told. -/
inductive Share where
  | listen
  | deliver (slot : Nat)
  | read
  | missHeartbeat
  | write
  | connect (caller : Caller)
  | arrive (arrival : Arrival)
  | leave
  | updateStore (update : StoreUpdate)
  | publish (message : Message)
  | dispatch (message : Message)
  | breakTransport (failures : Nat)
  | setTransportDown (value : Bool)
  deriving DecidableEq, Repr, Inhabited

namespace World

/-- What the action is to the connection, unless it is about another one. Passes are not told, nor the
order of the registry, and of the time only at what time something happens. -/
def Action.share? (id : ConnectionId) : Action → Option Share
  | .task .listener => some .listen
  | .task (.delivery t) => if t.connection = id then some (.deliver t.slot) else none
  | .task (.pass _) => none
  | .task (.reader i) => if i = id then some .read else none
  | .task (.heartbeat i) => if i = id then some .missHeartbeat else none
  | .task (.writer i) => if i = id then some .write else none
  | .connect i caller => if i = id then some (.connect caller) else none
  | .arrive i arrival => if i = id then some (.arrive arrival) else none
  | .leave i => if i = id then some .leave else none
  | .updateStore u => some (.updateStore u)
  | .publish m => some (.publish m)
  | .dispatch m => some (.dispatch m)
  | .reauthorize _ => none
  | .breakTransport failures => some (.breakTransport failures)
  | .setTransportDown b => some (.setTransportDown b)
  | .reorder _ => none
  | .elapse _ => none

/-- Is there something to do now? Only a task may have nothing to do. -/
def isDue (w : World) : Action → Bool
  | .task t => (w.readyAt? t).any (· ≤ w.now)
  | _ => true

/-- What a history shows to the connection: what the steps are to it, each with the time. -/
inductive Shows (id : ConnectionId) : List Happening → List (Nat × Share) → Prop
  | nil : Shows id [] []
  | seen {w : World} {a : Action} {s : Share} {rest : List Happening} {view : List (Nat × Share)} :
    a.share? id = some s → Shows id rest view → Shows id ((w, a) :: rest) ((w.now, s) :: view)
  | unseen {w : World} {a : Action} {rest : List Happening} {view : List (Nat × Share)} :
    a.share? id = none → Shows id rest view → Shows id ((w, a) :: rest) view
  /-- A task that has nothing to do may be left out. -/
  | idle {w : World} {a : Action} {rest : List Happening} {view : List (Nat × Share)} :
    w.isDue a = false → Shows id rest view → Shows id ((w, a) :: rest) view

/-- What the steps of a history are to the connection, each with the time. -/
def sharesOf (id : ConnectionId) (history : List Happening) : List (Nat × Share) :=
  history.filterMap fun x => (x.2.share? id).map (x.1.now, ·)

/-- Any tasks that have nothing to do may be left out. -/
lemma shows_filter (id : ConnectionId) (keep : Happening → Bool)
    (hkeep : ∀ x, keep x = false → x.1.isDue x.2 = false) (history : List Happening) :
    Shows id history (sharesOf id (history.filter keep)) := by
  induction history with
  | nil => exact .nil
  | cons x rest ih =>
    cases hx : keep x with
    | false =>
      rw [List.filter_cons_of_neg (by simp [hx])]
      exact .idle (hkeep x hx) ih
    | true =>
      rw [List.filter_cons_of_pos hx]
      cases hs : x.2.share? id with
      | none =>
        rw [sharesOf, List.filterMap_cons_none (by rw [hs]; rfl)]
        exact .unseen hs ih
      | some s =>
        rw [sharesOf, List.filterMap_cons_some (by rw [hs]; rfl)]
        exact .seen hs ih

/-- None need be left out. -/
lemma shows_sharesOf (id : ConnectionId) (history : List Happening) :
    Shows id history (sharesOf id history) := by
  have hall := shows_filter id (fun _ => true) (fun _ hdropped => by cases hdropped) history
  rwa [List.filter_eq_self.2 fun _ _ => rfl] at hall

end World

/-! ### The service as one connection sees it -/

/-- The text with the name taken out, if it is the greeting of the connection. -/
def hideName (config : Config) (id : ConnectionId) (text : String) : String :=
  if text = helloFrame id config.heartbeatInterval.toNat then
    helloFrame "" config.heartbeatInterval.toNat
  else text

/-- A reply is never taken for a greeting. -/
lemma hideName_renderReply (config : Config) (id : ConnectionId) (reference : Option UInt64)
    (result : Except CommandError ReplyMembers) :
    hideName config id (renderReply reference result) = renderReply reference result := by
  rw [hideName, if_neg]
  intro h
  have := congrArg frameStart h
  rw [frameStart_renderReply, frameStart_helloFrame] at this
  simp at this

lemma nameless_opened (config : Config) (now : Nat) (id : ConnectionId) (caller : Caller) :
    (Line.opened config now id caller).nameless (hideName config id) =
      .opened config now "" caller := by
  have hgreeting : hideName config id (helloFrame id config.heartbeatInterval.toNat) =
      helloFrame "" config.heartbeatInterval.toNat := by simp only [hideName, if_true]
  simp only [Line.opened, Line.nameless, Connection.nameless_send, Session.turnless_opened, hgreeting]
  rfl

/-- Is the connection open and in one of the rooms? -/
def Line.isIn (rooms : List Room) (l : Line) : Bool :=
  !l.connection.closed && rooms.any (· ∈ l.connection.rooms)

/-- What of the service one connection depends on, with its own line without its name. -/
structure Outlook where
  config : Config
  store : Store
  bus : Bus
  listener : Listener
  line? : Option Line

namespace Outlook

/-- What a task of the connection finds outside. -/
def moment (o : Outlook) (now : Nat) : Moment where
  config := o.config
  store := o.store
  now := now
  turn := 0

def mapLine (o : Outlook) (f : Line → Line) : Outlook := { o with line? := o.line?.map f }

/-- A message reaches the broker. -/
def dispatch (o : Outlook) (m : Message) : Outlook :=
  if m.isControl then o
  else
    match m.event? with
    | some e => o.mapLine fun l => if l.isIn e.rooms then l.reserve e else l
    | none => o

/-- Receives the next message of the transport, or subscribes to it again. -/
def listen (o : Outlook) (now : Nat) : Outlook :=
  match o.listener with
  | .listening place =>
    match o.bus.hub.receive? place with
    | some (m, next) => { o with listener := .listening next }.dispatch m
    | none => o
  | .retrying due backoff =>
    if due ≤ now then
      let (bus, listener) := Listener.retry o.bus now backoff
      { o with bus, listener }
    else o

/-- What becomes of it by something that the connection sees. -/
def take (o : Outlook) : Nat × Share → Outlook
  | (now, .listen) => o.listen now
  | (now, .deliver slot) => o.mapLine (Line.deliver (o.moment now) slot)
  | (now, .read) => o.mapLine (Line.read (o.moment now))
  | (now, .missHeartbeat) => o.mapLine (Line.missHeartbeat now)
  | (_, .write) => o.mapLine Line.write
  | (now, .connect caller) =>
    { o with line? := some (o.line?.getD (.opened o.config now "" caller)) }
  | (_, .arrive arrival) => o.mapLine (Line.arrive arrival)
  | (_, .leave) => o.mapLine Line.depart
  | (_, .updateStore u) => { o with store := o.store.update u }
  | (_, .publish m) => { o with bus := o.bus.publish m }
  | (_, .dispatch m) => o.dispatch m
  | (now, .breakTransport failures) =>
    { o with bus := { o.bus with failures }, listener := o.listener.interrupt now }
  | (_, .setTransportDown b) => { o with bus := { o.bus with down := b } }

end Outlook

namespace World

/-- The service as the connection sees it. -/
def outlook (w : World) (id : ConnectionId) : Outlook where
  config := w.config
  store := w.store
  bus := w.bus
  listener := w.listener
  line? := (w.line? id).map (Line.nameless (hideName w.config id))

/-! ### A change of one line -/

section

variable {w w' : World} {i id : ConnectionId}

lemma Keeps.outlook (h : w.Keeps w') (id : ConnectionId) : w'.outlook id =
    { w.outlook id with line? := (w'.line? id).map (Line.nameless (hideName w.config id)) } := by
  simp only [World.outlook, h.config, h.store, h.bus, h.listener]

/-- The connection does not see what is done to another one. -/
lemma Modifies.outlook_other {f : Line → Line} (h : w.Modifies w' i f) (hi : i ≠ id) :
    w'.outlook id = w.outlook id := by
  rw [h.toKeeps.outlook, h.line, if_neg hi.symm]
  rfl

lemma Modifies.outlook_own {f g : Line → Line} (h : w.Modifies w' id f)
    (hg : ∀ l, (f l).nameless (hideName w.config id) = g (l.nameless (hideName w.config id))) :
    w'.outlook id = (w.outlook id).mapLine g := by
  rw [h.toKeeps.outlook, h.line, if_pos rfl]
  simp only [Outlook.mapLine, World.outlook, Option.map_map]
  congr 2
  exact funext hg

/-- The connection sees a step on a line if the line is its own. -/
lemma Modifies.outlook {f g : Line → Line} (h : w.Modifies w' i f) {s : Share} {now : Nat}
    (hs : (w.outlook id).take (now, s) = (w.outlook id).mapLine g)
    (hg : i = id → ∀ l,
      (f l).nameless (hideName w.config id) = g (l.nameless (hideName w.config id))) :
    w'.outlook id = (if i = id then some s else none).elim (w.outlook id)
      fun s => (w.outlook id).take (now, s) := by
  by_cases hi : i = id
  · subst hi
    rw [if_pos rfl]
    exact (h.outlook_own (hg rfl)).trans hs.symm
  · rw [if_neg hi]
    exact h.outlook_other hi

end

/-! ### Dispatch -/

variable {w : World} {id : ConnectionId}

/-- Whether an event is routed to a connection is told by its own rooms. -/
lemma mem_candidates_iff_isIn (hw : w.broker.Consistent) {l : Line} (hl : w.line? id = some l)
    (rooms : List Room) : id ∈ w.broker.candidates rooms ↔ l.isIn rooms = true := by
  have hc := (line?_eq_some_iff.1 hl).2
  rw [hw.mem_candidates_iff]
  simp [Broker.HasOpen, Broker.Holds, hc, Line.isIn]

lemma outlook_dispatch (hw : w.broker.Consistent) {m : Message} (hpasses : (w.dispatch m).passes = [])
    (id : ConnectionId) : (w.dispatch m).outlook id = (w.outlook id).dispatch m := by
  have hkeeps : w.Keeps (w.dispatch m) := by
    obtain hkeeps | ⟨affected, hstart⟩ := dispatch_keeps w m
    · exact hkeeps
    · rw [hstart] at hpasses
      simp [startPass] at hpasses
  rw [hkeeps.outlook, line?_dispatch]
  simp only [routed?, Outlook.dispatch]
  by_cases hcontrol : m.isControl = true
  · rw [if_pos hcontrol, if_pos hcontrol]
    rfl
  rw [if_neg hcontrol, if_neg hcontrol]
  cases m.event? with
  | none => rfl
  | some e =>
    simp only [Outlook.mapLine, outlook]
    cases hl : w.line? id with
    | none => split <;> rfl
    | some l =>
      have hisIn : (l.nameless (hideName w.config id)).isIn e.rooms = l.isIn e.rooms := rfl
      have hcandidates := mem_candidates_iff_isIn hw hl e.rooms
      simp only [Option.map_some, hisIn]
      by_cases hin : l.isIn e.rooms = true
      · rw [if_pos hin, Option.filter_some, if_pos (by simpa using hcandidates.2 hin)]
        simp only [Option.map_some, Line.nameless_reserve]
      · rw [if_neg hin, Option.filter_some, if_neg (by simpa using mt hcandidates.1 hin)]
        rfl

/-! ### Steps -/

lemma passes_of_step {a : Action} (h : (w.step a).passes = []) : w.passes = [] := by
  have hlength := (grows_step w a).passes
  rw [h] at hlength
  exact List.length_eq_zero_iff.1 (Nat.le_zero.1 hlength)

lemma outlook_listen (hw : w.broker.Consistent) (hpasses : w.listen.passes = []) (id : ConnectionId) :
    w.listen.outlook id = (w.outlook id).listen w.now := by
  have hlistener : (w.outlook id).listener = w.listener := rfl
  have hbus : (w.outlook id).bus = w.bus := rfl
  simp only [listen] at hpasses ⊢
  simp only [Outlook.listen, hlistener, hbus]
  cases hlisten : w.listener with
  | listening place =>
    simp only [hlisten] at hpasses ⊢
    cases hreceive : w.bus.hub.receive? place with
    | none => rfl
    | some received =>
      obtain ⟨m, next⟩ := received
      simp only [hreceive] at hpasses ⊢
      exact outlook_dispatch (w := { w with listener := .listening next }) hw hpasses id
  | retrying due backoff =>
    simp only [apply_ite (outlook · id)]
    rfl

lemma outlook_connect (hw : w.Sound) (i : ConnectionId) (caller : Caller) (id : ConnectionId) :
    (w.connect i caller).outlook id = ((Action.connect i caller).share? id).elim (w.outlook id)
      fun s => (w.outlook id).take (w.now, s) := by
  simp only [Action.share?]
  cases hc : w.broker.connection? i with
  | some c =>
    have hconnect : w.connect i caller = w := by simp only [connect, hc]
    rw [hconnect]
    split
    · next hi =>
      subst hi
      obtain ⟨l, hl, -⟩ := hw.paired.exists_line hc
      simp [Outlook.take, outlook, hl]
    · rfl
  | none =>
    have hkeeps : (w.connect i caller).outlook id = { w.outlook id with
        line? := ((w.connect i caller).line? id).map (Line.nameless (hideName w.config id)) } := by
      simp only [connect, hc]
      rfl
    rw [hkeeps, line?_connect caller hc]
    by_cases hi : i = id
    · subst hi
      have hnone := line?_eq_none_of_connection? hc
      simp [Outlook.take, outlook, hnone, nameless_opened]
    · rw [if_neg hi, if_neg (Ne.symm hi)]
      rfl

/-- What a step does to the connection is told by what the connection sees of it. -/
lemma outlook_step (hw : w.Sound) {a : Action} (hpasses : (w.step a).passes = [])
    (id : ConnectionId) : (w.step a).outlook id =
      (a.share? id).elim (w.outlook id) fun s => (w.outlook id).take (w.now, s) := by
  cases a with
  | task t =>
    cases t with
    | listener => exact outlook_listen hw.broker hpasses id
    | delivery t =>
      exact (modifies_deliver w t).outlook rfl fun _ l => l.nameless_deliver _ _
    | pass index =>
      have hnone : w.passes = [] := passes_of_step hpasses
      have hstep : w.step (.task (.pass index)) = w := by simp [step, work, runPass, hnone]
      rw [hstep]
      rfl
    | reader i =>
      exact (modifies_read w i).outlook rfl fun _ l =>
        l.nameless_read (hideName_renderReply w.config id) _
    | heartbeat i =>
      exact (modifies_missHeartbeat w i).outlook rfl fun _ l => l.nameless_missHeartbeat _
    | writer i => exact (modifies_write w i).outlook rfl fun _ l => l.nameless_write
  | connect i caller => exact outlook_connect hw i caller id
  | arrive i arrival => exact (modifies_modifySession w i _).outlook rfl fun _ _ => rfl
  | leave i => exact (modifies_modifySession w i _).outlook rfl fun _ _ => rfl
  | dispatch m => exact outlook_dispatch hw.broker hpasses id
  | elapse target =>
    simp only [step, elapse]
    split <;> rfl
  | reauthorize affected => simp [step, startPass] at hpasses
  | updateStore u => rfl
  | publish m => rfl
  | breakTransport failures => rfl
  | setTransportDown b => rfl
  | reorder order =>
    show (w.step (.reorder order)).outlook id = w.outlook id
    simp only [outlook, line?_reorder]
    rfl

/-! ### Tasks that have nothing to do -/

end World

namespace Line

variable {l : Line}

lemma read_of_not_due {m : Moment} (h : l.session.readerReadyAt?.any (· ≤ m.now) = false) :
    l.read m = l := by
  simp only [Session.readerReadyAt?] at h
  simp only [read]
  cases hreader : l.session.reader with
  | idle =>
    simp only [hreader] at h
    cases hinbox : l.session.inbox with
    | nil => rfl
    | cons arrival rest => simp [hinbox] at h
  | authenticating reference lookup =>
    simp only [hreader, Option.any_some, decide_eq_false_iff_not] at h
    exact if_neg h
  | ended => rfl

lemma missHeartbeat_of_not_due {now : Nat}
    (h : l.session.heartbeatReadyAt?.any (· ≤ now) = false) : l.missHeartbeat now = l := by
  simp only [missHeartbeat]
  split
  · next due hdue =>
    simp only [hdue, Option.any_some, decide_eq_false_iff_not] at h
    exact if_neg h
  · rfl

lemma write_of_not_due {now : Nat} (h : l.writerReadyAt?.any (· ≤ now) = false) :
    l.write = l := by
  obtain ⟨s, ⟨id, caller, principal, rooms, closed, ⟨queue, held, hasReceiver, nextSlot, ledger⟩⟩⟩ := l
  simp only [writerReadyAt?] at h
  simp only [write]
  cases hwriting : s.writing with
  | false => rfl
  | true =>
    cases hending : s.ending with
    | some code => simp [hwriting, hending] at h
    | none =>
      simp only [hwriting, hending] at h
      cases held with
      | none =>
        cases queue with
        | nil => rfl
        | cons e rest => simp at h
      | some e =>
        have houtcome : e.outcome? = none := by
          cases houtcome : e.outcome? with
          | none => rfl
          | some text? => simp [houtcome] at h
        simp only [writeNext, writeHeld, Outbound.take, houtcome]
        rfl

lemma deliver_of_not_due {m : Moment} {slot : Nat}
    (h : (l.session.deliveries[slot]?.bind (·.stage.readyAt?)).any (· ≤ m.now) = false) :
    l.deliver m slot = l := by
  simp only [deliver]
  cases hd : l.session.deliveries[slot]? with
  | none => rfl
  | some d =>
    simp only [hd, Option.bind_some, Stage.readyAt?] at h
    dsimp only
    cases hstage : d.stage with
    | queued => simp [hstage] at h
    | deciding p lookup =>
      simp only [hstage, Option.any_some, decide_eq_false_iff_not] at h
      exact if_neg h
    | decided p decision => rfl

end Line

namespace World

variable {w : World} {id : ConnectionId}

/-- A change of a line that is none is not seen. -/
lemma Modifies.outlook_self {w' : World} {i : ConnectionId} {f : Line → Line}
    (h : w.Modifies w' i f) (hself : ∀ l, w.line? i = some l → f l = l) (id : ConnectionId) :
    w'.outlook id = w.outlook id := by
  have hid := h.congr (g := fun l => l) fun l hl => (hself l hl).symm
  by_cases hi : i = id
  · subst hi
    refine (hid.outlook_own (g := fun l => l) fun _ => rfl).trans ?_
    simp [Outlook.mapLine]
  · exact hid.outlook_other hi

lemma listen_of_not_due (h : w.isDue (.task .listener) = false) : w.listen = w := by
  simp only [isDue, readyAt?, Listener.readyAt?] at h
  simp only [listen]
  cases hlisten : w.listener with
  | listening place =>
    simp only [hlisten] at h
    have hbacklog : w.bus.hub.backlog place = 0 := by
      by_contra hne
      simp [hne] at h
    have hbehind : w.bus.hub.log.size ≤ max place w.bus.hub.oldest := Nat.le_of_sub_eq_zero hbacklog
    simp [Hub.receive?, Array.getElem?_eq_none hbehind]
  | retrying due backoff =>
    simp only [hlisten, Option.any_some, decide_eq_false_iff_not] at h
    exact if_neg h

/-- A connection does not see tasks that have nothing to do, be they its own. -/
lemma outlook_work_of_not_due {t : Task} (h : w.isDue (.task t) = false)
    (hshare : ((Action.task t).share? id).isSome) : (w.work t).outlook id = w.outlook id := by
  cases t with
  | listener => rw [work, listen_of_not_due h]
  | pass index => cases hshare
  | delivery t =>
    apply (modifies_deliver w t).outlook_self
    intro l hl
    simp only [isDue, readyAt?, delivery?, (line?_eq_some_iff.1 hl).1, Option.bind_some] at h
    exact Line.deliver_of_not_due h
  | reader i =>
    apply (modifies_read w i).outlook_self
    intro l hl
    simp only [isDue, readyAt?, (line?_eq_some_iff.1 hl).1, Option.bind_some] at h
    exact Line.read_of_not_due h
  | heartbeat i =>
    apply (modifies_missHeartbeat w i).outlook_self
    intro l hl
    simp only [isDue, readyAt?, (line?_eq_some_iff.1 hl).1, Option.bind_some] at h
    exact Line.missHeartbeat_of_not_due h
  | writer i =>
    apply (modifies_write w i).outlook_self
    intro l hl
    simp only [isDue, readyAt?, writerReadyAt?, hl, Option.bind_some] at h
    exact Line.write_of_not_due h

/-! ### Runs -/

/-- A step that has nothing to do changes nothing for the connection. -/
lemma outlook_step_of_not_due (hw : w.Sound) {a : Action} (hpasses : (w.step a).passes = [])
    (hdue : w.isDue a = false) (id : ConnectionId) : (w.step a).outlook id = w.outlook id := by
  cases hs : a.share? id with
  | none =>
    rw [outlook_step hw hpasses, hs]
    rfl
  | some s =>
    cases a with
    | task t => exact outlook_work_of_not_due hdue (by rw [hs]; rfl)
    | _ => cases hdue

lemma passes_of_run {actions : List Action} (h : (w.run actions).passes = []) : w.passes = [] := by
  induction actions generalizing w with
  | nil => exact h
  | cons a rest ih => exact passes_of_step (ih h)

/-- What a run does to the connection is told by what the connection sees of it. -/
lemma outlook_run (hw : w.Sound) {actions : List Action} (hpasses : (w.run actions).passes = [])
    {view : List (Nat × Share)} (hview : Shows id (w.history actions) view) :
    (w.run actions).outlook id = view.foldl Outlook.take (w.outlook id) := by
  induction actions generalizing w view with
  | nil =>
    cases hview
    rfl
  | cons a rest ih =>
    have hfirst : (w.step a).passes = [] := passes_of_run hpasses
    have hstep := outlook_step hw hfirst id
    cases hview with
    | seen hs hrest =>
      rw [hs] at hstep
      exact (ih (hw.step a) hpasses hrest).trans (by rw [hstep]; rfl)
    | unseen hs hrest =>
      rw [hs] at hstep
      exact (ih (hw.step a) hpasses hrest).trans (by rw [hstep]; rfl)
    | idle hdue hrest =>
      have hidle := outlook_step_of_not_due hw hfirst hdue id
      exact (ih (hw.step a) hpasses hrest).trans (by rw [hidle])

/-! ### What is queued and written -/

/-- What has been queued on a connection and what it has come to, and what has been written, without the
name in the greeting. -/
def traffic? (w : World) (id : ConnectionId) : Option (List Entry × List Output) :=
  (w.line? id).map fun l =>
    (l.connection.outbound.ledger.map (Entry.retold (hideName w.config id)),
      l.session.written.map (Output.retold (hideName w.config id)))

lemma traffic?_eq (w : World) (id : ConnectionId) : w.traffic? id =
    (w.outlook id).line?.map fun l => (l.connection.outbound.ledger, l.session.written) := by
  simp only [traffic?, outlook, Option.map_map]
  rfl

variable {config : Config} {store : Store} {actions actions' : List Action} {id id' : ConnectionId}

/-- A connection that sees the same of two runs without passes is treated the same in both, whatever
happens to all others: the same is queued on it, every slot comes to the same, and the same is
written. -/
theorem connections_do_not_interfere {view : List (Nat × Share)}
    (hpasses : ((start config store).run actions).passes = [])
    (hpasses' : ((start config store).run actions').passes = [])
    (hview : Shows id ((start config store).history actions) view)
    (hview' : Shows id' ((start config store).history actions') view) :
    ((start config store).run actions).traffic? id =
      ((start config store).run actions').traffic? id' := by
  have hsound := sound_start config store
  have hstart : (start config store).outlook id = (start config store).outlook id' := by
    simp only [outlook, line?_start, Option.map_none]
  rw [traffic?_eq, traffic?_eq, outlook_run hsound hpasses hview, outlook_run hsound hpasses' hview',
    hstart]

/-- The data of a user have changed. -/
def userChange : Event := ⟨.globalUserUpdate, {}, ['1']⟩

/-- A client joins the global room and is told so. -/
def joinsUsers (id : ConnectionId) : List Action := [
  .connect id {},
  .arrive id (.text "\x7b\"op\":\"subscribe\",\"d\":\x7b\"global\":[\"users\"]\x7d\x7d"),
  .task (.reader id),
  .task (.writer id),
  .task (.writer id)]

/-- An event is delivered to the first slot of a client. -/
def hearsOfChange (id : ConnectionId) : List Action := [
  .dispatch (.ofEvent userChange),
  .task (.delivery ⟨id, 0⟩),
  .task (.writer id)]

/-- A client is the only one. -/
def alone : List Action := joinsUsers "c" ++ [.elapse 100] ++ hearsOfChange "c"

/-- Another client joins the same room before, and leaves it when some time has passed. -/
def inCompany : List Action :=
  joinsUsers "a" ++ joinsUsers "b" ++
    [.elapse 40, .leave "a", .task (.reader "a"), .elapse 60, .task (.writer "a"), .elapse 100,
      .task (.heartbeat "b")] ++
    hearsOfChange "b"

/-- It does not notice the other one: the greeting, the reply and the event are written as before. -/
theorem alone_as_in_company :
    ∃ view, Shows "c" ((start { jwtSecret := "s" } {}).history alone) view ∧
      Shows "b" ((start { jwtSecret := "s" } {}).history inCompany) view ∧
      ((start { jwtSecret := "s" } {}).run alone).traffic? "c" =
        ((start { jwtSecret := "s" } {}).run inCompany).traffic? "b" ∧
      (((start { jwtSecret := "s" } {}).run inCompany).line? "b").map
        (fun l => l.session.written.length) = some 3 := by
  have hview := shows_sharesOf "c" ((start { jwtSecret := "s" } {}).history alone)
  have hview' := shows_filter "b" (fun x => x.1.isDue x.2) (fun _ hidle => hidle)
    ((start { jwtSecret := "s" } {}).history inCompany)
  have hsame :
      sharesOf "b" (((start { jwtSecret := "s" } {}).history inCompany).filter
        fun x => x.1.isDue x.2) =
      sharesOf "c" ((start { jwtSecret := "s" } {}).history alone) := by
    decide +kernel
  rw [hsame] at hview'
  have hpasses : ((start { jwtSecret := "s" } {}).run alone).passes.length = 0 ∧
      ((start { jwtSecret := "s" } {}).run inCompany).passes.length = 0 := by
    decide +kernel
  refine ⟨_, hview, hview', ?_, by decide +kernel⟩
  exact connections_do_not_interfere (List.length_eq_zero_iff.1 hpasses.1)
    (List.length_eq_zero_iff.1 hpasses.2) hview hview'

end World

end EventGateway
