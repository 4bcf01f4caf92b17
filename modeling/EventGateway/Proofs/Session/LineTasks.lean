import EventGateway.Broker.Gate
import EventGateway.Command.Basic
import EventGateway.Service.Config
import EventGateway.Session.Line
import EventGateway.Session.Reply
import Mathlib.Tactic.Lemma

/-!
# Tasks on a line

What each task of the service does to the connection that it is about, told from this connection alone
and what is found outside: the settings, the store and the time. Nothing here looks at another
connection.
-/

namespace EventGateway

/-- What a task finds outside its connection when it goes on. -/
structure Moment where
  config : Config
  store : Store
  now : Nat
  turn : Nat
  deriving Inhabited

namespace Moment

variable {α : Type}

/-- Starts a lookup. -/
def start (m : Moment) (lookup : Lookup α) : Limited α :=
  .start m.store m.now m.config.authzTimeout.toNat m.turn lookup

/-- Goes on with a lookup. -/
def advance (m : Moment) (lookup : Awaited α) : Limited α := lookup.advance m.store m.now m.turn

end Moment

/-- Is there nothing more to do about the delivery? -/
def Stage.isDecided : Stage → Bool
  | .decided _ _ => true
  | _ => false

namespace Connection

/-- Puts the connection into a room. -/
def join (c : Connection) (room : Room) : Connection :=
  if room ∈ c.rooms then c else { c with rooms := c.rooms.insert room }

/-- Takes the connection out of a room. -/
def leave (c : Connection) (room : Room) : Connection :=
  if room ∈ c.rooms then { c with rooms := c.rooms.erase room } else c

@[simp] lemma closed_join (c : Connection) (room : Room) : (c.join room).closed = c.closed := by
  simp only [join]
  split <;> rfl

@[simp] lemma closed_leave (c : Connection) (room : Room) : (c.leave room).closed = c.closed := by
  simp only [leave]
  split <;> rfl

end Connection

namespace Line

/-! ### The reader -/

/-- Ends the reader, and the connection with it. -/
def endReader (l : Line) (code : Option CloseCode) : Line where
  session := { l.session with reader := .ended, ending := some code }
  connection := l.connection.close

/-- Queues a reply, or ends the session if it is not accepted. -/
def reply (l : Line) (reference : Option UInt64) (result : Except CommandError ReplyMembers) : Line :=
  if l.connection.accepts ∨ l.connection.closed then
    l.modifyConnection fun c => c.send (renderReply reference result)
  else l.endReader (some .slowConsumer)

/-- Sets what the reader is doing. -/
def setReader (l : Line) (reader : Reader) : Line := l.modifySession fun s => { s with reader }

/-- Replies to an authentication, and installs the principal if there is one. -/
def finishAuthentication (l : Line) (reference : Option UInt64) :
    Except CommandError Principal → Line
  | .ok p =>
    ((l.setReader .idle).modifyConnection fun c => c.setPrincipal p).reply reference (.ok p.reply)
  | .error e => (l.setReader .idle).reply reference (.error e)

/-- Goes on with an authentication that has come so far. -/
def settleAuthentication (l : Line) (reference : Option UInt64) :
    Limited (Except CommandError Principal) → Line
  | .finished r => l.finishAuthentication reference (authenticationResult r)
  | .timedOut => l.finishAuthentication reference (.error .timeout)
  | .waiting lookup => l.setReader (.authenticating reference lookup)

/-- Puts the connection into a room. -/
def join (l : Line) (room : Room) : Line := l.modifyConnection fun c => c.join room

/-- Takes the connection out of a room. -/
def leave (l : Line) (room : Room) : Line := l.modifyConnection fun c => c.leave room

/-- Puts the connection into all of the rooms, or into none if one of them is refused. -/
def subscribe (l : Line) (rooms : List Room) : Except CommandError Line :=
  if l.connection.closed then .ok l
  else
    match rooms.findSome? l.connection.principal.refusal? with
    | some e => .error e
    | none => .ok (rooms.foldl join l)

/-- Runs a command. -/
def perform (l : Line) (m : Moment) (reference : Option UInt64) : Command → Line
  | .authenticate token =>
    l.settleAuthentication reference
      (m.start (EventGateway.authenticate m.config.jwtSecret token l.connection.caller))
  | .subscribe rooms =>
    match l.subscribe rooms with
    | .error e => l.reply reference (.error e)
    | .ok l => l.reply reference (.ok l.connection.roomsReply)
  | .unsubscribe rooms =>
    let l := rooms.foldl leave l
    l.reply reference (.ok l.connection.roomsReply)
  | .status => l.reply reference (.ok (l.connection.statusReply m.config.apiVersion))
  | .heartbeat =>
    (l.modifySession fun s =>
      { s with heartbeatDue := m.now + m.config.heartbeatGrace.toNat }).reply reference (.ok [])

/-- Deals with a text from the client. -/
def receiveText (l : Line) (m : Moment) (text : String) : Line :=
  match ClientMessage.ofText text with
  | .error fault => l.reply none (.error (.malformed fault.message))
  | .ok message =>
    match Command.ofMessage message with
    | .error e => l.reply message.reference (.error e)
    | .ok command => l.perform m message.reference command

/-- Deals with what has arrived from the client. -/
def receive (l : Line) (m : Moment) : Arrival → Line
  | .text text => l.receiveText m text
  | .other => l
  | .ended => l.endReader none

/-- Takes the next message of the client, or goes on with an authentication. -/
def read (m : Moment) (l : Line) : Line :=
  match l.session.reader with
  | .idle =>
    match l.session.inbox with
    | [] => l
    | arrival :: rest => (l.modifySession fun s => { s with inbox := rest }).receive m arrival
  | .authenticating reference lookup =>
    if lookup.readyAt ≤ m.now then l.settleAuthentication reference (m.advance lookup) else l
  | .ended => l

/-- Ends a session that lacks a heartbeat. -/
def missHeartbeat (now : Nat) (l : Line) : Line :=
  match l.session.heartbeatReadyAt? with
  | some due => if due ≤ now then l.endReader (some .heartbeatTimeout) else l
  | none => l

/-! ### Deliveries -/

/-- Reserves a slot for an event that has been routed to the connection, if one is accepted. -/
def reserve (e : Event) (l : Line) : Line :=
  if l.connection.accepts then
    { session := { l.session with deliveries := l.session.deliveries ++ [{ event := e }] }
      connection := l.connection.reserve }
  else l

/-- Records how far the decision about a delivery has come. -/
def setStage (l : Line) (slot : Nat) (stage : Stage) : Line :=
  l.modifySession fun s =>
    { s with deliveries := s.deliveries.modify slot fun d => { d with stage } }

/-- Settles the slot of a delivery by a decision. -/
def conclude (l : Line) (slot : Nat) (e : Event) (p : Principal) (decision : Decision) : Line :=
  (l.setStage slot (.decided p decision)).modifyConnection fun c =>
    c.settle slot (e.delivered decision)

/-- Goes on with the decision about a delivery whose lookup has come so far. -/
def settleDelivery (l : Line) (slot : Nat) (e : Event) (p : Principal) : Limited Decision → Line
  | .finished r => l.conclude slot e p (decisionResult r)
  | .timedOut => l.conclude slot e p .deny
  | .waiting lookup => l.setStage slot (.deciding p lookup)

/-- Decides about the delivery in a slot. -/
def deliver (m : Moment) (slot : Nat) (l : Line) : Line :=
  match l.session.deliveries[slot]? with
  | none => l
  | some d =>
    match d.stage with
    | .queued =>
      let p := l.connection.principal
      l.settleDelivery slot d.event p (m.start (d.event.decision p.userId))
    | .deciding p lookup =>
      if lookup.readyAt ≤ m.now then l.settleDelivery slot d.event p (m.advance lookup) else l
    | .decided _ _ => l

/-! ### What comes from outside -/

/-- Takes the principal away if it is one of those that were found not to stand. -/
def demote (l : Line) (p : Principal) : Line := l.modifyConnection fun c => c.demoteIf p

/-- Something arrives from the client. -/
def arrive (arrival : Arrival) (l : Line) : Line :=
  l.modifySession fun s => { s with inbox := s.inbox ++ [arrival] }

/-- The client leaves and reads nothing more. -/
def depart (l : Line) : Line :=
  l.modifySession fun s => { s with inbox := s.inbox ++ [.ended], present := false }

/-- The line of a new connection, before anything is queued. -/
def fresh (id : ConnectionId) (caller : Caller) (heartbeatDue : Nat) : Line where
  session := { heartbeatDue }
  connection := { id, caller }

/-- The line of a new connection with its greeting in the queue. -/
def opened (config : Config) (now : Nat) (id : ConnectionId) (caller : Caller) : Line :=
  { session := .opened config.checkedGrace now
    connection := ({ id, caller } : Connection).send (helloFrame id config.heartbeatInterval.toNat) }

lemma heartbeatDue_opened (config : Config) (now : Nat) (id : ConnectionId) (caller : Caller) :
    (opened config now id caller).session.heartbeatDue = now + config.heartbeatGrace.toNat := by
  simp only [opened, Session.opened, Config.heartbeatGrace]
  cases config.checkedGrace <;> rfl

/-! ### Rooms -/

/-- Whoever subscribes joins all of the rooms, or none because the connection is closed. -/
lemma eq_of_subscribe {l k : Line} {rooms : List Room} (h : l.subscribe rooms = .ok k) :
    k = l ∨ k = rooms.foldl join l := by
  simp only [subscribe] at h
  split at h
  · cases h
    exact .inl rfl
  · split at h
    · cases h
    · cases h
      exact .inr rfl

/-! ### Deadlines and deliveries -/

/-- A deadline counts only for a reader that has nothing to do. -/
lemma missHeartbeat_cases (now : Nat) (l : Line) :
    l.missHeartbeat now = l ∨
      (l.session.reader = .idle ∧ l.session.heartbeatDue ≤ now ∧
        l.missHeartbeat now = l.endReader (some .heartbeatTimeout)) := by
  simp only [missHeartbeat, Session.heartbeatReadyAt?]
  cases hr : l.session.reader with
  | idle =>
    dsimp only
    split
    · next hdue => exact .inr ⟨rfl, hdue, rfl⟩
    · exact .inl rfl
  | authenticating reference lookup => exact .inl rfl
  | ended => exact .inl rfl

/-- A delivery has to wait, or something that is not decided goes on. -/
lemma deliver_cases (m : Moment) (slot : Nat) (l : Line) :
    l.deliver m slot = l ∨
      ∃ d progress, l.session.deliveries[slot]? = some d ∧ d.stage.isDecided = false ∧
        ∃ p, l.deliver m slot = l.settleDelivery slot d.event p progress := by
  simp only [deliver]
  split
  · exact .inl rfl
  · next d hd =>
    split
    · next hs => exact .inr ⟨d, _, hd, by rw [hs]; rfl, _, rfl⟩
    · next hs =>
      split
      · exact .inr ⟨d, _, hd, by rw [hs]; rfl, _, rfl⟩
      · exact .inl rfl
    · exact .inl rfl

/-! ### The writer -/

lemma nextSlot_take (o : Outbound) : o.take.nextSlot = o.nextSlot := by
  simp only [Outbound.take]
  split <;> rfl

/-- The writer changes what is in the queue and what is written, and accepts nothing. -/
lemma write_leaves (l : Line) : ∃ outbound writing written,
    l.write = { session := { l.session with writing, written },
                connection := { l.connection with outbound } } ∧
      outbound.ledger = l.connection.outbound.ledger ∧
      outbound.nextSlot = l.connection.outbound.nextSlot := by
  have hemit (l : Line) (output : Output) : ∃ written,
      l.emit output = { l with session := { l.session with written } } := by
    simp only [emit, modifySession]
    split
    · exact ⟨_, rfl⟩
    · exact ⟨l.session.written, rfl⟩
  simp only [write]
  split
  · split
    · next code _ =>
      obtain ⟨written, h⟩ := hemit l (.close code)
      rw [h]
      exact ⟨l.connection.outbound.dropReceiver, false, written, rfl, rfl, rfl⟩
    · exact ⟨l.connection.outbound.dropReceiver, false, l.session.written, rfl, rfl, rfl⟩
    · simp only [writeNext]
      split
      · exact ⟨l.connection.outbound, l.session.writing, l.session.written, rfl, rfl, rfl⟩
      · next e _ =>
        have hledger := Outbound.ledger_take l.connection.outbound
        have hnext := nextSlot_take l.connection.outbound
        simp only [writeHeld]
        split
        · exact ⟨_, l.session.writing, l.session.written, rfl, hledger, hnext⟩
        · exact ⟨l.connection.outbound.take.release, l.session.writing, l.session.written, rfl,
            hledger, hnext⟩
        · split
          · next text _ _ =>
            obtain ⟨written, h⟩ := hemit ((l.modifyOutbound Outbound.take).modifyOutbound
              Outbound.release) (.frame e.slot? text)
            rw [h]
            exact ⟨l.connection.outbound.take.release, l.session.writing, written, rfl, hledger,
              hnext⟩
          · exact ⟨l.connection.outbound.take.dropReceiver, false, l.session.written, rfl, hledger,
              hnext⟩
  · exact ⟨l.connection.outbound, l.session.writing, l.session.written, rfl, rfl, rfl⟩

end Line

end EventGateway
