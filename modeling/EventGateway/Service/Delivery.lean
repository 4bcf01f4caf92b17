import EventGateway.Service.World

/-!
# Deliveries

From a message of the transport to what is written for it. A message is routed at once: an event gets a
slot on every connection in one of its rooms. Each slot is then decided on its own, for the principal
that the connection has when the decision begins, and settled by the frame or by nothing.
-/

namespace EventGateway.World

/-! ### Dispatch -/

/-- Begins a pass over the registered connections, in the order in which the broker lists them. -/
def startPass (w : World) (affected : Option String) : World :=
  { w with passes := w.passes ++ [{ affected, remaining := w.broker.registry }] }

def addDelivery (w : World) (e : Event) (t : Ticket) : World :=
  w.modifySession t.connection fun s => { s with deliveries := s.deliveries ++ [{ event := e }] }

/-- Routes a message: an event gets its slots, a request starts a pass, and anything else is
dropped. -/
def dispatch (w : World) (m : Message) : World :=
  if m.isControl then
    match m.request? with
    | some request => w.startPass request.userId
    | none => w
  else
    match m.event? with
    | some e =>
      let (broker, tickets) := w.broker.dispatch e
      tickets.foldl (fun w t => w.addDelivery e t) { w with broker }
    | none => w

theorem dispatch_of_request {m : Message} {request : ReauthorizeRequest} (hcontrol : m.isControl = true)
    (h : m.request? = some request) (w : World) : w.dispatch m = w.startPass request.userId := by
  simp [dispatch, hcontrol, h]

/-- Receives the next message of the transport, or subscribes to it again. -/
def listen (w : World) : World :=
  match w.listener with
  | .listening place =>
    match w.bus.hub.receive? place with
    | some (m, next) => { w with listener := .listening next }.dispatch m
    | none => w
  | .retrying due backoff =>
    if due ≤ w.now then
      let (bus, listener) := Listener.retry w.bus w.now backoff
      { w with bus, listener }
    else w

/-! ### Deliveries -/

/-- Records how far the decision about a delivery has come. -/
def setStage (w : World) (t : Ticket) (stage : Stage) : World :=
  w.modifySession t.connection fun s =>
    { s with deliveries := s.deliveries.modify t.slot fun d => { d with stage } }

def decideDelivery (w : World) (t : Ticket) (e : Event) (p : Principal) (decision : Decision) :
    World :=
  let w := w.setStage t (.decided p decision)
  { w with broker := w.broker.settle t (e.delivered decision) }

/-- Goes on with the decision about a delivery whose lookup has come so far. -/
def settleDelivery (w : World) (t : Ticket) (e : Event) (p : Principal) : Limited Decision → World
  | .finished r => w.decideDelivery t e p (decisionResult r)
  | .timedOut => w.decideDelivery t e p .deny
  | .waiting lookup => w.countTurn.setStage t (.deciding p lookup)

def delivery? (w : World) (t : Ticket) : Option Delivery :=
  (w.sessions.get? t.connection).bind fun s => s.deliveries[t.slot]?

/-- Decides about a delivery, for the principal that the connection has when the decision begins. -/
def deliver (w : World) (t : Ticket) : World :=
  match w.delivery? t, w.broker.connection? t.connection with
  | some d, some c =>
    match d.stage with
    | .queued =>
      w.settleDelivery t d.event c.principal
        (.start w.store w.now w.timeLimit w.turns (d.event.decision c.principal.userId))
    | .deciding p lookup =>
      if lookup.readyAt ≤ w.now then
        w.settleDelivery t d.event p (lookup.advance w.store w.now w.turns)
      else w
    | .decided _ _ => w
  | _, _ => w

end EventGateway.World
