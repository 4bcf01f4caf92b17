import EventGateway.Service.Step

/-!
# A schedule

One order in which everything that can happen at an instant happens, and the passing of time by way of
the instants at which something does. The schedule only chooses actions, so whatever holds of every run
holds of what it does.

At one instant the listener goes first. Lookups that are over go on in the order of their turns, then
come new deliveries and passes, then the messages of clients and missing heartbeats. Writers go last, so
a session that ends writes nothing more than the reason.
-/

namespace EventGateway.World

def runTasks (w : World) (tasks : List Task) : World := w.run (tasks.map .task)

/-- Everything that the listener receives now. -/
def listenerTasks (w : World) : List Task :=
  match w.listener with
  | .listening place => List.replicate (w.bus.hub.backlog place) .listener
  | .retrying _ _ => [.listener]

def dueTurn? {α : Type} (now : Nat) (lookup : Awaited α) : Option Nat :=
  if lookup.readyAt ≤ now then some lookup.turn else none

/-- The deliveries of a connection whose lookups are over, with their turns. -/
def dueDeliveries (now : Nat) (id : ConnectionId) (s : Session) : List (Nat × List Task) :=
  s.deliveries.zipIdx.filterMap fun (d, slot) =>
    match d.stage with
    | .deciding _ lookup => (dueTurn? now lookup).map fun turn => (turn, [.delivery ⟨id, slot⟩])
    | _ => none

/-- An authentication that is over, with its turn. A deadline that has passed meanwhile follows it, and
then what has arrived meanwhile. -/
def dueAuthentication (now : Nat) (id : ConnectionId) (s : Session) : List (Nat × List Task) :=
  match s.reader with
  | .authenticating _ lookup =>
    ((dueTurn? now lookup).map fun turn =>
      (turn, .reader id :: .heartbeat id :: List.replicate s.inbox.length (.reader id))).toList
  | _ => []

/-- The passes whose lookups are over, with their turns. -/
def duePasses (w : World) : List (Nat × List Task) :=
  w.passes.zipIdx.filterMap fun (p, index) =>
    p.current.bind fun (_, _, lookup) =>
      (dueTurn? w.now lookup).map fun turn => (turn, [.pass index])

/-- Everything whose lookup is over, in the order of turns. -/
def dueTasks (w : World) : List Task :=
  let due := (w.sessions.entries.flatMap fun (id, s) =>
    dueDeliveries w.now id s ++ dueAuthentication w.now id s) ++ w.duePasses
  (due.mergeSort fun a b => a.1 ≤ b.1).flatMap Prod.snd

/-- The deliveries that nothing has been done about. -/
def newDeliveries (w : World) : List Task :=
  w.sessions.entries.flatMap fun (id, s) =>
    s.deliveries.zipIdx.filterMap fun (d, slot) =>
      match d.stage with
      | .queued => some (.delivery ⟨id, slot⟩)
      | _ => none

def newPasses (w : World) : List Task :=
  w.passes.zipIdx.filterMap fun (p, index) =>
    if p.current.isNone ∧ !p.remaining.isEmpty then some (.pass index) else none

/-- Everything that readers do now. -/
def readerTasks (w : World) : List Task :=
  w.sessions.entries.flatMap fun (id, s) =>
    List.replicate s.inbox.length (.reader id) ++ [.heartbeat id]

/-- How many steps a writer can take: one for each decided entry, and one to take the next in hand. -/
def writerSteps (o : Outbound) : Nat :=
  (o.entries.takeWhile fun e => e.outcome?.isSome).length + 1

/-- Everything that writers do now. -/
def writerTasks (w : World) : List Task :=
  w.sessions.entries.flatMap fun (id, _) =>
    List.replicate ((w.broker.connection? id).elim 0 fun c => writerSteps c.outbound) (.writer id)

/-- Everything that can happen at this instant. -/
def settle (w : World) : World :=
  let w := w.runTasks w.listenerTasks
  let w := w.runTasks w.dueTasks
  let w := w.runTasks w.newDeliveries
  let w := w.runTasks w.newPasses
  let w := w.runTasks w.readerTasks
  w.runTasks w.writerTasks

/-- Something that happens outside, and all that follows at once. -/
def act (w : World) (a : Action) : World := (w.step a).settle

/-- Lets time pass to the next instant at which something happens, at most to the target. -/
def nextInstant (w : World) (target : Nat) : World :=
  w.act (.elapse (min target (w.horizon?.getD target)))

/-- Lets time pass to the target, by at most the given number of instants. -/
def passTime (target : Nat) : (instants : Nat) → World → World
  | 0, w => w
  | instants + 1, w =>
    if w.now < target then passTime target instants (w.nextInstant target) else w

def advance (w : World) (ms : Nat) : World := passTime (w.now + ms) ms w

/-- Lets time pass until a pass is done, by at most the given number of instants. -/
def awaitPass (index : Nat) : (instants : Nat) → World → World
  | 0, w => w
  | instants + 1, w =>
    match w.passes[index]?, w.horizon? with
    | some p, some t => if p.isDone then w else awaitPass index instants (w.act (.elapse t))
    | _, _ => w

/-- Runs a pass to its end, and counts the connections that it took the principal from. -/
def reauthorizeNow (w : World) (affected : Option String) : World × Nat :=
  let index := w.passes.length
  let w := w.act (.reauthorize affected)
  let w := awaitPass index (w.broker.registry.length * w.timeLimit + 1) w
  (w, (w.passes[index]?.map (·.demoted)).getD 0)

end EventGateway.World
