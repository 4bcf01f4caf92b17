/-!
# Outbound queues

What waits to be written on a connection, in the order in which it was accepted. A reply is ready when
it is queued. A slot is queued when an event arrives and settled later, when the event has been
decided on; until then nothing behind it is written. A bounded number of entries waits, and whoever
writes may take an undecided slot in hand, which frees its place. What has been accepted stays in a
ledger, so that what is written can be compared with it. Main statements: what each operation does to
the entries that are there and to the ledger.
-/

namespace EventGateway

/-- An entry of a queue. -/
inductive Entry where
  /-- A frame that was ready when it was queued. -/
  | ready (frame : String)
  /-- A slot that is not decided. -/
  | pending (slot : Nat)
  /-- A slot that came to a frame or to nothing. -/
  | settled (slot : Nat) (frame : Option String)
  deriving DecidableEq, Repr, Inhabited

namespace Entry

/-- What is written for the entry: nothing yet, or possibly nothing at all. -/
def outcome? : Entry → Option (Option String)
  | .ready frame => some (some frame)
  | .pending _ => none
  | .settled _ frame => some frame

def slot? : Entry → Option Nat
  | .ready _ => none
  | .pending slot => some slot
  | .settled slot _ => some slot

def awaits (slot : Nat) : Entry → Bool
  | .pending s => s = slot
  | _ => false

def settle (slot : Nat) (frame : Option String) (e : Entry) : Entry :=
  if e.awaits slot then .settled slot frame else e

end Entry

/-- How many entries may wait on a connection. -/
def outboundCapacity : Nat := 1024

/-- The outbound queue of a connection. -/
structure Outbound where
  queue : List Entry := []
  /-- What the writer has taken off the queue and not written. -/
  held : Option Entry := none
  /-- Is there somebody to take entries off? -/
  hasReceiver : Bool := true
  /-- The number of the next slot. -/
  nextSlot : Nat := 0
  /-- Everything that has been accepted, in order, with what it has come to. -/
  ledger : List Entry := []
  deriving DecidableEq, Repr, Inhabited

namespace Outbound

/-- What has been accepted and neither written nor lost, in the order in which it was accepted. -/
def entries (o : Outbound) : List Entry := o.held.toList ++ o.queue

def accepts (o : Outbound) : Bool := o.hasReceiver && o.queue.length < outboundCapacity

/-- Queues an entry that is accepted. -/
def push (o : Outbound) (e : Entry) : Outbound :=
  { o with queue := o.queue ++ [e], ledger := o.ledger ++ [e] }

/-- Queues the next slot. -/
def pushSlot (o : Outbound) : Outbound :=
  { o.push (.pending o.nextSlot) with nextSlot := o.nextSlot + 1 }

/-- Is somebody waiting for the slot to be decided? -/
def awaits (o : Outbound) (slot : Nat) : Bool :=
  o.held.any (·.awaits slot) || o.queue.any (·.awaits slot)

def settle (o : Outbound) (slot : Nat) (frame : Option String) : Outbound :=
  { o with
    held := o.held.map (·.settle slot frame)
    queue := o.queue.map (·.settle slot frame)
    ledger := o.ledger.map (·.settle slot frame) }

/-- Takes the first entry of the queue in hand, if the hand is free. -/
def take (o : Outbound) : Outbound :=
  match o.held, o.queue with
  | none, e :: rest => { o with held := some e, queue := rest }
  | _, _ => o

/-- Lets go of what is in hand. -/
def release (o : Outbound) : Outbound := { o with held := none }

/-- Nobody takes entries off any more, and those that wait are lost. -/
def dropReceiver (o : Outbound) : Outbound :=
  { o with queue := [], held := none, hasReceiver := false }

/-! ### The entries afterwards -/

@[simp] theorem entries_push (o : Outbound) (e : Entry) : (o.push e).entries = o.entries ++ [e] := by
  simp [entries, push]

@[simp] theorem entries_pushSlot (o : Outbound) :
    o.pushSlot.entries = o.entries ++ [.pending o.nextSlot] := by
  simp [entries, pushSlot, push]

@[simp] theorem entries_settle (o : Outbound) (slot : Nat) (frame : Option String) :
    (o.settle slot frame).entries = o.entries.map (·.settle slot frame) := by
  cases h : o.held <;> simp [entries, settle, h]

/-- What is taken in hand is still there. -/
@[simp] theorem entries_take (o : Outbound) : o.take.entries = o.entries := by
  cases hh : o.held <;> cases hq : o.queue <;> simp [entries, take, hh, hq]

@[simp] theorem entries_release (o : Outbound) : o.release.entries = o.queue := rfl

@[simp] theorem entries_dropReceiver (o : Outbound) : o.dropReceiver.entries = [] := rfl

/-! ### The ledger afterwards -/

@[simp] theorem ledger_push (o : Outbound) (e : Entry) : (o.push e).ledger = o.ledger ++ [e] := rfl

@[simp] theorem ledger_pushSlot (o : Outbound) :
    o.pushSlot.ledger = o.ledger ++ [.pending o.nextSlot] := rfl

@[simp] theorem ledger_settle (o : Outbound) (slot : Nat) (frame : Option String) :
    (o.settle slot frame).ledger = o.ledger.map (·.settle slot frame) := rfl

@[simp] theorem ledger_take (o : Outbound) : o.take.ledger = o.ledger := by
  unfold take; split <;> rfl

@[simp] theorem ledger_release (o : Outbound) : o.release.ledger = o.ledger := rfl

@[simp] theorem ledger_dropReceiver (o : Outbound) : o.dropReceiver.ledger = o.ledger := rfl

end Outbound

end EventGateway
