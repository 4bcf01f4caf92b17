import EventGateway.Proofs.Session.Draining

/-!
# Outbound queues as bounded channels

An outbound queue accepts what is offered to it as long as the connection is not closed, somebody takes
entries off it and less than its capacity waits. What is taken off comes in the order in which it was
accepted, whether it has been decided or not. Main statement: `outbound_is_bounded_queue`.
-/

namespace EventGateway

/-- What is done to the outbound queue of a connection. -/
inductive QueueAct where
  | send (frame : String)
  | reserve
  /-- The check of a slot comes to a frame or to nothing. -/
  | settle (slot : Nat) (frame : Option String)
  | close
  | dropReceiver
  /-- The first entry is taken in hand, if the hand is free. -/
  | dequeue
  /-- What is in hand has been dealt with, or is given up. -/
  | letGo
  deriving DecidableEq, Repr, Inhabited

/-- Does it offer an entry to the queue? -/
def QueueAct.isOffer : QueueAct → Bool
  | .send _ | .reserve => true
  | _ => false

namespace Connection

variable {c : Connection} {a : QueueAct} {acts : List QueueAct}

def act (c : Connection) : QueueAct → Connection
  | .send frame => c.send frame
  | .reserve => c.reserve
  | .settle slot frame => c.settle slot frame
  | .close => c.close
  | .dropReceiver => { c with outbound := c.outbound.dropReceiver }
  | .dequeue => { c with outbound := c.outbound.take }
  | .letGo => { c with outbound := c.outbound.release }

def actAll (c : Connection) (acts : List QueueAct) : Connection := acts.foldl act c

/-- The entry that is accepted. -/
def enters? (c : Connection) : QueueAct → Option Entry
  | .send frame => if c.accepts then some (.ready frame) else none
  | .reserve => c.openSlot?.map .pending
  | _ => none

/-- The entry that is taken off the queue. -/
def leaves? (c : Connection) : QueueAct → Option Entry
  | .dequeue => if c.outbound.held.isNone then c.outbound.take.held else none
  | _ => none

/-- Everything that is accepted meanwhile. -/
def entering (c : Connection) : List QueueAct → List Entry
  | [] => []
  | a :: acts => (c.enters? a).toList ++ (c.act a).entering acts

/-- Everything that is taken off the queue meanwhile. -/
def leaving (c : Connection) : List QueueAct → List Entry
  | [] => []
  | a :: acts => (c.leaves? a).toList ++ (c.act a).leaving acts

/-- What waits in the queue, as it was accepted. -/
def waiting (c : Connection) : List Entry := c.outbound.queue.map Entry.accepted

/-- Nobody takes entries off the queue any more, and those that waited are lost. -/
def IsDeserted (c : Connection) : Prop :=
  c.outbound.hasReceiver = false ∧ c.outbound.queue = []

/-! ### One act -/

lemma isSome_enters? (h : a.isOffer = true) : (c.enters? a).isSome = c.accepts := by
  cases a with
  | send frame => cases h' : c.accepts <;> simp [enters?, h']
  | reserve => cases h' : c.accepts <;> simp [enters?, openSlot?, h']
  | _ => cases h

/-- What is refused changes nothing. -/
lemma act_of_refused (h : a.isOffer = true) (hnone : c.enters? a = none) : c.act a = c := by
  have hrefused : c.accepts = false := by rw [← isSome_enters? h, hnone]; rfl
  cases a with
  | send frame => simp [act, send, hrefused]
  | reserve => simp [act, reserve, hrefused]
  | _ => cases h

lemma enters?_eq_some_iff {e : Entry} : c.enters? a = some e ↔ c.accepts = true ∧
    ((∃ frame, a = .send frame ∧ .ready frame = e) ∨
      (a = .reserve ∧ .pending c.outbound.nextSlot = e)) := by
  cases a with
  | send frame => simp [enters?]
  | reserve => simp [enters?, openSlot?]
  | _ => simp [enters?]

/-- What is accepted waits behind all others. -/
lemma queue_of_accepted {e : Entry} (he : c.enters? a = some e) :
    (c.act a).outbound.queue = c.outbound.queue ++ [e] := by
  obtain ⟨haccepts, ⟨frame, rfl, rfl⟩ | ⟨rfl, rfl⟩⟩ := enters?_eq_some_iff.1 he
  · simp [act, send, haccepts, Outbound.push]
  · simp [act, reserve, haccepts, Outbound.pushSlot, Outbound.push]

lemma accepted_of_enters? {e : Entry} (he : c.enters? a = some e) : e.accepted = e := by
  obtain ⟨-, ⟨frame, -, rfl⟩ | ⟨-, rfl⟩⟩ := enters?_eq_some_iff.1 he <;> rfl

/-- The first entry is taken off if the hand is free. -/
lemma dequeue_cases (c : Connection) :
    ((c.outbound.held ≠ none ∨ c.outbound.queue = []) ∧ c.leaves? .dequeue = none ∧
      c.act .dequeue = c) ∨
    ∃ e rest, c.outbound.held = none ∧ c.outbound.queue = e :: rest ∧
      c.leaves? .dequeue = some e ∧
      c.act .dequeue = { c with outbound := { c.outbound with held := some e, queue := rest } } := by
  cases hheld : c.outbound.held <;> cases hqueue : c.outbound.queue <;>
    simp [leaves?, act, Outbound.take, hheld, hqueue]

/-- What waited and what is accepted is taken off, in this order, or goes on waiting. -/
lemma waiting_act (h : a ≠ .dropReceiver) :
    c.waiting ++ (c.enters? a).toList = ((c.leaves? a).map Entry.accepted).toList ++ (c.act a).waiting := by
  cases hoffer : a.isOffer with
  | true =>
    have hleaves : c.leaves? a = none := by cases a <;> first | rfl | cases hoffer
    rw [hleaves]
    cases he : c.enters? a with
    | none => rw [act_of_refused hoffer he]; simp
    | some e => simp [waiting, queue_of_accepted he, accepted_of_enters? he]
  | false =>
    have hnone : c.enters? a = none := by cases a <;> first | rfl | cases hoffer
    rw [hnone]
    cases a with
    | send | reserve => cases hoffer
    | settle slot frame =>
      simp [waiting, leaves?, act, settle, Outbound.settle, Function.comp_def]
    | close => simp [waiting, leaves?, act, close]
    | dropReceiver => exact absurd rfl h
    | dequeue =>
      obtain ⟨-, hleaves, hact⟩ | ⟨e, rest, -, hqueue, hleaves, hact⟩ := c.dequeue_cases
      · simp [hleaves, hact]
      · simp [waiting, hleaves, hact, hqueue]
    | letGo => simp [waiting, leaves?, act, Outbound.release]

lemma closed_act : (c.act a).closed = true ↔ c.closed = true ∨ a = .close := by
  cases a with
  | send | reserve => simp only [act, send, reserve]; split <;> simp
  | _ => simp [act, settle, close]

lemma hasReceiver_act : (c.act a).outbound.hasReceiver = true ↔
    c.outbound.hasReceiver = true ∧ a ≠ .dropReceiver := by
  cases a with
  | send | reserve =>
    simp only [act, send, reserve]; split <;> simp [Outbound.push, Outbound.pushSlot]
  | dequeue => simp only [act, Outbound.take]; split <;> simp
  | _ => simp [act, settle, close, Outbound.settle, Outbound.dropReceiver, Outbound.release]

@[simp] lemma length_waiting (c : Connection) : c.waiting.length = c.outbound.queue.length :=
  List.length_map _

/-- An entry is accepted only if there is room for it. -/
lemma length_queue_act (h : c.outbound.queue.length ≤ outboundCapacity) :
    (c.act a).outbound.queue.length ≤ outboundCapacity := by
  by_cases hdrop : a = .dropReceiver
  · simp [hdrop, act, Outbound.dropReceiver]
  · have hlength := congrArg List.length (waiting_act (c := c) hdrop)
    simp only [List.length_append, length_waiting] at hlength
    cases he : c.enters? a with
    | none =>
      rw [he, Option.toList_none, List.length_nil] at hlength
      omega
    | some e =>
      have hroom := (accepts_iff.1 (enters?_eq_some_iff.1 he).1).2.2
      rw [he, Option.toList_some, List.length_singleton] at hlength
      omega

/-! ### Many acts -/

lemma closed_actAll : (c.actAll acts).closed = true ↔ c.closed = true ∨ .close ∈ acts := by
  induction acts generalizing c with
  | nil => simp [actAll]
  | cons a rest ih =>
    rw [List.mem_cons, ← or_assoc, eq_comm (a := QueueAct.close), ← closed_act]
    exact ih

lemma hasReceiver_actAll : (c.actAll acts).outbound.hasReceiver = true ↔
    c.outbound.hasReceiver = true ∧ .dropReceiver ∉ acts := by
  induction acts generalizing c with
  | nil => simp [actAll]
  | cons a rest ih =>
    rw [List.mem_cons, not_or, ← and_assoc, eq_comm (a := QueueAct.dropReceiver), ← ne_eq,
      ← hasReceiver_act]
    exact ih

lemma length_queue_actAll (h : c.outbound.queue.length ≤ outboundCapacity) :
    (c.actAll acts).outbound.queue.length ≤ outboundCapacity := by
  induction acts generalizing c with
  | nil => exact h
  | cons a rest ih => exact ih (length_queue_act h)

/-- As long as there is a receiver, what is accepted is taken off in the order of acceptance or waits. -/
lemma waiting_actAll (h : .dropReceiver ∉ acts) :
    c.waiting ++ c.entering acts = (c.leaving acts).map Entry.accepted ++ (c.actAll acts).waiting := by
  induction acts generalizing c with
  | nil => simp [entering, leaving, actAll]
  | cons a rest ih =>
    obtain ⟨ha, hrest⟩ := not_or.1 (List.mem_cons.not.1 h)
    rw [entering, ← List.append_assoc, waiting_act (Ne.symm ha), List.append_assoc, ih hrest, leaving,
      List.map_append, List.append_assoc, Option.toList_map]
    rfl

/-- Nothing enters a closed connection. -/
lemma entering_of_closed (h : c.closed = true) (acts : List QueueAct) : c.entering acts = [] := by
  induction acts generalizing c with
  | nil => rfl
  | cons a rest ih =>
    have hnone : c.enters? a = none := by
      rw [Option.eq_none_iff_forall_not_mem]
      intro e he
      have := (accepts_iff.1 (enters?_eq_some_iff.1 he).1).1
      rw [h] at this
      cases this
    rw [entering, hnone, ih (closed_act.2 (.inl h))]
    rfl

/-- A queue without a receiver stays so and stays empty. -/
lemma IsDeserted.act (h : c.IsDeserted) (a : QueueAct) : (c.act a).IsDeserted := by
  have hrefused : c.accepts = false := by
    rw [← Bool.not_eq_true, accepts_iff, h.1]
    simp
  cases a with
  | send | reserve => rwa [act_of_refused rfl (by simp [enters?, openSlot?, hrefused])]
  | settle | close | letGo =>
    simpa [IsDeserted, Connection.act, settle, close, Outbound.settle, Outbound.release] using h
  | dropReceiver => exact ⟨rfl, rfl⟩
  | dequeue =>
    obtain ⟨-, -, hsame⟩ | ⟨e, rest, -, hqueue, -⟩ := c.dequeue_cases
    · rwa [hsame]
    · cases h.2.symm.trans hqueue

/-- Nothing leaves a queue that has no receiver. -/
lemma IsDeserted.leaving (h : c.IsDeserted) (acts : List QueueAct) : c.leaving acts = [] := by
  induction acts generalizing c with
  | nil => rfl
  | cons a rest ih =>
    have hnone : c.leaves? a = none := by
      cases a with
      | dequeue =>
        obtain ⟨-, hnone, -⟩ | ⟨e, rest, -, hqueue, -⟩ := c.dequeue_cases
        · exact hnone
        · cases h.2.symm.trans hqueue
      | _ => rfl
    rw [Connection.leaving, hnone, ih (h.act a)]
    rfl

/-- What is taken off was accepted before, and nothing is passed over. -/
lemma leaving_prefix (c : Connection) (acts : List QueueAct) :
    (c.leaving acts).map Entry.accepted <+: c.waiting ++ c.entering acts := by
  induction acts generalizing c with
  | nil => simp [leaving]
  | cons a rest ih =>
    by_cases hdrop : a = .dropReceiver
    · subst hdrop
      have hnone : (c.act .dropReceiver).leaving rest = [] := IsDeserted.leaving ⟨rfl, rfl⟩ rest
      simp [leaving, leaves?, hnone]
    · rw [entering, ← List.append_assoc, waiting_act hdrop, leaving, List.map_append, List.append_assoc,
        Option.toList_map]
      exact (List.prefix_append_right_inj _).2 (ih _)

/-- With a free hand the first entry of the queue is taken off. -/
lemma leaves?_dequeue (h : c.outbound.held = none) :
    (c.leaves? .dequeue).map Entry.accepted = c.waiting.head? := by
  obtain ⟨hbusy | hempty, hnone, -⟩ | ⟨e, rest, -, hqueue, hleaves, -⟩ := c.dequeue_cases
  · exact absurd h hbusy
  · simp [waiting, hnone, hempty]
  · simp [waiting, hleaves, hqueue]

end Connection

/-! ### Channels -/

/-- Why a channel takes nothing. -/
inductive SendError where
  | full
  | closed
  deriving DecidableEq, Repr, Inhabited

/-- A channel with one receiver, and how it is described: what waits in it for the receiver, or that there
is no receiver any more. -/
structure Channel (α : Type) where
  State : Type
  empty : State
  trySend : State → α → Except SendError State
  receive : State → Option (α × State)
  dropReceiver : State → State
  Waiting : State → List α → Prop
  Deserted : State → Prop

variable {α : Type}

/-- No more waits in the channel than its capacity, and it comes out in the order in which it was sent. -/
structure Channel.IsBounded (b : Channel α) (capacity : Nat) : Prop where
  empty : b.Waiting b.empty []
  trySend_of_lt {s : b.State} {items : List α} (x : α) : b.Waiting s items →
    items.length < capacity → ∃ s', b.trySend s x = .ok s' ∧ b.Waiting s' (items ++ [x])
  trySend_full {s : b.State} {items : List α} (x : α) : b.Waiting s items →
    capacity ≤ items.length → b.trySend s x = .error .full
  receive_cons {s : b.State} {x : α} {items : List α} : b.Waiting s (x :: items) →
    ∃ s', b.receive s = some (x, s') ∧ b.Waiting s' items
  receive_nil {s : b.State} : b.Waiting s [] → b.receive s = none
  dropReceiver {s : b.State} {items : List α} : b.Waiting s items → b.Deserted (b.dropReceiver s)
  trySend_deserted {s : b.State} (x : α) : b.Deserted s → b.trySend s x = .error .closed

/-- A list of what waits, as long as there is a receiver. -/
def Channel.list (α : Type) (capacity : Nat) : Channel α where
  State := Option (List α)
  empty := some []
  trySend
    | none, _ => .error .closed
    | some items, x => if items.length < capacity then .ok (some (items ++ [x])) else .error .full
  receive
    | some (x :: items) => some (x, some items)
    | _ => none
  dropReceiver _ := none
  Waiting s items := s = some items
  Deserted s := s = none

lemma Channel.isBounded_list (α : Type) (capacity : Nat) :
    (Channel.list α capacity).IsBounded capacity where
  empty := rfl
  trySend_of_lt x h hlt := by
    cases h
    exact ⟨_, if_pos hlt, rfl⟩
  trySend_full x h hle := by
    cases h
    exact if_neg (Nat.not_lt.2 hle)
  receive_cons h := by
    cases h
    exact ⟨_, rfl, rfl⟩
  receive_nil h := by
    cases h
    rfl
  dropReceiver _ := rfl
  trySend_deserted x h := by
    cases h
    rfl

/-- An outbound queue that is kept in a channel. -/
structure Outlet (b : Channel Entry) where
  channel : b.State := b.empty
  closed : Bool := false
  hasReceiver : Bool := true
  /-- Is something in hand? -/
  isBusy : Bool := false
  nextSlot : Nat := 0

namespace Outlet

variable {b : Channel Entry} {o : Outlet b} {c : Connection}

/-- Offers an entry. A connection that is closed does not ask the channel. -/
def push (o : Outlet b) (e : Entry) : Outlet b × Bool :=
  if o.closed then (o, false)
  else
    match b.trySend o.channel e with
    | .ok channel => ({ o with channel }, true)
    | .error _ => (o, false)

/-- What an act does, and the entry that is accepted or taken off by it. -/
def act (o : Outlet b) : QueueAct → Outlet b × Option Entry
  | .send frame =>
    match o.push (.ready frame) with
    | (o, true) => (o, some (.ready frame))
    | (o, false) => (o, none)
  | .reserve =>
    match o.push (.pending o.nextSlot) with
    | (o, true) => ({ o with nextSlot := o.nextSlot + 1 }, some (.pending o.nextSlot))
    | (o, false) => (o, none)
  | .settle _ _ => (o, none)
  | .close => ({ o with closed := true }, none)
  | .dropReceiver =>
    if o.hasReceiver then
      ({ o with channel := b.dropReceiver o.channel, hasReceiver := false }, none)
    else (o, none)
  | .dequeue =>
    if o.hasReceiver && !o.isBusy then
      match b.receive o.channel with
      | some (e, channel) => ({ o with channel, isBusy := true }, some e)
      | none => (o, none)
    else (o, none)
  | .letGo => ({ o with isBusy := false }, none)

/-- The entries that the acts accept or take off, each in its place. -/
def answers (o : Outlet b) : List QueueAct → List (Option Entry)
  | [] => []
  | a :: acts => (o.act a).2 :: (o.act a).1.answers acts

end Outlet

/-- The entry that is accepted or taken off, as it was accepted. -/
def Connection.answer? (c : Connection) (a : QueueAct) : Option Entry :=
  (c.enters? a).or ((c.leaves? a).map Entry.accepted)

/-- The entries that the acts accept or take off, each in its place. -/
def Connection.answers (c : Connection) : List QueueAct → List (Option Entry)
  | [] => []
  | a :: acts => c.answer? a :: (c.act a).answers acts

/-- The queue in the channel and the queue of the connection show the same. -/
structure Outlet.Shows {b : Channel Entry} (o : Outlet b) (c : Connection) : Prop where
  closed : o.closed = c.closed
  nextSlot : o.nextSlot = c.outbound.nextSlot
  hasReceiver : o.hasReceiver = c.outbound.hasReceiver
  isBusy : c.outbound.hasReceiver = true → o.isBusy = c.outbound.held.isSome
  waiting : c.outbound.hasReceiver = true → b.Waiting o.channel c.waiting
  deserted : c.outbound.hasReceiver = false → b.Deserted o.channel ∧ c.outbound.queue = []

namespace Outlet

variable {b : Channel Entry} {o : Outlet b} {c : Connection}

/-- An entry is pushed into the channel exactly if the connection accepts. -/
lemma Shows.push (h : o.Shows c) (hb : b.IsBounded outboundCapacity) (e : Entry) :
    (c.accepts = false ∧ o.push e = (o, false)) ∨
    (c.accepts = true ∧ ∃ channel, o.push e = ({ o with channel }, true) ∧
      b.Waiting channel (c.waiting ++ [e])) := by
  cases hclosed : c.closed with
  | true => exact .inl ⟨by simp [Connection.accepts, hclosed], by simp [Outlet.push, h.closed, hclosed]⟩
  | false =>
    cases hreceiver : c.outbound.hasReceiver with
    | false =>
      have herror := hb.trySend_deserted e (h.deserted hreceiver).1
      refine .inl ⟨?_, by simp [Outlet.push, herror]⟩
      simp [Connection.accepts, Outbound.accepts, hreceiver]
    | true =>
      have hwaiting := h.waiting hreceiver
      by_cases hlt : c.outbound.queue.length < outboundCapacity
      · obtain ⟨channel, hok, hwaits⟩ := hb.trySend_of_lt e hwaiting (by simpa using hlt)
        refine .inr ⟨Connection.accepts_iff.2 ⟨hclosed, hreceiver, hlt⟩, channel, ?_, hwaits⟩
        simp [Outlet.push, h.closed, hclosed, hok]
      · have herror := hb.trySend_full e hwaiting (by simpa using hlt)
        refine .inl ⟨?_, by simp [Outlet.push, herror]⟩
        rw [← Bool.not_eq_true, Connection.accepts_iff]
        exact fun haccepts => hlt haccepts.2.2

/-- An entry has been accepted by both. -/
lemma Shows.accept (h : o.Shows c) (hreceiver : c.outbound.hasReceiver = true) {e : Entry}
    (he : e.accepted = e) {channel : b.State} (hwaits : b.Waiting channel (c.waiting ++ [e]))
    {n m : Nat} (hslot : n = m) :
    ({ o with channel, nextSlot := n } : Outlet b).Shows
      { c with outbound := { c.outbound.push e with nextSlot := m } } where
  closed := h.closed
  nextSlot := hslot
  hasReceiver := h.hasReceiver
  isBusy := h.isBusy
  waiting _ := by simpa [Connection.waiting, Outbound.push, he] using hwaits
  deserted hgone := by cases hreceiver.symm.trans hgone

/-- An act on the one queue and on the other. -/
lemma Shows.act (h : o.Shows c) (hb : b.IsBounded outboundCapacity) (a : QueueAct) :
    (o.act a).1.Shows (c.act a) ∧ (o.act a).2 = c.answer? a := by
  cases a with
  | send frame =>
    obtain ⟨hrefused, hpush⟩ | ⟨haccepts, channel, hpush, hwaits⟩ := h.push hb (.ready frame)
    · have hnone : c.enters? (.send frame) = none := by simp [Connection.enters?, hrefused]
      rw [Connection.act_of_refused rfl hnone]
      simp [Outlet.act, hpush, Connection.answer?, hnone, Connection.leaves?, h]
    · simp only [Outlet.act, hpush, Connection.act, Connection.send, haccepts, if_true]
      refine ⟨h.accept (Connection.accepts_iff.1 haccepts).2.1 rfl hwaits h.nextSlot, ?_⟩
      simp [Connection.answer?, Connection.enters?, haccepts]
  | reserve =>
    obtain ⟨hrefused, hpush⟩ | ⟨haccepts, channel, hpush, hwaits⟩ := h.push hb (.pending o.nextSlot)
    · have hnone : c.enters? .reserve = none := by
        simp [Connection.enters?, Connection.openSlot?, hrefused]
      rw [Connection.act_of_refused rfl hnone]
      simp [Outlet.act, hpush, Connection.answer?, hnone, Connection.leaves?, h]
    · rw [h.nextSlot] at hwaits
      simp only [Outlet.act, hpush, Connection.act, Connection.reserve, haccepts, if_true]
      refine ⟨h.accept (Connection.accepts_iff.1 haccepts).2.1 rfl hwaits (congrArg (· + 1) h.nextSlot), ?_⟩
      simp [Connection.answer?, Connection.enters?, Connection.openSlot?, haccepts, h.nextSlot]
  | settle slot frame =>
    have hsame : (c.settle slot frame).waiting = c.waiting := by
      simp [Connection.waiting, Connection.settle, Outbound.settle, Function.comp_def]
    refine ⟨⟨h.closed, h.nextSlot, h.hasReceiver, fun hreceiver => ?_, fun hreceiver => ?_,
      fun hgone => ?_⟩, rfl⟩
    · rw [Outlet.act, h.isBusy hreceiver]
      simp [Connection.act, Connection.settle, Outbound.settle]
    · rw [Connection.act, hsame]
      exact h.waiting hreceiver
    · obtain ⟨hdeserted, hempty⟩ := h.deserted hgone
      exact ⟨hdeserted, by simp [Connection.act, Connection.settle, Outbound.settle, hempty]⟩
  | close => exact ⟨⟨rfl, h.nextSlot, h.hasReceiver, h.isBusy, h.waiting, h.deserted⟩, rfl⟩
  | dropReceiver =>
    cases hreceiver : c.outbound.hasReceiver with
    | true =>
      simp only [Outlet.act, h.hasReceiver, hreceiver, if_true]
      refine ⟨⟨h.closed, h.nextSlot, rfl, fun hthere => ?_, fun hthere => ?_, fun _ => ⟨?_, rfl⟩⟩, rfl⟩
      · cases hthere
      · cases hthere
      · exact hb.dropReceiver (h.waiting hreceiver)
    | false =>
      simp only [Outlet.act, h.hasReceiver, hreceiver, Bool.false_eq_true, if_false]
      refine ⟨⟨h.closed, h.nextSlot, h.hasReceiver.trans hreceiver, fun hthere => ?_,
        fun hthere => ?_, fun _ => ⟨(h.deserted hreceiver).1, rfl⟩⟩, rfl⟩
      · cases hthere
      · cases hthere
  | dequeue =>
    obtain ⟨hidle, hleaves, hsame⟩ | ⟨e, rest, hheld, hqueue, hleaves, hact⟩ := c.dequeue_cases
    · have hnothing : o.act .dequeue = (o, none) := by
        cases hreceiver : c.outbound.hasReceiver with
        | false => simp [Outlet.act, h.hasReceiver, hreceiver]
        | true =>
          cases hheld : c.outbound.held with
          | some e => simp [Outlet.act, h.isBusy hreceiver, hheld]
          | none =>
            have hwaiting := h.waiting hreceiver
            rw [Connection.waiting, hidle.resolve_left (absurd hheld)] at hwaiting
            simp [Outlet.act, hb.receive_nil hwaiting]
      simp [hnothing, Connection.answer?, Connection.enters?, hleaves, hsame, h]
    · cases hreceiver : c.outbound.hasReceiver with
      | false => cases hqueue.symm.trans (h.deserted hreceiver).2
      | true =>
        have hwaiting := h.waiting hreceiver
        rw [Connection.waiting, hqueue, List.map_cons] at hwaiting
        obtain ⟨channel, hreceived, hwaits⟩ := hb.receive_cons hwaiting
        have hstep : o.act .dequeue = ({ o with channel, isBusy := true }, some e.accepted) := by
          simp [Outlet.act, h.hasReceiver, hreceiver, h.isBusy hreceiver, hheld, hreceived]
        rw [hstep, hact]
        refine ⟨⟨h.closed, h.nextSlot, h.hasReceiver, fun _ => rfl, fun _ => hwaits,
          fun hgone => ?_⟩, ?_⟩
        · cases hreceiver.symm.trans hgone
        · simp [Connection.answer?, Connection.enters?, hleaves]
  | letGo => exact ⟨⟨h.closed, h.nextSlot, h.hasReceiver, fun _ => rfl, h.waiting, h.deserted⟩, rfl⟩

lemma shows_fresh (h : b.IsBounded outboundCapacity) (id : ConnectionId) (caller : Caller) :
    ({} : Outlet b).Shows { id, caller } where
  closed := rfl
  nextSlot := rfl
  hasReceiver := rfl
  isBusy _ := rfl
  waiting _ := h.empty
  deserted hgone := by cases hgone

lemma Shows.answers (h : o.Shows c) (hb : b.IsBounded outboundCapacity) (acts : List QueueAct) :
    o.answers acts = c.answers acts := by
  induction acts generalizing o c with
  | nil => rfl
  | cons a rest ih =>
    obtain ⟨hshows, hanswer⟩ := h.act hb a
    rw [Outlet.answers, Connection.answers, hanswer, ih hshows]

end Outlet

/-! ### The main statement -/

/-- An outbound queue accepts what is offered exactly if the connection is not closed, there is a receiver,
and of what was accepted less than the capacity has not been taken off. What is refused changes nothing,
and what is accepted waits behind all others. Everything is taken off once and in the order of acceptance,
as long as there is a receiver, also from a connection that is closed; it need not be decided. All this is
so of a queue that is kept in any channel of this capacity. -/
theorem outbound_is_bounded_queue {b : Channel Entry} (h : b.IsBounded outboundCapacity)
    (id : ConnectionId) (caller : Caller) (acts : List QueueAct) :
    let fresh : Connection := { id, caller }
    let c := fresh.actAll acts
    let accepted := fresh.entering acts
    let taken := fresh.leaving acts
    (∀ a : QueueAct, a.isOffer = true →
      ((c.enters? a).isSome = true ↔ .close ∉ acts ∧ .dropReceiver ∉ acts ∧
        accepted.length < taken.length + outboundCapacity) ∧
      (c.enters? a = none → c.act a = c) ∧
      ∀ e, c.enters? a = some e → (c.act a).outbound.queue = c.outbound.queue ++ [e]) ∧
    taken.map Entry.accepted <+: accepted ∧
    (.dropReceiver ∉ acts → accepted = taken.map Entry.accepted ++ c.waiting ∧
      (c.outbound.held = none →
        (c.leaves? .dequeue).map Entry.accepted = accepted[taken.length]?)) ∧
    (c.act .close).outbound = c.outbound ∧
    (.close ∈ acts → ∀ later, c.entering later = []) ∧
    c.outbound.queue.length ≤ outboundCapacity ∧
    ({} : Outlet b).answers acts = fresh.answers acts := by
  intro fresh c accepted taken
  have hclosed : c.closed = true ↔ .close ∈ acts := by
    rw [Connection.closed_actAll]
    simp [fresh]
  have hreceiver : c.outbound.hasReceiver = true ↔ .dropReceiver ∉ acts := by
    rw [Connection.hasReceiver_actAll]
    simp [fresh]
  have horder : .dropReceiver ∉ acts → accepted = taken.map Entry.accepted ++ c.waiting :=
    Connection.waiting_actAll (c := fresh)
  refine ⟨fun a hoffer => ⟨?_, Connection.act_of_refused hoffer, fun _ => Connection.queue_of_accepted⟩,
    fresh.leaving_prefix acts, fun hthere => ⟨horder hthere, fun hfree => ?_⟩, rfl,
    fun hmem later => Connection.entering_of_closed (hclosed.2 hmem) later,
    Connection.length_queue_actAll (Nat.zero_le _), (Outlet.shows_fresh h id caller).answers h acts⟩
  · rw [Connection.isSome_enters? hoffer, Connection.accepts_iff, ← Bool.not_eq_true, hclosed, hreceiver]
    refine and_congr_right fun _ => and_congr_right fun hthere => ?_
    have hlength := congrArg List.length (horder hthere)
    rw [List.length_append, List.length_map, Connection.length_waiting] at hlength
    omega
  · rw [Connection.leaves?_dequeue hfree, horder hthere, List.getElem?_append_right (by simp)]
    simp [List.head?_eq_getElem?]

/-- When the connection is closed, an entry waits on which nobody has decided. It is taken off, and what is
offered meanwhile is refused. -/
theorem undecided_entry_taken_off :
    let acts : List QueueAct := [.send "hello", .reserve, .reserve, .settle 0 none, .dequeue, .letGo,
      .close, .send "late", .dequeue, .letGo]
    let fresh : Connection := { id := "c" }
    let c := fresh.actAll acts
    (Channel.list Entry outboundCapacity).IsBounded outboundCapacity ∧
      QueueAct.dropReceiver ∉ acts ∧ c.outbound.held = none ∧
      fresh.leaving acts = [.ready "hello", .settled 0 none] ∧
      (c.leaves? .dequeue).map Entry.accepted = some (.pending 1) ∧ c.act .reserve = c := by
  intro acts fresh c
  have hbounded := Channel.isBounded_list Entry outboundCapacity
  have hrun : QueueAct.dropReceiver ∉ acts ∧ c.outbound.held = none ∧
      fresh.leaving acts = [.ready "hello", .settled 0 none] ∧
      (fresh.entering acts)[2]? = some (.pending 1) ∧ c.enters? .reserve = none := by
    decide +kernel
  obtain ⟨hthere, hfree, htaken, hthird, hnone⟩ := hrun
  obtain ⟨hoffers, -, horder, -⟩ := outbound_is_bounded_queue hbounded "c" {} acts
  refine ⟨hbounded, hthere, hfree, htaken, ?_, (hoffers .reserve rfl).2.1 hnone⟩
  have hnext := (horder hthere).2 hfree
  rw [htaken] at hnext
  exact hnext.trans hthird

end EventGateway
