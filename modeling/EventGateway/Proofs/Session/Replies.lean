import EventGateway.Proofs.Session.Answers
import EventGateway.Proofs.Session.Slots

/-!
# Replies in the queue

Which frames have been queued that were ready: the greeting and the replies, in order. Only the reader
queues a reply, one for each answer, and a reply that is not accepted ends it. Everything else that
happens to a line leaves these frames and the inbox alone, and at most ends a reader that is idle.
-/

namespace EventGateway

/-- The frame of an entry that was ready when it was queued. -/
def Entry.ready? : Entry → Option String
  | .ready frame => some frame
  | _ => none

@[simp] lemma Entry.ready?_settle (slot : Nat) (frame : Option String) (e : Entry) :
    (e.settle slot frame).ready? = e.ready? := by
  cases e with
  | ready text => rfl
  | pending s =>
    by_cases h : s = slot
    · simp [settle, awaits, h, ready?]
    · simp [settle, awaits, h]
  | settled s text => rfl

namespace Line

/-- The frames that were ready when they were queued. -/
def queuedFrames (l : Line) : List String := l.connection.outbound.ledger.filterMap Entry.ready?

variable {l k : Line}

/-! ### Replies -/

/-- A reply is queued, comes to nothing on a connection that is closed, or ends the reader. -/
lemma reply_cases (l : Line) (reference : Option UInt64)
    (result : Except CommandError ReplyMembers) :
    (l.connection.accepts = true ∧ l.reply reference result = l.modifyConnection fun c =>
      { c with outbound := c.outbound.push (.ready (renderReply reference result)) }) ∨
    (l.connection.closed = true ∧ l.reply reference result = l) ∨
    (l.connection.accepts = false ∧ l.connection.closed = false ∧
      l.reply reference result = l.endReader (some .slowConsumer)) := by
  by_cases ha : l.connection.accepts = true
  · refine .inl ⟨ha, ?_⟩
    rw [reply, if_pos (.inl ha), modifyConnection, Connection.send, if_pos ha]
    rfl
  · by_cases hclosed : l.connection.closed = true
    · refine .inr (.inl ⟨hclosed, ?_⟩)
      rw [reply, if_pos (.inr hclosed), modifyConnection, Connection.send, if_neg ha]
    · refine .inr (.inr ⟨by simpa using ha, by simpa using hclosed, ?_⟩)
      rw [reply, if_neg (by simp [ha, hclosed])]

/-- What is refused on a connection that is open finds the queue full, or nobody to take anything
off. -/
lemma full_of_not_accepts {c : Connection} (hnot : c.accepts = false) (hopen : c.closed = false)
    (hbound : c.outbound.queue.length ≤ outboundCapacity) :
    c.outbound.queue.length = outboundCapacity ∨ c.outbound.hasReceiver = false := by
  simp only [Connection.accepts, hopen, Outbound.accepts, Bool.not_false, Bool.true_and,
    Bool.and_eq_false_iff, decide_eq_false_iff_not, Nat.not_lt] at hnot
  rcases hnot with hnot | hnot
  · exact .inr hnot
  · exact .inl (Nat.le_antisymm hbound hnot)

/-! ### Everything but the reader -/

/-- The line differs neither in its inbox nor in the frames that were queued ready, and its reader is
the same, or was idle and has ended. -/
structure Spares (l k : Line) : Prop where
  inbox : k.session.inbox = l.session.inbox
  queued : k.queuedFrames = l.queuedFrames
  reader : (k.session.reader = l.session.reader ∧ k.session.ending = l.session.ending ∧
      k.connection.closed = l.connection.closed) ∨
    (l.session.reader = .idle ∧ k.session.reader = .ended)

lemma Spares.refl (l : Line) : l.Spares l := ⟨rfl, rfl, .inl ⟨rfl, rfl, rfl⟩⟩

lemma spares_missHeartbeat (now : Nat) (l : Line) : l.Spares (l.missHeartbeat now) := by
  obtain heq | ⟨hidle, -, heq⟩ := l.missHeartbeat_cases now
  · rw [heq]
    exact .refl l
  · rw [heq]
    exact ⟨rfl, rfl, .inr ⟨hidle, rfl⟩⟩

lemma spares_write (l : Line) : l.Spares l.write := by
  obtain ⟨outbound, writing, written, heq, hledger, -⟩ := l.write_leaves
  rw [heq]
  exact ⟨rfl, congrArg (List.filterMap Entry.ready?) hledger, .inl ⟨rfl, rfl, rfl⟩⟩

lemma spares_settleDelivery (l : Line) (slot : Nat) (e : Event) (p : Principal)
    (progress : Limited Decision) : l.Spares (l.settleDelivery slot e p progress) := by
  have hconclude (decision : Decision) : l.Spares (l.conclude slot e p decision) := by
    refine ⟨rfl, ?_, .inl ⟨rfl, rfl, rfl⟩⟩
    simp only [queuedFrames, conclude, modifyConnection, Connection.settle, Outbound.ledger_settle,
      List.filterMap_map]
    congr 1
    exact funext (Entry.ready?_settle slot _)
  cases progress with
  | finished r => exact hconclude _
  | timedOut => exact hconclude _
  | waiting lookup => exact ⟨rfl, rfl, .inl ⟨rfl, rfl, rfl⟩⟩

lemma spares_deliver (m : Moment) (slot : Nat) (l : Line) : l.Spares (l.deliver m slot) := by
  obtain heq | ⟨d, progress, -, -, p, heq⟩ := l.deliver_cases m slot
  · rw [heq]
    exact .refl l
  · rw [heq]
    exact l.spares_settleDelivery slot d.event p progress

lemma spares_demotions (l : Line) (ps : List Principal) : l.Spares (ps.foldl demote l) := by
  obtain ⟨-, hsession, hclosed⟩ := l.demotions_leave ps
  have hquiet := quiet_foldl quiet_demote l ps
  refine ⟨by rw [hsession], ?_, .inl ⟨by rw [hsession], by rw [hsession], hclosed⟩⟩
  rw [queuedFrames, hquiet.outbound]
  rfl

/-- A slot is queued behind everything else if it is accepted, and dropped otherwise. -/
lemma reserve_cases (l : Line) (e : Event) :
    (l.connection.accepts = true ∧ l.reserve e =
      { session := { l.session with deliveries := l.session.deliveries ++ [{ event := e }] }
        connection := { l.connection with outbound := l.connection.outbound.pushSlot } }) ∨
    (l.connection.accepts = false ∧ l.reserve e = l) := by
  by_cases ha : l.connection.accepts = true
  · exact .inl ⟨ha, by rw [reserve, if_pos ha, Connection.reserve, if_pos ha]⟩
  · exact .inr ⟨by simpa using ha, by rw [reserve, if_neg ha]⟩

lemma spares_reserve (l : Line) (e : Event) : l.Spares (l.reserve e) := by
  rcases l.reserve_cases e with ⟨-, heq⟩ | ⟨-, heq⟩
  · rw [heq]
    refine ⟨rfl, ?_, .inl ⟨rfl, rfl, rfl⟩⟩
    simp [queuedFrames, Entry.ready?]
  · rw [heq]
    exact .refl l

/-! ### The length of the queue -/

/-- No more entries wait than there is room for. -/
def Bounded (l : Line) : Prop := l.connection.outbound.queue.length ≤ outboundCapacity

lemma length_queue_take (o : Outbound) : o.take.queue.length ≤ o.queue.length := by
  simp only [Outbound.take]
  split
  · next hq => simp [hq]
  · exact Nat.le_refl _

/-- The writer only takes entries off. -/
lemma length_queue_write (l : Line) :
    l.write.connection.outbound.queue.length ≤ l.connection.outbound.queue.length := by
  have hemit (k : Line) (output : Output) : (k.emit output).connection = k.connection := by
    simp only [emit, modifySession]
  have htake := length_queue_take l.connection.outbound
  simp only [write]
  split
  · split
    · exact Nat.zero_le _
    · exact Nat.zero_le _
    · simp only [writeNext]
      split
      · exact Nat.le_refl _
      · simp only [writeHeld]
        split
        · exact htake
        · exact htake
        · split
          · rw [hemit]
            exact htake
          · exact Nat.zero_le _
  · exact Nat.le_refl _

/-- Nothing is queued beyond the room that there is. -/
lemma Move.bounded (h : Move l k) (hl : l.Bounded) : k.Bounded := by
  cases h with
  | aside ha =>
    cases ha with
    | quiet hq =>
      rw [Bounded, hq.outbound]
      exact hl
    | send reference result =>
      by_cases ha : l.connection.accepts = true
      · have hlt := (Connection.accepts_iff.1 ha).2.2
        simp only [Bounded, modifyConnection, Connection.send, if_pos ha, Outbound.push,
          List.length_append, List.length_singleton]
        omega
      · simp only [Bounded, modifyConnection, Connection.send, if_neg ha]
        exact hl
    | endReader code => exact hl
    | write => exact Nat.le_trans l.length_queue_write hl
  | reserve e =>
    rcases l.reserve_cases e with ⟨ha, heq⟩ | ⟨-, heq⟩
    · have hlt := (Connection.accepts_iff.1 ha).2.2
      rw [heq]
      simp only [Bounded, Outbound.pushSlot, Outbound.push, List.length_append,
        List.length_singleton]
      omega
    · rw [heq]
      exact hl
  | consider p lookup => exact hl
  | conclude p decision =>
    simp only [Bounded, Line.conclude, modifyConnection, Connection.settle, Outbound.settle,
      List.length_map]
    exact hl

end Line

end EventGateway
