import EventGateway.Session.Line
import EventGateway.Session.Reply
import Mathlib.Tactic.Lemma

/-!
# Payloads masked

A mask takes the payload off an event, and it takes off everything on a connection and in its session
the texts that come from payloads: those of settled slots and of the frames written for them. Every
operation on a line commutes with the masks, so nothing else on it depends on a payload.
-/

namespace EventGateway

/-! ### Events -/

namespace Event

/-- The event without its payload. -/
def masked (e : Event) : Event := { e with payload := [] }

@[simp] lemma decision_masked (e : Event) (viewer : Option String) :
    e.masked.decision viewer = e.decision viewer := rfl

/-- What is delivered other than the payload does not depend on it. -/
lemma delivered_masked {e : Event} {d : Decision} (hd : d ≠ .allow) :
    e.masked.delivered d = e.delivered d := by
  cases d with
  | allow => exact absurd rfl hd
  | allowRedacted => rfl
  | deny => rfl

end Event

/-- What a slot came to, without the text. -/
def maskText (text? : Option String) : Option String := text?.map fun _ => ""

/-- Whether something is delivered does not depend on the payload. -/
@[simp] lemma maskText_delivered_masked (e : Event) (d : Decision) :
    maskText (e.masked.delivered d) = maskText (e.delivered d) := by
  cases d with
  | allow => rfl
  | allowRedacted => rfl
  | deny => rfl

/-! ### Outbound queues -/

namespace Entry

/-- The entry without the text of a slot. -/
def masked : Entry → Entry
  | .settled slot text? => .settled slot (maskText text?)
  | e => e

@[simp] lemma masked_ready (frame : String) : (Entry.ready frame).masked = .ready frame := rfl

@[simp] lemma masked_pending (slot : Nat) : (Entry.pending slot).masked = .pending slot := rfl

@[simp] lemma isSome_outcome?_masked (e : Entry) :
    e.masked.outcome?.isSome = e.outcome?.isSome := by
  cases e <;> rfl

lemma masked_settle (e : Entry) (slot : Nat) (text? : Option String) :
    (e.settle slot text?).masked = e.masked.settle slot (maskText text?) := by
  cases e with
  | ready frame => rfl
  | pending s => by_cases h : s = slot <;> simp [settle, awaits, masked, h]
  | settled s f => rfl

end Entry

namespace Outbound

/-- The queue with every entry changed. -/
def mapEntries (f : Entry → Entry) (o : Outbound) : Outbound :=
  { o with queue := o.queue.map f, held := o.held.map f, ledger := o.ledger.map f }

section

variable (f : Entry → Entry) (o : Outbound)

lemma accepts_mapEntries : (o.mapEntries f).accepts = o.accepts := by
  simp [accepts, mapEntries]

lemma mapEntries_push (e : Entry) : (o.push e).mapEntries f = (o.mapEntries f).push (f e) := by
  simp [push, mapEntries]

lemma mapEntries_pushSlot (h : f (.pending o.nextSlot) = .pending o.nextSlot) :
    o.pushSlot.mapEntries f = (o.mapEntries f).pushSlot := by
  simp [pushSlot, push, mapEntries, h]

lemma mapEntries_take : o.take.mapEntries f = (o.mapEntries f).take := by
  obtain ⟨queue, held, hasReceiver, nextSlot, ledger⟩ := o
  cases held <;> cases queue <;> rfl

/-- It does not matter whether entries are changed before a slot is settled or afterwards. -/
lemma mapEntries_settle {slot : Nat} {text? text?' : Option String}
    (h : ∀ e : Entry, f (e.settle slot text?) = (f e).settle slot text?') :
    (o.settle slot text?).mapEntries f = (o.mapEntries f).settle slot text?' := by
  have hcomp : f ∘ Entry.settle slot text? = Entry.settle slot text?' ∘ f := funext h
  simp only [settle, mapEntries, List.map_map, Option.map_map, hcomp]

end

/-- The queue without the texts of slots. -/
def masked (o : Outbound) : Outbound :=
  { o with
    queue := o.queue.map Entry.masked
    held := o.held.map Entry.masked
    ledger := o.ledger.map Entry.masked }

@[simp] lemma accepts_masked (o : Outbound) : o.masked.accepts = o.accepts :=
  accepts_mapEntries Entry.masked o

@[simp] lemma masked_push (o : Outbound) (e : Entry) :
    (o.push e).masked = o.masked.push e.masked :=
  mapEntries_push Entry.masked o e

@[simp] lemma masked_pushSlot (o : Outbound) : o.pushSlot.masked = o.masked.pushSlot :=
  mapEntries_pushSlot Entry.masked o rfl

@[simp] lemma masked_settle (o : Outbound) (slot : Nat) (text? : Option String) :
    (o.settle slot text?).masked = o.masked.settle slot (maskText text?) :=
  mapEntries_settle Entry.masked o fun e => e.masked_settle slot text?

@[simp] lemma masked_take (o : Outbound) : o.take.masked = o.masked.take :=
  mapEntries_take Entry.masked o

@[simp] lemma masked_release (o : Outbound) : o.release.masked = o.masked.release := rfl

end Outbound

/-! ### Connections -/

namespace Connection

/-- The connection without the texts of slots. -/
def masked (c : Connection) : Connection := { c with outbound := c.outbound.masked }

@[simp] lemma accepts_masked (c : Connection) : c.masked.accepts = c.accepts := by
  simp [accepts, masked]

@[simp] lemma openSlot?_masked (c : Connection) : c.masked.openSlot? = c.openSlot? := by
  simp only [openSlot?, accepts_masked]
  rfl

@[simp] lemma masked_send (c : Connection) (frame : String) :
    (c.send frame).masked = c.masked.send frame := by
  simp only [send, accepts_masked]
  split
  · simp [masked]
  · rfl

@[simp] lemma masked_reserve (c : Connection) : c.reserve.masked = c.masked.reserve := by
  simp only [reserve, accepts_masked]
  split
  · simp [masked]
  · rfl

@[simp] lemma masked_settle (c : Connection) (slot : Nat) (text? : Option String) :
    (c.settle slot text?).masked = c.masked.settle slot (maskText text?) := by
  simp [settle, masked]

@[simp] lemma masked_setPrincipal (c : Connection) (p : Principal) :
    (c.setPrincipal p).masked = c.masked.setPrincipal p := rfl

@[simp] lemma demotable_masked (c : Connection) (p : Principal) :
    c.masked.demotable p = c.demotable p := rfl

@[simp] lemma masked_demoteIf (c : Connection) (p : Principal) :
    (c.demoteIf p).masked = c.masked.demoteIf p := by
  simp only [demoteIf, demotable_masked, apply_ite masked]
  rfl

@[simp] lemma masked_close (c : Connection) : c.close.masked = c.masked.close := rfl

end Connection

/-! ### Sessions -/

/-- What is written, without the text if it is a frame of a slot. -/
def Output.masked : Output → Output
  | .frame (some slot) _ => .frame (some slot) ""
  | o => o

/-- The delivery without the payload of its event. -/
def Delivery.masked (d : Delivery) : Delivery := { d with event := d.event.masked }

/-- The session without payloads and the texts that come from them. -/
def Session.masked (s : Session) : Session :=
  { s with
    deliveries := s.deliveries.map Delivery.masked
    written := s.written.map Output.masked }

/-! ### Lines -/

lemma Session.masked_opened (grace : Except Overflow UInt64) (now : Nat) :
    (Session.opened grace now).masked = .opened grace now := by
  cases grace <;> rfl

namespace Line

/-- The line without payloads and the texts that come from them. -/
def masked (l : Line) : Line := ⟨l.session.masked, l.connection.masked⟩

lemma masked_modifyOutbound {f : Outbound → Outbound} (hf : ∀ o, (f o).masked = f o.masked)
    (l : Line) : (l.modifyOutbound f).masked = l.masked.modifyOutbound f := by
  simp [modifyOutbound, modifyConnection, masked, Connection.masked, hf]

@[simp] lemma masked_endWriter (l : Line) : l.endWriter.masked = l.masked.endWriter := rfl

@[simp] lemma masked_emit (l : Line) (o : Output) : (l.emit o).masked = l.masked.emit o.masked := by
  obtain ⟨s, c⟩ := l
  by_cases hs : s.present <;> simp [emit, modifySession, masked, Session.masked, hs]

/-- Whatever comes from a slot is written without its text. -/
lemma masked_writeHeld (l : Line) (e : Entry) :
    (l.writeHeld e).masked = l.masked.writeHeld e.masked := by
  have hpresent : l.masked.session.present = l.session.present := rfl
  have hrelease := masked_modifyOutbound Outbound.masked_release l
  have hframe (slot? : Option Nat) (text : String) :
      (if l.session.present then (l.modifyOutbound Outbound.release).emit (.frame slot? text)
        else l.endWriter).masked =
      if l.masked.session.present then
        (l.masked.modifyOutbound Outbound.release).emit (Output.frame slot? text).masked
      else l.masked.endWriter := by
    rw [hpresent]
    split
    · rw [masked_emit, hrelease]
    · rfl
  cases e with
  | ready text => exact hframe none text
  | pending slot => rfl
  | settled slot text? =>
    cases text? with
    | none => exact hrelease
    | some text => exact hframe (some slot) text

@[simp] lemma masked_writeNext (l : Line) : l.writeNext.masked = l.masked.writeNext := by
  have htake : l.masked.connection.outbound.take = l.connection.outbound.take.masked :=
    (Outbound.masked_take _).symm
  simp only [writeNext, htake]
  cases hh : l.connection.outbound.take.held with
  | none => simp [Outbound.masked, hh]
  | some e =>
    simp only [Outbound.masked, hh, Option.map_some]
    rw [masked_writeHeld, masked_modifyOutbound Outbound.masked_take]

@[simp] lemma masked_write (l : Line) : l.write.masked = l.masked.write := by
  have hwriting : l.masked.session.writing = l.session.writing := rfl
  have hending : l.masked.session.ending = l.session.ending := rfl
  simp only [write, hwriting, hending]
  split
  · split
    · rw [masked_endWriter, masked_emit]
      rfl
    · exact masked_endWriter l
    · exact masked_writeNext l
  · rfl

@[simp] lemma writerReadyAt?_masked (l : Line) : l.masked.writerReadyAt? = l.writerReadyAt? := by
  obtain ⟨s, ⟨id, caller, principal, rooms, closed, ⟨queue, held, hasReceiver, nextSlot, ledger⟩⟩⟩ := l
  cases held <;> simp [writerReadyAt?, masked, Session.masked, Connection.masked, Outbound.masked]

end Line

end EventGateway
