import EventGateway.Proofs.Session.LineTasks
import Mathlib.Data.List.Basic
import Mathlib.Tactic.Lemma

/-!
# Draining

What is written on a line, compared with the ledger of its outbound queue: the frames of the longest
decided part at the front, in the order of acceptance, whenever the checks came to their results. The
invariant is that the ledger is what the writer has dealt with, followed by what still waits.
-/

namespace EventGateway

/-! ### Frames of entries -/

namespace Entry

/-- What is written for the entry, if it came to a frame. -/
def output? (e : Entry) : Option Output :=
  match e.outcome? with
  | some (some text) => some (.frame e.slot? text)
  | _ => none

/-- Has the entry come to a frame or to nothing? -/
def isDecided (e : Entry) : Bool := e.outcome?.isSome

/-- The entry as it was accepted. -/
def accepted : Entry → Entry
  | .ready frame => .ready frame
  | .pending slot => .pending slot
  | .settled slot _ => .pending slot

@[simp] lemma accepted_settle (slot : Nat) (frame : Option String) (e : Entry) :
    (e.settle slot frame).accepted = e.accepted := by
  cases e <;> simp [settle, awaits]
  split <;> simp_all [accepted]

@[simp] lemma slot?_settle (slot : Nat) (frame : Option String) (e : Entry) :
    (e.settle slot frame).slot? = e.slot? := by
  cases e <;> simp [settle, awaits]
  split <;> simp_all [slot?]

@[simp] lemma slot?_accepted (e : Entry) : e.accepted.slot? = e.slot? := by
  cases e <;> rfl

lemma settle_of_isDecided {e : Entry} (h : e.isDecided = true) (slot : Nat) (frame : Option String) :
    e.settle slot frame = e := by
  cases e <;> simp_all [isDecided, outcome?, settle, awaits]

/-- Decided entries that were accepted alike, and whose checks came to the same, are the same. -/
lemma eq_of_accepted {e f : Entry} (he : e.isDecided = true) (hf : f.isDecided = true)
    (h : e.accepted = f.accepted)
    (hsame : ∀ slot x y, e = .settled slot x → f = .settled slot y → x = y) : e = f := by
  cases e <;> cases f <;> simp_all [isDecided, outcome?, accepted]

end Entry

/-- The frames of the longest decided part at the front. -/
def decidedFrames (entries : List Entry) : List Output :=
  (entries.takeWhile Entry.isDecided).filterMap Entry.output?

/-- What decided entries at the front come to comes first. -/
lemma decidedFrames_append {front rest : List Entry} (h : ∀ e ∈ front, e.isDecided = true) :
    decidedFrames (front ++ rest) = front.filterMap Entry.output? ++ decidedFrames rest := by
  rw [decidedFrames, List.takeWhile_append_of_pos h, List.filterMap_append]
  rfl

/-- The frames that have been written. -/
def Session.frames (s : Session) : List Output :=
  s.written.filter fun
    | .frame _ _ => true
    | .close _ => false

/-! ### The invariant -/

namespace Line

/-- The entries that have been accepted are those that the writer has dealt with, whose frames it has
written, and those that wait; when the writer has ended, those that wait are lost. -/
def Drains (l : Line) : Prop :=
  ∃ front rest, l.connection.outbound.ledger = front ++ rest ∧
    (∀ e ∈ front, e.isDecided = true) ∧
    l.session.frames = front.filterMap Entry.output? ∧
    (l.session.writing = true → rest = l.connection.outbound.entries)

/-- Has the writer nothing to do on a line that is open? -/
def IsDrained (l : Line) : Prop :=
  l.session.writing = true ∧ l.session.ending = none ∧ l.writerReadyAt? = none

namespace Drains

/-- What touches neither the queue nor what the writer has done does not matter. -/
lemma of_eq {l k : Line} (h : l.Drains)
    (hl : k.connection.outbound.ledger = l.connection.outbound.ledger)
    (he : k.connection.outbound.entries = l.connection.outbound.entries)
    (hf : k.session.frames = l.session.frames) (hw : k.session.writing = l.session.writing) :
    k.Drains := by
  simp only [Drains]
  rw [hl, he, hf, hw]
  exact h

/-- An entry that is accepted waits behind all others. -/
lemma append {l k : Line} (h : l.Drains) (e : Entry)
    (hl : k.connection.outbound.ledger = l.connection.outbound.ledger ++ [e])
    (he : k.connection.outbound.entries = l.connection.outbound.entries ++ [e])
    (hs : k.session = l.session) : k.Drains := by
  obtain ⟨front, rest, hledger, hd, hf, hr⟩ := h
  refine ⟨front, rest ++ [e], by simp [hl, hledger], hd, by rw [hs, hf], ?_⟩
  intro hw
  rw [he, hr (hs ▸ hw)]

lemma send {l : Line} (h : l.Drains) (frame : String) :
    (l.modifyConnection fun c => c.send frame).Drains := by
  by_cases ha : l.connection.accepts = true
  · exact h.append (.ready frame) (by simp [modifyConnection, Connection.send, ha])
      (by simp [modifyConnection, Connection.send, ha]) rfl
  · exact h.of_eq (by simp [modifyConnection, Connection.send, ha])
      (by simp [modifyConnection, Connection.send, ha]) rfl rfl

lemma reserve {l : Line} (h : l.Drains) : (l.modifyConnection Connection.reserve).Drains := by
  by_cases ha : l.connection.accepts = true
  · exact h.append (.pending l.connection.outbound.nextSlot)
      (by simp [modifyConnection, Connection.reserve, ha])
      (by simp [modifyConnection, Connection.reserve, ha]) rfl
  · exact h.of_eq (by simp [modifyConnection, Connection.reserve, ha])
      (by simp [modifyConnection, Connection.reserve, ha]) rfl rfl

/-- What the writer has dealt with was decided, so a check that finishes later does not touch it. -/
lemma settle {l : Line} (h : l.Drains) (slot : Nat) (frame : Option String) :
    (l.modifyConnection fun c => c.settle slot frame).Drains := by
  obtain ⟨front, rest, hl, hd, hf, hr⟩ := h
  have hfront : front.map (·.settle slot frame) = front := by
    rw [List.map_congr_left fun e he => Entry.settle_of_isDecided (hd e he) slot frame]
    exact List.map_id' front
  refine ⟨front, rest.map (·.settle slot frame), ?_, hd, hf, ?_⟩
  · simp only [modifyConnection, Connection.settle, Outbound.ledger_settle, hl, List.map_append,
      hfront]
  · intro hw
    simp only [modifyConnection, Connection.settle, Outbound.entries_settle, hr hw]

lemma endReader {l : Line} (h : l.Drains) (code : Option CloseCode) : (l.endReader code).Drains :=
  h.of_eq rfl rfl rfl rfl

lemma endWriter {l : Line} (h : l.Drains) : l.endWriter.Drains := by
  obtain ⟨front, rest, hl, hd, hf, -⟩ := h
  exact ⟨front, rest, hl, hd, hf, nofun⟩

lemma emit_close {l : Line} (h : l.Drains) (code : CloseCode) : (l.emit (.close code)).Drains := by
  refine h.of_eq rfl rfl ?_ ?_ <;> unfold emit modifySession <;> dsimp only <;> split
  · simp [Session.frames]
  all_goals rfl

/-- The entry in hand is dealt with once it is decided. -/
lemma writeHeld {l : Line} (h : l.Drains) {e : Entry} (hw : l.session.writing = true)
    (he : l.connection.outbound.held = some e) : (l.writeHeld e).Drains := by
  obtain ⟨front, rest, hl, hd, hf, hr⟩ := id h
  have hentries : rest = e :: l.connection.outbound.queue := by
    rw [hr hw, Outbound.entries, he]
    rfl
  have hlast : e.isDecided = true → ∀ x ∈ front ++ [e], x.isDecided = true := by
    intro hdec x hx
    rcases List.mem_append.1 hx with hx | hx
    · exact hd x hx
    · rw [List.mem_singleton.1 hx]
      exact hdec
  have hledger : l.connection.outbound.ledger = (front ++ [e]) ++ l.connection.outbound.queue := by
    rw [hl, hentries, List.append_cons]
  cases ho : e.outcome? with
  | none => simpa [Line.writeHeld, ho] using h
  | some outcome =>
    have hdec : e.isDecided = true := by rw [Entry.isDecided, ho]; rfl
    cases outcome with
    | none =>
      have hnone : e.output? = none := by simp [Entry.output?, ho]
      have : l.writeHeld e = l.modifyOutbound Outbound.release := by simp [Line.writeHeld, ho]
      rw [this]
      exact ⟨front ++ [e], _, hledger, hlast hdec, by simp [hnone, modifyOutbound,
        modifyConnection, hf], fun _ => rfl⟩
    | some text =>
      by_cases hp : l.session.present = true
      · have hsome : e.output? = some (.frame e.slot? text) := by simp [Entry.output?, ho]
        have : l.writeHeld e = (l.modifyOutbound Outbound.release).emit (.frame e.slot? text) := by
          simp [Line.writeHeld, ho, hp]
        rw [this]
        refine ⟨front ++ [e], _, hledger, hlast hdec, ?_, fun _ => rfl⟩
        rw [List.filterMap_append, ← hf]
        simp [hsome, emit, modifySession, modifyOutbound, modifyConnection, hp, Session.frames]
      · have : l.writeHeld e = l.endWriter := by simp [Line.writeHeld, ho, hp]
        rw [this]
        exact h.endWriter

lemma take {l : Line} (h : l.Drains) : (l.modifyOutbound Outbound.take).Drains :=
  h.of_eq (by simp [modifyOutbound, modifyConnection]) (by simp [modifyOutbound, modifyConnection])
    rfl rfl

lemma write {l : Line} (h : l.Drains) : l.write.Drains := by
  simp only [Line.write]
  split
  · next hw =>
    split
    · exact (h.emit_close _).endWriter
    · exact h.endWriter
    · simp only [writeNext]
      split
      · exact h
      · next he => exact h.take.writeHeld hw he
  · exact h

/-- An undecided entry, or the end of the queue, stops the writer. -/
lemma frames_of_isDrained {l : Line} (h : l.Drains) (hd : l.IsDrained) :
    l.session.frames = decidedFrames l.connection.outbound.ledger := by
  obtain ⟨front, rest, hl, hdec, hf, hr⟩ := h
  obtain ⟨hw, he, hn⟩ := hd
  have hrest : decidedFrames rest = [] := by
    rw [hr hw]
    simp only [writerReadyAt?, hw, he] at hn
    simp only [decidedFrames, Outbound.entries]
    cases hh : l.connection.outbound.held with
    | some e => simp_all [Entry.isDecided]
    | none => simp_all
  rw [hl, decidedFrames_append hdec, hrest, List.append_nil, hf]

/-- What is written comes from the entries at the front of the ledger. -/
lemma frames_prefix {l : Line} (h : l.Drains) :
    l.session.frames <+: l.connection.outbound.ledger.filterMap Entry.output? := by
  obtain ⟨front, rest, hl, -, hf, -⟩ := h
  rw [hl, List.filterMap_append, hf]
  exact List.prefix_append _ _

lemma frames_initial {l : Line} (h : l.Drains) :
    l.session.frames <+: decidedFrames l.connection.outbound.ledger := by
  obtain ⟨front, rest, hl, hdec, hf, -⟩ := h
  rw [hl, decidedFrames_append hdec, hf]
  exact List.prefix_append _ _

end Drains

/-! ### Slots -/

/-- Every slot has been accepted once, in the order of the numbers. -/
def NumbersSlots (l : Line) : Prop :=
  l.connection.outbound.ledger.filterMap Entry.slot? = List.range l.connection.outbound.nextSlot

namespace NumbersSlots

lemma of_eq {l k : Line} (h : l.NumbersSlots)
    (hl : k.connection.outbound.ledger = l.connection.outbound.ledger)
    (hn : k.connection.outbound.nextSlot = l.connection.outbound.nextSlot) : k.NumbersSlots := by
  rw [NumbersSlots, hl, hn]
  exact h

lemma send {l : Line} (h : l.NumbersSlots) (frame : String) :
    (l.modifyConnection fun c => c.send frame).NumbersSlots := by
  simp only [NumbersSlots, modifyConnection, Connection.send]
  split
  · rw [Outbound.ledger_push, List.filterMap_append]
    exact (List.append_nil _).trans h
  · exact h

lemma reserve {l : Line} (h : l.NumbersSlots) :
    (l.modifyConnection Connection.reserve).NumbersSlots := by
  simp only [NumbersSlots, modifyConnection, Connection.reserve]
  split
  · rw [Outbound.ledger_pushSlot, List.filterMap_append, h]
    exact List.range_succ.symm
  · exact h

lemma settle {l : Line} (h : l.NumbersSlots) (slot : Nat) (frame : Option String) :
    (l.modifyConnection fun c => c.settle slot frame).NumbersSlots := by
  refine Eq.trans ?_ h
  simp only [modifyConnection, Connection.settle, Outbound.ledger_settle, List.filterMap_map]
  congr 1
  funext e
  exact Entry.slot?_settle slot frame e

lemma write {l : Line} (h : l.NumbersSlots) : l.write.NumbersSlots := by
  obtain ⟨outbound, writing, written, heq, hl, hn⟩ := l.write_leaves
  rw [heq]
  exact h.of_eq hl hn

end NumbersSlots

/-! ### Order -/

/-- What is written is an initial part of what the decided part at the front of the ledger comes to,
and all of it once the writer has nothing to do; and the ledger has every slot once. -/
structure InOrder (l : Line) : Prop where
  initial : l.session.frames <+: decidedFrames l.connection.outbound.ledger
  complete : l.IsDrained → l.session.frames = decidedFrames l.connection.outbound.ledger
  once : l.connection.outbound.ledger.filterMap Entry.slot? =
    List.range l.connection.outbound.nextSlot

lemma Drains.inOrder {l : Line} (h : l.Drains) (hn : l.NumbersSlots) : l.InOrder where
  initial := h.frames_initial
  complete := h.frames_of_isDrained
  once := hn

/-- What may happen to the queue of a connection, at any time. -/
inductive Traffic where
  /-- A frame that is ready is queued. -/
  | send (frame : String)
  /-- A slot is queued. -/
  | reserve
  /-- The check of a slot comes to a frame or to nothing. -/
  | resolve (slot : Nat) (frame : Option String)
  /-- The check of a slot is given up. -/
  | abandon (slot : Nat)
  | close (code : Option CloseCode)
  | depart
  | write
  deriving DecidableEq, Repr, Inhabited

/-- What a piece of traffic does. A check that is given up comes to nothing. -/
def handle (l : Line) : Traffic → Line
  | .send frame => l.modifyConnection fun c => c.send frame
  | .reserve => l.modifyConnection Connection.reserve
  | .resolve slot frame => l.modifyConnection fun c => c.settle slot frame
  | .abandon slot => l.modifyConnection fun c => c.settle slot none
  | .close code => l.endReader code
  | .depart => l.depart
  | .write => l.write

/-- What a schedule of traffic does. -/
def handleAll (l : Line) (traffic : List Traffic) : Line := traffic.foldl handle l

lemma Drains.handle {l : Line} (h : l.Drains) (t : Traffic) : (l.handle t).Drains := by
  cases t with
  | send frame => exact h.send frame
  | reserve => exact h.reserve
  | resolve slot frame => exact h.settle slot frame
  | abandon slot => exact h.settle slot none
  | close code => exact h.endReader code
  | depart => exact h.of_eq rfl rfl rfl rfl
  | write => exact h.write

lemma NumbersSlots.handle {l : Line} (h : l.NumbersSlots) (t : Traffic) :
    (l.handle t).NumbersSlots := by
  cases t with
  | send frame => exact h.send frame
  | reserve => exact h.reserve
  | resolve slot frame => exact h.settle slot frame
  | abandon slot => exact h.settle slot none
  | close code => exact h.of_eq rfl rfl
  | depart => exact h.of_eq rfl rfl
  | write => exact h.write

lemma drains_fresh (id : ConnectionId) (caller : Caller) (due : Nat) :
    (fresh id caller due).Drains :=
  ⟨[], [], rfl, by simp, rfl, fun _ => rfl⟩

lemma numbersSlots_fresh (id : ConnectionId) (caller : Caller) (due : Nat) :
    (fresh id caller due).NumbersSlots := rfl

/-- Lines that have accepted the same, all of which came to the same, have the same ledger. -/
lemma ledger_eq_of_accepted {l k : List Entry} (h : l.map Entry.accepted = k.map Entry.accepted)
    (hl : ∀ e ∈ l, e.isDecided = true) (hk : ∀ e ∈ k, e.isDecided = true)
    (hsame : ∀ slot x y, .settled slot x ∈ l → .settled slot y ∈ k → x = y) : l = k := by
  induction l generalizing k with
  | nil => simpa [eq_comm] using h
  | cons e l ih =>
    cases k with
    | nil => simp at h
    | cons f k =>
      obtain ⟨hef, hrest⟩ := List.cons.inj h
      have heq : e = f := Entry.eq_of_accepted (hl e (by simp)) (hk f (by simp)) hef
        fun slot x y hx hy => hsame slot x y (by simp [hx]) (by simp [hy])
      rw [heq, ih hrest (fun e he => hl e (by simp [he])) (fun e he => hk e (by simp [he]))
        fun slot x y hx hy => hsame slot x y (by simp [hx]) (by simp [hy])]

/-! ### Progress -/

/-- Is the writer at work on a line that nobody has ended? -/
def IsOpen (l : Line) : Prop :=
  l.session.writing = true ∧ l.session.ending = none ∧ l.session.present = true

/-- A writer that has nothing to do changes nothing. -/
lemma write_of_isDrained {l : Line} (h : l.IsDrained) : l.write = l := by
  obtain ⟨hw, he, hn⟩ := h
  rw [write, if_pos hw, he]
  simp only [writerReadyAt?, hw, he] at hn
  have hrefl (hk : l.connection.outbound.take = l.connection.outbound) :
      l.modifyOutbound Outbound.take = l := by
    rw [modifyOutbound, modifyConnection, hk]
  cases hh : l.connection.outbound.held with
  | some e =>
    have ho : e.outcome? = none := by simpa [hh] using hn
    have ht : l.connection.outbound.take = l.connection.outbound := by simp [Outbound.take, hh]
    simp only [writeNext, ht, hh, writeHeld, ho]
    exact hrefl ht
  | none =>
    have hq : l.connection.outbound.queue = [] := by simpa [hh] using hn
    have ht : l.connection.outbound.take = l.connection.outbound := by simp [Outbound.take, hh, hq]
    simp only [writeNext, ht, hh]

/-- The entry in hand is dealt with, or has to be waited for. -/
lemma isDrained_or_lt_of_writeHeld {l : Line} (h : l.IsOpen) {e : Entry}
    (he : l.connection.outbound.held = some e) :
    (l.writeHeld e).IsOpen ∧ ((l.writeHeld e).IsDrained ∨
      (l.writeHeld e).connection.outbound.entries.length < l.connection.outbound.entries.length) := by
  obtain ⟨hw, hn, hp⟩ := id h
  have hlength : l.connection.outbound.queue.length < l.connection.outbound.entries.length := by
    simp [Outbound.entries, he]
  simp only [writeHeld]
  split
  · next ho => exact ⟨h, .inl ⟨hw, hn, by simp [writerReadyAt?, hw, hn, he, ho]⟩⟩
  · exact ⟨h, .inr hlength⟩
  · rw [if_pos hp]
    refine ⟨⟨?_, ?_, ?_⟩, .inr hlength⟩ <;>
      simp [emit, modifyOutbound, modifyConnection, modifySession, hp, hn, hw]

/-- One step of the writer deals with an entry, or there is nothing to do afterwards. -/
lemma isDrained_or_lt_of_write {l : Line} (h : l.IsOpen) :
    l.write.IsOpen ∧ (l.write.IsDrained ∨
      l.write.connection.outbound.entries.length < l.connection.outbound.entries.length) := by
  obtain ⟨hw, hn, -⟩ := id h
  rw [write, if_pos hw, hn]
  simp only [writeNext]
  cases ht : l.connection.outbound.take.held with
  | some e =>
    have := isDrained_or_lt_of_writeHeld (l := l.modifyOutbound Outbound.take) h ht
    simpa [modifyOutbound, modifyConnection] using this
  | none =>
    refine ⟨h, .inl ⟨hw, hn, ?_⟩⟩
    cases hh : l.connection.outbound.held <;> cases hq : l.connection.outbound.queue <;>
      simp_all [Outbound.take, writerReadyAt?]

/-- The writer accepts nothing and settles nothing. -/
lemma ledger_write (l : Line) :
    l.write.connection.outbound.ledger = l.connection.outbound.ledger := by
  obtain ⟨outbound, writing, written, heq, hl, -⟩ := l.write_leaves
  rw [heq]
  exact hl

lemma ledger_writes (l : Line) (n : Nat) :
    (l.handleAll (List.replicate n .write)).connection.outbound.ledger =
      l.connection.outbound.ledger := by
  induction n generalizing l with
  | zero => rfl
  | succ n ih => exact (ih l.write).trans (ledger_write l)

lemma Drains.handleAll {l : Line} (h : l.Drains) (traffic : List Traffic) :
    (l.handleAll traffic).Drains := by
  induction traffic generalizing l with
  | nil => exact h
  | cons t rest ih => exact ih (h.handle t)

lemma NumbersSlots.handleAll {l : Line} (h : l.NumbersSlots) (traffic : List Traffic) :
    (l.handleAll traffic).NumbersSlots := by
  induction traffic generalizing l with
  | nil => exact h
  | cons t rest ih => exact ih (h.handle t)

/-- A writer that goes on long enough has nothing more to do. -/
lemma isDrained_of_writes {l : Line} (h : l.IsOpen) {n : Nat}
    (hn : l.connection.outbound.entries.length < n) :
    (l.handleAll (List.replicate n .write)).IsDrained := by
  have hstay : ∀ n, ∀ l : Line, l.IsDrained → (l.handleAll (List.replicate n .write)).IsDrained := by
    intro n
    induction n with
    | zero => exact fun l hd => hd
    | succ n ih =>
      intro l hd
      show (l.write.handleAll (List.replicate n .write)).IsDrained
      exact ih _ ((write_of_isDrained hd).symm ▸ hd)
  induction n generalizing l with
  | zero => omega
  | succ n ih =>
    obtain ⟨hopen, hd | hlt⟩ := isDrained_or_lt_of_write h
    · show (l.write.handleAll (List.replicate n .write)).IsDrained
      exact hstay n _ hd
    · show (l.write.handleAll (List.replicate n .write)).IsDrained
      exact ih hopen (by omega)

end Line

end EventGateway
