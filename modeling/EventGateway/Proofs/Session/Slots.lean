import EventGateway.Proofs.Session.Draining
import EventGateway.Proofs.Session.Moves

/-!
# Slots and their deliveries

Every slot of a line belongs to a delivery of the same number, and what the slot came to is what the
delivery was decided to deliver. Everything else in the queue is the greeting or a reply. So a frame of
a slot tells a decision, and no slot is written twice.
-/

namespace EventGateway

/-- The slot of what is written, if it is of an event. -/
def Output.slot? : Output → Option Nat
  | .frame slot? _ => slot?
  | .close _ => none

namespace Line

/-- The ledger of the line agrees with its deliveries. -/
structure Tallies (greeting : String) (l : Line) : Prop where
  count : l.session.deliveries.length = l.connection.outbound.nextSlot
  settled : ∀ slot frame, .settled slot frame ∈ l.connection.outbound.ledger →
    ∃ d p decision, l.session.deliveries[slot]? = some d ∧ d.stage = .decided p decision ∧
      frame = d.event.delivered decision
  ready : ∀ text, .ready text ∈ l.connection.outbound.ledger →
    text = greeting ∨ ∃ reference result, text = renderReply reference result

lemma tallies_opened (config : Config) (now : Nat) (id : ConnectionId) (caller : Caller) :
    (opened config now id caller).Tallies (helloFrame id config.heartbeatInterval.toNat) where
  count := congrArg List.length (Session.deliveries_opened ..)
  settled slot frame h := by
    have : Entry.settled slot frame ∈ [Entry.ready _] := h
    simp at this
  ready text h := by
    have : Entry.ready text ∈ [Entry.ready _] := h
    simp only [List.mem_singleton, Entry.ready.injEq] at this
    exact .inl this

namespace Tallies

variable {greeting : String} {l k : Line}

lemma of_eq (h : l.Tallies greeting) (hd : k.session.deliveries = l.session.deliveries)
    (hl : k.connection.outbound.ledger = l.connection.outbound.ledger)
    (hn : k.connection.outbound.nextSlot = l.connection.outbound.nextSlot) :
    k.Tallies greeting where
  count := by rw [hd, hn, h.count]
  settled := by rw [hd, hl]; exact h.settled
  ready := by rw [hl]; exact h.ready

lemma send (h : l.Tallies greeting) (reference : Option UInt64)
    (result : Except CommandError ReplyMembers) :
    (l.modifyConnection fun c => c.send (renderReply reference result)).Tallies greeting := by
  by_cases ha : l.connection.accepts = true
  · refine ⟨?_, ?_, ?_⟩
    · simpa [modifyConnection, Connection.send, ha, Outbound.push] using h.count
    · intro slot frame hm
      simp only [modifyConnection, Connection.send, ha, if_true, Outbound.ledger_push,
        List.mem_append, List.mem_singleton, reduceCtorEq, or_false] at hm
      exact h.settled slot frame hm
    · intro text hm
      simp only [modifyConnection, Connection.send, ha, if_true, Outbound.ledger_push,
        List.mem_append, List.mem_singleton, Entry.ready.injEq] at hm
      rcases hm with hm | rfl
      · exact h.ready text hm
      · exact .inr ⟨reference, result, rfl⟩
  · have : (l.modifyConnection fun c => c.send (renderReply reference result)) = l := by
      simp [modifyConnection, Connection.send, ha]
    rw [this]
    exact h

lemma reserve (h : l.Tallies greeting) (e : Event) : (l.reserve e).Tallies greeting := by
  simp only [Line.reserve]
  split
  · next ha =>
    have hledger : l.connection.reserve.outbound.ledger =
        l.connection.outbound.ledger ++ [.pending l.connection.outbound.nextSlot] := by
      simp [Connection.reserve, ha]
    refine ⟨?_, ?_, ?_⟩
    · simpa [Connection.reserve, ha, Outbound.pushSlot, Outbound.push] using h.count
    · intro slot frame hm
      rw [hledger, List.mem_append] at hm
      rcases hm with hm | hm
      · obtain ⟨d, p, decision, hd, hs⟩ := h.settled slot frame hm
        obtain ⟨hlt, -⟩ := List.getElem?_eq_some_iff.1 hd
        exact ⟨d, p, decision, (List.getElem?_append_left hlt).trans hd, hs⟩
      · simp at hm
    · intro text hm
      rw [hledger, List.mem_append] at hm
      rcases hm with hm | hm
      · exact h.ready text hm
      · simp at hm
  · exact h

lemma ne_of_settled (h : l.Tallies greeting) {slot s : Nat} {d : Delivery} {frame : Option String}
    (hd : l.session.deliveries[slot]? = some d) (hs : d.stage.isDecided = false)
    (hm : .settled s frame ∈ l.connection.outbound.ledger) : s ≠ slot := by
  rintro rfl
  obtain ⟨d', p, decision, hd', hs', -⟩ := h.settled s frame hm
  rw [hd, Option.some.injEq] at hd'
  rw [hd', hs'] at hs
  cases hs

lemma settled_of_ne {slot s : Nat} (hne : s ≠ slot) (stage : Stage) {d : Delivery}
    (hd : l.session.deliveries[s]? = some d) :
    (l.setStage slot stage).session.deliveries[s]? = some d := by
  simp only [setStage, modifySession, List.getElem?_modify, hd]
  simp [Ne.symm hne]

lemma consider (h : l.Tallies greeting) {slot : Nat} {d : Delivery}
    (hd : l.session.deliveries[slot]? = some d) (hs : d.stage.isDecided = false) (stage : Stage) :
    (l.setStage slot stage).Tallies greeting where
  count := by simpa [setStage, modifySession] using h.count
  settled s frame hm := by
    obtain ⟨d', p, decision, hd', hs'⟩ := h.settled s frame hm
    exact ⟨d', p, decision, settled_of_ne (h.ne_of_settled hd hs hm) stage hd', hs'⟩
  ready := h.ready

lemma conclude (h : l.Tallies greeting) {slot : Nat} {d : Delivery}
    (hd : l.session.deliveries[slot]? = some d) (hs : d.stage.isDecided = false) (p : Principal)
    (decision : Decision) : (l.conclude slot d.event p decision).Tallies greeting := by
  have hledger : (l.conclude slot d.event p decision).connection.outbound.ledger =
      l.connection.outbound.ledger.map (·.settle slot (d.event.delivered decision)) := rfl
  have hsession : (l.conclude slot d.event p decision).session =
      (l.setStage slot (.decided p decision)).session := rfl
  have hmem (e : Entry) (he : e ∈ (l.conclude slot d.event p decision).connection.outbound.ledger) :
      e ∈ l.connection.outbound.ledger ∨ e = .settled slot (d.event.delivered decision) := by
    rw [hledger] at he
    obtain ⟨x, hx, rfl⟩ := List.mem_map.1 he
    simp only [Entry.settle]
    split
    · exact .inr rfl
    · exact .inl hx
  refine ⟨?_, ?_, ?_⟩
  · simpa [Line.conclude, setStage, modifySession, modifyConnection, Connection.settle,
      Outbound.settle] using h.count
  · intro s frame hm
    rw [hsession]
    rcases hmem _ hm with hm | hm
    · obtain ⟨d', p', decision', hd', hs'⟩ := h.settled s frame hm
      exact ⟨d', p', decision', settled_of_ne (h.ne_of_settled hd hs hm) _ hd', hs'⟩
    · cases hm
      refine ⟨{ d with stage := .decided p decision }, p, decision, ?_, rfl, rfl⟩
      simp [setStage, modifySession, hd]
  · intro text hm
    rcases hmem _ hm with hm | hm
    · exact h.ready text hm
    · cases hm

lemma write (h : l.Tallies greeting) : l.write.Tallies greeting := by
  obtain ⟨outbound, writing, written, heq, hl, hn⟩ := l.write_leaves
  rw [heq]
  exact h.of_eq rfl hl hn

lemma move (h : l.Tallies greeting) (hm : Move l k) : k.Tallies greeting := by
  cases hm with
  | aside ha =>
    cases ha with
    | quiet hq => exact h.of_eq hq.deliveries (by rw [hq.outbound]) (by rw [hq.outbound])
    | send reference result => exact h.send reference result
    | endReader code => exact h.of_eq rfl rfl rfl
    | write => exact h.write
  | reserve e => exact h.reserve e
  | consider p lookup hd hs => exact h.consider hd hs _
  | conclude p decision hd hs => exact h.conclude hd hs p decision

end Tallies

/-! ### Frames of slots -/

variable {l : Line}

/-- What is written comes from an entry that was accepted. -/
lemma Drains.exists_of_mem_written (h : l.Drains) {slot? : Option Nat} {text : String}
    (hm : .frame slot? text ∈ l.session.written) :
    ∃ e ∈ l.connection.outbound.ledger, e.output? = some (.frame slot? text) := by
  obtain ⟨front, rest, hl, -, hf, -⟩ := h
  have hframes : .frame slot? text ∈ l.session.frames := List.mem_filter.2 ⟨hm, rfl⟩
  rw [hf] at hframes
  obtain ⟨e, he, ho⟩ := List.mem_filterMap.1 hframes
  exact ⟨e, by rw [hl]; exact List.mem_append_left _ he, ho⟩

/-- A frame of no slot is the greeting or a reply. -/
lemma Tallies.of_mem_written {greeting : String} (h : l.Tallies greeting) (hd : l.Drains)
    {text : String} (hm : .frame none text ∈ l.session.written) :
    text = greeting ∨ ∃ reference result, text = renderReply reference result := by
  obtain ⟨e, he, ho⟩ := hd.exists_of_mem_written hm
  cases e with
  | ready frame =>
    have : frame = text := by simpa [Entry.output?, Entry.outcome?, Entry.slot?] using ho
    exact h.ready text (this ▸ he)
  | pending slot => simp [Entry.output?, Entry.outcome?] at ho
  | settled slot frame => cases frame <;> simp [Entry.output?, Entry.outcome?, Entry.slot?] at ho

/-- A frame of a slot is what the delivery of the slot was decided to deliver. -/
lemma Tallies.delivery_of_mem_written {greeting : String} (h : l.Tallies greeting) (hd : l.Drains)
    {slot : Nat} {text : String} (hm : .frame (some slot) text ∈ l.session.written) :
    ∃ d p decision, l.session.deliveries[slot]? = some d ∧ d.stage = .decided p decision ∧
      d.event.delivered decision = some text := by
  obtain ⟨e, he, ho⟩ := hd.exists_of_mem_written hm
  cases e with
  | ready frame => simp [Entry.output?, Entry.outcome?, Entry.slot?] at ho
  | pending slot => simp [Entry.output?, Entry.outcome?] at ho
  | settled s frame =>
    obtain ⟨d, p, decision, hdel, hs, hframe⟩ := h.settled s frame he
    cases frame with
    | none => simp [Entry.output?, Entry.outcome?] at ho
    | some frame =>
      obtain ⟨rfl, rfl⟩ : s = slot ∧ frame = text := by
        simpa [Entry.output?, Entry.outcome?, Entry.slot?] using ho
      exact ⟨d, p, decision, hdel, hs, hframe.symm⟩

/-- Are the two not of one slot? -/
def Apart (s t : Option Nat) : Prop := ∀ x, s = some x → ∀ y, t = some y → x ≠ y

lemma pairwise_frames {entries : List Entry} (h : entries.Pairwise fun e f => Apart e.slot? f.slot?) :
    (entries.filterMap Entry.output?).Pairwise fun a b => Apart a.slot? b.slot? := by
  have hslot (e : Entry) (o : Output) (he : e.output? = some o) : o.slot? = e.slot? := by
    unfold Entry.output? at he
    split at he
    · cases he
      rfl
    · cases he
  rw [List.pairwise_filterMap]
  refine h.imp fun {e f} hef o ho o' ho' => ?_
  rw [hslot e o ho, hslot f o' ho']
  exact hef

/-- Among things that are pairwise not of one slot only one is of a slot. -/
lemma eq_of_apart {α : Type} {slotOf : α → Option Nat} {xs : List α}
    (h : xs.Pairwise fun a b => Apart (slotOf a) (slotOf b)) {i j slot : Nat} {a b : α}
    (ha : xs[i]? = some a) (hb : xs[j]? = some b) (has : slotOf a = some slot)
    (hbs : slotOf b = some slot) : i = j := by
  rw [List.pairwise_iff_getElem] at h
  obtain ⟨hi, rfl⟩ := List.getElem?_eq_some_iff.1 ha
  obtain ⟨hj, rfl⟩ := List.getElem?_eq_some_iff.1 hb
  rcases Nat.lt_trichotomy i j with hlt | heq | hlt
  · exact absurd rfl (h i j hi hj hlt slot has slot hbs)
  · exact heq
  · exact absurd rfl (h j i hj hi hlt slot hbs slot has)

lemma NumbersSlots.pairwise_apart (h : l.NumbersSlots) :
    l.connection.outbound.ledger.Pairwise fun e f => Apart e.slot? f.slot? := by
  have hnodup : (l.connection.outbound.ledger.filterMap Entry.slot?).Nodup := by
    rw [show _ = _ from h]
    exact List.nodup_range
  exact List.pairwise_filterMap.1 hnodup

/-- No two frames are of one slot. -/
lemma Drains.slots_distinct (h : l.Drains) (hn : l.NumbersSlots) {i j slot : Nat} {a b : Output}
    (ha : l.session.written[i]? = some a) (hb : l.session.written[j]? = some b)
    (has : a.slot? = some slot) (hbs : b.slot? = some slot) : i = j := by
  obtain ⟨front, rest, hl, -, hf, -⟩ := h
  have hledger := hn.pairwise_apart
  have hframes : l.session.frames.Pairwise fun a b => Apart a.slot? b.slot? := by
    rw [hf]
    exact pairwise_frames (List.pairwise_append.1 (hl ▸ hledger)).1
  have hwritten : l.session.written.Pairwise fun a b => Apart a.slot? b.slot? := by
    refine (List.pairwise_filter.1 hframes).imp fun {a b} hab s hs t ht => ?_
    cases a with
    | close code => cases hs
    | frame sa ta =>
      cases b with
      | close code => cases ht
      | frame sb tb => exact hab rfl rfl s hs t ht
  exact eq_of_apart hwritten ha hb has hbs

/-! ### Places in the ledger -/

/-- Everything that has been accepted keeps its place. -/
lemma Move.accepted_prefix {k : Line} (h : Move l k) :
    l.connection.outbound.ledger.map Entry.accepted <+:
      k.connection.outbound.ledger.map Entry.accepted := by
  cases h with
  | aside ha =>
    cases ha with
    | quiet hq => simp [hq.outbound]
    | send reference result =>
      simp only [modifyConnection, Connection.send]
      split
      · simp
      · exact List.prefix_rfl
    | endReader code => exact List.prefix_rfl
    | write => simp [ledger_write]
  | reserve e =>
    by_cases ha : l.connection.accepts = true
    · simp [Line.reserve, Connection.reserve, ha]
    · simp [Line.reserve, ha]
  | consider p lookup => exact List.prefix_rfl
  | conclude p decision =>
    simp [Line.conclude, modifyConnection, Connection.settle, Outbound.settle, setStage,
      modifySession, Function.comp_def]

lemma Leads.accepted_prefix {k : Line} (h : l.Leads k) :
    l.connection.outbound.ledger.map Entry.accepted <+:
      k.connection.outbound.ledger.map Entry.accepted := by
  induction h with
  | refl => exact List.prefix_rfl
  | tail _ hm ih => exact ih.trans hm.accepted_prefix

/-- What an entry was accepted as is found later at its place. -/
lemma Leads.accepted_getElem? {k : Line} (h : l.Leads k) {place : Nat} {e : Entry}
    (he : l.connection.outbound.ledger[place]? = some e) :
    ∃ e', k.connection.outbound.ledger[place]? = some e' ∧ e'.accepted = e.accepted := by
  obtain ⟨later, hlater⟩ := h.accepted_prefix
  have hget : (k.connection.outbound.ledger.map Entry.accepted)[place]? = some e.accepted := by
    rw [← hlater, List.getElem?_append_left]
    · simp [he]
    · simpa using (List.getElem?_eq_some_iff.1 he).1
  simpa using hget

lemma Leads.length_ledger_le {k : Line} (h : l.Leads k) :
    l.connection.outbound.ledger.length ≤ k.connection.outbound.ledger.length := by
  simpa using h.accepted_prefix.length_le

end Line

end EventGateway
