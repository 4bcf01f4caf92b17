import EventGateway.Proofs.Service.Steps
import EventGateway.Proofs.Session.Draining

/-!
# Order of what is written

On every connection, whatever happens to its queue and in whichever order checks come to their results,
frames are written in the order in which their entries were accepted. So what is written in the end
does not depend on the order of the checks.
-/

namespace EventGateway

namespace Line

/-- The invariants of the queue survive every move. -/
lemma Drains.move {l k : Line} (h : l.Drains) (hm : Move l k) : k.Drains := by
  cases hm with
  | aside ha =>
    cases ha with
    | quiet hq =>
      refine h.of_eq (by rw [hq.outbound]) (by rw [hq.outbound]) ?_ hq.writing
      rw [Session.frames, hq.written]
      rfl
    | send reference result => exact h.send _
    | endReader code => exact h.endReader code
    | write => exact h.write
  | reserve e =>
    simp only [Line.reserve]
    split
    · exact h.reserve.of_eq rfl rfl rfl rfl
    · exact h
  | consider p lookup => exact h.of_eq rfl rfl rfl rfl
  | conclude p decision => exact (h.settle _ _).of_eq rfl rfl rfl rfl

lemma NumbersSlots.move {l k : Line} (h : l.NumbersSlots) (hm : Move l k) : k.NumbersSlots := by
  cases hm with
  | aside ha =>
    cases ha with
    | quiet hq => exact h.of_eq (by rw [hq.outbound]) (by rw [hq.outbound])
    | send reference result => exact h.send _
    | endReader code => exact h.of_eq rfl rfl
    | write => exact h.write
  | reserve e =>
    simp only [Line.reserve]
    split
    · exact h.reserve.of_eq rfl rfl
    · exact h
  | consider p lookup => exact h.of_eq rfl rfl
  | conclude p decision => exact (h.settle _ _).of_eq rfl rfl

/-- How a line comes about: by a schedule of whatever may happen to its queue, or in a run of the
service. -/
inductive Arises : Line → Prop
  | schedule (id : ConnectionId) (caller : Caller) (due : Nat) (traffic : List Traffic) :
    Arises ((fresh id caller due).handleAll traffic)
  | service (config : Config) (store : Store) (actions : List World.Action) {id : ConnectionId}
    {l : Line} : ((World.start config store).run actions).line? id = some l → Arises l

lemma Arises.invariants {l : Line} (h : l.Arises) : l.Drains ∧ l.NumbersSlots := by
  cases h with
  | schedule id caller due traffic =>
    exact ⟨(drains_fresh id caller due).handleAll traffic,
      (numbersSlots_fresh id caller due).handleAll traffic⟩
  | service config store actions hl =>
    refine World.line_invariant (P := fun _ l => l.Drains ∧ l.NumbersSlots) ?_ ?_ ?_ actions hl
    · intro now id caller
      have hframes : (opened (World.start config store).config now id caller).session.frames = [] := by
        simp [opened, Session.frames]
      exact ⟨((drains_fresh id caller 0).send _).of_eq rfl rfl hframes (Session.writing_opened ..),
        ((numbersSlots_fresh id caller 0).send _).of_eq rfl rfl⟩
    · intro _ l k hm h
      exact ⟨h.1.move hm, h.2.move hm⟩
    · intro id l hl
      simp [World.line?_start] at hl

/-- What is written is always an initial part of what the longest decided part of the accepted entries
comes to, in the order of acceptance and each entry once. All of it is written once the writer has
nothing to do, which it comes to on a line that is open, and lines that have accepted the same have in
the end written the same. -/
theorem frames_in_order_of_acceptance {l : Line} (h : l.Arises) :
    l.InOrder ∧
    (l.IsOpen → ∀ n, l.connection.outbound.entries.length < n →
      (l.handleAll (List.replicate n .write)).IsDrained ∧
      (l.handleAll (List.replicate n .write)).session.frames =
        decidedFrames l.connection.outbound.ledger) ∧
    ∀ k : Line, k.Arises →
      l.connection.outbound.ledger.map Entry.accepted =
        k.connection.outbound.ledger.map Entry.accepted →
      (∀ e ∈ l.connection.outbound.ledger, e.isDecided = true) →
      (∀ e ∈ k.connection.outbound.ledger, e.isDecided = true) →
      (∀ slot x y, .settled slot x ∈ l.connection.outbound.ledger →
        .settled slot y ∈ k.connection.outbound.ledger → x = y) →
      l.IsDrained → k.IsDrained → l.session.frames = k.session.frames := by
  obtain ⟨hdrains, hslots⟩ := h.invariants
  refine ⟨hdrains.inOrder hslots, ?_, ?_⟩
  · intro hopen n hn
    have hend := isDrained_of_writes hopen hn
    refine ⟨hend, ?_⟩
    rw [(hdrains.handleAll _).frames_of_isDrained hend, ledger_writes]
  · intro k hk hsame hl hk' hresult hld hkd
    rw [hdrains.frames_of_isDrained hld, hk.invariants.1.frames_of_isDrained hkd,
      ledger_eq_of_accepted hsame hl hk' hresult]

/-- Two checks that finish in either order. -/
theorem frames_of_two_checks :
    let first := (fresh "c" {} 0).handleAll
      [.reserve, .reserve, .resolve 1 (some "two"), .write, .resolve 0 (some "one"), .write, .write]
    let second := (fresh "c" {} 0).handleAll
      [.reserve, .write, .reserve, .resolve 0 (some "one"), .write, .resolve 1 (some "two"), .write]
    first.session.frames = second.session.frames ∧
      second.session.frames = [.frame (some 0) "one", .frame (some 1) "two"] := by
  intro first second
  have hfirst : first.Arises := .schedule "c" {} 0 _
  have hsecond : second.Arises := .schedule "c" {} 0 _
  have hsame : first.connection.outbound.ledger = second.connection.outbound.ledger := by decide
  refine ⟨(frames_in_order_of_acceptance hfirst).2.2 second hsecond ?_ ?_ ?_ ?_ ?_ ?_, by decide⟩
  · rw [hsame]
  · decide
  · decide
  · intro slot x y hx hy
    have hl : second.connection.outbound.ledger =
      [.settled 0 (some "one"), .settled 1 (some "two")] := by decide
    rw [hsame, hl] at hx
    rw [hl] at hy
    simp at hx hy
    grind
  · exact ⟨rfl, rfl, rfl⟩
  · exact ⟨rfl, rfl, rfl⟩

end Line

end EventGateway
