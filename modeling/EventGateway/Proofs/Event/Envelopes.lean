import EventGateway.Proofs.Json.Records
import EventGateway.Transport.Publisher

/-!
# Envelopes

An envelope reads back as the event it was made of: the name, the references and the payload as it is
written. So what is published reaches every broker as the same event. A request to check credentials
again reads back as well.
-/

namespace EventGateway

open Json

/-! ### Names -/

namespace EventName

lemma readText_stringChars (name : EventName) (rest : List Char) :
    readText (stringChars name.text ++ rest) = .ok (name, rest) := by
  rw [readText, placed, readStringField_stringChars]
  simp only [bind, Except.bind, ofText?_text]
  rfl

lemma read_stringChars (name : EventName) (rest : List Char) :
    read (stringChars name.text ++ rest) = .ok (name, rest) := by
  have h := name.readText_stringChars rest
  rw [stringChars_append] at h ⊢
  rw [read, skipBlanks_cons rfl]
  exact h

end EventName

/-! ### References -/

namespace Refs

lemma texts_append (ms ns : List (String × Value)) : texts (ms ++ ns) = texts ms ++ texts ns :=
  List.map_append

/-- An optional member brings its text to its field, or nothing if it was left out. -/
lemma reads_optionalMember {σ α : Type} (shape : Shape σ α) (key : String) {field : Json.Field σ}
    (set : Option (Option String) → σ)
    (hfield : shape.fields.find? (·.name == key) = some field)
    (hset : field.isSet (set none) = false)
    (hread : ∀ cs, field.read (set none) cs =
      (readOptional readStringField cs).map fun p => (set (some p.1), p.2)) (x : Option String) :
    Reads shape.readMember (set none) (texts (optionalMember key x)) (set (x.map some)) := by
  cases x with
  | none => exact .nil _
  | some s =>
    refine .single field hfield hset fun rest _ => ?_
    rw [hread, Value.chars, readOptional_stringChars]
    rfl

/-- The feeds are left out if there are none. -/
lemma reads_feedIds (s : Refs.Partial) (hs : s.feedIds = none) (feedIds : List String) :
    Reads shape.readMember s
      (texts (if feedIds.isEmpty then [] else [("feedIds", .ofStrings feedIds)]))
      { s with feedIds := if feedIds.isEmpty then none else some feedIds } := by
  cases feedIds with
  | nil =>
    cases s
    cases hs
    exact .nil _
  | cons id ids =>
    refine .single _ rfl (congrArg Option.isSome hs) fun rest _ => ?_
    change (readStringsField _).map _ = _
    rw [readStringsField_ofStrings]
    rfl

lemma reads_members (refs : Refs) : Reads shape.readMember shape.start (texts refs.members) {
    postId := refs.postId.map some
    commentId := refs.commentId.map some
    userId := refs.userId.map some
    feedIds := if refs.feedIds.isEmpty then none else some refs.feedIds
    actorId := refs.actorId.map some } := by
  have hpost := reads_optionalMember shape "postId" (fun x => { postId := x }) rfl rfl
    (fun _ => rfl) refs.postId
  have hcomment (p) := reads_optionalMember shape "commentId" (fun x => { postId := p, commentId := x })
    rfl rfl (fun _ => rfl) refs.commentId
  have huser (p c) := reads_optionalMember shape "userId"
    (fun x => { postId := p, commentId := c, userId := x }) rfl rfl (fun _ => rfl) refs.userId
  have hactor (p c u f) := reads_optionalMember shape "actorId"
    (fun x => { postId := p, commentId := c, userId := u, feedIds := f, actorId := x }) rfl rfl
    (fun _ => rfl) refs.actorId
  simp only [members, texts_append]
  exact (((hpost.append (hcomment _)).append (huser _ _)).append (reads_feedIds _ rfl _)).append
    (hactor _ _ _ _)

theorem read_chars (refs : Refs) (rest : List Char) :
    shape.read (refs.chars ++ rest) = .ok (refs, rest) := by
  rw [chars, chars_object]
  apply refs.reads_members.read_written
  rcases refs with ⟨postId, commentId, userId, feedIds, actorId⟩
  cases postId <;> cases commentId <;> cases userId <;> cases feedIds <;> cases actorId <;> rfl

end Refs

/-! ### Events -/

namespace Event

lemma envelope_eq (e : Event) : e.envelope =
    written [("name", stringChars e.name.text), ("refs", e.refs.chars), ("payload", e.payload)] := by
  simp [envelope, written, writtenRest]

/-- An envelope reads back as its event. -/
theorem ofWire_wire {e : Event} (h : IsValueText e.payload) : Event.ofWire e.wire = .ok e := by
  have hname : Reads shape.readMember {} [("name", stringChars e.name.text)] { name := some e.name } := by
    refine .single _ rfl rfl fun rest _ => ?_
    change (EventName.read _).map _ = _
    rw [EventName.read_stringChars]
    rfl
  have hrefs : Reads shape.readMember { name := some e.name } [("refs", e.refs.chars)]
      { name := some e.name, refs := some e.refs } := by
    refine .single _ rfl rfl fun rest _ => ?_
    change (Refs.shape.read _).map _ = _
    rw [Refs.read_chars]
    rfl
  have hpayload : Reads shape.readMember { name := some e.name, refs := some e.refs }
      [("payload", e.payload)] ⟨some e.name, some e.refs, some e.payload⟩ := by
    refine .single _ rfl rfl fun rest hends => ?_
    change (readVerbatim _).map _ = _
    rw [h rest hends]
    rfl
  have hread : shape.read (e.envelope ++ []) = .ok (e, []) := by
    rw [envelope_eq]
    exact (hname.append (hrefs.append hpayload)).read_written rfl []
  refine readText_eq_ok.2 ⟨[], ?_, rfl⟩
  rw [wire, String.toList_ofList, ← hread, List.append_nil]

/-- What a publisher's text makes an event of. -/
lemma of_ofPayload {name : EventName} {refs : Refs} {text : String} {e : Event}
    (h : ofPayload name refs text = .ok e) :
    e.name = name ∧ e.refs = refs ∧ IsValueText e.payload := by
  obtain ⟨payload, hpayload, rfl⟩ := map_eq_ok.1 h
  obtain ⟨rest, hread, -⟩ := readText_eq_ok.1 hpayload
  exact ⟨rfl, rfl, isValueText_of_readVerbatim hread⟩

end Event

/-! ### Requests -/

/-- A request to check credentials again reads back, with its user or without one. -/
theorem ReauthorizeRequest.ofWire_wire (request : ReauthorizeRequest) :
    ofWire request.wire = .ok request := by
  have hmembers := Refs.reads_optionalMember shape "userId" id rfl rfl (fun _ => rfl)
    request.userId
  have hfinish : shape.finish (id (request.userId.map some)) = .ok request := by
    rcases request with ⟨_ | userId⟩ <;> rfl
  have hread := hmembers.read_written hfinish []
  refine readText_eq_ok.2 ⟨[], ?_, rfl⟩
  rw [wire, Value.render, String.toList_ofList, chars_object, ← hread, List.append_nil]

/-! ### Messages -/

lemma Message.event?_ofEvent {e : Event} (h : IsValueText e.payload) :
    (Message.ofEvent e).event? = some e := by
  rw [Message.event?, Message.ofEvent, Event.ofWire_wire h]
  exact if_pos rfl

/-- What is published arrives as an event of that name with these references. -/
theorem Publisher.event?_of_publish {name : EventName} {refs : Refs} {payload : String} {m : Message}
    (h : publish name refs payload = some m) :
    ∃ e, m.event? = some e ∧ e.name = name ∧ e.refs = refs := by
  rw [publish] at h
  obtain ⟨e, he, rfl⟩ := Option.map_eq_some_iff.1 h
  cases hmade : Event.ofPayload name refs payload with
  | error fault =>
    rw [hmade] at he
    cases he
  | ok e' =>
    rw [hmade] at he
    cases he
    obtain ⟨hname, hrefs, hvalue⟩ := Event.of_ofPayload hmade
    exact ⟨e, Message.event?_ofEvent hvalue, hname, hrefs⟩

end EventGateway
