import EventGateway.Proofs.Event.Envelopes
import EventGateway.Proofs.Service.Masks

/-!
# Publishing and dispatching

The publisher and the broker agree on what travels between them. A text that is JSON is sent as one
envelope, which every broker routes as the event that it was made of; of any other text nothing is sent.
A request to check credentials again starts the pass that was asked for.
-/

namespace EventGateway

open Json

/-! ### Payloads -/

/-- A payload is kept as it is written, and there is one only if the text is JSON. -/
lemma Event.ofPayload_eq_ok {name : EventName} {refs : Refs} {text : String} {e : Event} :
    ofPayload name refs text = .ok e ↔
      ∃ payload, IsJson text.toList payload ∧ ⟨name, refs, payload⟩ = e := by
  rw [ofPayload, map_eq_ok]
  simp only [readText_readVerbatim]

namespace Publisher

variable {name : EventName} {refs : Refs} {text : String}

lemma publish_of_isJson {payload : List Char} (h : IsJson text.toList payload) :
    publish name refs text = some (.ofEvent ⟨name, refs, payload⟩) := by
  have hmade : Event.ofPayload name refs text = .ok ⟨name, refs, payload⟩ :=
    Event.ofPayload_eq_ok.2 ⟨payload, h, rfl⟩
  rw [publish, hmade]
  rfl

lemma publish_eq_none (h : ∀ payload, ¬ IsJson text.toList payload) :
    publish name refs text = none := by
  rw [publish]
  cases hmade : Event.ofPayload name refs text with
  | error fault => rfl
  | ok e =>
    obtain ⟨payload, hjson, -⟩ := Event.ofPayload_eq_ok.1 hmade
    exact absurd hjson (h payload)

end Publisher

/-! ### Messages -/

namespace World

lemma dispatch_of_event {m : Message} {e : Event} (h : m.event? = some e) (w : World) :
    w.dispatch m = w.route e := by
  have hchannel : e.name.channel = m.channel := by
    unfold Message.event? at h
    split at h
    · split at h
      · next hchannel =>
        cases h
        exact hchannel
      · cases h
    · cases h
  have hplain : m.isControl = false := by
    rw [Message.isControl, ← hchannel]
    cases e.name <;> decide
  simp only [dispatch, hplain, h]
  rfl

lemma dispatch_ofRequest (request : ReauthorizeRequest) (w : World) :
    w.dispatch (.ofRequest request) = w.startPass request.userId := by
  have hcontrol : (Message.ofRequest request).isControl = true := by
    rw [Message.isControl, Message.ofRequest, decide_eq_true rfl]
  have hrequest : (Message.ofRequest request).request? = some request := by
    rw [Message.request?, Message.ofRequest, request.ofWire_wire]
    rfl
  exact dispatch_of_request hcontrol hrequest w

end World

namespace Publisher

/-- What is published as JSON goes out as one message, on the channel of its name. The message reads back
as the event with the payload as it is written, is written again as the same text, and is routed by every
broker. A text that is not JSON is not sent. A request to check credentials again reads back as well. -/
theorem published_is_routed (name : EventName) (refs : Refs) (text : String) :
    (∀ payload, IsJson text.toList payload → ∃ m, publish name refs text = some m ∧
      m.channel = name.channel ∧
      Event.ofWire m.body = .ok ⟨name, refs, payload⟩ ∧
      (∀ e, Event.ofWire m.body = .ok e → e.wire = m.body) ∧
      ∀ w : World, w.dispatch m = w.route ⟨name, refs, payload⟩) ∧
    ((∀ payload, ¬ IsJson text.toList payload) → publish name refs text = none) ∧
    ∀ userId : Option String,
      (requestReauthorization userId).channel = reauthorizeChannel ∧
      ReauthorizeRequest.ofWire (requestReauthorization userId).body = .ok ⟨userId⟩ ∧
      ∀ w : World, w.dispatch (requestReauthorization userId) = w.startPass userId := by
  refine ⟨?_, publish_eq_none, ?_⟩
  · intro payload hjson
    have hread := Event.ofWire_wire (e := ⟨name, refs, payload⟩) hjson.isValueText
    refine ⟨_, publish_of_isJson hjson, rfl, hread, ?_, ?_⟩
    · intro e he
      rw [Message.ofEvent, hread] at he
      cases he
      rfl
    · intro w
      exact World.dispatch_of_event (Message.event?_ofEvent hjson.isValueText) w
  · intro userId
    exact ⟨rfl, ReauthorizeRequest.ofWire_wire ⟨userId⟩, World.dispatch_ofRequest ⟨userId⟩⟩

/-- Such a payload nests, has blanks around it and holds half a character. -/
theorem published_is_routed_nested :
    let refs : Refs := { postId := some "", userId := some "\u00fc\"", feedIds := ["", "\\"] }
    let text : String := "\n[ 1.5e3, \x7b\"\\ud800\":[] \x7d ]\t "
    ∃ payload m, IsJson text.toList payload ∧ publish .postNew refs text = some m ∧
      Event.ofWire m.body = .ok ⟨.postNew, refs, payload⟩ := by
  intro refs text
  have hok : (readText readVerbatim text).isOk = true := by decide +kernel
  cases hread : readText readVerbatim text with
  | error fault =>
    rw [hread] at hok
    cases hok
  | ok payload =>
    have hjson := readText_readVerbatim.1 hread
    obtain ⟨m, hm, -, hbody, -, -⟩ := (published_is_routed .postNew refs text).1 payload hjson
    exact ⟨payload, m, hjson, hm, hbody⟩

end Publisher

end EventGateway
