import EventGateway.Proofs.Service.Provenance
import EventGateway.Proofs.Service.Publication
import Mathlib.Data.List.Forall2

/-!
# Payloads do not interfere

Two runs that differ in payloads only keep the same mask, step by step. So all that may differ on a
connection are the texts of slots, and of these only the ones that show a payload that differs: where
every check of an event with another payload comes to the placeholder or to nothing, the same frames are
written in both runs.
-/

namespace EventGateway

/-! ### What may differ -/

/-- The messages bring events that differ in their payloads at most, if they are not the same. -/
inductive Message.SameButPayload : Message → Message → Prop
  | refl (m : Message) : SameButPayload m m
  | event {m m' : Message} {e e' : Event} : m.event? = some e → m'.event? = some e' →
    e.name = e'.name → e.refs = e'.refs → SameButPayload m m'

/-- Such are the messages that are published for two payloads. -/
lemma Message.SameButPayload.of_publish {name : EventName} {refs : Refs} {payload payload' : String}
    {m m' : Message} (h : Publisher.publish name refs payload = some m)
    (h' : Publisher.publish name refs payload' = some m') : m.SameButPayload m' := by
  obtain ⟨e, he, hname, hrefs⟩ := Publisher.event?_of_publish h
  obtain ⟨e', he', hname', hrefs'⟩ := Publisher.event?_of_publish h'
  exact .event he he' (hname.trans hname'.symm) (hrefs.trans hrefs'.symm)

/-- What is decided about a delivery, if anything is yet. -/
def Stage.decision? : Stage → Option Decision
  | .decided _ decision => some decision
  | _ => none

namespace World

/-- The actions are the same, but for the payloads of the messages that they are about. -/
inductive Action.SameButPayload : Action → Action → Prop
  | refl (a : Action) : SameButPayload a a
  | publish {m m' : Message} : m.SameButPayload m' → SameButPayload (.publish m) (.publish m')
  | dispatch {m m' : Message} : m.SameButPayload m' → SameButPayload (.dispatch m) (.dispatch m')

/-- The services are the same, but for payloads. -/
structure SameButPayload (w w' : World) : Prop where
  masked : w.masked = w'.masked
  log : List.Forall₂ Message.SameButPayload w.bus.hub.log.toList w'.bus.hub.log.toList

/-! ### Dispatch -/

lemma bus_dispatch (w : World) (m : Message) : (w.dispatch m).bus = w.bus := by
  obtain h | ⟨affected, h⟩ := dispatch_keeps w m
  · exact h.bus
  · rw [h]
    rfl

lemma masked_dispatch_congr {w w' : World} (h : w.masked = w'.masked) {m m' : Message}
    (hm : m.SameButPayload m') : (w.dispatch m).masked = (w'.dispatch m').masked := by
  cases hm with
  | event hevent hevent' hname hrefs =>
    rw [dispatch_of_event hevent, dispatch_of_event hevent', masked_route, masked_route, h]
    congr 1
    simp [Event.masked, hname, hrefs]
  | refl =>
    simp only [dispatch]
    split
    · split
      · rw [masked_startPass, masked_startPass, h]
      · exact h
    · split
      · next e _ =>
        change (w.route e).masked = (w'.route e).masked
        rw [masked_route, masked_route, h]
      · exact h

/-! ### Steps -/

lemma forall₂_getElem? {α : Type} {R : α → α → Prop} {xs ys : List α} (h : List.Forall₂ R xs ys)
    (i : Nat) : (xs[i]? = none ∧ ys[i]? = none) ∨
      ∃ x y, xs[i]? = some x ∧ ys[i]? = some y ∧ R x y := by
  induction h generalizing i with
  | nil => exact .inl ⟨rfl, rfl⟩
  | cons hxy _ ih =>
    cases i with
    | zero => exact .inr ⟨_, _, rfl, rfl, hxy⟩
    | succ i => exact ih i

variable {w w' : World}

lemma SameButPayload.receive? (h : w.SameButPayload w') (place : Nat) :
    (w.bus.hub.receive? place = none ∧ w'.bus.hub.receive? place = none) ∨
      ∃ m m' next, w.bus.hub.receive? place = some (m, next) ∧
        w'.bus.hub.receive? place = some (m', next) ∧ m.SameButPayload m' := by
  have hsize : w'.bus.hub.log.size = w.bus.hub.log.size := h.log.length_eq.symm
  simp only [Hub.receive?, Hub.oldest, hsize, ← Array.getElem?_toList]
  obtain ⟨hx, hy⟩ | ⟨m, m', hx, hy, hm⟩ :=
    forall₂_getElem? h.log (max place (w.bus.hub.log.size - hubCapacity))
  · exact .inl ⟨by rw [hx]; rfl, by rw [hy]; rfl⟩
  · exact .inr ⟨m, m', _, by rw [hx]; rfl, by rw [hy]; rfl, hm⟩

lemma SameButPayload.listen (h : w.SameButPayload w') : w.listen.SameButPayload w'.listen := by
  have hlistener : w'.listener = w.listener := (congrArg World.listener h.masked).symm
  have hnow : w'.now = w.now := (congrArg World.now h.masked).symm
  unfold World.listen
  rw [hlistener]
  cases w.listener with
  | listening place =>
    dsimp only
    obtain ⟨hx, hy⟩ | ⟨m, m', next, hx, hy, hm⟩ := h.receive? place
    · rw [hx, hy]
      exact h
    · rw [hx, hy]
      constructor
      · apply masked_dispatch_congr _ hm
        exact congrArg (fun v => { v with listener := .listening next }) h.masked
      · simp only [bus_dispatch]
        exact h.log
  | retrying due backoff =>
    dsimp only
    by_cases hdue : due ≤ w.now
    · rw [if_pos hdue, if_pos (hnow ▸ hdue)]
      constructor
      · rw [masked_resubscribe, masked_resubscribe, h.masked]
      · simp only [Listener.hub_retry]
        exact h.log
    · rw [if_neg hdue, if_neg (hnow ▸ hdue)]
      exact h

lemma bus_work (w : World) {t : Task} (ht : t ≠ .listener) : (w.work t).bus = w.bus := by
  cases t with
  | listener => exact absurd rfl ht
  | delivery t => exact (modifies_deliver w t).bus
  | pass index =>
    obtain ⟨w', hd, passes, heq⟩ := demotes_runPass w index
    rw [work, heq]
    exact hd.bus
  | reader i => exact (modifies_read w i).bus
  | heartbeat i => exact (modifies_missHeartbeat w i).bus
  | writer i => exact (modifies_write w i).bus

lemma masked_work_congr (h : w.masked = w'.masked) {t : Task} (ht : t ≠ .listener) :
    (w.work t).masked = (w'.work t).masked := by
  cases t with
  | listener => exact absurd rfl ht
  | delivery t => exact masked_deliver_congr h t
  | pass index => simp only [work, masked_runPass, h]
  | reader i => simp only [work, masked_read, h]
  | heartbeat i => simp only [work, masked_missHeartbeat, h]
  | writer i => simp only [work, masked_write, h]

lemma SameButPayload.publish (h : w.SameButPayload w') {m m' : Message} (hm : m.SameButPayload m') :
    (w.step (.publish m)).SameButPayload (w'.step (.publish m')) := by
  have hdown : w'.bus.down = w.bus.down := (congrArg (·.bus.down) h.masked).symm
  constructor
  · rw [masked_publish, masked_publish, h.masked]
  · simp only [World.step, Bus.publish, hdown]
    split
    · exact h.log
    · simp only [Hub.publish, Array.toList_push]
      exact List.rel_append h.log (.cons hm .nil)

lemma SameButPayload.dispatch (h : w.SameButPayload w') {m m' : Message} (hm : m.SameButPayload m') :
    (w.dispatch m).SameButPayload (w'.dispatch m') := by
  refine ⟨masked_dispatch_congr h.masked hm, ?_⟩
  rw [bus_dispatch, bus_dispatch]
  exact h.log

/-- What happens to both keeps them the same. -/
lemma SameButPayload.step (h : w.SameButPayload w') {a a' : Action} (ha : a.SameButPayload a') :
    (w.step a).SameButPayload (w'.step a') := by
  cases ha with
  | publish hm => exact h.publish hm
  | dispatch hm => exact h.dispatch hm
  | refl =>
    cases a with
    | task t =>
      by_cases ht : t = .listener
      · subst ht
        exact h.listen
      · refine ⟨masked_work_congr h.masked ht, ?_⟩
        simp only [World.step, bus_work _ ht]
        exact h.log
    | publish m => exact h.publish (.refl m)
    | dispatch m => exact h.dispatch (.refl m)
    | connect id caller =>
      refine ⟨?_, ?_⟩
      · simp only [World.step, masked_connect, h.masked]
      · simp only [World.step, bus_connect]
        exact h.log
    | arrive id arrival =>
      refine ⟨?_, h.log⟩
      simp only [World.step]
      rw [masked_modifySession, masked_modifySession, h.masked]
      · exact fun _ => rfl
      · exact fun _ => rfl
    | leave id =>
      refine ⟨?_, h.log⟩
      simp only [World.step]
      rw [masked_modifySession, masked_modifySession, h.masked]
      · exact fun _ => rfl
      · exact fun _ => rfl
    | elapse target =>
      refine ⟨?_, ?_⟩
      · simp only [World.step, masked_elapse, h.masked]
      · simp only [World.step, bus_elapse]
        exact h.log
    | updateStore u =>
      exact ⟨congrArg (fun v => { v with store := v.store.update u }) h.masked, h.log⟩
    | reauthorize affected => exact ⟨congrArg (fun v => v.startPass affected) h.masked, h.log⟩
    | breakTransport failures =>
      exact ⟨congrArg (fun v => { v with
        bus := { v.bus with failures }, listener := v.listener.interrupt v.now }) h.masked, h.log⟩
    | setTransportDown b =>
      exact ⟨congrArg (fun v => { v with bus := { v.bus with down := b } }) h.masked, h.log⟩
    | reorder order =>
      refine ⟨?_, h.log⟩
      rw [masked_step_reorder, masked_step_reorder, h.masked]

lemma SameButPayload.run (h : w.SameButPayload w') {actions actions' : List Action}
    (hactions : List.Forall₂ Action.SameButPayload actions actions') :
    (w.run actions).SameButPayload (w'.run actions') := by
  induction hactions generalizing w w' with
  | nil => exact h
  | cons ha _ ih => exact ih (h.step ha)

/-! ### Histories -/

/-- The message that reaches the broker in the step of the given position is not the same in both
histories. -/
def DiffersAt (history history' : List Happening) (i : Nat) : Prop :=
  ∃ w a w' a', history[i]? = some (w, a) ∧ history'[i]? = some (w', a') ∧
    w.dispatched? a ≠ w'.dispatched? a'

/-- No event of a message that is not the same in the other history is allowed on the connection: no
slot is reserved for it, or its check comes to the placeholder or to nothing. -/
def Withholds (history history' : List Happening) (id : ConnectionId) : Prop :=
  ∀ i slot e p r, DiffersAt history history' i → ReservedAt history id i slot e →
    checkOf history id i slot e = some (p, r) → r.decision? ≠ some .allow

/-- What has been written on a connection. -/
def written? (w : World) (id : ConnectionId) : Option (List Output) :=
  (w.line? id).map (·.session.written)

lemma start_sameButPayload (config : Config) (store : Store) :
    (start config store).SameButPayload (start config store) := ⟨rfl, .nil⟩

section

variable {actions actions' : List Action}

/-- The histories of two such runs are the same at every position, but for payloads. -/
lemma SameButPayload.history (h : w.SameButPayload w')
    (hactions : List.Forall₂ Action.SameButPayload actions actions') {i : Nat} {v : World} {a : Action}
    (hv : (w.history actions)[i]? = some (v, a)) :
    ∃ v' a', (w'.history actions')[i]? = some (v', a') ∧ v.SameButPayload v' := by
  rw [getElem?_history] at hv
  obtain ⟨b, hb, heq⟩ := Option.map_eq_some_iff.1 hv
  cases heq
  obtain ⟨hnone, -⟩ | ⟨_, a', -, ha', -⟩ := forall₂_getElem? hactions i
  · rw [hnone] at hb
    cases hb
  · refine ⟨w'.run (actions'.take i), a', ?_, h.run (List.forall₂_take i hactions)⟩
    rw [getElem?_history, ha', Option.map_some]

/-- What brings a slot in the one service brings it in the other, if it is the same message. -/
lemma SameButPayload.reserves (h : w.SameButPayload w') {a a' : Action}
    (hsame : w.dispatched? a = w'.dispatched? a') {id : ConnectionId} {m : Message} {e : Event}
    {slot : Nat} (hr : w.Reserves a id m e slot) : w'.Reserves a' id m e slot := by
  have hregistry : w.broker.registry = w'.broker.registry := congrArg (·.broker.registry) h.masked
  have hconnection : (w.broker.connection? id).map Connection.masked =
      (w'.broker.connection? id).map Connection.masked := by
    rw [← Broker.connection?_masked, ← Broker.connection?_masked]
    exact congrArg (·.broker.connection? id) h.masked
  obtain ⟨room, hroom, c, hc, hmem⟩ := hr.inRoom
  have hslot := hr.slot
  rw [hc] at hconnection hslot
  obtain ⟨c', hc', hcc'⟩ := Option.map_eq_some_iff.1 hconnection.symm
  refine ⟨hsame ▸ hr.dispatched, hr.plain, hr.parsed, hr.own, ?_, ⟨room, hroom, c', hc', ?_⟩, ?_⟩
  · rw [Broker.isRegistered, ← hregistry]
    exact hr.registered
  · have hrooms : c'.masked.rooms = c.masked.rooms := by rw [hcc']
    exact hrooms ▸ hmem
  · rw [hc', Option.bind_some, ← Connection.openSlot?_masked, hcc', Connection.openSlot?_masked]
    exact hslot

lemma SameButPayload.reservedAt (h : w.SameButPayload w')
    (hactions : List.Forall₂ Action.SameButPayload actions actions') {id : ConnectionId}
    {i slot : Nat} {e : Event} (hr : ReservedAt (w.history actions) id i slot e)
    (hsame : ¬ DiffersAt (w.history actions) (w'.history actions') i) :
    ReservedAt (w'.history actions') id i slot e := by
  obtain ⟨v, a, m, hv, hreserves⟩ := hr
  obtain ⟨v', a', hv', hvv'⟩ := h.history hactions hv
  refine ⟨v', a', m, hv', hvv'.reserves ?_ hreserves⟩
  by_contra hne
  exact hsame ⟨v, a, v', a', hv, hv', hne⟩

end

/-! ### What is written -/

/-- What a slot shows in both runs is the same, unless it is a payload that differs. -/
lemma delivered_eq {e e' : Event} (he : e.masked = e'.masked) {d : Decision}
    (hd : e = e' ∨ d ≠ .allow) : e.delivered d = e'.delivered d := by
  obtain rfl | hne := hd
  · rfl
  · rw [← Event.delivered_masked hne, he, Event.delivered_masked hne]

lemma eq_or_slot_of_masked_eq {o o' : Output} (h : o.masked = o'.masked) :
    o = o' ∨ ∃ slot text text', o = .frame (some slot) text ∧ o' = .frame (some slot) text' := by
  rcases o with ⟨_ | slot, text⟩ | code <;> rcases o' with ⟨_ | slot', text'⟩ | code' <;>
    simp_all [Output.masked]

section

variable {config : Config} {store : Store} {actions actions' : List Action} {id : ConnectionId}

/-- Both runs write the same for a slot. -/
lemma text_eq_of_withholds (hactions : List.Forall₂ Action.SameButPayload actions actions')
    (hwithheld : Withholds ((start config store).history actions)
      ((start config store).history actions') id) {l l' : Line}
    (hl : ((start config store).run actions).line? id = some l)
    (hl' : ((start config store).run actions').line? id = some l')
    (hmasked : l.masked = l'.masked) {slot : Nat} {text text' : String}
    (hm : .frame (some slot) text ∈ l.session.written)
    (hm' : .frame (some slot) text' ∈ l'.session.written) : text = text' := by
  obtain ⟨hdrains, -, htallies⟩ := queue_invariants hl
  obtain ⟨hdrains', -, htallies'⟩ := queue_invariants hl'
  obtain ⟨d, p, decision, hd, hs, htext⟩ := htallies.delivery_of_mem_written hdrains hm
  obtain ⟨d', p', decision', hd', hs', htext'⟩ := htallies'.delivery_of_mem_written hdrains' hm'
  have hsame : d.masked = d'.masked := by
    have hmap := congrArg (fun l : Line => l.session.deliveries[slot]?) hmasked
    simp only [Line.masked, Session.masked, List.getElem?_map, hd, hd', Option.map_some,
      Option.some.injEq] at hmap
    exact hmap
  have hstage : d.stage = d'.stage := show d.masked.stage = d'.masked.stage by rw [hsame]
  rw [hs, hs', Stage.decided.injEq] at hstage
  obtain ⟨rfl, rfl⟩ := hstage
  have hevent : d.event = d'.event ∨ decision ≠ .allow := by
    by_contra hboth
    rw [not_or, not_not] at hboth
    obtain ⟨hne, rfl⟩ := hboth
    have hexplained := (explained_run config store actions id).1 l hl
    obtain ⟨i, hi⟩ := hexplained.reserved slot d hd
    -- A message that is the same in both runs would have brought the same event.
    have hdiffers : DiffersAt ((start config store).history actions)
        ((start config store).history actions') i := by
      by_contra hsame
      have hi' := (start_sameButPayload config store).reservedAt hactions hi hsame
      obtain ⟨d'', hd'', hevent, -⟩ :=
        ((explained_run config store actions' id).1 l' hl').stage i slot _ hi'
      rw [hd', Option.some.injEq] at hd''
      exact hne (hd'' ▸ hevent.symm)
    obtain ⟨d'', hd'', -, hstage, -⟩ := hexplained.stage i slot _ hi
    rw [hd, Option.some.injEq] at hd''
    subst hd''
    obtain ⟨r, hcheck, hdecision⟩ := Stage.ofCheck_eq_decided_iff.1 (hstage.symm.trans hs)
    exact hwithheld i slot _ p r hdiffers hi hcheck hdecision
  have hdelivered := delivered_eq (congrArg Delivery.event hsame) hevent
  rw [htext, htext', Option.some.injEq] at hdelivered
  exact hdelivered

/-- Of two runs that differ in the payloads of some messages only, the same is written on every
connection on which, in the one run, no event of these messages is allowed. So a viewer to whom they are
denied, or who gets the placeholder of a comment instead, learns nothing that depends on their
payloads. -/
theorem payloads_do_not_interfere
    (hactions : List.Forall₂ Action.SameButPayload actions actions')
    (hwithheld : Withholds ((start config store).history actions)
      ((start config store).history actions') id) :
    ((start config store).run actions').written? id =
      ((start config store).run actions).written? id := by
  have hlines : (((start config store).run actions).line? id).map Line.masked =
      (((start config store).run actions').line? id).map Line.masked := by
    rw [← line?_masked, ← line?_masked, ((start_sameButPayload config store).run hactions).masked]
  simp only [written?]
  cases hl : ((start config store).run actions).line? id with
  | none =>
    rw [hl, Option.map_none, eq_comm, Option.map_eq_none_iff] at hlines
    rw [hlines]
  | some l =>
    rw [hl, Option.map_some, eq_comm, Option.map_eq_some_iff] at hlines
    obtain ⟨l', hl', hmasked⟩ := hlines
    have hwritten : l'.session.written.map Output.masked = l.session.written.map Output.masked :=
      congrArg (·.session.written) hmasked
    rw [hl', Option.map_some, Option.map_some, Option.some.injEq]
    apply List.ext_getElem
    · simpa using congrArg List.length hwritten
    · intro j hj' hj
      have hget : (l'.session.written[j]).masked = (l.session.written[j]).masked := by
        simpa [hj, hj'] using congrArg (·[j]?) hwritten
      obtain heq | ⟨slot, text', text, ho', ho⟩ := eq_or_slot_of_masked_eq hget
      · exact heq
      · have htext := text_eq_of_withholds hactions hwithheld hl hl' hmasked.symm
          (ho ▸ List.getElem_mem hj) (ho' ▸ List.getElem_mem hj')
        rw [ho, ho', htext]

/-- Nothing is allowed on the connection, whatever the messages bring. -/
lemma withholds_of_stages {l : Line} (hl : ((start config store).run actions).line? id = some l)
    (h : ∀ d ∈ l.session.deliveries, ∀ p, d.stage ≠ .decided p .allow) (history' : List Happening) :
    Withholds ((start config store).history actions) history' id := by
  intro i slot e p r _ hr hcheck hallowed
  obtain ⟨d, hd, -, hstage, -⟩ := ((explained_run config store actions id).1 l hl).stage i slot e hr
  exact h d (List.mem_of_getElem? hd) p
    (hstage.trans (Stage.ofCheck_eq_decided_iff.2 ⟨r, hcheck, hallowed⟩))

end

/-- A change of a post that nobody may see. -/
def hiddenChange (payload : List Char) : Event := ⟨.postUpdate, { postId := some "p" }, payload⟩

/-- A client joins the room of the post, and the change is published. -/
def changePublished (payload : List Char) : List Action := [
  .connect "c" {},
  .arrive "c" (.text "\x7b\"op\":\"subscribe\",\"d\":\x7b\"post\":[\"p\"]\x7d\x7d"),
  .task (.reader "c"),
  .publish (.ofEvent (hiddenChange payload)),
  .task .listener,
  .task (.delivery ⟨"c", 0⟩),
  .task (.writer "c"),
  .task (.writer "c"),
  .task (.writer "c")]

/-- The client learns nothing of what has changed. -/
theorem nothing_learned_of_hiddenChange :
    ((start { jwtSecret := "s" } {}).run (changePublished ['2'])).written? "c" =
      ((start { jwtSecret := "s" } {}).run (changePublished ['1'])).written? "c" := by
  have hpublished : Publisher.publish .postUpdate { postId := some "p" } "1" =
        some (.ofEvent (hiddenChange ['1'])) ∧
      Publisher.publish .postUpdate { postId := some "p" } "2" =
        some (.ofEvent (hiddenChange ['2'])) := by
    decide +kernel
  have hstages : (((start { jwtSecret := "s" } {}).run (changePublished ['1'])).line? "c").map
      (fun l => l.session.deliveries.map fun d => d.stage.decision?) = some [some .deny] := by
    decide +kernel
  obtain ⟨l, hl, hdecisions⟩ := Option.map_eq_some_iff.1 hstages
  apply payloads_do_not_interfere
  · have hpublish := Action.SameButPayload.publish (.of_publish hpublished.1 hpublished.2)
    exact .cons (.refl _) <| .cons (.refl _) <| .cons (.refl _) <| .cons hpublish <|
      List.forall₂_same.2 fun a _ => .refl a
  · apply withholds_of_stages hl
    intro d hd p hstage
    have hmem : d.stage.decision? ∈ [some Decision.deny] := hdecisions ▸ List.mem_map_of_mem hd
    rw [hstage] at hmem
    simp [Stage.decision?] at hmem

end World

end EventGateway
