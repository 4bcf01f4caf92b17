import EventGateway.Proofs.Service.Barrier

/-!
# Slots of events

A message of an event adds one slot to the queue of every connection that is to be served, however many
of the rooms of the event it is in, and changes nothing else; any other message that is no request to
check credentials changes nothing at all. The slot waits in its place until its check has decided and is
then settled by what is delivered, so a frame that is allowed is written or still waits as long as there
is a writer. Main statement: `dispatch_reserves_one_slot`.
-/

namespace EventGateway

namespace World

/-! ### One slot for each connection -/

/-- An event is to be delivered to a connection, if that is allowed. -/
structure Serves (w : World) (e : Event) (id : ConnectionId) (c : Connection) : Prop where
  stored : w.broker.connection? id = some c
  registered : id ∈ w.broker.registry
  inRoom : ∃ room ∈ e.rooms, id ∈ w.broker.table.membersOf room
  isOpen : c.closed = false
  hasReceiver : c.outbound.hasReceiver = true
  hasSpace : c.outbound.queue.length < outboundCapacity

/-- The connections that get one have each got a slot for the event at the end of the queue, and nothing
else has changed. -/
structure AddsSlots (w : World) (e : Event) (gets : ConnectionId → Prop) (w' : World) : Prop where
  slot : ∀ id c, gets id → w.broker.connection? id = some c → w'.broker.connection? id = some { c with
    outbound := { c.outbound with
      queue := c.outbound.queue ++ [.pending c.outbound.nextSlot]
      ledger := c.outbound.ledger ++ [.pending c.outbound.nextSlot]
      nextSlot := c.outbound.nextSlot + 1 } }
  delivery : ∀ id s, gets id → w.sessions.get? id = some s →
    w'.sessions.get? id = some { s with deliveries := s.deliveries ++ [{ event := e }] }
  otherConnections : ∀ id, ¬ gets id → w'.broker.connection? id = w.broker.connection? id
  otherSessions : ∀ id, ¬ gets id → w'.sessions.get? id = w.sessions.get? id
  registry : w'.broker.registry = w.broker.registry
  table : w'.broker.table = w.broker.table
  rest : { w' with broker := w.broker, sessions := w.sessions } = w

/-- The connection is there and accepts an entry. -/
def Accepts (w : World) (id : ConnectionId) : Prop :=
  ∃ c, w.broker.connection? id = some c ∧ c.accepts = true

namespace AddsSlots

variable {w w' w'' : World} {e : Event} {gets gets' : ConnectionId → Prop}

lemma refl (w : World) (e : Event) : w.AddsSlots e (fun _ => False) w :=
  ⟨fun _ _ h => h.elim, fun _ _ h => h.elim, fun _ _ => rfl, fun _ _ => rfl, rfl, rfl, rfl⟩

lemma congr (h : w.AddsSlots e gets w') (hiff : ∀ id, gets' id ↔ gets id) : w.AddsSlots e gets' w' := by
  have : gets' = gets := funext fun id => propext (hiff id)
  exact this ▸ h

/-- Slots for some connections, and then for others. -/
lemma trans (h : w.AddsSlots e gets w') (h' : w'.AddsSlots e gets' w'')
    (hapart : ∀ id, gets id → ¬ gets' id) : w.AddsSlots e (fun id => gets id ∨ gets' id) w'' where
  slot id c hid hc := by
    rcases hid with hid | hid
    · rw [h'.otherConnections id (hapart id hid)]
      exact h.slot id c hid hc
    · have hnot : ¬ gets id := fun hgets => hapart id hgets hid
      exact h'.slot id c hid ((h.otherConnections id hnot).trans hc)
  delivery id s hid hs := by
    rcases hid with hid | hid
    · rw [h'.otherSessions id (hapart id hid)]
      exact h.delivery id s hid hs
    · have hnot : ¬ gets id := fun hgets => hapart id hgets hid
      exact h'.delivery id s hid ((h.otherSessions id hnot).trans hs)
  otherConnections id hid :=
    (h'.otherConnections id (mt .inr hid)).trans (h.otherConnections id (mt .inl hid))
  otherSessions id hid := (h'.otherSessions id (mt .inr hid)).trans (h.otherSessions id (mt .inl hid))
  registry := h'.registry.trans h.registry
  table := h'.table.trans h.table
  rest := by
    rw [← h'.rest] at h
    exact h.rest

end AddsSlots

/-- A connection that accepts an entry gets a slot, and one that does not gets none. -/
lemma addsSlots_reserveOn (w : World) (e : Event) (id : ConnectionId) :
    w.AddsSlots e (fun i => i = id ∧ w.Accepts i) (w.reserveOn e id) := by
  by_cases haccepts : w.Accepts id
  · obtain ⟨c, hc, ha⟩ := haccepts
    have hreserve : w.reserveOn e id =
        { w with broker := w.broker.modify id Connection.reserve }.addDelivery e
          ⟨id, c.outbound.nextSlot⟩ := by
      simp [reserveOn, hc, Connection.openSlot?, ha]
    have hconnection (i : ConnectionId) : (w.reserveOn e id).broker.connection? i =
        if i = id then (w.broker.connection? i).map Connection.reserve else w.broker.connection? i := by
      rw [hreserve]
      exact Broker.alters_modify w.broker id _ i
    have hsession (i : ConnectionId) : (w.reserveOn e id).sessions.get? i =
        if i = id then (w.sessions.get? i).map fun s =>
          { s with deliveries := s.deliveries ++ [{ event := e }] } else w.sessions.get? i := by
      rw [hreserve]
      exact Dictionary.get?_modify w.sessions id i _
    have hother {i : ConnectionId} (hi : ¬ (i = id ∧ w.Accepts i)) : i ≠ id := by
      rintro rfl
      exact hi ⟨rfl, c, hc, ha⟩
    constructor
    case slot =>
      rintro i c' ⟨rfl, -⟩ hc'
      cases hc.symm.trans hc'
      rw [hconnection, if_pos rfl, hc, Option.map_some, Connection.reserve, if_pos ha]
      rfl
    case delivery =>
      rintro i s ⟨rfl, -⟩ hs
      rw [hsession, if_pos rfl, hs, Option.map_some]
    case otherConnections =>
      intro i hi
      rw [hconnection, if_neg (hother hi)]
    case otherSessions =>
      intro i hi
      rw [hsession, if_neg (hother hi)]
    all_goals
      rw [hreserve]
      rfl
  · have hsame : w.reserveOn e id = w := by
      unfold reserveOn
      split
      · next slot hslot =>
        obtain ⟨c, hc, hopen⟩ := Option.bind_eq_some_iff.1 hslot
        exact absurd ⟨c, hc, (Connection.openSlot?_eq_some_iff.1 hopen).1⟩ haccepts
      · rfl
    rw [hsame]
    refine (AddsSlots.refl w e).congr fun i => iff_false_intro ?_
    rintro ⟨rfl, h⟩
    exact haccepts h

lemma addsSlots_foldl_reserveOn (w : World) (e : Event) {ids : List ConnectionId} (hids : ids.Nodup) :
    w.AddsSlots e (fun i => i ∈ ids ∧ w.Accepts i) (ids.foldl (fun w id => w.reserveOn e id) w) := by
  induction ids generalizing w with
  | nil => exact (AddsSlots.refl w e).congr (by simp)
  | cons id rest ih =>
    obtain ⟨hnot, hrest⟩ := List.nodup_cons.1 hids
    have hfirst := addsSlots_reserveOn w e id
    have hapart (i : ConnectionId) (hi : i = id ∧ w.Accepts i) :
        ¬ (i ∈ rest ∧ (w.reserveOn e id).Accepts i) := fun h => hnot (hi.1 ▸ h.1)
    refine (hfirst.trans (ih (w.reserveOn e id) hrest) hapart).congr fun i => ?_
    by_cases hi : i = id
    · subst hi
      simp [hnot]
    · have hsame : (w.reserveOn e id).Accepts i ↔ w.Accepts i := by
        rw [Accepts, hfirst.otherConnections i fun h => hi h.1]
        rfl
      simp [hi, hsame]

/-! ### Messages -/

lemma Serves.accepts {w : World} {e : Event} {id : ConnectionId} {c : Connection} (h : w.Serves e id c) :
    c.accepts = true :=
  Connection.accepts_iff.2 ⟨h.isOpen, h.hasReceiver, h.hasSpace⟩

/-- The candidates of an event that accept an entry are the connections to be served. -/
lemma mem_candidates_and_accepts_iff {w : World} {e : Event} {id : ConnectionId} :
    id ∈ w.broker.candidates e.rooms ∧ w.Accepts id ↔ ∃ c, w.Serves e id c := by
  simp only [Broker.candidates, List.mem_filter, List.mem_eraseDups, List.mem_flatMap,
    Broker.isRegistered, List.contains_iff_mem]
  constructor
  · rintro ⟨⟨hroom, hregistered⟩, c, hc, haccepts⟩
    obtain ⟨hopen, hreceiver, hspace⟩ := Connection.accepts_iff.1 haccepts
    exact ⟨c, hc, hregistered, hroom, hopen, hreceiver, hspace⟩
  · rintro ⟨c, h⟩
    exact ⟨⟨h.inRoom, h.registered⟩, c, h.stored, h.accepts⟩

section Messages

variable {w : World} {m : Message}

lemma dispatch_of_no_event (hplain : m.isControl = false)
    (h : ∀ e, Event.ofWire m.body = .ok e → e.name.channel ≠ m.channel) : w.dispatch m = w := by
  have hevent : m.event? = none := by
    unfold Message.event?
    split
    · next e he => exact if_neg (h e he)
    · rfl
  simp [dispatch, hplain, hevent]

lemma addsSlots_dispatch {e : Event} (hplain : m.isControl = false) (hparsed : Event.ofWire m.body = .ok e)
    (hown : e.name.channel = m.channel) :
    w.AddsSlots e (fun id => ∃ c, w.Serves e id c) (w.dispatch m) := by
  have hevent : m.event? = some e := by simp [Message.event?, hparsed, hown]
  have hdispatch : w.dispatch m =
      (w.broker.candidates e.rooms).foldl (fun w id => w.reserveOn e id) w := by
    rw [← foldl_addDelivery_reserveAll]
    simp [dispatch, hplain, hevent, Broker.dispatch]
  rw [hdispatch]
  exact (addsSlots_foldl_reserveOn w e (w.broker.nodup_candidates e.rooms)).congr
    fun id => mem_candidates_and_accepts_iff.symm

end Messages

end World

/-! ### What becomes of a slot -/

namespace Line

/-- What has become of the slot of an event, which was accepted at a place, by what has been decided. -/
structure Resolves (l : Line) (place slot : Nat) (e : Event) (decision : Option Decision) : Prop where
  waiting : decision = none → l.connection.outbound.ledger[place]? = some (.pending slot)
  settled : ∀ d, decision = some d →
    l.connection.outbound.ledger[place]? = some (.settled slot (e.delivered d))
  /-- A frame that is allowed has been written or still waits, as long as there is a writer. -/
  kept : decision = some .allow → l.session.writing = true →
    .frame (some slot) e.frame ∈ l.session.written ∨
      .settled slot (some e.frame) ∈ l.connection.outbound.entries

/-- A slot waits as long as its delivery has not been decided on. -/
def Awaits (l : Line) : Prop :=
  ∀ slot, .pending slot ∈ l.connection.outbound.ledger →
    ∃ d, l.session.deliveries[slot]? = some d ∧ d.stage.isDecided = false

lemma awaits_opened (config : Config) (now : Nat) (id : ConnectionId) (caller : Caller) :
    (opened config now id caller).Awaits := by
  intro slot h
  have : Entry.pending slot ∈ [Entry.ready _] := h
  simp at this

namespace Awaits

variable {l k : Line}

/-- What decides on nothing and accepts no slot does not matter. -/
lemma of_eq (h : l.Awaits) (hd : k.session.deliveries = l.session.deliveries)
    (hl : ∀ slot, .pending slot ∈ k.connection.outbound.ledger →
      .pending slot ∈ l.connection.outbound.ledger) : k.Awaits := by
  intro slot hm
  rw [hd]
  exact h slot (hl slot hm)

lemma reserve (h : l.Awaits) (hcount : l.session.deliveries.length = l.connection.outbound.nextSlot)
    (e : Event) : (l.reserve e).Awaits := by
  simp only [Line.reserve]
  split
  · next ha =>
    intro slot hm
    simp only [Connection.reserve, ha, if_true, Outbound.ledger_pushSlot, List.mem_append,
      List.mem_singleton, Entry.pending.injEq] at hm
    rcases hm with hm | rfl
    · obtain ⟨d, hd, hs⟩ := h slot hm
      exact ⟨d, (List.getElem?_append_left (List.getElem?_eq_some_iff.1 hd).1).trans hd, hs⟩
    · exact ⟨{ event := e }, by simp [← hcount], rfl⟩
  · exact h

lemma consider (h : l.Awaits) (slot : Nat) (p : Principal) (lookup : Awaited Decision) :
    (l.setStage slot (.deciding p lookup)).Awaits := by
  intro s hm
  obtain ⟨d, hd, hs⟩ := h s hm
  simp only [setStage, modifySession, List.getElem?_modify, hd]
  split
  · exact ⟨_, rfl, rfl⟩
  · exact ⟨d, rfl, hs⟩

lemma conclude (h : l.Awaits) (slot : Nat) (e : Event) (p : Principal) (decision : Decision) :
    (l.conclude slot e p decision).Awaits := by
  intro s hm
  have hm : .pending s ∈ l.connection.outbound.ledger.map (·.settle slot (e.delivered decision)) := hm
  obtain ⟨x, hx, heq⟩ := List.mem_map.1 hm
  -- An entry that still waits is not of the slot that has been settled.
  unfold Entry.settle at heq
  split at heq
  · cases heq
  · next hnot =>
    subst heq
    have hne : s ≠ slot := by simpa [Entry.awaits] using hnot
    obtain ⟨d, hd, hs⟩ := h s hx
    exact ⟨d, Tallies.settled_of_ne hne _ hd, hs⟩

lemma move (h : l.Awaits) (hcount : l.session.deliveries.length = l.connection.outbound.nextSlot)
    (hm : Move l k) : k.Awaits := by
  cases hm with
  | aside ha =>
    cases ha with
    | quiet hq => exact h.of_eq hq.deliveries (by simp [hq.outbound])
    | send reference result =>
      refine h.of_eq rfl fun slot hm => ?_
      simp only [modifyConnection, Connection.send] at hm
      split at hm
      · simpa using hm
      · exact hm
    | endReader code => exact h.of_eq rfl fun _ => id
    | write =>
      obtain ⟨outbound, writing, written, heq, hl, -⟩ := l.write_leaves
      rw [heq]
      exact h.of_eq rfl (by simp [hl])
  | reserve e => exact h.reserve hcount e
  | consider p lookup => exact h.consider _ p lookup
  | conclude p decision => exact h.conclude _ _ p decision

end Awaits

/-- The frame of a slot that has been settled has been written or still waits, as long as there is a
writer. -/
lemma Drains.written_or_waits {l : Line} (h : l.Drains) {place slot : Nat} {text : String}
    (he : l.connection.outbound.ledger[place]? = some (.settled slot (some text)))
    (hw : l.session.writing = true) : .frame (some slot) text ∈ l.session.written ∨
      .settled slot (some text) ∈ l.connection.outbound.entries := by
  obtain ⟨front, rest, hl, -, hf, hr⟩ := h
  have hmem : Entry.settled slot (some text) ∈ front ++ rest := hl ▸ List.mem_of_getElem? he
  rcases List.mem_append.1 hmem with hfront | hrest
  · have hframe : Output.frame (some slot) text ∈ l.session.frames := by
      rw [hf]
      exact List.mem_filterMap.2 ⟨_, hfront, rfl⟩
    exact .inl (List.mem_filter.1 hframe).1
  · exact .inr (hr hw ▸ hrest)

/-- The slot of a delivery has come to what its check has decided. -/
lemma Awaits.resolves {l : Line} (h : l.Awaits) {greeting : String} (ht : l.Tallies greeting)
    (hdrains : l.Drains) {place slot : Nat} {d : Delivery} {e' : Entry}
    (hd : l.session.deliveries[slot]? = some d) {check : Option (Principal × Limited Decision)}
    (hs : d.stage = .ofCheck check) (he : l.connection.outbound.ledger[place]? = some e')
    (hslot : e'.slot? = some slot) :
    l.Resolves place slot d.event (check.bind fun c => c.2.decision?) := by
  cases e' with
  | ready frame => cases hslot
  | pending s =>
    obtain rfl : s = slot := Option.some.inj hslot
    obtain ⟨d', hd', hundecided⟩ := h s (List.mem_of_getElem? he)
    rw [hd, Option.some.injEq] at hd'
    subst hd'
    have hnone : (check.bind fun c => c.2.decision?) = none := by
      rw [hs] at hundecided
      rcases check with _ | ⟨p, r⟩
      · rfl
      · cases r with
        | waiting lookup => rfl
        | finished r => cases hundecided
        | timedOut => cases hundecided
    rw [hnone]
    exact ⟨fun _ => he, nofun, nofun⟩
  | settled s frame =>
    obtain rfl : s = slot := Option.some.inj hslot
    obtain ⟨d', p, decision, hd', hdecided, rfl⟩ := ht.settled s frame (List.mem_of_getElem? he)
    rw [hd, Option.some.injEq] at hd'
    subst hd'
    obtain ⟨r, rfl, hr⟩ := Stage.ofCheck_eq_decided_iff.1 (hs.symm.trans hdecided)
    rw [Option.bind_some, hr]
    refine ⟨nofun, fun d hd => Option.some.inj hd ▸ he, fun hallow hw => ?_⟩
    cases Option.some.inj hallow
    exact hdrains.written_or_waits he hw

end Line

namespace World

lemma awaits_run {config : Config} {store : Store} {actions : List Action} {id : ConnectionId}
    {l : Line} (hl : ((start config store).run actions).line? id = some l) : l.Awaits := by
  refine (line_invariant (P := fun id l =>
    l.Tallies (helloFrame id config.heartbeatInterval.toNat) ∧ l.Awaits) ?_ ?_ ?_ actions hl).2
  · intro now id caller
    exact ⟨Line.tallies_opened config now id caller, Line.awaits_opened config now id caller⟩
  · intro id l k hm h
    exact ⟨h.1.move hm, h.2.move h.1.count hm⟩
  · intro id l hl
    simp [line?_start] at hl

/-- A slot that a message has reserved comes to what its check decides. -/
lemma resolves_run {config : Config} {store : Store} {before after : List Action} {a : Action}
    {id : ConnectionId} {c : Connection} {m : Message} {e : Event} (hplain : m.isControl = false)
    (hparsed : Event.ofWire m.body = .ok e) (hown : e.name.channel = m.channel)
    (hdispatched : ((start config store).run before).dispatched? a = some m)
    (hserves : ((start config store).run before).Serves e id c) :
    let actions := before ++ a :: after
    ∃ l, ((start config store).run actions).line? id = some l ∧
      l.Resolves c.outbound.ledger.length c.outbound.nextSlot e
        ((checkOf ((start config store).history actions) id before.length c.outbound.nextSlot e).bind
          fun check => check.2.decision?) := by
  intro actions
  have hsound := (sound_start config store).run before
  obtain ⟨k, hk, hc⟩ := hsound.paired.exists_line hserves.stored
  subst hc
  have hreserves : ((start config store).run before).Reserves a id m e
      k.connection.outbound.nextSlot := by
    obtain ⟨room, hroom, hmember⟩ := hserves.inRoom
    refine ⟨hdispatched, hplain, hparsed, hown, List.contains_iff_mem.2 hserves.registered,
      ⟨room, hroom, (hsound.broker.members room id).1 hmember⟩, ?_⟩
    rw [hserves.stored]
    exact if_pos hserves.accepts
  have hposition : ((start config store).history actions)[before.length]? =
      some ((start config store).run before, a) := by
    simp [getElem?_history, actions]
  have hreserved : ReservedAt ((start config store).history actions) id before.length
      k.connection.outbound.nextSlot e := ⟨_, a, m, hposition, hreserves⟩
  obtain ⟨l, hl, -⟩ := leads_run hk (a :: after)
  rw [← run_append] at hl
  -- The slot has the place that it got when the message came, and the stage that its check has come to.
  obtain ⟨v, b, -, k', hv, -, hk', -, entry, hentry, hslot⟩ := hreserved.place hl
  obtain ⟨rfl, -⟩ := Prod.mk.inj (Option.some.inj (hv.symm.trans hposition))
  obtain rfl := Option.some.inj (hk'.symm.trans hk)
  obtain ⟨hdrains, -, htallies⟩ := queue_invariants hl
  have hexplained := (explained_run config store actions id).1 l hl
  obtain ⟨d, hd, rfl, hstage, -⟩ := hexplained.stage _ _ _ hreserved
  exact ⟨l, hl, (awaits_run hl).resolves htallies hdrains hd hstage hentry hslot⟩

/-- A message that brings no event of its channel changes nothing. One that does adds one slot to the
queue of each connection that is registered, open and in a room of the event and has a receiver and
space, and changes nothing else. In a run, however the message comes, the slot keeps its place in what
the connection has accepted, waits until its check has decided, and is then settled by what is
delivered: the frame of the event if that is allowed, which is written or still waits as long as there
is a writer. -/
theorem dispatch_reserves_one_slot {w : World} {m : Message} (hplain : m.isControl = false) :
    ((∀ e, Event.ofWire m.body = .ok e → e.name.channel ≠ m.channel) → w.dispatch m = w) ∧
    ∀ e, Event.ofWire m.body = .ok e → e.name.channel = m.channel →
      w.AddsSlots e (fun id => ∃ c, w.Serves e id c) (w.dispatch m) ∧
      ∀ config store before a after, w = (start config store).run before →
        w.dispatched? a = some m → ∀ id c, w.Serves e id c →
          let actions := before ++ a :: after
          let check := checkOf ((start config store).history actions) id before.length
            c.outbound.nextSlot e
          ∃ l, ((start config store).run actions).line? id = some l ∧
            l.Resolves c.outbound.ledger.length c.outbound.nextSlot e
              (check.bind fun check => check.2.decision?) := by
  refine ⟨dispatch_of_no_event hplain, fun e hparsed hown => ?_⟩
  refine ⟨addsSlots_dispatch hplain hparsed hown, ?_⟩
  rintro config store before a after rfl hdispatched id c hserves
  exact resolves_run hplain hparsed hown hdispatched hserves

/-- A comment on a post, in a feed that is named twice. -/
def namedTwice : Event :=
  ⟨.commentNew, { postId := some "p1", feedIds := ["venus:posts", "venus:posts"] }, ['1']⟩

/-- The post is public. -/
def publicPost : Store where
  content := List.foldl Content.update {} [
    .addUser "venus",
    .addFeed "venus:posts" "venus" "Posts",
    .addPost "p1" "venus" ["venus:posts"]]

/-- A client joins the post and the feed. -/
def joinsBoth : List Action := [
  .connect "c" {},
  .arrive "c" (.text
    "\x7b\"op\":\"subscribe\",\"d\":\x7b\"post\":[\"p1\"],\"timeline\":[\"venus:posts\"]\x7d\x7d"),
  .task (.reader "c")]

/-- The comment gets one slot behind the greeting and the reply, and the slot is settled by its frame. -/
theorem namedTwice_gets_one_slot :
    let w := (start { jwtSecret := "s" } publicPost).run joinsBoth
    let m := Message.ofEvent namedTwice
    let actions := joinsBoth ++ .dispatch m :: [.task (.delivery ⟨"c", 0⟩)]
    m.isControl = false ∧ Event.ofWire m.body = .ok namedTwice ∧
      namedTwice.name.channel = m.channel ∧ (∃ c, w.Serves namedTwice "c" c) ∧
      (∀ room ∈ namedTwice.rooms, "c" ∈ w.broker.table.membersOf room) ∧
      namedTwice.rooms.length = 3 ∧
      ((w.dispatch m).broker.connection? "c").map (·.outbound.queue.drop 2) = some [.pending 0] ∧
      (((start { jwtSecret := "s" } publicPost).run actions).line? "c").bind
        (fun l => l.connection.outbound.ledger[2]?) = some (.settled 0 (some namedTwice.frame)) := by
  intro w m actions
  have hplain : m.isControl = false := by decide +kernel
  have hparsed : Event.ofWire m.body = .ok namedTwice := by decide +kernel
  have hstate : (w.broker.connection? "c").any (fun c => c.closed = false ∧
      c.outbound.hasReceiver = true ∧ c.outbound.queue.length = 2 ∧ c.outbound.nextSlot = 0 ∧
      c.outbound.ledger.length = 2) = true := by
    decide +kernel
  have hallowed : (checkOf ((start { jwtSecret := "s" } publicPost).history actions) "c"
      joinsBoth.length 0 namedTwice).bind (fun check => check.2.decision?) = some .allow := by
    decide +kernel
  have hrooms : ∀ room ∈ namedTwice.rooms, "c" ∈ w.broker.table.membersOf room := by decide +kernel
  obtain ⟨c, hc, hfacts⟩ := Option.any_eq_true .. |>.1 hstate
  obtain ⟨hopen, hreceiver, hqueue, hslot, hledger⟩ := of_decide_eq_true hfacts
  have hserves : w.Serves namedTwice "c" c := by
    refine ⟨hc, by decide +kernel, ⟨⟨.post, "p1"⟩, by decide, hrooms _ (by decide)⟩, hopen,
      hreceiver, ?_⟩
    rw [hqueue]
    decide
  obtain ⟨hadds, hresolves⟩ := (dispatch_reserves_one_slot hplain).2 namedTwice hparsed rfl
  obtain ⟨l, hl, hresolved⟩ := hresolves _ _ joinsBoth (.dispatch m) _ rfl rfl "c" c hserves
  refine ⟨hplain, hparsed, rfl, ⟨c, hserves⟩, hrooms, rfl, ?_, ?_⟩
  · have hnew : (c.outbound.queue ++ [Entry.pending 0]).drop 2 = [.pending 0] := by
      rw [← hqueue, List.drop_left]
    rw [hadds.slot "c" c ⟨c, hserves⟩ hc, Option.map_some, hslot]
    exact congrArg some hnew
  · rw [hslot, hledger] at hresolved
    rw [hl]
    exact hresolved.settled .allow hallowed

end World

end EventGateway
