import EventGateway.Proofs.Service.History
import EventGateway.Proofs.Session.Contents
import EventGateway.Proofs.Session.Replies

/-!
# Every text is acknowledged

The reader of a connection takes the texts in the order in which they have arrived, and each of them
when it has answered the one before. The greeting stands first in the queue, and every answer is one
more frame in it, in the order of the texts. Only the last answer may be missing: it was refused, as the
queue was full or the writer had stopped, and the reader has ended with the code for that. A slot that
an event finds no room for is dropped, which changes nothing in the queue or on any other connection.
-/

namespace EventGateway

/-- A text and its answer. -/
structure Exchange where
  text : String
  answer : Answer

/-- What a step of a reader does about a text. -/
inductive ReaderEvent where
  | takes (text : String)
  | answers (answer : Answer)

/-- A text is taken, and then it is answered. -/
def Exchange.events (x : Exchange) : List ReaderEvent := [.takes x.text, .answers x.answer]

/-- What the reader does about texts in its next step. -/
def Line.readerEvents (m : Moment) (l : Line) : List ReaderEvent :=
  l.taken?.toList.map .takes ++ (l.answer? m).toList.map .answers

/-- The text that arrives, if it is one. -/
def Arrival.text? : Arrival → Option String
  | .text s => some s
  | _ => none

namespace World

/-- What the reader of a connection does about texts in a step. -/
def eventsOf (id : ConnectionId) (x : Happening) : List ReaderEvent :=
  match x.2 with
  | .task (.reader i) =>
    if i = id then (x.1.line? id).elim [] (Line.readerEvents x.1.moment) else []
  | _ => []

/-- The text that arrives on a connection in a step, if there is one. -/
def textsOf (id : ConnectionId) (x : Happening) : List String :=
  match x.2 with
  | .arrive i arrival => if i = id ∧ (x.1.line? id).isSome then arrival.text?.toList else []
  | _ => []

/-- The answer is refused in some step: the queue is full then, or nobody takes anything off it. -/
def Refused (history : List Happening) (id : ConnectionId) (a : Answer) : Prop :=
  ∃ (n : Nat) (w : World) (l : Line), history[n]? = some (w, .task (.reader id)) ∧ w.line? id = some l ∧
    l.answer? w.moment = some a ∧ (l.connection.outbound.queue.length = outboundCapacity ∨
      l.connection.outbound.hasReceiver = false)

/-- What has been done about the texts of a connection: the exchanges that are over, and the text that
is under way, if there is one. -/
structure Transcript (id : ConnectionId) (past : List Happening) (s : Session)
    (exchanges : List Exchange) (underWay : Option String) : Prop where
  /-- One text is answered after the other. -/
  order : past.flatMap (eventsOf id) =
    exchanges.flatMap Exchange.events ++ underWay.toList.map .takes
  references : ∀ x ∈ exchanges, x.answer.reference = referenceOf x.text
  /-- The frame of an answer is read back as what is answered. -/
  readBack : ∀ x ∈ exchanges, ReadsAsReply x.answer.frame (referenceOf x.text) (replyData x.answer.result)
  busy : underWay.map referenceOf = s.reader.reference?
  /-- The texts have arrived in this order, and the others are still there. -/
  arrived : past.flatMap (textsOf id) =
    exchanges.map Exchange.text ++ underWay.toList ++ s.inbox.filterMap Arrival.text?

/-- What is queued for it: the greeting, which is first, and the answers, all of them or all but the
last one. -/
structure Acknowledged (greeting : String) (id : ConnectionId) (past : List Happening) (l : Line)
    (exchanges : List Exchange) (underWay : Option String) : Prop extends
    Transcript id past l.session exchanges underWay where
  first : l.connection.outbound.ledger[0]? = some (.ready greeting)
  replies : l.queuedFrames = greeting :: exchanges.map (·.answer.frame) ∨
    ∃ answered refused code, exchanges = answered ++ [refused] ∧
      l.queuedFrames = greeting :: answered.map (·.answer.frame) ∧
      Refused past id refused.answer ∧ l.session.reader = .ended ∧
      l.session.ending = some (some code) ∧ code.number = 4008

/-! ### Transcripts -/

variable {id : ConnectionId} {past : List Happening} {s s' : Session} {exchanges : List Exchange}
  {underWay : Option String}

/-- A step in which nothing is done about texts. -/
lemma Transcript.idle (h : Transcript id past s exchanges underWay) {x : Happening}
    (hevents : eventsOf id x = []) (hreader : s'.reader.reference? = s.reader.reference?)
    (harrived : s'.inbox.filterMap Arrival.text? = s.inbox.filterMap Arrival.text? ++ textsOf id x) :
    Transcript id (past ++ [x]) s' exchanges underWay where
  order := by simpa [hevents] using h.order
  references := h.references
  readBack := h.readBack
  busy := h.busy.trans hreader.symm
  arrived := by simp [harrived, h.arrived]

lemma eventsOf_reader {w : World} {l : Line} (hl : w.line? id = some l) :
    eventsOf id (w, .task (.reader id)) = l.readerEvents w.moment := by
  simp [eventsOf, hl]

/-- Only the reader does something about texts. -/
lemma eventsOf_eq_nil {x : Happening} (h : x.2 ≠ .task (.reader id)) : eventsOf id x = [] := by
  simp only [eventsOf]
  split
  · next i hx =>
    refine if_neg ?_
    rintro rfl
    exact h hx
  · rfl

lemma textsOf_eq_nil {x : Happening} (h : ∀ arrival, x.2 ≠ .arrive id arrival) :
    textsOf id x = [] := by
  simp only [textsOf]
  split
  · next i arrival hx =>
    refine if_neg ?_
    rintro ⟨rfl, -⟩
    exact h arrival hx
  · rfl

/-- A text is taken, or has been taken, and is answered. -/
lemma Transcript.answer {w : World} {l k : Line}
    (h : Transcript id past l.session exchanges underWay) (hl : w.line? id = some l) {a : Answer}
    (ha : l.answer? w.moment = some a) (hk : l.Prepares k)
    (hown : ∀ text, l.taken? = some text → a.reference = referenceOf text)
    (hlast : ∀ reference, l.session.reader.reference? = some reference → a.reference = reference)
    (hinbox : s'.inbox = k.session.inbox) (hreader : s'.reader.reference? = none) :
    ∃ text, Transcript id (past ++ [(w, .task (.reader id))]) s' (exchanges ++ [⟨text, a⟩]) none := by
  have hevents := eventsOf_reader hl
  simp only [Line.readerEvents, ha] at hevents
  have hreads := l.readsAsReply_of_answer? ha
  have hbusy := h.busy
  cases htaken : l.taken? with
  | some text =>
    obtain ⟨hidle, -⟩ := Line.inbox_of_taken? htaken
    obtain rfl : underWay = none := by
      rw [hidle] at hbusy
      exact Option.map_eq_none_iff.1 hbusy
    have hsame : a.reference = referenceOf text := hown text htaken
    refine ⟨text, ?_, List.forall_mem_append.2 ⟨h.references, List.forall_mem_singleton.2 hsame⟩,
      List.forall_mem_append.2 ⟨h.readBack, List.forall_mem_singleton.2 (hsame ▸ hreads)⟩,
      hreader.symm, ?_⟩
    · simp [hevents, htaken, h.order, Exchange.events]
    · simp [textsOf, h.arrived, hk.inbox, htaken, hinbox, Arrival.text?]
  | none =>
    obtain ⟨reference, lookup, hr⟩ : ∃ reference lookup,
        l.session.reader = .authenticating reference lookup := by
      simp only [Line.answer?, htaken] at ha
      cases hr : l.session.reader with
      | idle => simp [hr] at ha
      | authenticating reference lookup => exact ⟨reference, lookup, rfl⟩
      | ended => simp [hr] at ha
    rw [hr] at hbusy
    obtain ⟨text, rfl, hreference⟩ := Option.map_eq_some_iff.1 hbusy
    have hsame : a.reference = referenceOf text := by
      rw [hreference]
      exact hlast reference (by rw [hr]; rfl)
    refine ⟨text, ?_, List.forall_mem_append.2 ⟨h.references, List.forall_mem_singleton.2 hsame⟩,
      List.forall_mem_append.2 ⟨h.readBack, List.forall_mem_singleton.2 (hsame ▸ hreads)⟩,
      hreader.symm, ?_⟩
    · simp [hevents, htaken, h.order, Exchange.events]
    · simp [textsOf, h.arrived, hk.inbox, htaken, hinbox]

/-- A text is taken and has to wait. -/
lemma Transcript.begin {w : World} {l : Line}
    (h : Transcript id past l.session exchanges underWay) (hl : w.line? id = some l)
    {text : String} {rest : List Arrival} (hidle : l.session.reader = .idle)
    (hinbox : l.session.inbox = .text text :: rest) (ha : l.answer? w.moment = none)
    (hrest : s'.inbox = rest) (hreader : s'.reader.reference? = some (referenceOf text)) :
    Transcript id (past ++ [(w, .task (.reader id))]) s' exchanges (some text) := by
  have hevents := eventsOf_reader hl
  have htaken : l.taken? = some text := by simp only [Line.taken?, hidle, hinbox]
  simp only [Line.readerEvents, ha, htaken] at hevents
  obtain rfl : underWay = none := by
    have hbusy := h.busy
    rw [hidle] at hbusy
    exact Option.map_eq_none_iff.1 hbusy
  refine ⟨?_, h.references, h.readBack, by rw [hreader]; rfl, ?_⟩
  · simp [hevents, h.order]
  · simp [textsOf, h.arrived, hinbox, hrest, Arrival.text?]

/-! ### Steps -/

variable {greeting : String} {l k : Line}

lemma Refused.concat {a : Answer} (h : Refused past id a) (x : Happening) :
    Refused (past ++ [x]) id a := by
  obtain ⟨n, w, l, hw, hrefused⟩ := h
  have hlt := (List.getElem?_eq_some_iff.1 hw).1
  exact ⟨n, w, l, by rwa [List.getElem?_append_left hlt], hrefused⟩

lemma first_of_leads (h : l.Leads k)
    (hl : l.connection.outbound.ledger[0]? = some (.ready greeting)) :
    k.connection.outbound.ledger[0]? = some (.ready greeting) := by
  obtain ⟨e, he, haccepted⟩ := h.accepted_getElem? hl
  rw [he]
  cases e with
  | ready frame => exact congrArg some haccepted
  | pending slot => cases haccepted
  | settled slot frame => cases haccepted

/-- What is known of a line at a time. -/
structure Attended (greeting : String) (id : ConnectionId) (past : List Happening) (l : Line) :
    Prop where
  bounded : l.Bounded
  closed : l.connection.closed = true → l.session.reader = .ended
  acknowledged : ∃ exchanges underWay, Acknowledged greeting id past l exchanges underWay

/-- As long as the reader has not ended all answers are queued. -/
lemma Acknowledged.replies_of_reader (h : Acknowledged greeting id past l exchanges underWay)
    (hr : l.session.reader ≠ .ended) :
    l.queuedFrames = greeting :: exchanges.map (·.answer.frame) := by
  rcases h.replies with hall | ⟨_, _, _, _, _, _, hended, _⟩
  · exact hall
  · exact absurd hended hr

/-- A step in which no reply is queued and nothing is done about texts. -/
lemma Attended.idle (h : Attended greeting id past l) {x : Happening} (hevents : eventsOf id x = [])
    (hleads : l.Leads k) (hqueued : k.queuedFrames = l.queuedFrames)
    (hinbox : k.session.inbox.filterMap Arrival.text? =
      l.session.inbox.filterMap Arrival.text? ++ textsOf id x)
    (hreference : k.session.reader.reference? = l.session.reader.reference?)
    (hended : l.session.reader = .ended →
      k.session.reader = .ended ∧ k.session.ending = l.session.ending)
    (hclosed : k.connection.closed = true → k.session.reader = .ended) :
    Attended greeting id (past ++ [x]) k := by
  obtain ⟨exchanges, underWay, hacknowledged⟩ := h.acknowledged
  refine ⟨hleads.invariant (fun _ _ => Line.Move.bounded) h.bounded, hclosed, exchanges, underWay,
    hacknowledged.toTranscript.idle hevents hreference hinbox,
    first_of_leads hleads hacknowledged.first, ?_⟩
  rw [hqueued]
  rcases hacknowledged.replies with hall |
    ⟨answered, refused, code, hsplit, hqueue, hrefused, hreader, hending, hcode⟩
  · exact .inl hall
  · obtain ⟨hreader', hending'⟩ := hended hreader
    exact .inr ⟨answered, refused, code, hsplit, hqueue, hrefused.concat x, hreader',
      hending'.trans hending, hcode⟩

/-- The answer is queued, or it is refused and ends the reader. -/
lemma Attended.answer {w : World} (h : Attended greeting id past l) (hl : w.line? id = some l)
    {a : Answer} (ha : l.answer? w.moment = some a) (hk : l.Prepares k)
    (hown : ∀ text, l.taken? = some text → a.reference = referenceOf text)
    (hlast : ∀ reference, l.session.reader.reference? = some reference → a.reference = reference)
    (hleads : l.Leads (k.reply a.reference a.result)) :
    Attended greeting id (past ++ [(w, .task (.reader id))]) (k.reply a.reference a.result) := by
  obtain ⟨exchanges, underWay, hacknowledged⟩ := h.acknowledged
  have hnot : l.session.reader ≠ .ended := by
    intro hended
    simp only [Line.answer?, hended] at ha
    cases ha
  have hopen : k.connection.closed = false := by
    rw [hk.closed, ← Bool.not_eq_true]
    exact fun hclosed => hnot (h.closed hclosed)
  have hqueued : k.queuedFrames = greeting :: exchanges.map (·.answer.frame) := by
    rw [← hacknowledged.replies_of_reader hnot, Line.queuedFrames, hk.outbound]
    rfl
  have hbounded := hleads.invariant (fun _ _ => Line.Move.bounded) h.bounded
  have hfirst := first_of_leads hleads hacknowledged.first
  rcases k.reply_cases a.reference a.result with ⟨-, heq⟩ | ⟨hclosed, -⟩ | ⟨hfull, -, heq⟩
  · rw [heq] at hbounded hfirst ⊢
    have hreader : k.session.reader.reference? = none := by
      rw [hk.reader]
      rfl
    obtain ⟨text, htranscript⟩ := hacknowledged.toTranscript.answer hl ha hk hown hlast rfl hreader
    refine ⟨hbounded, fun hclosed => ?_, _, none, htranscript, hfirst, .inl ?_⟩
    · have hclosed : k.connection.closed = true := hclosed
      rw [hopen] at hclosed
      cases hclosed
    · rw [List.map_append, ← List.cons_append, ← hqueued]
      simp [Line.queuedFrames, Line.modifyConnection, Entry.ready?, Answer.frame]
  · rw [hopen] at hclosed
    cases hclosed
  · rw [heq] at hbounded hfirst ⊢
    have hinbox : (k.endReader (some .slowConsumer)).session.inbox = k.session.inbox := rfl
    obtain ⟨text, htranscript⟩ :=
      hacknowledged.toTranscript.answer hl ha hk hown hlast hinbox rfl
    refine ⟨hbounded, fun _ => rfl, _, none, htranscript, hfirst, .inr ?_⟩
    have hrefused : Refused (past ++ [(w, .task (.reader id))]) id a := by
      refine ⟨past.length, w, l, by simp, hl, ha, ?_⟩
      rw [← hk.outbound]
      apply Line.full_of_not_accepts hfull hopen
      rw [hk.outbound]
      exact h.bounded
    exact ⟨exchanges, ⟨text, a⟩, .slowConsumer, rfl, hqueued, hrefused, rfl, rfl, rfl⟩

/-- What the reader does. -/
lemma Attended.read {w : World} (h : Attended greeting id past l) (hl : w.line? id = some l) :
    Attended greeting id (past ++ [(w, .task (.reader id))]) (l.read w.moment) := by
  have hleads := (l.sidesteps_read w.moment).leads
  have hnothing (htaken : l.taken? = none) (ha : l.answer? w.moment = none) :
      eventsOf id (w, .task (.reader id)) = [] := by
    simp [eventsOf_reader hl, Line.readerEvents, htaken, ha]
  have hserves := Line.serves_read w.moment l
  generalize l.read w.moment = k at hleads hserves ⊢
  cases hserves with
  | answers j a ha hj hown hlast => exact h.answer hl ha hj hown hlast hleads
  | @begins text rest lookup hidle hinbox ha =>
    have hnot : l.session.reader ≠ .ended := by simp [hidle]
    obtain ⟨exchanges, underWay, hacknowledged⟩ := h.acknowledged
    refine ⟨hleads.invariant (fun _ _ => Line.Move.bounded) h.bounded,
      fun hclosed => absurd (h.closed hclosed) hnot, exchanges, some text,
      hacknowledged.toTranscript.begin hl hidle hinbox ha rfl rfl,
      first_of_leads hleads hacknowledged.first, .inl ?_⟩
    exact hacknowledged.replies_of_reader hnot
  | @waits reference lookup hr ha =>
    have hnot : l.session.reader ≠ .ended := by
      intro hended
      simp [hended, Reader.reference?] at hr
    have htaken : l.taken? = none := by
      cases hreader : l.session.reader with
      | idle => simp [hreader, Reader.reference?] at hr
      | authenticating _ _ => simp only [Line.taken?, hreader]
      | ended => exact absurd hreader hnot
    refine h.idle (hnothing htaken ha) hleads rfl ?_ hr.symm (absurd · hnot)
      fun hclosed => absurd (h.closed hclosed) hnot
    exact (List.append_nil _).symm
  | @skips rest hidle hinbox =>
    have hnot : l.session.reader ≠ .ended := by simp [hidle]
    have htaken : l.taken? = none := by simp only [Line.taken?, hidle, hinbox]
    have ha : l.answer? w.moment = none := by simp [Line.answer?, hidle, htaken]
    refine h.idle (hnothing htaken ha) hleads rfl ?_ rfl (absurd · hnot)
      fun hclosed => absurd (h.closed hclosed) hnot
    rw [hinbox]
    exact (List.append_nil _).symm
  | @ends rest hidle hinbox =>
    have hnot : l.session.reader ≠ .ended := by simp [hidle]
    have htaken : l.taken? = none := by simp only [Line.taken?, hidle, hinbox]
    have ha : l.answer? w.moment = none := by simp [Line.answer?, hidle, htaken]
    refine h.idle (hnothing htaken ha) hleads rfl ?_ (by rw [hidle]; rfl) (absurd · hnot) fun _ => rfl
    rw [hinbox]
    exact (List.append_nil _).symm
  | rests htaken ha =>
    exact h.idle (hnothing htaken ha) hleads rfl (List.append_nil _).symm rfl (⟨·, rfl⟩) h.closed

/-- What is done besides the reader. -/
lemma Attended.spares {x : Happening} (h : Attended greeting id past l) (hspares : l.Spares k)
    (hleads : l.Leads k) (hevents : eventsOf id x = []) (htexts : textsOf id x = []) :
    Attended greeting id (past ++ [x]) k := by
  refine h.idle hevents hleads hspares.queued ?_ ?_ ?_ ?_
  · rw [hspares.inbox, htexts, List.append_nil]
  · rcases hspares.reader with ⟨hr, -⟩ | ⟨hidle, hended⟩
    · rw [hr]
    · rw [hidle, hended]
      rfl
  · intro hended
    rcases hspares.reader with ⟨hr, hending, -⟩ | ⟨hidle, -⟩
    · exact ⟨hr.trans hended, hending⟩
    · rw [hidle] at hended
      cases hended
  · intro hclosed
    rcases hspares.reader with ⟨hr, -, hsame⟩ | ⟨-, hended⟩
    · exact hr.trans (h.closed (hsame.symm.trans hclosed))
    · exact hended

/-- Something arrives. -/
lemma Attended.arrive {w : World} (h : Attended greeting id past l) (hl : w.line? id = some l)
    (arrival : Arrival) :
    Attended greeting id (past ++ [(w, .arrive id arrival)]) (l.arrive arrival) := by
  refine h.idle rfl (l.sidesteps_arrive arrival).leads rfl ?_ rfl (⟨·, rfl⟩) h.closed
  have htexts : textsOf id (w, .arrive id arrival) = arrival.text?.toList := by
    simp [textsOf, hl]
  simp only [htexts, Line.arrive, Line.modifySession, List.filterMap_append]
  cases arrival <;> rfl

lemma Attended.depart {w : World} (h : Attended greeting id past l) :
    Attended greeting id (past ++ [(w, .leave id)]) l.depart := by
  refine h.idle rfl l.sidesteps_depart.leads rfl ?_ rfl (⟨·, rfl⟩) h.closed
  simp [Line.depart, Line.modifySession, textsOf, Arrival.text?]

/-- Whatever happens to a line, its texts go on to be acknowledged. -/
lemma Attended.step {w : World} {a : Action} {l' : Line} (h : Attended greeting id past l)
    (hl : w.line? id = some l) (heffect : w.Effect id a l l')
    (hl' : (w.step a).line? id = some l') : Attended greeting id (past ++ [(w, a)]) l' := by
  have hleads := heffect.leads
  cases heffect with
  | read => exact h.read hl
  | missHeartbeat => exact h.spares (l.spares_missHeartbeat _) hleads rfl rfl
  | write => exact h.spares l.spares_write hleads rfl rfl
  | deliver _ slot => exact h.spares (l.spares_deliver _ _) hleads rfl rfl
  | demote _ index ps => exact h.spares (l.spares_demotions _) hleads rfl rfl
  | @reserve _ _ m e hm _ =>
    apply h.spares (l.spares_reserve e) hleads
    · apply eventsOf_eq_nil
      rintro rfl
      cases hm
    · apply textsOf_eq_nil
      rintro arrival rfl
      cases hm
  | arrive _ arrival => exact h.arrive hl arrival
  | depart => exact h.depart
  | spare =>
    by_cases hreader : a = .task (.reader id)
    · subst hreader
      have hread : (w.step (.task (.reader id))).line? id = some (l.read w.moment) :=
        (modifies_read w id).line_own hl
      rw [hl', Option.some.injEq] at hread
      rw [hread]
      exact h.read hl
    · by_cases harrives : ∃ arrival, a = .arrive id arrival
      · obtain ⟨arrival, rfl⟩ := harrives
        have harrive : (w.step (.arrive id arrival)).line? id = some (l.arrive arrival) :=
          (modifies_modifySession w id _).line_own hl
        rw [hl', Option.some.injEq] at harrive
        rw [harrive]
        exact h.arrive hl arrival
      · exact h.spares (.refl l) hleads (eventsOf_eq_nil hreader)
          (textsOf_eq_nil fun arrival ha => harrives ⟨arrival, ha⟩)

/-- A line that is opened has the greeting in its queue, and nothing has arrived on it. -/
lemma attended_opened (config : Config) {w : World} (caller : Caller)
    (hpast : ∀ v a, (v, a) ∈ past → v.line? id = none) :
    Attended (helloFrame id config.heartbeatInterval.toNat) id (past ++ [(w, .connect id caller)])
      (.opened config w.now id caller) := by
  have hevents : past.flatMap (eventsOf id) = [] := by
    rw [List.flatMap_eq_nil_iff]
    rintro ⟨v, a⟩ hv
    simp only [eventsOf, hpast v a hv]
    split <;> simp
  have htexts : past.flatMap (textsOf id) = [] := by
    rw [List.flatMap_eq_nil_iff]
    rintro ⟨v, a⟩ hv
    simp only [textsOf, hpast v a hv]
    split <;> simp
  have hwaiting : (Line.opened config w.now id caller).session.reader.reference? = none := by
    rcases Session.reader_opened config.checkedGrace w.now with h | h <;>
      simp [Line.opened, h, Reader.reference?]
  refine ⟨?_, ?_, [], none, ⟨?_, ?_, ?_, hwaiting.symm, ?_⟩, rfl, .inl rfl⟩
  · exact Nat.le_of_lt_succ (by decide : 1 < outboundCapacity + 1)
  · intro hclosed
    cases hclosed
  · simp [hevents, eventsOf]
  · simp
  · simp
  · simp [htexts, textsOf, Line.opened]

variable {config : Config} {store : Store} {actions : List Action}

/-- Every text is acknowledged in order by a frame that is read back as its answer, or the reader ends. And an
event that is routed to connections
does to each of them, however full its queue is and whatever becomes of the others, at most one thing:
it reserves a slot behind all that is queued. -/
theorem texts_acknowledged {l : Line} (hl : ((start config store).run actions).line? id = some l) :
    (∃ exchanges underWay, Acknowledged (helloFrame id config.heartbeatInterval.toNat) id
      ((start config store).history actions) l exchanges underWay) ∧
    ∀ (n : Nat) (w : World) (a : Action) (m : Message) (e : Event) (i : ConnectionId) (k : Line),
      ((start config store).history actions)[n]? = some (w, a) → w.dispatched? a = some m →
      w.routed? m i = some e → w.line? i = some k →
      ∃ k', (w.step a).line? i = some k' ∧
        if k.connection.accepts then
          k'.connection.outbound.queue =
            k.connection.outbound.queue ++ [.pending k.connection.outbound.nextSlot]
        else k' = k := by
  constructor
  · exact (line_history (fun _ _ caller hpast _ _ => attended_opened config caller hpast)
      (fun _ _ _ _ _ _ hk heffect hk' h => h.step hk heffect hk') actions hl).acknowledged
  · intro n w a m e i k _ hm he hk
    obtain ⟨k', hk', heffect⟩ := effect_step (a := a) hk
    refine ⟨k', hk', ?_⟩
    rw [heffect.reserves hm he]
    rcases k.reserve_cases e with ⟨haccepts, heq⟩ | ⟨hnot, heq⟩
    · rw [if_pos haccepts, heq]
      rfl
    · rw [if_neg (by simp [hnot]), heq]

/-- A client sends two texts and is gone before it has read anything. The writer finds out when the
first text has been replied to. -/
def goneBetweenReplies : List Action := [
  .connect "c" {},
  .arrive "c" (.text "\x7b\"op\":\"status\",\"ref\":1\x7d"),
  .arrive "c" (.text "hello"),
  .leave "c",
  .task (.reader "c"),
  .task (.writer "c"),
  .task (.reader "c")]

/-- Both texts are processed; the reply to the second, which is no message, is refused. -/
theorem second_reply_refused :
    ∃ l exchanges,
      ((start { jwtSecret := "s" } {}).run goneBetweenReplies).line? "c" = some l ∧
      Acknowledged (helloFrame "c" 30000) "c"
        ((start { jwtSecret := "s" } {}).history goneBetweenReplies) l exchanges none ∧
      exchanges.map Exchange.text = ["\x7b\"op\":\"status\",\"ref\":1\x7d", "hello"] ∧
      l.session.ending = some (some .slowConsumer) ∧ l.queuedFrames.length = 2 := by
  have hrun : (((start { jwtSecret := "s" } {}).run goneBetweenReplies).line? "c").map (fun l =>
      (l.session.reader.reference?, l.session.inbox, l.session.ending, l.queuedFrames.length)) =
        some (none, [.ended], some (some .slowConsumer), 2) := by
    decide +kernel
  obtain ⟨l, hl, heq⟩ := Option.map_eq_some_iff.1 hrun
  simp only [Prod.mk.injEq] at heq
  obtain ⟨hreader, hinbox, hending, hlength⟩ := heq
  obtain ⟨⟨exchanges, underWay, hacknowledged⟩, -⟩ := texts_acknowledged hl
  obtain rfl : underWay = none := Option.map_eq_none_iff.1 (hacknowledged.busy.trans hreader)
  refine ⟨l, exchanges, hl, hacknowledged, ?_, hending, hlength⟩
  have htexts : ((start { jwtSecret := "s" } {}).history goneBetweenReplies).flatMap (textsOf "c") =
      ["\x7b\"op\":\"status\",\"ref\":1\x7d", "hello"] := by
    decide +kernel
  have harrived := hacknowledged.arrived
  rw [htexts, hinbox, show [Arrival.ended].filterMap Arrival.text? = [] from rfl] at harrived
  simpa using harrived.symm

end World

end EventGateway
