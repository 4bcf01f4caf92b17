import EventGateway.Proofs.Service.Readmission
import EventGateway.Proofs.Session.Answers

/-!
# Failures change nothing

A text whose reply says that the command did not succeed has written nothing by then, however many steps
its authentication has taken. Every step leaves the principal, the rooms and the heartbeat of the
connection alone, and all of the service but the connection; what remains is the reply. It is queued, or
ends the session because it is not accepted. This holds in every state, whatever the store does.
-/

namespace EventGateway

/-- The connection apart from what is queued on it. -/
def Connection.withoutQueue (c : Connection) : Connection := { c with outbound := {} }

/-- The session apart from what its reader works on. -/
def Session.withoutInput (s : Session) : Session := { s with inbox := [], reader := .idle }

namespace World

/-- The worlds differ at most in what is queued on a connection and in what its reader works on. -/
structure Unwritten (w w' : World) (id : ConnectionId) : Prop where
  table : w'.broker.table = w.broker.table
  registry : w'.broker.registry = w.broker.registry
  connection : (w'.broker.connection? id).map Connection.withoutQueue =
    (w.broker.connection? id).map Connection.withoutQueue
  session : (w'.sessions.get? id).map Session.withoutInput =
    (w.sessions.get? id).map Session.withoutInput
  others : ∀ i, i ≠ id → w'.broker.connection? i = w.broker.connection? i ∧
    w'.sessions.get? i = w.sessions.get? i
  config : w'.config = w.config
  store : w'.store = w.store
  now : w'.now = w.now
  bus : w'.bus = w.bus
  listener : w'.listener = w.listener
  passes : w'.passes = w.passes

variable {w w' w'' : World} {id : ConnectionId}

lemma Unwritten.refl (w : World) (id : ConnectionId) : w.Unwritten w id :=
  ⟨rfl, rfl, rfl, rfl, fun _ _ => ⟨rfl, rfl⟩, rfl, rfl, rfl, rfl, rfl, rfl⟩

lemma Unwritten.trans (h : w.Unwritten w' id) (h' : w'.Unwritten w'' id) : w.Unwritten w'' id where
  table := h'.table.trans h.table
  registry := h'.registry.trans h.registry
  connection := h'.connection.trans h.connection
  session := h'.session.trans h.session
  others i hi :=
    ⟨(h'.others i hi).1.trans (h.others i hi).1, (h'.others i hi).2.trans (h.others i hi).2⟩
  config := h'.config.trans h.config
  store := h'.store.trans h.store
  now := h'.now.trans h.now
  bus := h'.bus.trans h.bus
  listener := h'.listener.trans h.listener
  passes := h'.passes.trans h.passes

lemma unwritten_modifySession (w : World) (id : ConnectionId) {f : Session → Session}
    (hf : ∀ s, (f s).withoutInput = s.withoutInput) : w.Unwritten (w.modifySession id f) id where
  table := rfl
  registry := rfl
  connection := rfl
  session := by
    simp only [modifySession, Dictionary.get?_modify, if_true, Option.map_map]
    congr 1
    exact funext hf
  others i hi := ⟨rfl, by simp only [modifySession, Dictionary.get?_modify, if_neg hi]⟩
  config := rfl
  store := rfl
  now := rfl
  bus := rfl
  listener := rfl
  passes := rfl

lemma unwritten_modifyConnection (w : World) (id : ConnectionId) {f : Connection → Connection}
    (hf : ∀ c, (f c).withoutQueue = c.withoutQueue) :
    w.Unwritten (w.modifyConnection id f) id where
  table := rfl
  registry := rfl
  connection := by
    rw [show (w.modifyConnection id f).broker = w.broker.modify id f from rfl,
      Broker.alters_modify w.broker id f id, if_pos rfl, Option.map_map]
    congr 1
    exact funext hf
  session := rfl
  others i hi := ⟨(Broker.alters_modify w.broker id f i).trans (if_neg hi), rfl⟩
  config := rfl
  store := rfl
  now := rfl
  bus := rfl
  listener := rfl
  passes := rfl

lemma unwritten_countTurn (w : World) (id : ConnectionId) : w.Unwritten w.countTurn id :=
  ⟨rfl, rfl, rfl, rfl, fun _ _ => ⟨rfl, rfl⟩, rfl, rfl, rfl, rfl, rfl, rfl⟩

lemma unwritten_setReader (w : World) (id : ConnectionId) (reader : Reader) :
    w.Unwritten (w.setReader id reader) id :=
  unwritten_modifySession w id fun _ => rfl

lemma withoutQueue_send (frame : String) (c : Connection) :
    (c.send frame).withoutQueue = c.withoutQueue := by
  simp only [Connection.send]
  split <;> rfl

/-- A reply is queued, which writes nothing else, or it ends the session. -/
lemma reply_cases {c : Connection} (hc : w.broker.connection? id = some c)
    (reference : Option UInt64) (result : Except CommandError ReplyMembers) :
    ((c.accepts = true ∨ c.closed = true) ∧ w.Unwritten (w.reply id reference result) id ∧
      w.reply id reference result =
        w.modifyConnection id fun c => c.send (renderReply reference result)) ∨
    (c.accepts = false ∧ c.closed = false ∧
      w.reply id reference result = w.endReader id (some .slowConsumer)) := by
  simp only [reply, hc]
  by_cases ha : c.accepts = true ∨ c.closed = true
  · rw [if_pos ha]
    exact .inl ⟨ha, unwritten_modifyConnection w id (withoutQueue_send _), rfl⟩
  · rw [if_neg ha]
    rw [not_or, Bool.not_eq_true, Bool.not_eq_true] at ha
    exact .inr ⟨ha.1, ha.2, rfl⟩

/-! ### Steps that come to an error -/

variable {l : Line} {e : CommandError}

lemma settleAuthentication_of_error {progress : Limited (Except CommandError Principal)}
    (h : authenticationReply? progress = some (.error e)) (w : World) (id : ConnectionId)
    (reference : Option UInt64) : w.settleAuthentication id reference progress =
      (w.setReader id .idle).reply id reference (.error e) := by
  cases progress with
  | finished r =>
    simp only [authenticationReply?, Option.some.injEq] at h
    simp only [settleAuthentication]
    cases hr : authenticationResult r with
    | ok p =>
      rw [hr] at h
      cases h
    | error e' =>
      rw [hr] at h
      cases h
      rfl
  | timedOut =>
    cases h
    rfl
  | waiting lookup => cases h

lemma perform_of_error {command : Command} (hl : w.line? id = some l)
    (h : l.commandResult? w.moment command = some (.error e)) (reference : Option UInt64) :
    ∃ w₀, w.Unwritten w₀ id ∧ w₀.broker = w.broker ∧
      w.perform id reference command = w₀.reply id reference (.error e) := by
  have hc := (line?_eq_some_iff.1 hl).2
  cases command with
  | authenticate token =>
    refine ⟨w.setReader id .idle, unwritten_setReader w id _, rfl, ?_⟩
    simp only [perform, hc]
    exact settleAuthentication_of_error h w id reference
  | subscribe rooms =>
    refine ⟨w, .refl w id, rfl, ?_⟩
    simp only [Line.commandResult?, Line.subscribe, Option.some.injEq] at h
    simp only [perform, Broker.subscribe, hc]
    by_cases hclosed : l.connection.closed = true
    · rw [if_pos hclosed] at h
      cases h
    · rw [if_neg hclosed] at h ⊢
      cases hr : rooms.findSome? l.connection.principal.refusal? with
      | none =>
        rw [hr] at h
        cases h
      | some e' =>
        rw [hr] at h
        cases h
        rfl
  | unsubscribe rooms => cases h
  | status => cases h
  | heartbeat => cases h

lemma receiveText_of_error {text : String} (hl : w.line? id = some l) {a : Answer}
    (ha : l.textAnswer? w.moment text = some a) (he : a.result = .error e) :
    ∃ w₀, w.Unwritten w₀ id ∧ w₀.broker = w.broker ∧
      w.receiveText id text = w₀.reply id a.reference a.result := by
  simp only [Line.textAnswer?] at ha
  simp only [receiveText]
  cases htext : ClientMessage.ofText text with
  | error fault =>
    rw [htext] at ha
    cases ha
    exact ⟨w, .refl w id, rfl, rfl⟩
  | ok message =>
    simp only [htext] at ha
    dsimp only
    cases hcommand : Command.ofMessage message with
    | error e' =>
      rw [hcommand] at ha
      cases ha
      exact ⟨w, .refl w id, rfl, rfl⟩
    | ok command =>
      simp only [hcommand] at ha
      obtain ⟨r, hr, rfl⟩ := Option.map_eq_some_iff.1 ha
      cases he
      exact perform_of_error hl hr message.reference

/-- The reader takes a text, which writes nothing yet, and deals with it. -/
lemma read_of_taken {text : String} (hl : w.line? id = some l) (htaken : l.taken? = some text) :
    ∃ w₀ k, w.Unwritten w₀ id ∧ w₀.broker = w.broker ∧ w₀.moment = w.moment ∧
      w₀.line? id = some k ∧ k.textAnswer? w.moment text = l.textAnswer? w.moment text ∧
      w.read id = w₀.receiveText id text := by
  obtain ⟨hidle, rest, hinbox⟩ := Line.inbox_of_taken? htaken
  have hs := (line?_eq_some_iff.1 hl).1
  refine ⟨w.modifySession id fun s => { s with inbox := rest }, _,
    unwritten_modifySession w id fun _ => rfl, rfl, rfl, (modifies_modifySession w id _).line_own hl,
    Line.textAnswer?_modifySession w.moment l _ text, ?_⟩
  simp only [read, hs, hidle, hinbox]
  rfl

/-- A step of the reader whose answer is an error has written nothing when it replies. -/
lemma read_of_error (hl : w.line? id = some l) {a : Answer} (ha : l.answer? w.moment = some a)
    (he : a.result = .error e) :
    ∃ w₀, w.Unwritten w₀ id ∧ w₀.broker = w.broker ∧
      w.read id = w₀.reply id a.reference a.result := by
  simp only [Line.answer?] at ha
  cases hr : l.session.reader with
  | idle =>
    simp only [hr] at ha
    obtain ⟨text, htaken, ha⟩ := Option.bind_eq_some_iff.1 ha
    obtain ⟨w₁, k, hw₁, hbroker₁, hmoment, hk, hanswer, hread⟩ := read_of_taken hl htaken
    rw [← hanswer, ← hmoment] at ha
    obtain ⟨w₀, hw₀, hbroker, hreceive⟩ := receiveText_of_error hk ha he
    exact ⟨w₀, hw₁.trans hw₀, hbroker.trans hbroker₁, hread.trans hreceive⟩
  | authenticating reference lookup =>
    have hs := (line?_eq_some_iff.1 hl).1
    simp only [hr] at ha
    simp only [read, hs, hr]
    split at ha
    · next hready =>
      obtain ⟨r, hreply, rfl⟩ := Option.map_eq_some_iff.1 ha
      cases he
      have hready : lookup.readyAt ≤ w.now := hready
      rw [if_pos hready]
      exact ⟨w.setReader id .idle, unwritten_setReader w id _, rfl,
        settleAuthentication_of_error hreply w id reference⟩
    · cases ha
  | ended =>
    simp only [hr] at ha
    cases ha

/-! ### Steps that have to wait -/

lemma settleAuthentication_of_wait {progress : Limited (Except CommandError Principal)}
    (h : authenticationReply? progress = none) (w : World) (id : ConnectionId)
    (reference : Option UInt64) :
    w.Unwritten (w.settleAuthentication id reference progress) id := by
  cases progress with
  | finished r => cases h
  | timedOut => cases h
  | waiting lookup => exact (unwritten_countTurn w id).trans (unwritten_setReader _ id _)

lemma unwritten_receiveText {text : String} (hl : w.line? id = some l)
    (ha : l.textAnswer? w.moment text = none) : w.Unwritten (w.receiveText id text) id := by
  have hc := (line?_eq_some_iff.1 hl).2
  simp only [Line.textAnswer?] at ha
  simp only [receiveText]
  cases htext : ClientMessage.ofText text with
  | error fault => simp [htext] at ha
  | ok message =>
    simp only [htext] at ha
    dsimp only
    cases hcommand : Command.ofMessage message with
    | error e => simp [hcommand] at ha
    | ok command =>
      simp only [hcommand, Option.map_eq_none_iff] at ha
      cases command with
      | authenticate token =>
        simp only [perform, hc]
        exact settleAuthentication_of_wait ha w id _
      | subscribe rooms => cases ha
      | unsubscribe rooms => cases ha
      | status => cases ha
      | heartbeat => cases ha

/-- While the answer to a text waits nothing is written. -/
lemma unwritten_read (hl : w.line? id = some l) (ha : l.answer? w.moment = none)
    (hends : ∀ rest, l.session.reader = .idle → l.session.inbox ≠ .ended :: rest) :
    w.Unwritten (w.read id) id := by
  have hs := (line?_eq_some_iff.1 hl).1
  simp only [Line.answer?] at ha
  cases hr : l.session.reader with
  | idle =>
    cases hinbox : l.session.inbox with
    | nil =>
      simp only [read, hs, hr, hinbox]
      exact .refl w id
    | cons arrival rest =>
      cases arrival with
      | text text =>
        have htaken : l.taken? = some text := by simp only [Line.taken?, hr, hinbox]
        simp only [hr, htaken, Option.bind_some] at ha
        obtain ⟨w₀, k, hw₀, -, hmoment, hk, hanswer, hread⟩ := read_of_taken hl htaken
        rw [← hanswer, ← hmoment] at ha
        rw [hread]
        exact hw₀.trans (unwritten_receiveText hk ha)
      | other =>
        simp only [read, hs, hr, hinbox]
        exact unwritten_modifySession w id fun _ => rfl
      | ended => exact absurd hinbox (hends rest hr)
  | authenticating reference lookup =>
    simp only [hr] at ha
    simp only [read, hs, hr]
    by_cases hready : lookup.readyAt ≤ w.now
    · rw [if_pos hready]
      rw [show w.moment.now = w.now from rfl, if_pos hready, Option.map_eq_none_iff] at ha
      exact settleAuthentication_of_wait ha w id reference
    · rw [if_neg hready]
      exact .refl w id
  | ended =>
    simp only [read, hs, hr]
    exact .refl w id

lemma reader_reply (l : Line) (reference : Option UInt64)
    (result : Except CommandError ReplyMembers) :
    (l.reply reference result).session.reader = l.session.reader ∨
      (l.reply reference result).session.reader = .ended := by
  simp only [Line.reply]
  split
  · exact .inl rfl
  · exact .inr rfl

/-- Is the reader at work on a text that it has taken? -/
def isBusy (w : World) (id : ConnectionId) : Bool :=
  (w.line? id).any fun l => l.session.reader.reference?.isSome

lemma exists_of_isBusy (h : w.isBusy id = true) : ∃ l reference lookup, w.line? id = some l ∧
    l.session.reader = .authenticating reference lookup := by
  obtain ⟨l, hl, hbusy⟩ := (Option.any_eq_true _ _).1 h
  cases hr : l.session.reader with
  | idle => simp [hr, Reader.reference?] at hbusy
  | authenticating reference lookup => exact ⟨l, reference, lookup, hl, hr⟩
  | ended => simp [hr, Reader.reference?] at hbusy

/-- A step after which the reader is at work has written nothing. -/
lemma unwritten_of_isBusy (h : (w.read id).isBusy id = true) : w.Unwritten (w.read id) id := by
  obtain ⟨k, reference, lookup, hk, hbusy⟩ := exists_of_isBusy h
  have hline := (modifies_read w id).line id
  rw [if_pos rfl, hk] at hline
  obtain ⟨l, hl, hread⟩ := Option.map_eq_some_iff.1 hline.symm
  have hserves := Line.serves_read w.moment l
  rw [hread] at hserves
  cases hserves with
  | answers j a _ hprepares =>
    rcases reader_reply j a.reference a.result with hr | hr
    · rw [hr, hprepares.reader] at hbusy
      cases hbusy
    · rw [hr] at hbusy
      cases hbusy
  | begins _ hidle hinbox ha =>
    refine unwritten_read hl ha fun rest _ hended => ?_
    rw [hinbox] at hended
    cases hended
  | waits _ hr ha =>
    refine unwritten_read hl ha fun rest hidle _ => ?_
    rw [hidle] at hr
    cases hr
  | skips hidle =>
    have hbusy : l.session.reader = _ := hbusy
    rw [hidle] at hbusy
    cases hbusy
  | ends => cases hbusy
  | rests _ ha =>
    refine unwritten_read hl ha fun rest hidle _ => ?_
    rw [hidle] at hbusy
    cases hbusy

/-! ### Commands that do not succeed -/

/-- The reader takes a text in the step of position `n`, and is at work on it until it gives the answer
in the step of position `k`. -/
structure Processes (history : List Happening) (id : ConnectionId) (n k : Nat) (text : String)
    (a : Answer) : Prop where
  le : n ≤ k
  takes : ∃ w l, history[n]? = some (w, .task (.reader id)) ∧ w.line? id = some l ∧
    l.taken? = some text
  busy : ∀ i w b, n < i → i ≤ k → history[i]? = some (w, b) → w.isBusy id = true
  answers : ∃ w l, history[k]? = some (w, .task (.reader id)) ∧ w.line? id = some l ∧
    l.answer? w.moment = some a

/-- A text whose reply says that the command did not succeed writes nothing in any step of the reader,
from the one that takes it to the one that replies. The reply is then queued, if it is accepted, and
nothing else has been written; otherwise it ends the session. -/
theorem failure_writes_nothing {actions : List Action} {n k : Nat} {text : String} {a : Answer}
    (h : Processes (w.history actions) id n k text a) (hfails : a.Fails) :
    (∀ i v, n ≤ i → i < k → (w.history actions)[i]? = some (v, .task (.reader id)) →
      v.Unwritten (v.step (.task (.reader id))) id) ∧
    ∃ v v₀ c, (w.history actions)[k]? = some (v, .task (.reader id)) ∧ v.Unwritten v₀ id ∧
      v₀.broker = v.broker ∧ v.broker.connection? id = some c ∧
      if c.accepts ∨ c.closed then
        v.step (.task (.reader id)) = v₀.modifyConnection id (fun c => c.send a.frame) ∧
          v.Unwritten (v.step (.task (.reader id))) id
      else v.step (.task (.reader id)) = v₀.endReader id (some .slowConsumer) := by
  constructor
  · intro i v hn hk hv
    obtain ⟨u, b, hu⟩ : ∃ u b, (w.history actions)[i + 1]? = some (u, b) := by
      obtain ⟨v', l, hv', -⟩ := h.answers
      have hlt := (List.getElem?_eq_some_iff.1 hv').1
      exact ⟨_, _, List.getElem?_eq_getElem (by omega)⟩
    have hbusy := h.busy (i + 1) u b (by omega) (by omega) hu
    obtain rfl := getElem?_history_succ hv hu
    exact unwritten_of_isBusy hbusy
  · obtain ⟨v, l, hv, hl, ha⟩ := h.answers
    obtain ⟨e, he⟩ := Answer.fails_iff.1 hfails
    obtain ⟨v₀, hunwritten, hbroker, hread⟩ := read_of_error hl ha he
    have hc := (line?_eq_some_iff.1 hl).2
    refine ⟨v, v₀, l.connection, hv, hunwritten, hbroker, hc, ?_⟩
    rw [← hbroker] at hc
    have hstep : v.step (.task (.reader id)) = v₀.reply id a.reference a.result := hread
    rcases reply_cases hc a.reference a.result with ⟨haccepts, hreply, heq⟩ | ⟨hnot, hopen, heq⟩
    · rw [if_pos haccepts, hstep]
      exact ⟨heq, hunwritten.trans hreply⟩
    · rw [if_neg (by simp [hnot, hopen]), hstep]
      exact heq

/-- An authentication whose time is over between its two lookups. -/
def timesOut : List Action := [
  .updateStore (.content (.addUser "luna")),
  .updateStore (.content (.putToken
    ⟨"apt_luna", "luna", 1, true, .ofList [.readRealtime], .ofTexts [] []⟩)),
  .updateStore (.setLatency (some 300)),
  .connect "c" {},
  .task (.writer "c"),
  .task (.writer "c"),
  .arrive "c" (.text ("\x7b\"op\":\"auth\",\"ref\":7,\"d\":\x7b\"authToken\":\"" ++ firstIssue ++
    "\"\x7d\x7d")),
  .task (.reader "c"),
  .elapse 300,
  .task (.reader "c"),
  .elapse 500,
  .task (.reader "c")]

/-- The service before the step of position `n`. -/
def timesOutBefore (n : Nat) : World := (start { jwtSecret := "secret" } {}).run (timesOut.take n)

lemma getElem?_timesOut {n : Nat} {a : Action} (h : timesOut[n]? = some a) :
    ((start { jwtSecret := "secret" } {}).history timesOut)[n]? = some (timesOutBefore n, a) := by
  rw [getElem?_history, h]
  rfl

/-- The reader takes three steps for it, and they leave everything as it is but for the reply. -/
theorem timeout_writes_nothing :
    ∃ text, Processes ((start { jwtSecret := "secret" } {}).history timesOut) "c" 7 11 text
        ⟨some 7, .error .timeout⟩ ∧
      (timesOutBefore 7).Unwritten ((timesOutBefore 7).step (.task (.reader "c"))) "c" ∧
      (timesOutBefore 9).Unwritten ((timesOutBefore 9).step (.task (.reader "c"))) "c" ∧
      (timesOutBefore 11).Unwritten ((timesOutBefore 11).step (.task (.reader "c"))) "c" := by
  have hrun : (((timesOutBefore 7).line? "c").bind Line.taken?).isSome = true ∧
      (((start { jwtSecret := "secret" } {}).history timesOut).drop 8).all
        (fun x => x.1.isBusy "c") = true ∧
      ((timesOutBefore 11).line? "c").map (fun l => (l.connection.accepts,
        (l.answer? (timesOutBefore 11).moment).map fun a => (a.reference, a.error?))) =
          some (true, some (some 7, some .timeout)) := by
    decide +kernel
  obtain ⟨htaken, hbusy, hlast⟩ := hrun
  obtain ⟨text, htext⟩ := Option.isSome_iff_exists.1 htaken
  obtain ⟨l, hl, htaken⟩ := Option.bind_eq_some_iff.1 htext
  obtain ⟨k, hk, hlast⟩ := Option.map_eq_some_iff.1 hlast
  obtain ⟨haccepts, hanswer⟩ := Prod.mk.inj hlast
  obtain ⟨a, ha, hresult⟩ := Option.map_eq_some_iff.1 hanswer
  obtain ⟨reference, result⟩ := a
  obtain ⟨rfl, hresult⟩ := Prod.mk.inj hresult
  obtain rfl : result = .error .timeout := Answer.error?_eq_some_iff.1 hresult
  have hprocesses : Processes ((start { jwtSecret := "secret" } {}).history timesOut) "c" 7 11 text
      ⟨some 7, .error .timeout⟩ := by
    refine ⟨by decide, ⟨_, l, getElem?_timesOut rfl, hl, htaken⟩, ?_,
      ⟨_, k, getElem?_timesOut rfl, hk, ha⟩⟩
    intro i v b hi _ hv
    apply List.all_eq_true.1 hbusy (v, b)
    refine List.mem_iff_getElem?.2 ⟨i - 8, ?_⟩
    rw [List.getElem?_drop, Nat.add_sub_cancel' hi]
    exact hv
  obtain ⟨hwaits, v, v₀, c, hv, -, -, hc, hreply⟩ :=
    failure_writes_nothing hprocesses (Answer.fails_iff.2 ⟨.timeout, rfl⟩)
  refine ⟨text, hprocesses, hwaits 7 _ (by decide) (by decide) (getElem?_timesOut rfl),
    hwaits 9 _ (by decide) (by decide) (getElem?_timesOut rfl), ?_⟩
  rw [getElem?_timesOut rfl, Option.some.injEq, Prod.mk.injEq] at hv
  obtain ⟨rfl, -⟩ := hv
  rw [(line?_eq_some_iff.1 hk).2, Option.some.injEq] at hc
  subst hc
  rw [if_pos (.inl haccepts)] at hreply
  exact hreply.2

end World

end EventGateway
