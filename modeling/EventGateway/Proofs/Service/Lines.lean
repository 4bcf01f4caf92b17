import EventGateway.Proofs.Broker.Membership
import EventGateway.Proofs.Session.LineTasks
import EventGateway.Service.Step

/-!
# Lines of the service

What a step of a task does to all lines at once: the task of a connection does to its line what
`LineTasks` tells and leaves the others alone, and it changes neither the store nor the clock.
-/

namespace EventGateway.World

/-- What a task finds outside the connection that it is about. -/
def moment (w : World) : Moment where
  config := w.config
  store := w.store
  now := w.now
  turn := w.turns

/-- Every session has a connection, and every connection a session. -/
def Paired (w : World) : Prop :=
  ∀ id, (w.sessions.get? id).isSome = (w.broker.connection? id).isSome

/-! ### What stays -/

/-- What a step leaves alone that concerns lines only. -/
structure Keeps (w w' : World) : Prop where
  broker : w.broker.Leads w'.broker
  paired : w.Paired → w'.Paired
  known : ∀ i, (w'.line? i).isSome = (w.line? i).isSome
  config : w'.config = w.config
  store : w'.store = w.store
  now : w'.now = w.now
  bus : w'.bus = w.bus
  listener : w'.listener = w.listener
  passes : w'.passes = w.passes

lemma Keeps.refl (w : World) : w.Keeps w := ⟨.refl, id, fun _ => rfl, rfl, rfl, rfl, rfl, rfl, rfl⟩

lemma Keeps.trans {w w' w'' : World} (h : w.Keeps w') (h' : w'.Keeps w'') : w.Keeps w'' where
  broker := h.broker.trans h'.broker
  paired := h'.paired ∘ h.paired
  known i := (h'.known i).trans (h.known i)
  config := h'.config.trans h.config
  store := h'.store.trans h.store
  now := h'.now.trans h.now
  bus := h'.bus.trans h.bus
  listener := h'.listener.trans h.listener
  passes := h'.passes.trans h.passes

/-- The one world comes from the other by a change of one line. -/
structure Modifies (w w' : World) (id : ConnectionId) (f : Line → Line) : Prop extends
    Keeps w w' where
  line : ∀ i, w'.line? i = if i = id then (w.line? i).map f else w.line? i

/-! ### Lines afterwards -/

lemma line?_eq_some_iff {w : World} {id : ConnectionId} {l : Line} :
    w.line? id = some l ↔
      w.sessions.get? id = some l.session ∧ w.broker.connection? id = some l.connection := by
  simp only [line?]
  constructor
  · intro h
    split at h
    · next s c hs hc =>
      cases h
      exact ⟨hs, hc⟩
    · cases h
  · rintro ⟨hs, hc⟩
    rw [hs, hc]

/-- A connection is one of a line, if every connection has a session. -/
lemma Paired.exists_line {w : World} (h : w.Paired) {id : ConnectionId} {c : Connection}
    (hc : w.broker.connection? id = some c) : ∃ l, w.line? id = some l ∧ l.connection = c := by
  have hsession : (w.sessions.get? id).isSome = true := by
    rw [h id, hc]
    rfl
  obtain ⟨s, hs⟩ := Option.isSome_iff_exists.1 hsession
  exact ⟨⟨s, c⟩, line?_eq_some_iff.2 ⟨hs, hc⟩, rfl⟩

lemma line?_eq_bind (w : World) (id : ConnectionId) :
    w.line? id = (w.sessions.get? id).bind fun session =>
      (w.broker.connection? id).map fun connection => { session, connection } := by
  simp only [line?]
  cases w.sessions.get? id <;> cases w.broker.connection? id <;> rfl

lemma line?_eq_none_of_connection? {w : World} {id : ConnectionId}
    (h : w.broker.connection? id = none) : w.line? id = none := by
  simp only [line?]
  rw [h]
  split <;> simp_all

lemma line?_eq_none_of_session {w : World} {id : ConnectionId}
    (h : w.sessions.get? id = none) : w.line? id = none := by
  simp only [line?]
  rw [h]

namespace Modifies

variable {w w' w'' : World} {id : ConnectionId} {f g : Line → Line}

lemma line_own (h : w.Modifies w' id f) {l : Line} (hl : w.line? id = some l) :
    w'.line? id = some (f l) := by
  rw [h.line, if_pos rfl, hl]
  rfl

lemma trans (h : w.Modifies w' id f) (h' : w'.Modifies w'' id g) :
    w.Modifies w'' id fun l => g (f l) where
  toKeeps := h.toKeeps.trans h'.toKeeps
  line i := by
    rw [h'.line, h.line]
    split
    · rw [Option.map_map]
      rfl
    · rfl

/-- Only what becomes of the line that there is matters. -/
lemma congr (h : w.Modifies w' id f) (hg : ∀ l, w.line? id = some l → g l = f l) :
    w.Modifies w' id g where
  toKeeps := h.toKeeps
  line i := by
    rw [h.line]
    split
    · next hi =>
      subst hi
      cases hl : w.line? i with
      | none => rfl
      | some l => rw [Option.map_some, Option.map_some, hg l hl]
    · rfl

lemma self (h : ∀ l, w.line? id = some l → f l = l) : w.Modifies w id f where
  toKeeps := .refl w
  line i := by
    split
    · next hi =>
      subst hi
      cases hl : w.line? i with
      | none => rfl
      | some l => rw [Option.map_some, h l hl]
    · rfl

end Modifies

lemma isSome_of_line {w w' : World} {id : ConnectionId} {f : Line → Line}
    (h : ∀ i, w'.line? i = if i = id then (w.line? i).map f else w.line? i) (i : ConnectionId) :
    (w'.line? i).isSome = (w.line? i).isSome := by
  rw [h]
  split <;> simp

lemma line?_modifySession (w : World) (id i : ConnectionId) (f : Session → Session) :
    (w.modifySession id f).line? i =
      if i = id then (w.line? i).map fun l => l.modifySession f else w.line? i := by
  simp only [line?_eq_bind, modifySession, Dictionary.get?_modify]
  split
  · cases w.sessions.get? i <;> cases w.broker.connection? i <;> rfl
  · rfl

lemma modifies_modifySession (w : World) (id : ConnectionId) (f : Session → Session) :
    w.Modifies (w.modifySession id f) id fun l => l.modifySession f where
  broker := .refl
  paired h i := by
    refine Eq.trans ?_ (h i)
    simp only [modifySession, Dictionary.get?_modify]
    split <;> simp
  known := isSome_of_line fun i => line?_modifySession w id i f
  config := rfl
  store := rfl
  now := rfl
  bus := rfl
  listener := rfl
  passes := rfl
  line i := line?_modifySession w id i f

lemma line?_alters {w : World} {id : ConnectionId} {b : Broker} {f : Connection → Connection}
    (h : w.broker.Alters b id f) (i : ConnectionId) :
    ({ w with broker := b } : World).line? i =
      if i = id then (w.line? i).map fun l => l.modifyConnection f else w.line? i := by
  simp only [line?_eq_bind, h i]
  split
  · cases w.sessions.get? i <;> cases w.broker.connection? i <;> rfl
  · rfl

lemma modifies_broker {w : World} {id : ConnectionId} {b : Broker} {f : Connection → Connection}
    (h : w.broker.Alters b id f) (hb : w.broker.Leads b) :
    w.Modifies { w with broker := b } id fun l => l.modifyConnection f where
  broker := hb
  paired hp i := by
    apply (hp i).trans
    rw [h i]
    split <;> simp
  known := isSome_of_line fun i => line?_alters h i
  config := rfl
  store := rfl
  now := rfl
  bus := rfl
  listener := rfl
  passes := rfl
  line i := line?_alters h i

lemma modifies_modifyConnection (w : World) (id : ConnectionId) {f : Connection → Connection}
    (hf : ∀ c, w.broker.connection? id = some c →
      (f c).rooms = c.rooms ∧ (f c).closed = c.closed) :
    w.Modifies (w.modifyConnection id f) id fun l => l.modifyConnection f :=
  modifies_broker (Broker.alters_modify _ _ _) (.single (.modify id hf))

lemma modifies_countTurn (w : World) (id : ConnectionId) : w.Modifies w.countTurn id fun l => l :=
  ⟨⟨.refl, fun h => h, fun _ => rfl, rfl, rfl, rfl, rfl, rfl, rfl⟩,
    fun i => by split <;> simp [countTurn, line?]⟩

/-! ### The reader -/

lemma modifies_endReader (w : World) (id : ConnectionId) (code : Option CloseCode) :
    w.Modifies (w.endReader id code) id fun l => l.endReader code :=
  (modifies_broker (Broker.alters_disconnect w.broker id) (.single (.disconnect w.broker id))).trans
    (modifies_modifySession _ id _)

lemma send_keeps (frame : String) (c : Connection) :
    (c.send frame).rooms = c.rooms ∧ (c.send frame).closed = c.closed := by
  simp only [Connection.send]
  split <;> exact ⟨rfl, rfl⟩

lemma modifies_reply (w : World) (id : ConnectionId) (reference : Option UInt64)
    (result : Except CommandError ReplyMembers) :
    w.Modifies (w.reply id reference result) id fun l => l.reply reference result := by
  simp only [reply]
  split
  · next h => exact .self fun l hl => by simp [line?_eq_none_of_connection? h] at hl
  · next c h =>
    have hc (l : Line) (hl : w.line? id = some l) : l.connection = c := by
      rw [(line?_eq_some_iff.1 hl).2] at h
      exact Option.some.inj h
    split
    · next ha =>
      refine (modifies_modifyConnection w id fun c _ => send_keeps _ c).congr fun l hl => ?_
      rw [Line.reply, hc l hl, if_pos ha]
    · next ha =>
      refine (modifies_endReader w id _).congr fun l hl => ?_
      rw [Line.reply, hc l hl, if_neg ha]

lemma modifies_replyWith (w : World) (id : ConnectionId) (reference : Option UInt64)
    (members : Connection → ReplyMembers) :
    w.Modifies (w.replyWith id reference members) id fun l =>
      l.reply reference (.ok (members l.connection)) := by
  simp only [replyWith]
  split
  · next h => exact .self fun l hl => by simp [line?_eq_none_of_connection? h] at hl
  · next c h =>
    refine (modifies_reply w id reference _).congr fun l hl => ?_
    rw [(line?_eq_some_iff.1 hl).2] at h
    rw [Option.some.inj h]

lemma modifies_setReader (w : World) (id : ConnectionId) (reader : Reader) :
    w.Modifies (w.setReader id reader) id fun l => l.setReader reader :=
  modifies_modifySession w id _

lemma modifies_finishAuthentication (w : World) (id : ConnectionId) (reference : Option UInt64)
    (result : Except CommandError Principal) :
    w.Modifies (w.finishAuthentication id reference result) id fun l =>
      l.finishAuthentication reference result := by
  cases result with
  | ok p =>
    exact ((modifies_setReader w id .idle).trans
      (modifies_modifyConnection (f := fun c => c.setPrincipal p) _ id fun _ _ => ⟨rfl, rfl⟩)).trans
      (modifies_reply _ id reference _)
  | error e => exact (modifies_setReader w id .idle).trans (modifies_reply _ id reference _)

lemma modifies_settleAuthentication (w : World) (id : ConnectionId) (reference : Option UInt64)
    (progress : Limited (Except CommandError Principal)) :
    w.Modifies (w.settleAuthentication id reference progress) id fun l =>
      l.settleAuthentication reference progress := by
  cases progress with
  | finished r => exact modifies_finishAuthentication w id reference _
  | timedOut => exact modifies_finishAuthentication w id reference (.error .timeout)
  | waiting lookup => exact (modifies_countTurn w id).trans (modifies_setReader _ id _)

lemma modifies_joins (w : World) {id : ConnectionId} {c : Connection}
    (hc : w.broker.connection? id = some c) (hopen : c.closed = false) (rooms : List Room) :
    w.Modifies { w with broker := rooms.foldl (fun b room => b.join id room) w.broker } id fun l =>
      rooms.foldl Line.join l := by
  induction rooms generalizing w c with
  | nil => exact .self fun _ _ => rfl
  | cons room rest ih =>
    have halters := Broker.alters_join w.broker id room
    have hfirst := modifies_broker halters (.single (.join room hc hopen))
    have hc' : (w.broker.join id room).connection? id = some (c.join room) := by
      rw [halters id, if_pos rfl, hc]
      rfl
    have hopen' : (c.join room).closed = false := by
      simp only [Connection.join]
      split <;> exact hopen
    exact hfirst.trans (ih { w with broker := w.broker.join id room } hc' hopen')

lemma modifies_leaves (w : World) (id : ConnectionId) (rooms : List Room) :
    w.Modifies { w with broker := w.broker.unsubscribe id rooms } id fun l =>
      rooms.foldl Line.leave l := by
  induction rooms generalizing w with
  | nil => exact .self fun _ _ => rfl
  | cons room rest ih =>
    have hfirst := modifies_broker (Broker.alters_leave w.broker id room) (.single (.leave _ id room))
    exact hfirst.trans (ih { w with broker := w.broker.leave id room })

lemma modifies_subscribe (w : World) (id : ConnectionId) (reference : Option UInt64)
    (m : Moment) (rooms : List Room) :
    w.Modifies (w.perform id reference (.subscribe rooms)) id fun l =>
      l.perform m reference (.subscribe rooms) := by
  simp only [perform, Broker.subscribe, Line.perform, Line.subscribe]
  cases hc : w.broker.connection? id with
  | none =>
    simp only [replyWith, hc]
    exact .self fun l hl => by simp [line?_eq_none_of_connection? hc] at hl
  | some c =>
    have hline (l : Line) (hl : w.line? id = some l) : l.connection = c :=
      Option.some.inj ((line?_eq_some_iff.1 hl).2.symm.trans hc)
    by_cases hclosed : c.closed = true
    · simp only [hclosed, if_true]
      refine (modifies_replyWith w id reference _).congr fun l hl => ?_
      simp only [hline l hl, hclosed, if_true]
    · simp only [hclosed]
      cases hr : rooms.findSome? c.principal.refusal? with
      | some e =>
        refine (modifies_reply w id reference (.error e)).congr fun l hl => ?_
        simp only [hline l hl, hclosed, hr]
        rfl
      | none =>
        have hopen : c.closed = false := by simpa using hclosed
        refine ((modifies_joins w hc hopen rooms).trans
          (modifies_replyWith _ id reference _)).congr fun l hl => ?_
        simp only [hline l hl, hclosed, hr]
        rfl

lemma modifies_perform (w : World) (id : ConnectionId) (reference : Option UInt64)
    (command : Command) :
    w.Modifies (w.perform id reference command) id fun l => l.perform w.moment reference command := by
  cases command with
  | authenticate token =>
    simp only [perform]
    split
    · next h => exact .self fun l hl => by simp [line?_eq_none_of_connection? h] at hl
    · next c h =>
      refine (modifies_settleAuthentication w id reference _).congr fun l hl => ?_
      rw [(line?_eq_some_iff.1 hl).2] at h
      rw [← Option.some.inj h]
      rfl
  | subscribe rooms => exact modifies_subscribe w id reference w.moment rooms
  | unsubscribe rooms =>
    exact (modifies_leaves w id rooms).trans (modifies_replyWith _ id reference _)
  | status => exact modifies_replyWith w id reference _
  | heartbeat => exact (modifies_modifySession w id _).trans (modifies_reply _ id reference _)

lemma modifies_receive (w : World) (id : ConnectionId) (arrival : Arrival) :
    w.Modifies (w.receive id arrival) id fun l => l.receive w.moment arrival := by
  cases arrival with
  | text text =>
    simp only [receive, receiveText, Line.receive, Line.receiveText]
    cases ClientMessage.ofText text with
    | error fault => exact modifies_reply w id none _
    | ok message =>
      dsimp only
      cases Command.ofMessage message with
      | error e => exact modifies_reply w id _ _
      | ok command => exact modifies_perform w id _ _
  | other => exact .self fun _ _ => rfl
  | ended => exact modifies_endReader w id none

lemma session_of_line? {w : World} {id : ConnectionId} {s : Session}
    (hs : w.sessions.get? id = some s) {l : Line} (hl : w.line? id = some l) : l.session = s :=
  Option.some.inj ((line?_eq_some_iff.1 hl).1.symm.trans hs)

lemma modifies_read (w : World) (id : ConnectionId) :
    w.Modifies (w.read id) id (Line.read w.moment) := by
  simp only [read]
  split
  · next h => exact .self fun l hl => by simp [line?_eq_none_of_session h] at hl
  · next s h =>
    split
    · next hr =>
      split
      · next hi =>
        exact .self fun l hl => by simp only [Line.read, session_of_line? h hl, hr, hi]
      · next arrival rest hi =>
        apply ((modifies_modifySession w id _).trans (modifies_receive _ id arrival)).congr
        intro l hl
        simp only [Line.read, session_of_line? h hl, hr, hi]
        rfl
    · next reference lookup hr =>
      split
      · next hready =>
        refine (modifies_settleAuthentication w id reference _).congr fun l hl => ?_
        simp only [Line.read, session_of_line? h hl, hr]
        exact if_pos hready
      · next hready =>
        refine .self fun l hl => ?_
        simp only [Line.read, session_of_line? h hl, hr]
        exact if_neg hready
    · next hr => exact .self fun l hl => by simp only [Line.read, session_of_line? h hl, hr]

lemma modifies_missHeartbeat (w : World) (id : ConnectionId) :
    w.Modifies (w.missHeartbeat id) id (Line.missHeartbeat w.now) := by
  simp only [missHeartbeat]
  cases h : w.sessions.get? id with
  | none => exact .self fun l hl => by simp [line?_eq_none_of_session h] at hl
  | some s =>
    have hline (l : Line) (hl : w.line? id = some l) : l.session = s := session_of_line? h hl
    simp only [Option.bind_some]
    split
    · next due hdue =>
      split
      · next hle =>
        refine (modifies_endReader w id _).congr fun l hl => ?_
        simp only [Line.missHeartbeat, hline l hl, hdue]
        rw [if_pos hle]
      · next hle =>
        refine .self fun l hl => ?_
        simp only [Line.missHeartbeat, hline l hl, hdue]
        rw [if_neg hle]
    · next hdue => exact .self fun l hl => by simp only [Line.missHeartbeat, hline l hl, hdue]

/-! ### The writer -/

/-- A change of one line that leaves the rooms alone. -/
lemma modifies_modifyLine (w : World) (id : ConnectionId) {f : Line → Line}
    (hf : ∀ l, (f l).connection.rooms = l.connection.rooms ∧
      (f l).connection.closed = l.connection.closed) : w.Modifies (w.modifyLine id f) id f := by
  simp only [modifyLine]
  split
  · next l hl =>
    have hc := (line?_eq_some_iff.1 hl).2
    refine ((modifies_modifySession w id fun _ => (f l).session).trans
      (modifies_modifyConnection (f := fun _ => (f l).connection) _ id fun c hc' => ?_)).congr
      fun k hk => ?_
    · rw [Option.some.inj (hc'.symm.trans hc)]
      exact hf l
    · rw [Option.some.inj (hk.symm.trans hl)]
      rfl
  · next h => exact .self fun l hl => by simp [h] at hl

lemma write_keeps (l : Line) : l.write.connection.rooms = l.connection.rooms ∧
    l.write.connection.closed = l.connection.closed := by
  obtain ⟨outbound, writing, written, heq, -⟩ := l.write_leaves
  rw [heq]
  exact ⟨rfl, rfl⟩

lemma modifies_write (w : World) (id : ConnectionId) : w.Modifies (w.write id) id Line.write :=
  modifies_modifyLine w id write_keeps

/-! ### Deliveries -/

lemma modifies_setStage (w : World) (t : Ticket) (stage : Stage) :
    w.Modifies (w.setStage t stage) t.connection fun l => l.setStage t.slot stage :=
  modifies_modifySession w t.connection _

lemma modifies_settleDelivery (w : World) (t : Ticket) (e : Event) (p : Principal)
    (progress : Limited Decision) :
    w.Modifies (w.settleDelivery t e p progress) t.connection fun l =>
      l.settleDelivery t.slot e p progress := by
  have hdecide (decision : Decision) : w.Modifies (w.decideDelivery t e p decision) t.connection
      fun l => l.conclude t.slot e p decision :=
    (modifies_setStage w t _).trans
      (modifies_modifyConnection (f := fun c => c.settle t.slot (e.delivered decision)) _ t.connection
        fun _ _ => ⟨rfl, rfl⟩)
  cases progress with
  | finished r => exact hdecide (decisionResult r)
  | timedOut => exact hdecide .deny
  | waiting lookup => exact (modifies_countTurn w t.connection).trans (modifies_setStage _ t _)

lemma modifies_deliver (w : World) (t : Ticket) :
    w.Modifies (w.deliver t) t.connection (Line.deliver w.moment t.slot) := by
  simp only [deliver, delivery?]
  cases hs : w.sessions.get? t.connection with
  | none => exact .self fun l hl => by simp [line?_eq_none_of_session hs] at hl
  | some s =>
    have hsession (l : Line) (hl : w.line? t.connection = some l) : l.session = s :=
      session_of_line? hs hl
    simp only [Option.bind_some]
    cases hd : s.deliveries[t.slot]? with
    | none => exact .self fun l hl => by simp only [Line.deliver, hsession l hl, hd]
    | some d =>
      cases hc : w.broker.connection? t.connection with
      | none => exact .self fun l hl => by simp [line?_eq_none_of_connection? hc] at hl
      | some c =>
        have hconnection (l : Line) (hl : w.line? t.connection = some l) : l.connection = c :=
          Option.some.inj ((line?_eq_some_iff.1 hl).2.symm.trans hc)
        dsimp only
        cases hstage : d.stage with
        | queued =>
          refine (modifies_settleDelivery w t d.event c.principal _).congr fun l hl => ?_
          simp only [Line.deliver, hsession l hl, hd, hstage, hconnection l hl]
          rfl
        | deciding p lookup =>
          dsimp only
          split
          · next hready =>
            refine (modifies_settleDelivery w t d.event p _).congr fun l hl => ?_
            simp only [Line.deliver, hsession l hl, hd, hstage]
            exact if_pos hready
          · next hready =>
            refine .self fun l hl => ?_
            simp only [Line.deliver, hsession l hl, hd, hstage]
            exact if_neg hready
        | decided p decision =>
          exact .self fun l hl => by simp only [Line.deliver, hsession l hl, hd, hstage]

end EventGateway.World
