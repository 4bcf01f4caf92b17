import EventGateway.Proofs.Session.Outcomes

/-!
# Heartbeats of a session

The deadline of a session moves only when the reader comes to a heartbeat, and is looked at only when the
reader has nothing else to do. In between, heartbeats wait in the inbox like everything else.
-/

namespace EventGateway

/-- Is it the command that moves the deadline? -/
def Arrival.isHeartbeat : Arrival → Bool
  | .text content =>
    match ClientMessage.ofText content with
    | .ok message =>
      match Command.ofMessage message with
      | .ok .heartbeat => true
      | _ => false
    | .error _ => false
  | _ => false

namespace Line

/-- How many heartbeats have arrived and have not been read. -/
def unread (l : Line) : Nat := l.session.inbox.countP Arrival.isHeartbeat

/-- Has the session been ended for want of a heartbeat? -/
def TimedOut (l : Line) : Prop :=
  ∃ code, l.session.ending = some (some code) ∧ code.number = 4009

/-- The deadline stays and the heartbeats in the inbox are as many, the session is not ended for want of
one, and a reader that has ended goes on to be so. -/
structure KeepsPace (l k : Line) : Prop where
  due : k.session.heartbeatDue = l.session.heartbeatDue
  unread : k.unread = l.unread
  timedOut : k.TimedOut → l.TimedOut
  ended : l.session.reader = .ended → k.session.reader = .ended

lemma KeepsPace.refl (l : Line) : l.KeepsPace l := ⟨rfl, rfl, id, id⟩

lemma KeepsPace.trans {l k j : Line} (h : l.KeepsPace k) (h' : k.KeepsPace j) : l.KeepsPace j :=
  ⟨h'.due.trans h.due, h'.unread.trans h.unread, h.timedOut ∘ h'.timedOut, h'.ended ∘ h.ended⟩

lemma KeepsPace.of_session_eq {l k : Line} (h : k.session = l.session) : l.KeepsPace k := by
  refine ⟨by rw [h], ?_, fun ht => ?_, fun hr => by rw [h, hr]⟩
  · rw [Line.unread, Line.unread, h]
  · rw [TimedOut, h] at ht
    exact ht

/-- What a step makes of the heartbeats of a session while so many more arrive: it leaves them alone,
reads one that was in the inbox, or ends the session because the time is over. -/
inductive Paces (now grace arrived : Nat) (l k : Line) : Prop
  | keeps : k.session.heartbeatDue = l.session.heartbeatDue → k.unread = l.unread + arrived →
    (k.TimedOut → l.TimedOut) → (l.session.reader = .ended → k.session.reader = .ended) →
    Paces now grace arrived l k
  | reads : arrived = 0 → l.session.reader = .idle → l.unread = k.unread + 1 →
    k.session.heartbeatDue = now + grace → (k.TimedOut → l.TimedOut) → Paces now grace arrived l k
  | misses : l.session.reader = .idle → l.session.heartbeatDue ≤ now → k.session.reader = .ended →
    Paces now grace arrived l k

lemma KeepsPace.paces {l k : Line} (h : l.KeepsPace k) (now grace : Nat) : Paces now grace 0 l k :=
  .keeps h.due h.unread h.timedOut h.ended

lemma Paces.ended {now grace arrived : Nat} {l k : Line} (h : Paces now grace arrived l k)
    (hr : l.session.reader = .ended) : k.session.reader = .ended := by
  cases h with
  | keeps _ _ _ hended => exact hended hr
  | reads _ hidle => cases hr.symm.trans hidle
  | misses _ _ hended => exact hended

/-! ### The reader -/

lemma keepsPace_endReader (l : Line) {code : Option CloseCode} (h : code ≠ some .heartbeatTimeout) :
    l.KeepsPace (l.endReader code) := by
  refine ⟨rfl, rfl, ?_, fun _ => rfl⟩
  rintro ⟨code', hcode, hnumber⟩
  obtain rfl : code = some code' := Option.some.inj hcode
  cases code' with
  | heartbeatTimeout => exact absurd rfl h
  | slowConsumer => cases hnumber

lemma keepsPace_reply (l : Line) (reference : Option UInt64)
    (result : Except CommandError ReplyMembers) : l.KeepsPace (l.reply reference result) := by
  simp only [reply]
  split
  · exact .of_session_eq rfl
  · exact l.keepsPace_endReader (by decide)

section

variable {l : Line} (hopen : l.session.reader ≠ .ended)
include hopen

lemma keepsPace_setReader (reader : Reader) : l.KeepsPace (l.setReader reader) :=
  ⟨rfl, rfl, id, fun hr => absurd hr hopen⟩

lemma keepsPace_settleAuthentication (reference : Option UInt64)
    (progress : Limited (Except CommandError Principal)) :
    l.KeepsPace (l.settleAuthentication reference progress) := by
  have hfinish (result : Except CommandError Principal) :
      l.KeepsPace (l.finishAuthentication reference result) := by
    have hidle := keepsPace_setReader hopen .idle
    cases result with
    | ok p =>
      have hinstalled : (l.setReader .idle).KeepsPace
          ((l.setReader .idle).modifyConnection fun c => c.setPrincipal p) := .of_session_eq rfl
      exact (hidle.trans hinstalled).trans (keepsPace_reply _ reference _)
    | error e => exact hidle.trans (keepsPace_reply _ reference _)
  cases progress with
  | finished r => exact hfinish (authenticationResult r)
  | timedOut => exact hfinish (.error .timeout)
  | waiting lookup => exact keepsPace_setReader hopen _

/-- No other command moves the deadline. -/
lemma keepsPace_perform (m : Moment) (reference : Option UInt64) {command : Command}
    (h : command ≠ .heartbeat) : l.KeepsPace (l.perform m reference command) := by
  have hrooms {f : Line → Room → Line} (hf : ∀ k room, (f k room).session = k.session)
      (rooms : List Room) : l.KeepsPace (rooms.foldl f l) := by
    apply List.foldlRecOn rooms f (.refl l)
    intro k hk room _
    exact hk.trans (.of_session_eq (hf k room))
  cases command with
  | authenticate token => exact keepsPace_settleAuthentication hopen _ _
  | subscribe rooms =>
    simp only [perform]
    split
    · exact l.keepsPace_reply _ _
    · next k hs =>
      have hjoined : l.KeepsPace k := by
        obtain rfl | rfl := eq_of_subscribe hs
        · exact .refl k
        · exact hrooms (f := join) (fun _ _ => rfl) rooms
      exact hjoined.trans (k.keepsPace_reply _ _)
  | unsubscribe rooms =>
    exact (hrooms (f := leave) (fun _ _ => rfl) rooms).trans (keepsPace_reply _ _ _)
  | status => exact l.keepsPace_reply _ _
  | heartbeat => exact absurd rfl h

/-- A heartbeat moves the deadline, and everything else leaves it where it is. -/
lemma receive_pace (m : Moment) (arrival : Arrival) :
    (l.receive m arrival).unread = l.unread ∧
    (l.receive m arrival).session.heartbeatDue =
      (if arrival.isHeartbeat then m.now + m.config.heartbeatGrace.toNat
        else l.session.heartbeatDue) ∧
    ((l.receive m arrival).TimedOut → l.TimedOut) := by
  have hkeeps {k : Line} (h : l.KeepsPace k) (hnot : arrival.isHeartbeat = false) :
      k.unread = l.unread ∧ k.session.heartbeatDue =
        (if arrival.isHeartbeat then m.now + m.config.heartbeatGrace.toNat
          else l.session.heartbeatDue) ∧ (k.TimedOut → l.TimedOut) := by
    rw [hnot]
    exact ⟨h.unread, h.due, h.timedOut⟩
  cases arrival with
  | text text =>
    simp only [receive, receiveText]
    split
    · next htext => exact hkeeps (l.keepsPace_reply _ _) (by simp only [Arrival.isHeartbeat, htext])
    · next message htext =>
      split
      · next hcommand =>
        exact hkeeps (l.keepsPace_reply _ _) (by simp only [Arrival.isHeartbeat, htext, hcommand])
      · next command hcommand =>
        by_cases hbeat : command = .heartbeat
        · subst hbeat
          have hmoved := keepsPace_reply (l.modifySession fun s =>
            { s with heartbeatDue := m.now + m.config.heartbeatGrace.toNat }) message.reference (.ok [])
          simp only [Arrival.isHeartbeat, htext, hcommand]
          exact ⟨hmoved.unread, hmoved.due, hmoved.timedOut⟩
        · refine hkeeps (keepsPace_perform hopen m _ hbeat) ?_
          simp only [Arrival.isHeartbeat, htext, hcommand]
          cases command with
          | heartbeat => exact absurd rfl hbeat
          | _ => rfl
  | other => exact hkeeps (.refl l) rfl
  | ended => exact hkeeps (l.keepsPace_endReader (by decide)) rfl

end

lemma paces_read (m : Moment) (l : Line) :
    Paces m.now m.config.heartbeatGrace.toNat 0 l (l.read m) := by
  simp only [read]
  split
  · next hidle =>
    have hopen : l.session.reader ≠ .ended := by simp [hidle]
    split
    · exact (KeepsPace.refl l).paces _ _
    · next arrival rest hinbox =>
      obtain ⟨hunread, hdue, htimedOut⟩ :=
        receive_pace (l := l.modifySession fun s => { s with inbox := rest }) hopen m arrival
      have hcount : l.unread = rest.countP Arrival.isHeartbeat + if arrival.isHeartbeat then 1 else 0 := by
        rw [unread, hinbox, List.countP_cons]
      cases hbeat : arrival.isHeartbeat with
      | true =>
        rw [hbeat] at hdue hcount
        exact .reads rfl hidle (by rw [hunread]; exact hcount) hdue htimedOut
      | false =>
        rw [hbeat] at hdue hcount
        exact .keeps hdue (by rw [hunread]; exact hcount.symm) htimedOut fun hr => absurd hr hopen
  · next hwaits =>
    split
    · exact (keepsPace_settleAuthentication (by simp [hwaits]) _ _).paces _ _
    · exact (KeepsPace.refl l).paces _ _
  · exact (KeepsPace.refl l).paces _ _

/-- The deadline is looked at only by a reader that has nothing to do. -/
lemma paces_missHeartbeat (now grace : Nat) (l : Line) :
    Paces now grace 0 l (l.missHeartbeat now) := by
  obtain heq | ⟨hidle, hdue, heq⟩ := l.missHeartbeat_cases now
  · rw [heq]
    exact (KeepsPace.refl l).paces now grace
  · rw [heq]
    exact .misses hidle hdue rfl

/-! ### Everything else -/

lemma keepsPace_write (l : Line) : l.KeepsPace l.write := by
  obtain ⟨outbound, writing, written, heq, -⟩ := l.write_leaves
  rw [heq]
  exact ⟨rfl, rfl, id, id⟩

lemma keepsPace_deliver (m : Moment) (slot : Nat) (l : Line) : l.KeepsPace (l.deliver m slot) := by
  obtain heq | ⟨d, progress, -, -, p, heq⟩ := l.deliver_cases m slot
  · rw [heq]
    exact .refl l
  · rw [heq]
    cases progress <;> exact ⟨rfl, rfl, id, id⟩

lemma keepsPace_demotions (l : Line) (ps : List Principal) : l.KeepsPace (ps.foldl demote l) :=
  .of_session_eq (l.demotions_leave ps).2.1

lemma keepsPace_reserve (e : Event) (l : Line) : l.KeepsPace (l.reserve e) := by
  simp only [reserve]
  split
  · exact ⟨rfl, rfl, id, id⟩
  · exact .refl l

lemma paces_arrive (now grace : Nat) (arrival : Arrival) (l : Line) :
    Paces now grace (if arrival.isHeartbeat then 1 else 0) l (l.arrive arrival) := by
  refine .keeps rfl ?_ id id
  rw [unread, unread, arrive, modifySession, List.countP_append, List.countP_singleton]

lemma keepsPace_depart (l : Line) : l.KeepsPace l.depart := by
  refine ⟨rfl, ?_, id, id⟩
  rw [unread, unread, depart, modifySession, List.countP_append, List.countP_singleton]
  rfl

end Line

end EventGateway
