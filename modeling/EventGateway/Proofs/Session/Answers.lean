import EventGateway.Proofs.Json.Ordered
import EventGateway.Proofs.Session.Outcomes
import Mathlib.Tactic.Set

/-!
# Answers

A reader takes texts one after the other and gives one answer to each: at once, unless the text asks for
an authentication whose lookups have to wait, and then in the step in which they are over. The answer is
told from the line before the step. The step prepares the line for it and queues it, or ends the reader
if it is not accepted; a step without an answer queues nothing.
-/

namespace EventGateway

open Json

/-- The answer to a text: the reference that the text gave, and what the command came to. -/
structure Answer where
  reference : Option UInt64
  result : Except CommandError ReplyMembers

namespace Answer

/-- The frame that is queued for the answer. -/
def frame (a : Answer) : String := renderReply a.reference a.result

/-- Does the reply say that the command did not succeed? -/
def Fails (a : Answer) : Prop := (replyData a.result).member? "success" = some (.bool false)

/-- Why the command did not succeed. -/
def error? (a : Answer) : Option CommandError :=
  match a.result with
  | .error e => some e
  | .ok _ => none

lemma error?_eq_some_iff {a : Answer} {e : CommandError} : a.error? = some e ↔ a.result = .error e := by
  simp only [error?]
  cases a.result with
  | error e' => simp
  | ok members => simp

/-- A command does not succeed exactly if it comes to an error. -/
lemma fails_iff {a : Answer} : a.Fails ↔ ∃ e, a.result = .error e := by
  simp only [Fails]
  cases a.result with
  | ok members => simp [replyData, Value.member?, lookup_insertMember]
  | error e => simp [replyData, Value.member?, List.lookup_cons]

end Answer

/-- The reference that a text gives, if it is a message with one. -/
def referenceOf (text : String) : Option UInt64 :=
  match ClientMessage.ofText text with
  | .ok message => message.reference
  | .error _ => none

/-- What an authentication comes to, unless it has to wait. -/
def authenticationReply? :
    Limited (Except CommandError Principal) → Option (Except CommandError ReplyMembers)
  | .finished r => some ((authenticationResult r).map Principal.reply)
  | .timedOut => some (.error .timeout)
  | .waiting _ => none

/-- The reference of the text that the reader is still at work on. -/
def Reader.reference? : Reader → Option (Option UInt64)
  | .authenticating reference _ => some reference
  | _ => none

namespace Line

/-- The text that the reader takes next. -/
def taken? (l : Line) : Option String :=
  match l.session.reader, l.session.inbox with
  | .idle, .text text :: _ => some text
  | _, _ => none

/-- What a command comes to, unless it has to wait. -/
def commandResult? (m : Moment) (l : Line) : Command → Option (Except CommandError ReplyMembers)
  | .authenticate token => authenticationReply?
    (m.start (EventGateway.authenticate m.config.jwtSecret token l.connection.caller))
  | .subscribe rooms => some ((l.subscribe rooms).map fun k => k.connection.roomsReply)
  | .unsubscribe rooms => some (.ok (rooms.foldl leave l).connection.roomsReply)
  | .status => some (.ok (l.connection.statusReply m.config.apiVersion))
  | .heartbeat => some (.ok [])

/-- The answer to a text that is taken, unless it has to wait. -/
def textAnswer? (m : Moment) (l : Line) (text : String) : Option Answer :=
  match ClientMessage.ofText text with
  | .error fault => some ⟨none, .error (.malformed fault.message)⟩
  | .ok message =>
    match Command.ofMessage message with
    | .error e => some ⟨message.reference, .error e⟩
    | .ok command => (l.commandResult? m command).map (⟨message.reference, ·⟩)

/-- The answer that the reader gives in its next step. -/
def answer? (m : Moment) (l : Line) : Option Answer :=
  match l.session.reader with
  | .idle => l.taken?.bind (l.textAnswer? m)
  | .authenticating reference lookup =>
    if lookup.readyAt ≤ m.now then (authenticationReply? (m.advance lookup)).map (⟨reference, ·⟩)
    else none
  | .ended => none

/-- The line is prepared for an answer: the text, if it is taken just now, is no longer in the inbox,
and the reader is free. -/
structure Prepares (l k : Line) : Prop extends Quiet l k where
  inbox : l.session.inbox = l.taken?.toList.map .text ++ k.session.inbox
  reader : k.session.reader = .idle

/-- What a step of the reader does about answers. -/
inductive Serves (m : Moment) (l : Line) : Line → Prop
  /-- It gives the answer to a text. -/
  | answers (k : Line) (a : Answer) : l.answer? m = some a → l.Prepares k →
    (∀ text, l.taken? = some text → a.reference = referenceOf text) →
    (∀ reference, l.session.reader.reference? = some reference → a.reference = reference) →
    Serves m l (k.reply a.reference a.result)
  /-- It takes a text whose answer has to wait. -/
  | begins {text : String} {rest : List Arrival}
      (lookup : Awaited (Except CommandError Principal)) :
    l.session.reader = .idle → l.session.inbox = .text text :: rest → l.answer? m = none →
    Serves m l ((l.modifySession fun s => { s with inbox := rest }).setReader
      (.authenticating (referenceOf text) lookup))
  /-- The answer goes on to wait. -/
  | waits {reference : Option UInt64} (lookup : Awaited (Except CommandError Principal)) :
    l.session.reader.reference? = some reference → l.answer? m = none →
    Serves m l (l.setReader (.authenticating reference lookup))
  /-- It takes a frame that is no text. -/
  | skips {rest : List Arrival} :
    l.session.reader = .idle → l.session.inbox = .other :: rest →
    Serves m l (l.modifySession fun s => { s with inbox := rest })
  /-- The client is gone. -/
  | ends {rest : List Arrival} : l.session.reader = .idle → l.session.inbox = .ended :: rest →
    Serves m l ((l.modifySession fun s => { s with inbox := rest }).endReader none)
  /-- There is nothing to take. -/
  | rests : l.taken? = none → l.answer? m = none → Serves m l l

variable {m : Moment} {l : Line}

/-! ### Authentications -/

lemma settleAuthentication_of_reply {progress : Limited (Except CommandError Principal)}
    {r : Except CommandError ReplyMembers} (h : authenticationReply? progress = some r) (l : Line)
    (reference : Option UInt64) :
    ∃ k, l.Quiet k ∧ k.session.inbox = l.session.inbox ∧ k.session.reader = .idle ∧
      l.settleAuthentication reference progress = k.reply reference r := by
  have hresult (result : Except CommandError Principal) : ∃ k, l.Quiet k ∧
      k.session.inbox = l.session.inbox ∧ k.session.reader = .idle ∧
      l.finishAuthentication reference result = k.reply reference (result.map Principal.reply) := by
    cases result with
    | ok p =>
      exact ⟨(l.setReader .idle).modifyConnection fun c => c.setPrincipal p,
        ⟨rfl, rfl, rfl, rfl, rfl, rfl, rfl⟩, rfl, rfl, rfl⟩
    | error e => exact ⟨l.setReader .idle, quiet_setReader l _, rfl, rfl, rfl⟩
  cases progress with
  | finished result =>
    cases h
    exact hresult (authenticationResult result)
  | timedOut =>
    cases h
    exact hresult (.error .timeout)
  | waiting lookup => cases h

lemma settleAuthentication_of_wait {progress : Limited (Except CommandError Principal)}
    (h : authenticationReply? progress = none) (l : Line) (reference : Option UInt64) :
    ∃ lookup, l.settleAuthentication reference progress =
      l.setReader (.authenticating reference lookup) := by
  cases progress with
  | finished result => cases h
  | timedOut => cases h
  | waiting lookup => exact ⟨lookup, rfl⟩

/-! ### Commands -/

/-- What a command comes to is told from the connection alone. -/
lemma commandResult?_congr {j : Line} (h : j.connection = l.connection) (command : Command) :
    j.commandResult? m command = l.commandResult? m command := by
  cases command with
  | authenticate token => simp only [commandResult?, h]
  | subscribe rooms =>
    simp only [commandResult?, subscribe, h]
    split
    · simp only [Except.map, h]
    · split
      · rfl
      · simp only [Except.map, connection_joins, h]
  | unsubscribe rooms => simp only [commandResult?, connection_leaves, h]
  | status => simp only [commandResult?, h]
  | heartbeat => rfl

lemma textAnswer?_modifySession (m : Moment) (l : Line) (f : Session → Session) (text : String) :
    (l.modifySession f).textAnswer? m text = l.textAnswer? m text := by
  simp only [textAnswer?, commandResult?_congr (j := l.modifySession f) (l := l) rfl]

lemma inbox_of_taken? {text : String} (h : l.taken? = some text) :
    l.session.reader = .idle ∧ ∃ rest, l.session.inbox = .text text :: rest := by
  simp only [taken?] at h
  split at h
  · next hr hi =>
    cases h
    exact ⟨hr, _, hi⟩
  · cases h

/-- A command that comes to a result is replied to with it. -/
lemma perform_of_result {command : Command} {r : Except CommandError ReplyMembers}
    (h : l.commandResult? m command = some r) (hidle : l.session.reader = .idle)
    (reference : Option UInt64) : ∃ k, l.Quiet k ∧ k.session.inbox = l.session.inbox ∧
      k.session.reader = .idle ∧ l.perform m reference command = k.reply reference r := by
  have hrooms (f : Line → Room → Line) (hf : ∀ k room, (f k room).session = k.session)
      (rooms : List Room) : (rooms.foldl f l).session = l.session := by
    apply List.foldlRecOn (motive := fun k : Line => k.session = l.session) rooms f rfl
    intro k hk room _
    exact (hf k room).trans hk
  cases command with
  | authenticate token => exact settleAuthentication_of_reply h l reference
  | subscribe rooms =>
    simp only [commandResult?, Option.some.injEq] at h
    subst h
    simp only [perform]
    cases hs : l.subscribe rooms with
    | error e => exact ⟨l, .refl l, rfl, hidle, rfl⟩
    | ok k =>
      have hsession : k.session = l.session := by
        obtain rfl | rfl := eq_of_subscribe hs
        · rfl
        · exact hrooms join (fun _ _ => rfl) rooms
      exact ⟨k, quiet_of_subscribe hs, by rw [hsession], by rw [hsession, hidle], rfl⟩
  | unsubscribe rooms =>
    have hsession : (rooms.foldl leave l).session = l.session := hrooms leave (fun _ _ => rfl) rooms
    cases h
    exact ⟨rooms.foldl leave l, quiet_foldl quiet_leave l rooms, by rw [hsession],
      by rw [hsession, hidle], rfl⟩
  | status =>
    cases h
    exact ⟨l, .refl l, rfl, hidle, rfl⟩
  | heartbeat =>
    cases h
    exact ⟨l.modifySession fun s =>
      { s with heartbeatDue := m.now + m.config.heartbeatGrace.toNat },
      ⟨rfl, rfl, rfl, rfl, rfl, rfl, rfl⟩, rfl, hidle, rfl⟩

/-- Only an authentication has to wait. -/
lemma perform_of_wait {command : Command} (h : l.commandResult? m command = none)
    (reference : Option UInt64) :
    ∃ lookup, l.perform m reference command = l.setReader (.authenticating reference lookup) := by
  cases command with
  | authenticate token => exact settleAuthentication_of_wait h l reference
  | subscribe rooms => cases h
  | unsubscribe rooms => cases h
  | status => cases h
  | heartbeat => cases h

/-! ### Steps of the reader -/

lemma serves_text {text : String} {rest : List Arrival} (hidle : l.session.reader = .idle)
    (hinbox : l.session.inbox = .text text :: rest) :
    Serves m l ((l.modifySession fun s => { s with inbox := rest }).receiveText m text) := by
  set j : Line := l.modifySession fun s => { s with inbox := rest } with hj
  have htaken : l.taken? = some text := by simp only [taken?, hidle, hinbox]
  have hanswer : l.answer? m = j.textAnswer? m text := by
    simp only [answer?, hidle, htaken, Option.bind_some]
    exact (textAnswer?_modifySession m l _ text).symm
  have hreference (a : Answer) : ∀ reference, l.session.reader.reference? = some reference →
      a.reference = reference := by
    rw [hidle]
    intro reference hreference
    cases hreference
  have hprepares {k : Line} (hquiet : j.Quiet k) (hk : k.session.inbox = j.session.inbox)
      (hr : k.session.reader = .idle) : l.Prepares k := by
    have htake : l.Quiet j := ⟨rfl, rfl, rfl, rfl, rfl, rfl, rfl⟩
    refine ⟨htake.trans hquiet, ?_, hr⟩
    rw [hk, hinbox, htaken]
    rfl
  simp only [receiveText]
  cases htext : ClientMessage.ofText text with
  | error fault =>
    have ha : l.answer? m = some ⟨none, .error (.malformed fault.message)⟩ := by
      simp only [hanswer, textAnswer?, htext]
    refine .answers j ⟨none, .error (.malformed fault.message)⟩ ha (hprepares (.refl j) rfl hidle)
      ?_ (hreference _)
    intro t ht
    cases htaken.symm.trans ht
    simp only [referenceOf, htext]
  | ok message =>
    have hown {r : Except CommandError ReplyMembers} (t : String) (ht : l.taken? = some t) :
        (⟨message.reference, r⟩ : Answer).reference = referenceOf t := by
      cases htaken.symm.trans ht
      simp only [referenceOf, htext]
    dsimp only
    cases hcommand : Command.ofMessage message with
    | error e =>
      have ha : l.answer? m = some ⟨message.reference, .error e⟩ := by
        simp only [hanswer, textAnswer?, htext, hcommand]
      exact .answers j ⟨message.reference, .error e⟩ ha (hprepares (.refl j) rfl hidle) hown
        (hreference _)
    | ok command =>
      dsimp only
      have ha : l.answer? m = (j.commandResult? m command).map (⟨message.reference, ·⟩) := by
        simp only [hanswer, textAnswer?, htext, hcommand]
      cases hr : j.commandResult? m command with
      | some r =>
        obtain ⟨k, hquiet, hk, hidle', hperform⟩ := perform_of_result hr hidle message.reference
        rw [hperform]
        rw [hr] at ha
        exact .answers k ⟨message.reference, r⟩ ha (hprepares hquiet hk hidle') hown (hreference _)
      | none =>
        obtain ⟨lookup, hperform⟩ := perform_of_wait hr message.reference
        have href : message.reference = referenceOf text := by simp only [referenceOf, htext]
        rw [hperform, href]
        exact .begins lookup hidle hinbox (by rw [ha, hr]; rfl)

/-- Every step of the reader is one of these. -/
theorem serves_read (m : Moment) (l : Line) : Serves m l (l.read m) := by
  simp only [read]
  cases hr : l.session.reader with
  | idle =>
    cases hi : l.session.inbox with
    | nil => exact .rests (by simp only [taken?, hr, hi]) (by simp only [answer?, taken?, hr, hi]; rfl)
    | cons arrival rest =>
      cases arrival with
      | text text => exact serves_text hr hi
      | other => exact .skips hr hi
      | ended => exact .ends hr hi
  | authenticating reference lookup =>
    have htaken : l.taken? = none := by simp only [taken?, hr]
    by_cases hready : lookup.readyAt ≤ m.now
    · have ha : l.answer? m =
          (authenticationReply? (m.advance lookup)).map (⟨reference, ·⟩) := by
        simp only [answer?, hr, if_pos hready]
      dsimp only
      rw [if_pos hready]
      cases hreply : authenticationReply? (m.advance lookup) with
      | some r =>
        obtain ⟨k, hquiet, hinbox, hidle, hsettle⟩ := settleAuthentication_of_reply hreply l reference
        have hprepares : l.Prepares k := ⟨hquiet, by rw [htaken, hinbox]; rfl, hidle⟩
        rw [hsettle]
        apply Serves.answers k ⟨reference, r⟩ (by rw [ha, hreply]; rfl) hprepares
        · rw [htaken]
          intro text htext
          cases htext
        · rw [hr]
          intro reference' hreference
          exact Option.some.inj hreference
      | none =>
        obtain ⟨next, hsettle⟩ := settleAuthentication_of_wait hreply l reference
        rw [hsettle]
        exact .waits next (by rw [hr]; rfl) (by rw [ha, hreply]; rfl)
    · dsimp only
      rw [if_neg hready]
      exact .rests htaken (by simp only [answer?, hr, if_neg hready])
  | ended => exact .rests (by simp only [taken?, hr]) (by simp only [answer?, hr])

end Line

end EventGateway
