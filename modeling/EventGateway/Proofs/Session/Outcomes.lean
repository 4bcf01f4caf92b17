import EventGateway.Proofs.Session.Moves
import EventGateway.Proofs.Session.Readers

/-!
# Commands that succeed

What an authentication, a subscription or an unsubscription that succeeds does to a line, all in one
step: the principal is installed or the rooms are changed, and the reply is queued behind everything that
has been accepted so far. Conversely the reader changes the principal and the rooms in no other way, and
whatever else happens to a line leaves the rooms alone, unless it closes the connection.
-/

namespace EventGateway

/-! ### Rooms of a connection -/

namespace Connection

/-- The rooms stay, or the connection is closed and in none. -/
def KeepsRooms (c d : Connection) : Prop := d.rooms = c.rooms ∨ (d.closed = true ∧ d.rooms = ∅)

lemma KeepsRooms.refl (c : Connection) : c.KeepsRooms c := .inl rfl

lemma KeepsRooms.of_mem {c d : Connection} (h : c.KeepsRooms d) {room : Room}
    (hroom : room ∈ d.rooms) : room ∈ c.rooms := by
  rcases h with h | ⟨-, h⟩
  · exact h ▸ hroom
  · rw [h] at hroom
    exact absurd hroom (RoomSet.not_mem_empty room)

lemma mem_rooms_joins {c : Connection} {rooms : List Room} {room : Room} :
    room ∈ (rooms.foldl join c).rooms ↔ room ∈ rooms ∨ room ∈ c.rooms := by
  induction rooms generalizing c with
  | nil => simp
  | cons r rest ih =>
    have hjoin : room ∈ (c.join r).rooms ↔ room = r ∨ room ∈ c.rooms := by
      simp only [join]
      split
      · next hr =>
        refine ⟨.inr, ?_⟩
        rintro (rfl | h)
        · exact hr
        · exact h
      · exact RoomSet.mem_insert
    rw [List.foldl_cons, ih, hjoin, List.mem_cons, or_left_comm, or_assoc]

lemma mem_rooms_leaves {c : Connection} {rooms : List Room} {room : Room} :
    room ∈ (rooms.foldl leave c).rooms ↔ room ∈ c.rooms ∧ room ∉ rooms := by
  induction rooms generalizing c with
  | nil => simp
  | cons r rest ih =>
    have hleave : room ∈ (c.leave r).rooms ↔ room ∈ c.rooms ∧ room ≠ r := by
      simp only [leave]
      split
      · exact RoomSet.mem_erase
      · next hr =>
        refine ⟨fun h => ⟨h, ?_⟩, And.left⟩
        rintro rfl
        exact hr h
    rw [List.foldl_cons, ih, hleave, List.mem_cons, not_or, and_assoc]

end Connection

/-- What a command that has succeeded has done. -/
inductive Outcome where
  | authenticated (principal : Principal)
  | subscribed (rooms : List Room)
  | unsubscribed (rooms : List Room)
  deriving DecidableEq, Inhabited

namespace Outcome

/-- What the reply tells. -/
def reply (c : Connection) : Outcome → ReplyMembers
  | .authenticated p => p.reply
  | .subscribed _ => c.roomsReply
  | .unsubscribed _ => c.roomsReply

/-- Has the command taken effect on the connection? -/
def Effective (c : Connection) : Outcome → Prop
  | .authenticated p => c.principal = p
  | .subscribed rooms => ∀ room ∈ rooms, room ∈ c.rooms
  | .unsubscribed rooms => ∀ room ∈ rooms, room ∉ c.rooms

end Outcome

namespace Line

/-- The command that the reader takes next, with its reference. -/
def nextCommand? (l : Line) : Option (Option UInt64 × Command) :=
  match l.session.reader, l.session.inbox with
  | .idle, .text text :: _ =>
    match ClientMessage.ofText text with
    | .ok message =>
      match Command.ofMessage message with
      | .ok command => some (message.reference, command)
      | .error _ => none
    | .error _ => none
  | _, _ => none

/-- The reader comes to the end of a command that succeeds. -/
inductive Succeeds (m : Moment) (l : Line) (reference : Option UInt64) : Outcome → Prop
  /-- An authentication whose lookups take no time. -/
  | authenticates {token : String} {p : Principal} :
    l.nextCommand? = some (reference, .authenticate token) →
    m.start (authenticate m.config.jwtSecret token l.connection.caller) = .finished (.ok (.ok p)) →
    Succeeds m l reference (.authenticated p)
  /-- An authentication that has had to wait. -/
  | resumes {a : Awaited (Except CommandError Principal)} {p : Principal} :
    l.session.reader = .authenticating reference a → m.advance a = .finished (.ok (.ok p)) →
    Succeeds m l reference (.authenticated p)
  | subscribes {rooms : List Room} : l.nextCommand? = some (reference, .subscribe rooms) →
    l.connection.closed = false → rooms.findSome? l.connection.principal.refusal? = none →
    Succeeds m l reference (.subscribed rooms)
  | unsubscribes {rooms : List Room} : l.nextCommand? = some (reference, .unsubscribe rooms) →
    Succeeds m l reference (.unsubscribed rooms)

variable {m : Moment} {l k : Line} {reference : Option UInt64}

/-! ### Rooms -/

lemma keepsRooms_endReader (l : Line) (code : Option CloseCode) :
    l.connection.KeepsRooms (l.endReader code).connection :=
  .inr ⟨rfl, rfl⟩

lemma keepsRooms_reply (l : Line) (reference : Option UInt64)
    (result : Except CommandError ReplyMembers) :
    l.connection.KeepsRooms (l.reply reference result).connection := by
  simp only [reply]
  split
  · refine .inl ?_
    simp only [modifyConnection, Connection.send]
    split <;> rfl
  · exact l.keepsRooms_endReader _

lemma keepsRooms_settleAuthentication (l : Line) (reference : Option UInt64)
    (progress : Limited (Except CommandError Principal)) :
    l.connection.KeepsRooms (l.settleAuthentication reference progress).connection := by
  have hfinish (result : Except CommandError Principal) :
      l.connection.KeepsRooms (l.finishAuthentication reference result).connection := by
    cases result with
    | ok p =>
      exact keepsRooms_reply ((l.setReader .idle).modifyConnection fun c => c.setPrincipal p) _ _
    | error e => exact keepsRooms_reply (l.setReader .idle) _ _
  cases progress with
  | finished r => exact hfinish _
  | timedOut => exact hfinish _
  | waiting a => exact .refl _

lemma keepsRooms_missHeartbeat (now : Nat) (l : Line) :
    l.connection.KeepsRooms (l.missHeartbeat now).connection := by
  obtain heq | ⟨-, -, heq⟩ := l.missHeartbeat_cases now
  · rw [heq]
    exact .refl _
  · rw [heq]
    exact l.keepsRooms_endReader _

lemma keepsRooms_write (l : Line) : l.connection.KeepsRooms l.write.connection := by
  obtain ⟨outbound, writing, written, heq, -⟩ := l.write_leaves
  rw [heq]
  exact .inl rfl

lemma keepsRooms_deliver (m : Moment) (slot : Nat) (l : Line) :
    l.connection.KeepsRooms (l.deliver m slot).connection := by
  obtain heq | ⟨d, progress, -, -, p, heq⟩ := l.deliver_cases m slot
  · rw [heq]
    exact .refl _
  · rw [heq]
    cases progress <;> exact .inl rfl

lemma keepsRooms_reserve (e : Event) (l : Line) :
    l.connection.KeepsRooms (l.reserve e).connection := by
  simp only [reserve]
  split
  · refine .inl ?_
    simp only [Connection.reserve]
    split <;> rfl
  · exact .refl _

lemma keepsRooms_demotions (l : Line) (ps : List Principal) :
    l.connection.KeepsRooms (ps.foldl demote l).connection := by
  refine .inl ?_
  apply List.foldlRecOn
    (motive := fun k : Line => k.connection.rooms = l.connection.rooms) ps demote rfl
  intro k hk p _
  refine Eq.trans ?_ hk
  simp only [demote, modifyConnection, Connection.demoteIf]
  split <;> rfl

lemma connection_joins (l : Line) (rooms : List Room) :
    (rooms.foldl join l).connection = rooms.foldl Connection.join l.connection := by
  induction rooms generalizing l with
  | nil => rfl
  | cons room rest ih => exact ih (l.join room)

lemma connection_leaves (l : Line) (rooms : List Room) :
    (rooms.foldl leave l).connection = rooms.foldl Connection.leave l.connection := by
  induction rooms generalizing l with
  | nil => rfl
  | cons room rest ih => exact ih (l.leave room)

/-! ### What the reader does -/

/-- The reader takes a command, goes on with an authentication, or leaves the principal and the rooms
alone. -/
lemma read_cases (m : Moment) (l : Line) :
    (∃ reference command rest, l.nextCommand? = some (reference, command) ∧
      l.read m = (l.modifySession fun s => { s with inbox := rest }).perform m reference command) ∨
    (∃ reference a, l.session.reader = .authenticating reference a ∧
      l.read m = l.settleAuthentication reference (m.advance a)) ∨
    ((l.read m).connection.principal = l.connection.principal ∧
      l.connection.KeepsRooms (l.read m).connection) := by
  simp only [read, nextCommand?]
  cases hr : l.session.reader with
  | idle =>
    cases hi : l.session.inbox with
    | nil => exact .inr (.inr ⟨rfl, .refl _⟩)
    | cons arrival rest =>
      have hreply (reference : Option UInt64) (result : Except CommandError ReplyMembers) :
          ((l.modifySession fun s => { s with inbox := rest }).reply reference
            result).connection.principal = l.connection.principal ∧
          l.connection.KeepsRooms ((l.modifySession fun s => { s with inbox := rest }).reply reference
            result).connection :=
        ⟨(steady_reply _ reference result).principal, keepsRooms_reply _ reference result⟩
      cases arrival with
      | text text =>
        simp only [receive, receiveText]
        cases ClientMessage.ofText text with
        | error fault => exact .inr (.inr (hreply _ _))
        | ok message =>
          dsimp only
          cases Command.ofMessage message with
          | error e => exact .inr (.inr (hreply _ _))
          | ok command => exact .inl ⟨_, _, rest, rfl, rfl⟩
      | other => exact .inr (.inr ⟨rfl, .refl _⟩)
      | ended => exact .inr (.inr ⟨rfl, keepsRooms_endReader _ none⟩)
  | authenticating reference a =>
    by_cases hready : a.readyAt ≤ m.now
    · exact .inr (.inl ⟨reference, a, rfl, if_pos hready⟩)
    · refine .inr (.inr ?_)
      dsimp only
      rw [if_neg hready]
      exact ⟨rfl, .refl _⟩
  | ended => exact .inr (.inr ⟨rfl, .refl _⟩)

/-- The reader installs a principal only by an authentication that succeeds. -/
lemma principal_read (m : Moment) (l : Line) :
    (l.read m).connection.principal = l.connection.principal ∨
      ∃ reference, l.Succeeds m reference (.authenticated (l.read m).connection.principal) := by
  obtain ⟨reference, command, rest, hnext, hread⟩ | ⟨reference, a, hr, hread⟩ | ⟨hp, -⟩ :=
    l.read_cases m
  · rw [hread]
    cases command with
    | authenticate token =>
      rcases principal_settleAuthentication (l.modifySession fun s => { s with inbox := rest })
        reference (m.start (authenticate m.config.jwtSecret token l.connection.caller)) with
        hp | ⟨p, hstart, hp⟩
      · exact .inl hp
      · exact .inr ⟨reference, hp ▸ .authenticates hnext hstart⟩
    | subscribe rooms =>
      simp only [perform]
      split
      · exact .inl (steady_reply _ reference _).principal
      · next hs =>
        exact .inl ((steady_of_subscribe hs).trans (steady_reply _ reference _)).principal
    | unsubscribe rooms =>
      exact .inl ((steady_foldl steady_leave _ rooms).trans (steady_reply _ reference _)).principal
    | status => exact .inl (steady_reply _ reference _).principal
    | heartbeat => exact .inl (steady_reply _ reference _).principal
  · rw [hread]
    rcases principal_settleAuthentication l reference (m.advance a) with hp | ⟨p, hadvance, hp⟩
    · exact .inl hp
    · exact .inr ⟨reference, hp ▸ .resumes hr hadvance⟩
  · exact .inl hp

/-- What the reader does to the rooms: it joins those of a subscription, leaves those of an
unsubscription, or does nothing. -/
lemma rooms_read (m : Moment) (l : Line) :
    l.connection.KeepsRooms (l.read m).connection ∨
    (∃ reference rooms, l.Succeeds m reference (.subscribed rooms) ∧
      (rooms.foldl Connection.join l.connection).KeepsRooms (l.read m).connection) ∨
    ∃ reference rooms, l.Succeeds m reference (.unsubscribed rooms) ∧
      (rooms.foldl Connection.leave l.connection).KeepsRooms (l.read m).connection := by
  obtain ⟨reference, command, rest, hnext, hread⟩ | ⟨reference, a, -, hread⟩ | ⟨-, hrooms⟩ :=
    l.read_cases m
  · rw [hread]
    cases command with
    | authenticate token => exact .inl (keepsRooms_settleAuthentication _ reference _)
    | subscribe rooms =>
      simp only [perform, subscribe]
      by_cases hclosed : l.connection.closed = true
      · rw [show (l.modifySession _).connection = l.connection from rfl, if_pos hclosed]
        exact .inl (keepsRooms_reply _ reference _)
      · rw [show (l.modifySession _).connection = l.connection from rfl, if_neg hclosed]
        cases hrefusal : rooms.findSome? l.connection.principal.refusal? with
        | some e => exact .inl (keepsRooms_reply _ reference _)
        | none =>
          refine .inr (.inl ⟨reference, rooms,
            .subscribes hnext (by simpa using hclosed) hrefusal, ?_⟩)
          have hjoins := connection_joins (l.modifySession fun s => { s with inbox := rest }) rooms
          exact hjoins ▸ keepsRooms_reply _ reference _
    | unsubscribe rooms =>
      refine .inr (.inr ⟨reference, rooms, .unsubscribes hnext, ?_⟩)
      have hleaves := connection_leaves (l.modifySession fun s => { s with inbox := rest }) rooms
      exact hleaves ▸ keepsRooms_reply _ reference _
    | status => exact .inl (keepsRooms_reply _ reference _)
    | heartbeat => exact .inl (keepsRooms_reply _ reference _)
  · rw [hread]
    exact .inl (l.keepsRooms_settleAuthentication reference _)
  · exact .inl hrooms

/-! ### What a command that succeeds does -/

lemma read_of_nextCommand? {command : Command} (h : l.nextCommand? = some (reference, command)) :
    ∃ rest, l.read m =
      (l.modifySession fun s => { s with inbox := rest }).perform m reference command := by
  simp only [nextCommand?] at h
  split at h
  · next text rest hr hi =>
    refine ⟨rest, ?_⟩
    simp only [read, hr, hi, receive, receiveText]
    split at h
    · next message htext =>
      simp only [htext]
      split at h
      · next command' hcommand =>
        cases h
        simp only [hcommand]
      · cases h
    · cases h
  · cases h

variable {o : Outcome}

/-- The command takes effect and is replied to in the same step. -/
lemma Succeeds.replies (h : l.Succeeds m reference o) : ∃ j, l.Quiet j ∧
    o.Effective j.connection ∧ l.read m = j.reply reference (.ok (o.reply j.connection)) := by
  have hquiet (rest : List Arrival) : l.Quiet (l.modifySession fun s => { s with inbox := rest }) :=
    ⟨rfl, rfl, rfl, rfl, rfl, rfl, rfl⟩
  cases h with
  | @authenticates token p hnext hstart =>
    obtain ⟨rest, hread⟩ := read_of_nextCommand? (m := m) hnext
    refine ⟨((l.modifySession fun s => { s with inbox := rest }).setReader .idle).modifyConnection
      fun c => c.setPrincipal p, ⟨rfl, rfl, rfl, rfl, rfl, rfl, rfl⟩, rfl, ?_⟩
    rw [hread]
    simp only [perform]
    rw [show (l.modifySession _).connection = l.connection from rfl, hstart]
    rfl
  | @resumes a p hr hadvance =>
    refine ⟨(l.setReader .idle).modifyConnection fun c => c.setPrincipal p,
      ⟨rfl, rfl, rfl, rfl, rfl, rfl, rfl⟩, rfl, ?_⟩
    rw [read_of_finished hr hadvance]
    rfl
  | @subscribes rooms hnext hclosed hrefusal =>
    obtain ⟨rest, hread⟩ := read_of_nextCommand? (m := m) hnext
    refine ⟨rooms.foldl join (l.modifySession fun s => { s with inbox := rest }),
      (hquiet rest).trans (quiet_foldl quiet_join _ rooms), ?_, ?_⟩
    · intro room hroom
      rw [connection_joins]
      exact Connection.mem_rooms_joins.2 (.inl hroom)
    · rw [hread]
      simp only [perform, subscribe]
      rw [show (l.modifySession _).connection = l.connection from rfl, if_neg (by simp [hclosed]),
        hrefusal]
      rfl
  | @unsubscribes rooms hnext =>
    obtain ⟨rest, hread⟩ := read_of_nextCommand? (m := m) hnext
    refine ⟨rooms.foldl leave (l.modifySession fun s => { s with inbox := rest }),
      (hquiet rest).trans (quiet_foldl quiet_leave _ rooms), ?_, hread⟩
    intro room hroom
    rw [connection_leaves]
    intro hmem
    exact (Connection.mem_rooms_leaves.1 hmem).2 hroom

/-- A reply that is accepted is queued behind everything else when the command has taken effect. -/
lemma Succeeds.accepted (h : l.Succeeds m reference o) (ha : l.connection.accepts = true) :
    o.Effective (l.read m).connection ∧
      (l.read m).connection.outbound.ledger = l.connection.outbound.ledger ++
        [.ready (renderReply reference (.ok (o.reply (l.read m).connection)))] := by
  obtain ⟨j, hquiet, heffective, hread⟩ := h.replies
  have haccepts : j.connection.accepts = true := by
    rw [Connection.accepts, hquiet.closed, hquiet.outbound]
    exact ha
  have hline : l.read m = j.modifyConnection fun c => { c with
      outbound := c.outbound.push (.ready (renderReply reference (.ok (o.reply j.connection)))) } := by
    rw [hread, reply, if_pos (.inl haccepts), modifyConnection, Connection.send, if_pos haccepts]
    rfl
  rw [hline, ← hquiet.outbound]
  cases o with
  | authenticated p => exact ⟨heffective, rfl⟩
  | subscribed rooms => exact ⟨heffective, rfl⟩
  | unsubscribed rooms => exact ⟨heffective, rfl⟩

end Line

end EventGateway
