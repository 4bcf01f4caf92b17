import EventGateway.Proofs.Room.Listing
import EventGateway.Proofs.Service.Acknowledgement
import EventGateway.Proofs.Service.Barrier
import Mathlib.Data.Set.Basic

/-!
# The rooms that replies report

The replies to subscriptions, unsubscriptions and requests for the status list the rooms of the
connection. These are the rooms that its commands come to when they are replayed: those of the
subscriptions that succeeded, without those of later unsubscriptions. The list can be given to a command
again, and it gives the same rooms. Main statement: `reported_rooms`.
-/

namespace EventGateway

open Json

/-! ### Commands that are replayed -/

/-- Does the reply to the command list rooms? -/
def Command.ReportsRooms : Command → Prop
  | .subscribe _ | .unsubscribe _ | .status => True
  | .authenticate _ | .heartbeat => False

/-- The rooms after one more command and its result: a subscription adds rooms, an unsubscription takes
rooms away, and a command that fails does neither. -/
def replay (rooms : Set Room) : Command × Except CommandError ReplyMembers → Set Room
  | (.subscribe joined, .ok _) => rooms ∪ {room | room ∈ joined}
  | (.unsubscribe left, .ok _) => rooms \ {room | room ∈ left}
  | _ => rooms

/-- The data gives the rooms, each once, in the order of the kinds and for each kind in that of the bytes
of the ids. -/
def GivesInOrder (data : Value) (rooms : Set Room) : Prop :=
  ∃ given, Room.ofValue data = .ok given ∧
    given.Pairwise (fun a b => a.kind.rank < b.kind.rank ∨
      (a.kind = b.kind ∧ Text.utf8 a.id.toList < Text.utf8 b.id.toList)) ∧
    ∀ room, room ∈ given ↔ room ∈ rooms

lemma givesInOrder_listing {s : RoomSet} (h : ∀ room ∈ s, room.IsValid) :
    GivesInOrder s.listing {room | room ∈ s} := by
  refine ⟨s.toList, RoomSet.ofValue_listing h, s.sorted.imp ?_, fun _ => Iff.rfl⟩
  rintro a b (hlt | ⟨heq, hlt⟩)
  · exact .inl hlt
  · exact .inr ⟨RoomKind.rank_injective heq, Text.utf8_lt_iff.2 hlt⟩

namespace Line

/-- The command that the reader answers in its next step, with what it comes to. -/
def answered? (m : Moment) (l : Line) : Option (Command × Except CommandError ReplyMembers) :=
  l.nextCommand?.bind fun next => (l.commandResult? m next.2).map (next.2, ·)

/-- The rooms that the connection is in. -/
def rooms (l : Line) : Set Room := {room | room ∈ l.connection.rooms}

variable {m : Moment} {l : Line} {reference : Option UInt64} {command : Command}
  {members : ReplyMembers}

/-- The result of a command is the answer to its text. -/
lemma answer?_of_nextCommand? (h : l.nextCommand? = some (reference, command)) :
    l.answer? m = (l.commandResult? m command).map (⟨reference, ·⟩) := by
  simp only [nextCommand?] at h
  split at h
  · next text _ hr hi =>
    simp only [answer?, taken?, hr, hi, Option.bind_some, textAnswer?]
    split at h
    · next message htext =>
      simp only [htext]
      split at h
      · next command' hcommand =>
        cases h
        simp only [hcommand]
      · cases h
    · cases h
  · cases h

/-- A command may name the rooms that it subscribes to. -/
lemma isValid_of_nextCommand? {rooms : List Room}
    (h : l.nextCommand? = some (reference, .subscribe rooms)) : ∀ room ∈ rooms, room.IsValid := by
  simp only [nextCommand?] at h
  split at h
  · next text _ _ _ =>
    split at h
    · next message htext =>
      split at h
      · next command hcommand =>
        cases h
        have hrooms : Room.ofValue message.data = .ok rooms := by
          simp only [Command.ofMessage] at hcommand
          split at hcommand
          · cases hcommand
          · split at hcommand <;> cases hcommand
          · obtain ⟨rooms', hrooms, heq⟩ := map_eq_ok.1 hcommand
            cases heq
            exact hrooms
          · obtain ⟨rooms', -, heq⟩ := map_eq_ok.1 hcommand
            cases heq
          · cases hcommand
          · cases hcommand
        obtain ⟨lists, -, hvalid, rfl⟩ :=
          (Room.ofValue_eq_ok_iff (ClientMessage.ordered_data htext)).1 hrooms
        exact hvalid
      · cases h
    · cases h
  · cases h

lemma isValid_replay (h : l.nextCommand? = some (reference, command))
    (hrooms : ∀ room ∈ l.rooms, room.IsValid) (r : Except CommandError ReplyMembers) :
    ∀ room ∈ replay l.rooms (command, r), room.IsValid := by
  intro room hroom
  cases r with
  | error e => cases command <;> exact hrooms room hroom
  | ok members =>
    cases command with
    | subscribe joined =>
      rcases hroom with hroom | hroom
      · exact hrooms room hroom
      · exact isValid_of_nextCommand? h room hroom
    | unsubscribe left => exact hrooms room hroom.1
    | authenticate token => exact hrooms room hroom
    | status => exact hrooms room hroom
    | heartbeat => exact hrooms room hroom

/-- A command that lists rooms and succeeds has brought the rooms to those that it lists. -/
lemma perform_of_reports (reference : Option UInt64) (hopen : l.connection.closed = false)
    (hreports : command.ReportsRooms) (h : l.commandResult? m command = some (.ok members)) : ∃ k, l.Quiet k ∧
      members.lookup "rooms" = some k.connection.rooms.listing ∧
      k.rooms = replay l.rooms (command, .ok members) ∧
      l.perform m reference command = k.reply reference (.ok members) := by
  cases command with
  | authenticate token => cases hreports
  | heartbeat => cases hreports
  | subscribe joined =>
    obtain ⟨k, hk, rfl⟩ := map_eq_ok.1 (Option.some.inj h)
    refine ⟨k, quiet_of_subscribe hk, rfl, ?_, by simp only [perform, hk]⟩
    simp only [subscribe, hopen, Bool.false_eq_true, if_false] at hk
    split at hk
    · cases hk
    · cases hk
      ext room
      simp only [rooms, replay, Set.mem_ofPred_eq, Set.mem_union, connection_joins,
        Connection.mem_rooms_joins]
      exact or_comm
  | unsubscribe left =>
    cases h
    refine ⟨left.foldl leave l, quiet_foldl quiet_leave l left, rfl, ?_, rfl⟩
    ext room
    simp only [rooms, replay, Set.mem_ofPred_eq, Set.mem_sdiff, connection_leaves,
      Connection.mem_rooms_leaves]
  | status =>
    cases h
    exact ⟨l, .refl l, rfl, rfl, rfl⟩

lemma rooms_of_keepsRooms {k : Line} (h : l.connection.KeepsRooms k.connection)
    (hopen : k.connection.closed = false) : k.rooms = l.rooms := by
  rcases h with h | ⟨hclosed, -⟩
  · rw [rooms, rooms, h]
  · rw [hopen] at hclosed
    cases hclosed

/-- What a command does to the rooms, unless the connection is closed, is what its result says. -/
lemma rooms_perform (hopen : l.connection.closed = false)
    (hopen' : (l.perform m reference command).connection.closed = false) :
    (l.perform m reference command).rooms =
      (l.commandResult? m command).elim l.rooms fun r => replay l.rooms (command, r) := by
  have hreports {members : ReplyMembers} (hreports : command.ReportsRooms)
      (h : l.commandResult? m command = some (.ok members)) :
      (l.perform m reference command).rooms = replay l.rooms (command, .ok members) := by
    obtain ⟨k, -, -, hrooms, hperform⟩ := perform_of_reports reference hopen hreports h
    rw [hperform] at hopen' ⊢
    rw [rooms_of_keepsRooms (k.keepsRooms_reply _ _) hopen', hrooms]
  cases command with
  | authenticate token =>
    have hrooms := rooms_of_keepsRooms (l.keepsRooms_settleAuthentication reference _) hopen'
    refine hrooms.trans ?_
    cases l.commandResult? m (.authenticate token) <;> rfl
  | heartbeat => exact rooms_of_keepsRooms (keepsRooms_reply (l.modifySession _) reference _) hopen'
  | subscribe joined =>
    cases hresult : l.subscribe joined with
    | ok k =>
      have hok : l.commandResult? m (.subscribe joined) = some (.ok k.connection.roomsReply) := by
        simp only [commandResult?, hresult, Except.map]
      rw [hok]
      exact hreports trivial hok
    | error e =>
      simp only [perform, hresult] at hopen' ⊢
      simp only [commandResult?, hresult, Except.map, Option.elim_some, replay]
      exact rooms_of_keepsRooms (l.keepsRooms_reply reference _) hopen'
  | unsubscribe left => exact hreports trivial rfl
  | status => exact hreports trivial rfl

/-- A step of the reader replays the command that it answers. -/
lemma rooms_read_replay (hopen : l.connection.closed = false)
    (hopen' : (l.read m).connection.closed = false) :
    (l.read m).rooms = (l.answered? m).elim l.rooms (replay l.rooms) := by
  cases hnext : l.nextCommand? with
  | none =>
    have hkeeps : l.connection.KeepsRooms (l.read m).connection := by
      rcases l.rooms_read m with h | ⟨reference, joined, hs, -⟩ | ⟨reference, left, hs, -⟩
      · exact h
      · cases hs with
        | subscribes hs => simp [hnext] at hs
      · cases hs with
        | unsubscribes hs => simp [hnext] at hs
    rw [rooms_of_keepsRooms hkeeps hopen', answered?, hnext]
    rfl
  | some next =>
    obtain ⟨reference, command⟩ := next
    obtain ⟨rest, hread⟩ := read_of_nextCommand? (m := m) hnext
    set j : Line := l.modifySession fun s => { s with inbox := rest }
    have hresult : j.commandResult? m command = l.commandResult? m command :=
      commandResult?_congr (j := j) (l := l) rfl command
    rw [hread] at hopen' ⊢
    rw [rooms_perform (l := j) hopen hopen', hresult, answered?, hnext, Option.bind_some]
    cases l.commandResult? m command <;> rfl

end Line

namespace World

variable {config : Config} {store : Store} {actions : List Action} {id : ConnectionId}

/-- The command of the connection that is answered in a step, with what it comes to. -/
def commandOf? (id : ConnectionId) (x : Happening) :
    Option (Command × Except CommandError ReplyMembers) :=
  match x.2 with
  | .task (.reader i) => if i = id then (x.1.line? id).bind (Line.answered? x.1.moment) else none
  | _ => none

/-- The rooms that the commands of a connection have come to, one after the other. -/
def replayed (id : ConnectionId) (past : List Happening) : Set Room :=
  (past.filterMap (commandOf? id)).foldl replay ∅

/-! ### Runs -/

lemma replayed_concat (past : List Happening) (x : Happening) : replayed id (past ++ [x]) =
    (commandOf? id x).elim (replayed id past) (replay (replayed id past)) := by
  simp only [replayed, List.filterMap_append, List.foldl_append]
  cases h : commandOf? id x <;> simp [h]

lemma commandOf?_reader {w : World} {l : Line} (hl : w.line? id = some l) :
    commandOf? id (w, .task (.reader id)) = l.answered? w.moment := by
  simp only [commandOf?, if_true, hl, Option.bind_some]

lemma commandOf?_eq_none {x : Happening} (h : x.2 ≠ .task (.reader id)) : commandOf? id x = none := by
  simp only [commandOf?]
  split
  · next i hi =>
    refine if_neg ?_
    rintro rfl
    exact h hi
  · rfl

/-- A line is in rooms that commands may name, and in those that its commands come to. -/
structure Replays (id : ConnectionId) (past : List Happening) (l : Line) : Prop where
  valid : ∀ room ∈ l.connection.rooms, room.IsValid
  rooms : l.connection.closed = false → l.rooms = replayed id past

lemma Replays.valid_step {w : World} {a : Action} {past : List Happening} {l l' : Line}
    (h : Replays id past l) (heffect : w.Effect id a l l') :
    ∀ room ∈ l'.connection.rooms, room.IsValid := by
  intro room hroom
  rcases heffect.rooms_cases with hkeeps | ⟨-, ⟨reference, joined, hs, hkeeps⟩ |
    ⟨reference, left, hs, hkeeps⟩⟩
  · exact h.valid room (hkeeps.of_mem hroom)
  · cases hs with
    | subscribes hnext =>
      rcases Connection.mem_rooms_joins.1 (hkeeps.of_mem hroom) with hjoined | hroom
      · exact Line.isValid_of_nextCommand? hnext room hjoined
      · exact h.valid room hroom
  · exact h.valid room (Connection.mem_rooms_leaves.1 (hkeeps.of_mem hroom)).1

lemma Replays.rooms_step {w : World} {a : Action} {past : List Happening} {l l' : Line}
    (h : Replays id past l) (hl : w.line? id = some l) (heffect : w.Effect id a l l')
    (hl' : (w.step a).line? id = some l') (hopen' : l'.connection.closed = false) :
    l'.rooms = replayed id (past ++ [(w, a)]) := by
  have hopen : l.connection.closed = false := by
    rw [← Bool.not_eq_true] at hopen' ⊢
    exact fun hclosed => hopen' (heffect.leads.invariant (fun _ _ => Line.Move.closed) hclosed)
  rw [replayed_concat, ← h.rooms hopen]
  by_cases ha : a = .task (.reader id)
  · subst ha
    obtain rfl := Option.some.inj (hl'.symm.trans ((modifies_read w id).line_own hl))
    rw [commandOf?_reader hl]
    exact Line.rooms_read_replay hopen hopen'
  · rw [commandOf?_eq_none ha]
    rcases heffect.rooms_cases with hkeeps | ⟨hreader, -⟩
    · exact Line.rooms_of_keepsRooms hkeeps hopen'
    · exact absurd hreader ha

/-- The connection of a line is in the rooms that its commands come to. -/
lemma replays_run {l : Line} (hl : ((start config store).run actions).line? id = some l) :
    Replays id ((start config store).history actions) l := by
  refine line_history (P := Replays id) (fun past w caller hpast _ hnone => ?_)
    (fun past w a l l' _ hl heffect hl' h => ⟨h.valid_step heffect, h.rooms_step hl heffect hl'⟩)
    actions hl
  have hnothing : (past ++ [(w, Action.connect id caller)]).filterMap (commandOf? id) = [] := by
    refine List.filterMap_eq_nil_iff.2 fun x hx => ?_
    rcases List.mem_append.1 hx with hx | hx
    · have hx := hpast x.1 x.2 hx
      simp only [commandOf?, hx]
      split
      · split <;> rfl
      · rfl
    · rw [List.mem_singleton.1 hx]
      rfl
  have hempty : (Line.opened config w.now id caller).connection.rooms = ∅ :=
    (send_keeps _ _).1
  refine ⟨fun room hroom => ?_, fun _ => ?_⟩
  · rw [hempty] at hroom
    exact absurd hroom (RoomSet.not_mem_empty room)
  · rw [replayed, hnothing, Line.rooms, hempty]
    ext room
    simp

/-- Whoever takes a command is connected. -/
lemma open_of_nextCommand? {l : Line} (hl : ((start config store).run actions).line? id = some l)
    {next : Option UInt64 × Command} (hnext : l.nextCommand? = some next) :
    l.connection.closed = false := by
  have hattended := line_history (fun _ _ caller hpast _ _ => attended_opened config caller hpast)
    (fun _ _ _ _ _ _ hk heffect hk' h => Attended.step h hk heffect hk') actions hl
  rw [← Bool.not_eq_true]
  intro hclosed
  simp [Line.nextCommand?, hattended.closed hclosed] at hnext

/-- A reply that is accepted is queued, and the table has the connection in the rooms that the command
has left it in. -/
lemma table_of_accepted {w : World} (hsound : w.Sound) {l k : Line} (hl : w.line? id = some l)
    (hquiet : l.Quiet k) {reference : Option UInt64} {result : Except CommandError ReplyMembers}
    (hread : l.read w.moment = k.reply reference result) (haccepts : l.connection.accepts = true) :
    (∃ l', (w.step (.task (.reader id))).line? id = some l' ∧
      l'.connection.outbound.ledger =
        l.connection.outbound.ledger ++ [.ready (renderReply reference result)]) ∧
    ∀ room, id ∈ (w.step (.task (.reader id))).broker.table.membersOf room ↔ room ∈ k.rooms := by
  have haccepts' : k.connection.accepts = true := by
    rw [Connection.accepts, hquiet.closed, hquiet.outbound]
    exact haccepts
  have hsend : l.read w.moment = k.modifyConnection fun c => { c with
      outbound := c.outbound.push (.ready (renderReply reference result)) } := by
    rw [hread, Line.reply, if_pos (.inl haccepts'), Line.modifyConnection, Connection.send,
      if_pos haccepts']
    rfl
  have hline := (modifies_read w id).line_own hl
  refine ⟨⟨_, hline, by rw [hsend, ← hquiet.outbound]; rfl⟩, fun room => ?_⟩
  have hconnection := (line?_eq_some_iff.1 hline).2
  have hmembers := (hsound.step (.task (.reader id))).broker.members room id
  refine hmembers.trans ⟨?_, fun hroom => ⟨_, hconnection, by rw [hsend]; exact hroom⟩⟩
  rintro ⟨c, hc, hroom⟩
  obtain rfl := Option.some.inj (hc.symm.trans hconnection)
  rw [hsend] at hroom
  exact hroom

/-- The listing of a set of rooms gives these rooms. And the reply to every subscription, unsubscription
or request for the status that succeeds reads back as a reply with the reference of the command and data
that lists the rooms that the commands of the connection have come to; a command takes the list as the
data that gives these rooms. If the reply is accepted, so that the session goes on, it is queued, and these
are the rooms whose members the connection is among. -/
theorem reported_rooms (config : Config) (store : Store) (actions : List Action) (id : ConnectionId) :
    (∀ s : RoomSet, (∀ room ∈ s, room.IsValid) → GivesInOrder s.listing {room | room ∈ s}) ∧
    ∀ n w l reference command members,
      ((start config store).history actions)[n]? = some (w, .task (.reader id)) →
      w.line? id = some l → l.nextCommand? = some (reference, command) → command.ReportsRooms →
      l.commandResult? w.moment command = some (.ok members) →
      ∃ listing, (replyData (.ok members)).member? "rooms" = some listing ∧
        ReadsAsReply (renderReply reference (.ok members)) reference (replyData (.ok members)) ∧
        GivesInOrder listing (replayed id (((start config store).history actions).take (n + 1))) ∧
        (l.connection.accepts = true →
          (∃ l', (w.step (.task (.reader id))).line? id = some l' ∧
            l'.connection.outbound.ledger = l.connection.outbound.ledger ++
              [.ready (renderReply reference (.ok members))]) ∧
          ∀ room, id ∈ (w.step (.task (.reader id))).broker.table.membersOf room ↔
            room ∈ replayed id (((start config store).history actions).take (n + 1))) := by
  refine ⟨fun s => givesInOrder_listing, ?_⟩
  intro n w l reference command members hw hl hnext hreports hresult
  have hsound : w.Sound := sound_of_getElem?_history hw
  have htake : ((start config store).history actions).take (n + 1) =
      (start config store).history (actions.take n) ++ [(w, .task (.reader id))] := by
    rw [List.take_add_one, hw, history_take]
    rfl
  have hrun : (start config store).run (actions.take n) = w := by
    rw [getElem?_history] at hw
    obtain ⟨_, -, heq⟩ := Option.map_eq_some_iff.1 hw
    exact congrArg Prod.fst heq
  rw [← hrun] at hl
  have hopen := open_of_nextCommand? hl hnext
  have hreplays := replays_run hl
  rw [hrun] at hl
  -- what the command leaves, before the reply
  obtain ⟨rest, hread⟩ := Line.read_of_nextCommand? (m := w.moment) hnext
  set j : Line := l.modifySession fun s => { s with inbox := rest }
  have hj : l.Quiet j := ⟨rfl, rfl, rfl, rfl, rfl, rfl, rfl⟩
  have hresult' : j.commandResult? w.moment command = some (.ok members) :=
    (Line.commandResult?_congr (j := j) (l := l) rfl command).trans hresult
  obtain ⟨k, hquiet, hlisting, hrooms, hperform⟩ :=
    Line.perform_of_reports (l := j) reference hopen hreports hresult'
  have hrooms : k.rooms = replay l.rooms (command, .ok members) := hrooms
  have hreplayed : k.rooms = replayed id (((start config store).history actions).take (n + 1)) := by
    have hanswered : l.answered? w.moment = some (command, .ok members) := by
      simp only [Line.answered?, hnext, Option.bind_some, hresult, Option.map_some]
    rw [htake, replayed_concat, commandOf?_reader hl, hanswered, ← hreplays.rooms hopen, hrooms]
    rfl
  have hvalid : ∀ room ∈ k.connection.rooms, room.IsValid := by
    intro room hroom
    refine Line.isValid_replay hnext hreplays.valid (.ok members) room ?_
    rw [← hrooms]
    exact hroom
  have hanswer : l.answer? w.moment = some ⟨reference, .ok members⟩ := by
    rw [Line.answer?_of_nextCommand? hnext, hresult, Option.map_some]
  have hreads := Line.readsAsReply_of_answer? hanswer
  refine ⟨k.connection.rooms.listing, ?_, hreads, hreplayed ▸ givesInOrder_listing hvalid,
    fun haccepts => ?_⟩
  · exact ((member?_replyData_ok members).2 "rooms" (by decide)).trans hlisting
  · rw [← hreplayed]
    exact table_of_accepted hsound hl (hj.trans hquiet) (hread.trans hperform) haccepts

/-- A client subscribes to rooms, one of them twice, is refused another, leaves some, among them one
that it is not in, and asks for its status. -/
def roomChanges : List Action := [
  .connect "c" {},
  .arrive "c" (.text
    "\x7b\"op\":\"subscribe\",\"d\":\x7b\"post\":[\"b\",\"a\",\"b\"],\"global\":[\"users\"]\x7d\x7d"),
  .task (.reader "c"),
  .arrive "c" (.text "\x7b\"op\":\"subscribe\",\"d\":\x7b\"post\":[\"p\"],\"user\":[\"luna\"]\x7d\x7d"),
  .task (.reader "c"),
  .arrive "c" (.text "\x7b\"op\":\"unsubscribe\",\"d\":[[\"f\"],[\"b\"]]\x7d"),
  .task (.reader "c"),
  .arrive "c" (.text "\x7b\"op\":\"status\",\"ref\":1\x7d"),
  .task (.reader "c")]

/-- The status reports the two rooms that are left. -/
theorem status_after_changes : ∃ w l listing,
    ((start { jwtSecret := "s" } {}).history roomChanges)[8]? = some (w, .task (.reader "c")) ∧
    w.line? "c" = some l ∧ l.nextCommand? = some (some 1, .status) ∧
    l.connection.rooms.toList = [⟨.post, "a"⟩, .globalUsers] ∧
    (replyData (.ok (l.connection.statusReply w.config.apiVersion))).member? "rooms" = some listing ∧
    ReadsAsReply (renderReply (some 1) (.ok (l.connection.statusReply w.config.apiVersion))) (some 1)
      (replyData (.ok (l.connection.statusReply w.config.apiVersion))) ∧
    GivesInOrder listing (replayed "c" (((start { jwtSecret := "s" } {}).history roomChanges).take 9)) ∧
    ∀ room, "c" ∈ (w.step (.task (.reader "c"))).broker.table.membersOf room ↔
      room ∈ replayed "c" (((start { jwtSecret := "s" } {}).history roomChanges).take 9) := by
  have hbefore : (((start { jwtSecret := "s" } {}).run (roomChanges.take 8)).line? "c").map (fun l =>
      (l.nextCommand?, l.connection.accepts, l.connection.rooms.toList)) =
      some (some (some 1, .status), true, [⟨.post, "a"⟩, .globalUsers]) := by
    decide +kernel
  have hlast : ((start { jwtSecret := "s" } {}).history roomChanges)[8]? =
      some ((start { jwtSecret := "s" } {}).run (roomChanges.take 8), .task (.reader "c")) := by
    rw [getElem?_history]
    rfl
  generalize (start { jwtSecret := "s" } {}).run (roomChanges.take 8) = w at hbefore hlast
  obtain ⟨l, hl, heq⟩ := Option.map_eq_some_iff.1 hbefore
  simp only [Prod.mk.injEq] at heq
  obtain ⟨hnext, haccepts, hrooms⟩ := heq
  obtain ⟨listing, hlisting, hreads, hgives, htable⟩ :=
    (reported_rooms { jwtSecret := "s" } {} roomChanges "c").2 8 w l (some 1) .status _ hlast hl hnext
      trivial rfl
  exact ⟨w, l, listing, hlast, hl, hnext, hrooms, hlisting, hreads, hgives, (htable haccepts).2⟩

end World

end EventGateway
