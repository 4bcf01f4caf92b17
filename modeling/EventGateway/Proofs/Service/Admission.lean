import EventGateway.Proofs.Service.Barrier

/-!
# Who is admitted to the rooms of users

The room of a user is guarded when it is joined and not afterwards: the principal may be taken away or
replaced while the connection stays in its rooms. What holds at all times is about the past. A
connection that is in the room of a user has joined it by a subscription that it made as this user, and
has not left it since. An app token acts on a connection only if it may follow events, as no
authentication comes to any other.

It is assumed that what a command does between two waits is one step: a subscription looks at the
principal and joins its rooms, and nothing happens in between. That a pass on another thread takes the
principal away just then is left out. What is said here is about all orders in which commands, passes and
whatever else may come.
-/

namespace EventGateway

/-- The room of a user. -/
def Room.ofUser (userId : String) : Room := ⟨.user, userId⟩

/-! ### Principals that may follow events -/

/-- An authentication comes to no principal that may not follow events. -/
def ComesToFollower (x : Lookup (Except CommandError Principal)) : Prop :=
  x.Avoids (fun _ => True) fun result => ∃ p, result = .ok p ∧ p.canSubscribe = false

lemma comesToFollower_error (e : CommandError) : ComesToFollower (.done (.error e)) := by
  rintro ⟨p, h, -⟩
  cases h

lemma comesToFollower_ifActive (userId : String) {p : Principal} (hp : p.canSubscribe = true) :
    ComesToFollower (ifActive userId p) := by
  intro c _
  show ComesToFollower (if c.isActive userId then _ else _)
  split
  · rintro ⟨q, hq, hnot⟩
    cases hq
    rw [hp] at hnot
    cases hnot
  · exact comesToFollower_error _

/-- A record that admits a token has the right to follow events. -/
lemma TokenRecord.contains_of_refusal?_eq_none {record : TokenRecord} {issue : Int32}
    {caller : Caller} (h : record.refusal? issue caller = none) :
    record.scopes.contains .readRealtime = true := by
  simp only [refusal?] at h
  split at h
  · cases h
  · split at h
    · cases h
    · next hscope => simpa using hscope

lemma comesToFollower_authenticate (secret token : String) (caller : Caller) :
    ComesToFollower (authenticate secret token caller) := by
  simp only [authenticate]
  split
  · exact comesToFollower_error _
  · next claims _ =>
    cases claims with
    | session userId => exact comesToFollower_ifActive userId rfl
    | appToken tokenId issue userId =>
      intro c _
      dsimp only [Lookup.bind, Content.answer]
      cases c.tokens.get? tokenId with
      | none => exact comesToFollower_error _
      | some record =>
        dsimp only
        split
        · exact comesToFollower_error _
        · split
          · exact comesToFollower_error _
          · next hadmits =>
            exact comesToFollower_ifActive userId (record.contains_of_refusal?_eq_none hadmits)

/-! ### Joining the room of a user -/

lemma Principal.userId_of_refusal?_eq_none {p : Principal} {userId : String}
    (h : p.refusal? (.ofUser userId) = none) : p.userId = some userId := by
  simp only [refusal?, Room.ofUser] at h
  split at h
  · cases h
  · simpa using h

/-- A subscription that succeeds asks for no room that the principal is refused. -/
lemma Line.Succeeds.admitted {m : Moment} {l : Line} {reference : Option UInt64} {rooms : List Room}
    (h : l.Succeeds m reference (.subscribed rooms)) {room : Room} (hroom : room ∈ rooms) :
    l.connection.principal.refusal? room = none := by
  cases h with
  | subscribes _ _ hrefusal => exact List.findSome?_eq_none_iff.1 hrefusal room hroom

namespace World

variable {config : Config} {store : Store} {actions : List Action} {id : ConnectionId}

/-- In the step of the given position the connection joins the room of a user, in which it has not
been, by a subscription that it makes as this user. -/
def JoinsAsUser (history : List Happening) (id : ConnectionId) (n : Nat) (userId : String) : Prop :=
  ∃ w l reference rooms, history[n]? = some (w, .task (.reader id)) ∧ w.line? id = some l ∧
    l.Succeeds w.moment reference (.subscribed rooms) ∧ .ofUser userId ∈ rooms ∧
    .ofUser userId ∉ l.connection.rooms ∧ l.connection.principal.userId = some userId

/-- The connection is in the room in every state after the given position. -/
def HoldsSince (history : List Happening) (id : ConnectionId) (n : Nat) (room : Room) : Prop :=
  ∀ i w a, n < i → history[i]? = some (w, a) → w.broker.Holds id room

/-- Only a subscription brings a connection into the room of a user, one that it makes as this user. -/
lemma Effect.userRoom_cases {w : World} {a : Action} {l l' : Line} (h : w.Effect id a l l')
    {userId : String} (hroom : .ofUser userId ∈ l'.connection.rooms) :
    .ofUser userId ∈ l.connection.rooms ∨
      (a = .task (.reader id) ∧ ∃ reference rooms,
        l.Succeeds w.moment reference (.subscribed rooms) ∧ .ofUser userId ∈ rooms ∧
          l.connection.principal.userId = some userId) := by
  obtain hkeeps | ⟨ha, ⟨reference, rooms, hs, hjoins⟩ | ⟨reference, rooms, -, hleaves⟩⟩ :=
    h.rooms_cases
  · exact .inl (hkeeps.of_mem hroom)
  · obtain hin | hin := Connection.mem_rooms_joins.1 (hjoins.of_mem hroom)
    · have huser := Principal.userId_of_refusal?_eq_none (hs.admitted hin)
      exact .inr ⟨ha, reference, rooms, hs, hin, huser⟩
    · exact .inl hin
  · exact .inl (Connection.mem_rooms_leaves.1 (hleaves.of_mem hroom)).1

/-- What is known of a line at a time: nobody acts on it or authenticates that may not follow events,
and every room of a user was joined as that user. -/
structure Admitted (id : ConnectionId) (past : List Happening) (l : Line) : Prop where
  authentication : l.LooksUp ComesToFollower
  principal : l.connection.principal.canSubscribe = true
  room : ∀ userId, .ofUser userId ∈ l.connection.rooms →
    ∃ n, JoinsAsUser past id n userId ∧ HoldsSince past id n (.ofUser userId)

lemma JoinsAsUser.concat {past : List Happening} {n : Nat} {userId : String}
    (h : JoinsAsUser past id n userId) (x : Happening) : JoinsAsUser (past ++ [x]) id n userId := by
  obtain ⟨w, l, reference, rooms, hw, hjoins⟩ := h
  have hlt := (List.getElem?_eq_some_iff.1 hw).1
  exact ⟨w, l, reference, rooms, by rwa [List.getElem?_append_left hlt], hjoins⟩

lemma HoldsSince.concat {past : List Happening} {n : Nat} {room : Room}
    (h : HoldsSince past id n room) {w : World} (a : Action) (hw : w.broker.Holds id room) :
    HoldsSince (past ++ [(w, a)]) id n room := by
  intro i v b hi hv
  rcases getElem?_concat hv with hv | ⟨-, heq⟩
  · exact h i v b hi hv
  · cases heq
    exact hw

/-- Nothing that happens to a line changes this. -/
lemma Admitted.step {past : List Happening} {w : World} {a : Action} {l l' : Line}
    (h : Admitted id past l) (hl : w.line? id = some l) (heffect : w.Effect id a l l') :
    Admitted id (past ++ [(w, a)]) l' := by
  obtain ⟨hlooksUp, hprincipal, -⟩ :=
    heffect.looksUp (Lookup.persists_avoids _ _) trivial comesToFollower_authenticate
      h.authentication
  refine ⟨hlooksUp, ?_, ?_⟩
  · rcases hprincipal with hsame | hanonymous | hcomes
    · exact hsame ▸ h.principal
    · rw [hanonymous]
      rfl
    · by_contra hnot
      exact hcomes ⟨_, rfl, by simpa using hnot⟩
  · intro userId hroom
    by_cases hold : .ofUser userId ∈ l.connection.rooms
    · obtain ⟨n, hjoins, hholds⟩ := h.room userId hold
      have hw : w.broker.Holds id (.ofUser userId) :=
        ⟨l.connection, (line?_eq_some_iff.1 hl).2, hold⟩
      exact ⟨n, hjoins.concat _, hholds.concat a hw⟩
    · obtain hin | ⟨rfl, reference, rooms, hs, hin, huser⟩ := heffect.userRoom_cases hroom
      · exact absurd hin hold
      · refine ⟨past.length, ⟨w, l, reference, rooms, by simp, hl, hs, hin, hold, huser⟩, ?_⟩
        intro i v b hi hv
        rw [List.getElem?_eq_none (by simp; omega)] at hv
        cases hv

lemma admitted_opened (past : List Happening) (now : Nat) (caller : Caller) :
    Admitted id past (.opened config now id caller) := by
  have hsend (frame : String) (c : Connection) :
      (c.send frame).principal = c.principal ∧ (c.send frame).rooms = c.rooms := by
    simp only [Connection.send]
    split <;> exact ⟨rfl, rfl⟩
  refine ⟨Line.looksUp_opened _ _ _ _, ?_, ?_⟩
  · show (Connection.send _ _).principal.canSubscribe = true
    rw [(hsend _ _).1]
    rfl
  · intro userId hroom
    have hrooms : (Line.opened config now id caller).connection.rooms = ∅ := (hsend _ _).2
    rw [hrooms] at hroom
    exact absurd hroom (RoomSet.not_mem_empty _)

/-- At every time an app token that acts on a connection has the right to follow events, and whoever is
in the room of a user has joined it as that user and has stayed since. While nobody in particular acts
on a connection, it comes into no room of a user. It is assumed that what a command does between two
waits is one step, so that the principal that a subscription is checked against is the one that is there
when the rooms are joined. -/
theorem userRooms_joined_as_user {c : Connection}
    (hc : ((start config store).run actions).broker.connection? id = some c) :
    (∀ token, c.principal = .appToken token → token.scopes.contains .readRealtime = true) ∧
    (∀ userId, .ofUser userId ∈ c.rooms →
      ∃ n, JoinsAsUser ((start config store).history actions) id n userId ∧
        HoldsSince ((start config store).history actions) id n (.ofUser userId)) ∧
    ∀ (i : Nat) (w : World) (a : Action) (d d' : Connection),
      ((start config store).history actions)[i]? = some (w, a) → w.broker.connection? id = some d →
      (w.step a).broker.connection? id = some d' →
      d.principal.userId = none →
      ∀ userId, .ofUser userId ∈ d'.rooms → .ofUser userId ∈ d.rooms := by
  obtain ⟨l, hl, rfl⟩ := ((sound_start config store).run actions).paired.exists_line hc
  have hadmitted : Admitted id ((start config store).history actions) l :=
    line_history (fun past w caller _ _ _ => admitted_opened _ w.now caller)
      (fun past w a k k' _ hk heffect _ h => h.step hk heffect) actions hl
  refine ⟨?_, hadmitted.room, ?_⟩
  · intro token htoken
    have hfollows := hadmitted.principal
    rw [htoken] at hfollows
    exact hfollows
  · intro i w a d d' hw hd hd' hnobody userId hroom
    obtain ⟨k, hk, rfl⟩ := (sound_of_getElem?_history hw).paired.exists_line hd
    obtain ⟨k', hk', heffect⟩ := effect_step (a := a) hk
    rw [(line?_eq_some_iff.1 hk').2, Option.some.injEq] at hd'
    subst hd'
    obtain hin | ⟨-, reference, rooms, -, -, huser⟩ := heffect.userRoom_cases hroom
    · exact hin
    · rw [hnobody] at huser
      cases huser

/-- A user joins the room that is the user's own, fails to join that of another one, and then loses the
principal, because the token is issued anew. -/
def roomOutlivesPrincipal : List Action := [
  .updateStore (.content (.addUser "luna")),
  .updateStore (.content (.putToken
    ⟨"apt_luna", "luna", 1, true, .ofList [.readRealtime], .ofTexts [] []⟩)),
  .connect "c" {},
  .arrive "c" (.text ("\x7b\"op\":\"auth\",\"d\":\x7b\"authToken\":\"" ++ firstIssue ++
    "\"\x7d\x7d")),
  .task (.reader "c"),
  .arrive "c" (.text "\x7b\"op\":\"subscribe\",\"d\":\x7b\"user\":[\"luna\"]\x7d\x7d"),
  .task (.reader "c"),
  .arrive "c" (.text ("\x7b\"op\":\"subscribe\",\"d\":" ++
    "\x7b\"timeline\":[\"luna:posts\"],\"user\":[\"mars\"]\x7d\x7d")),
  .task (.reader "c"),
  .updateStore (.content (.reissueToken "apt_luna")),
  .reauthorize none,
  .task (.pass 0)]

/-- Nobody acts on the connection then, but it is still in the room, and has been since it joined it as
the user. -/
theorem userRoom_of_former_user :
    ∃ c n, ((start { jwtSecret := "secret" } {}).run roomOutlivesPrincipal).broker.connection? "c" =
        some c ∧ c.principal = .anonymous ∧ c.rooms.toList = [.ofUser "luna"] ∧
      JoinsAsUser ((start { jwtSecret := "secret" } {}).history roomOutlivesPrincipal) "c" n
        "luna" ∧
      HoldsSince ((start { jwtSecret := "secret" } {}).history roomOutlivesPrincipal) "c" n
        (.ofUser "luna") := by
  have hrun : (((start { jwtSecret := "secret" } {}).run
      roomOutlivesPrincipal).broker.connection? "c").map (fun c => (c.principal, c.rooms.toList)) =
        some (.anonymous, [.ofUser "luna"]) := by
    decide +kernel
  obtain ⟨c, hc, heq⟩ := Option.map_eq_some_iff.1 hrun
  obtain ⟨hprincipal, hrooms⟩ := Prod.mk.inj heq
  have hroom : Room.ofUser "luna" ∈ c.rooms := by
    rw [← RoomSet.mem_toList, hrooms]
    exact List.mem_singleton_self _
  obtain ⟨n, hjoins, hholds⟩ := (userRooms_joined_as_user hc).2.1 "luna" hroom
  exact ⟨c, n, hc, hprincipal, hrooms, hjoins, hholds⟩

end World

end EventGateway
