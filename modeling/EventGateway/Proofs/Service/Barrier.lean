import EventGateway.Proofs.Service.Provenance
import EventGateway.Proofs.Service.Readmission
import EventGateway.Proofs.Session.Outcomes

/-!
# Replies as barriers

The reply to an authentication, a subscription or an unsubscription that succeeds stands in the outbound
queue between what was dispatched before the command and what was dispatched after it. Every event behind
the reply has been routed by rooms, and decided for a principal, that are those of the command unless
later commands have changed them. The proof compares places in the queue with positions in the history:
a slot is as far behind as the queue was long when it was reserved.
-/

namespace EventGateway

namespace World

variable {config : Config} {store : Store} {actions : List Action} {id : ConnectionId}

/-- A command of the connection succeeds in the step of the given position. -/
def SucceedsAt (history : List Happening) (id : ConnectionId) (n : Nat) (o : Outcome) : Prop :=
  ∃ w l reference, history[n]? = some (w, .task (.reader id)) ∧ w.line? id = some l ∧
    l.Succeeds w.moment reference o

/-- A command of the connection succeeds in the step of the given position, and its reply is accepted at
a place of the outbound queue. -/
def AnsweredAt (history : List Happening) (id : ConnectionId) (n place : Nat) (text : String)
    (o : Outcome) : Prop :=
  ∃ w l reference, history[n]? = some (w, .task (.reader id)) ∧ w.line? id = some l ∧
    l.Succeeds w.moment reference o ∧ l.connection.accepts = true ∧
    place = l.connection.outbound.ledger.length ∧
    text = renderReply reference (.ok (o.reply (l.read w.moment).connection))

/-- A pass takes the principal of the connection away in the step of the given position. -/
def TakenAwayAt (history : List Happening) (id : ConnectionId) (n : Nat) : Prop :=
  ∃ w index, history[n]? = some (w, .task (.pass index)) ∧ w.principal? id ≠ some .anonymous ∧
    (w.step (.task (.pass index))).principal? id = some .anonymous

/-- The rooms are as the command of position `n` has left them, but for commands that have succeeded
between it and position `i`. -/
def RoomsReflect (history : List Happening) (id : ConnectionId) (n i : Nat) (rooms : RoomSet) :
    Outcome → Prop
  | .authenticated _ => True
  | .subscribed joined => ∀ room ∈ joined, room ∈ rooms ∨ ∃ j left, n < j ∧ j < i ∧
    SucceedsAt history id j (.unsubscribed left) ∧ room ∈ left
  | .unsubscribed left => ∀ room ∈ left, room ∈ rooms → ∃ j joined, n < j ∧ j < i ∧
    SucceedsAt history id j (.subscribed joined) ∧ room ∈ joined

/-- The principal is the one that the command of position `n` has installed, but for authentications
and passes between it and position `i`. -/
def PrincipalReflects (history : List Happening) (id : ConnectionId) (n i : Nat) (p : Principal) :
    Outcome → Prop
  | .authenticated q => p = q ∨ ∃ j, n < j ∧ j < i ∧
    (SucceedsAt history id j (.authenticated p) ∨ (p = .anonymous ∧ TakenAwayAt history id j))
  | .subscribed _ => True
  | .unsubscribed _ => True

/-! ### What an action does to rooms and principals -/

lemma Effect.principal_cases {w : World} {a : Action} {l l' : Line} (h : w.Effect id a l l') :
    l'.connection.principal = l.connection.principal ∨
    (a = .task (.reader id) ∧
      ∃ reference, l.Succeeds w.moment reference (.authenticated l'.connection.principal)) ∨
    ((∃ index, a = .task (.pass index)) ∧ l'.connection.principal = .anonymous) := by
  cases h with
  | read => exact (l.principal_read w.moment).imp_right fun h => .inl ⟨rfl, h⟩
  | demote _ index ps => exact (l.demotions_leave ps).1.imp_right fun h => .inr ⟨⟨index, rfl⟩, h⟩
  | missHeartbeat => exact .inl (l.steady_missHeartbeat _).principal
  | write => exact .inl l.steady_write.principal
  | deliver slot => exact .inl (l.steady_deliver _ _).principal
  | reserve => exact .inl (l.steady_reserve _).principal
  | arrive => exact .inl rfl
  | depart => exact .inl rfl
  | spare => exact .inl rfl

lemma Effect.rooms_cases {w : World} {a : Action} {l l' : Line} (h : w.Effect id a l l') :
    l.connection.KeepsRooms l'.connection ∨
    (a = .task (.reader id) ∧
      ((∃ reference rooms, l.Succeeds w.moment reference (.subscribed rooms) ∧
        (rooms.foldl Connection.join l.connection).KeepsRooms l'.connection) ∨
      ∃ reference rooms, l.Succeeds w.moment reference (.unsubscribed rooms) ∧
        (rooms.foldl Connection.leave l.connection).KeepsRooms l'.connection)) := by
  cases h with
  | read => exact (l.rooms_read w.moment).imp_right fun h => ⟨rfl, h⟩
  | demote _ index ps => exact .inl (l.keepsRooms_demotions ps)
  | missHeartbeat => exact .inl (l.keepsRooms_missHeartbeat _)
  | write => exact .inl l.keepsRooms_write
  | deliver slot => exact .inl (l.keepsRooms_deliver _ _)
  | reserve => exact .inl (l.keepsRooms_reserve _)
  | arrive => exact .inl (.refl _)
  | depart => exact .inl (.refl _)
  | spare => exact .inl (.refl _)

/-! ### After a command -/

variable {history : List Happening} {n i : Nat} {o : Outcome}

lemma RoomsReflect.mono {rooms : RoomSet} (h : RoomsReflect history id n i rooms o) :
    RoomsReflect history id n (i + 1) rooms o := by
  cases o with
  | authenticated p => trivial
  | subscribed joined =>
    intro room hroom
    obtain hin | ⟨j, left, hn, hi, hleft⟩ := h room hroom
    · exact .inl hin
    · exact .inr ⟨j, left, hn, by omega, hleft⟩
  | unsubscribed left =>
    intro room hroom hin
    obtain ⟨j, joined, hn, hi, hjoined⟩ := h room hroom hin
    exact ⟨j, joined, hn, by omega, hjoined⟩

lemma PrincipalReflects.mono {p : Principal} (h : PrincipalReflects history id n i p o) :
    PrincipalReflects history id n (i + 1) p o := by
  cases o with
  | authenticated q =>
    obtain h | ⟨j, hn, hi, h⟩ := h
    · exact .inl h
    · exact .inr ⟨j, hn, by omega, h⟩
  | subscribed rooms => trivial
  | unsubscribed rooms => trivial

/-- A step between changes the rooms by a command that succeeds, or closes the connection. -/
lemma RoomsReflect.step {v : World} {a : Action} {l l' : Line}
    (h : RoomsReflect history id n i l.connection.rooms o) (hn : n < i)
    (hv : history[i]? = some (v, a)) (hl : v.line? id = some l) (heffect : v.Effect id a l l') :
    l'.connection.closed = true ∨ RoomsReflect history id n (i + 1) l'.connection.rooms o := by
  have hmono := h.mono
  obtain (hrooms | ⟨hclosed, -⟩) | ⟨rfl, ⟨reference, joined, hs, hrooms | ⟨hclosed, -⟩⟩ |
    ⟨reference, left, hs, hrooms | ⟨hclosed, -⟩⟩⟩ := heffect.rooms_cases
  · exact .inr (hrooms ▸ hmono)
  · exact .inl hclosed
  · refine .inr ?_
    rw [hrooms]
    cases o with
    | authenticated p => trivial
    | subscribed rooms =>
      intro room hroom
      exact (hmono room hroom).imp_left fun hin => Connection.mem_rooms_joins.2 (.inr hin)
    | unsubscribed rooms =>
      intro room hroom hin
      obtain hin | hin := Connection.mem_rooms_joins.1 hin
      · exact ⟨i, joined, hn, by omega, ⟨v, l, reference, hv, hl, hs⟩, hin⟩
      · exact hmono room hroom hin
  · exact .inl hclosed
  · refine .inr ?_
    rw [hrooms]
    cases o with
    | authenticated p => trivial
    | subscribed rooms =>
      intro room hroom
      by_cases hleft : room ∈ left
      · exact .inr ⟨i, left, hn, by omega, ⟨v, l, reference, hv, hl, hs⟩, hleft⟩
      · exact (hmono room hroom).imp_left fun hin => Connection.mem_rooms_leaves.2 ⟨hin, hleft⟩
    | unsubscribed rooms =>
      intro room hroom hin
      exact hmono room hroom (Connection.mem_rooms_leaves.1 hin).1
  · exact .inl hclosed

/-- A step between changes the principal by an authentication that succeeds or by a pass. -/
lemma PrincipalReflects.step {v : World} {a : Action} {l l' : Line}
    (h : PrincipalReflects history id n i l.connection.principal o) (hn : n < i)
    (hv : history[i]? = some (v, a)) (hl : v.line? id = some l) (heffect : v.Effect id a l l')
    (hl' : (v.step a).line? id = some l') :
    PrincipalReflects history id n (i + 1) l'.connection.principal o := by
  have hmono := h.mono
  cases o with
  | authenticated q =>
    obtain hsame | ⟨rfl, reference, hs⟩ | ⟨⟨index, rfl⟩, hp⟩ := heffect.principal_cases
    · exact hsame ▸ hmono
    · exact .inr ⟨i, hn, by omega, .inl ⟨v, l, reference, hv, hl, hs⟩⟩
    · by_cases hanonymous : l.connection.principal = .anonymous
      · rw [hp, ← hanonymous]
        exact hmono
      · refine .inr ⟨i, hn, by omega, .inr ⟨hp, v, index, hv, ?_, ?_⟩⟩
        · simpa [principal?, hl] using hanonymous
        · simp [principal?, hl', hp]
  | subscribed rooms => trivial
  | unsubscribed rooms => trivial

/-- After a command the rooms and the principal reflect it, as long as the connection is open. -/
lemma reflects_of_answeredAt {w : World} {place : Nat} {text : String}
    (h : AnsweredAt (w.history actions) id n place text o) {i : Nat} (hi : n < i) {v : World}
    {a : Action} (hv : (w.history actions)[i]? = some (v, a)) : ∃ l, v.line? id = some l ∧
      (l.connection.closed = true ∨
        RoomsReflect (w.history actions) id n i l.connection.rooms o) ∧
      PrincipalReflects (w.history actions) id n i l.connection.principal o := by
  obtain ⟨u, l, reference, hu, hl, hs, haccepts, -⟩ := h
  refine line_after hu (P := fun i l => (l.connection.closed = true ∨
    RoomsReflect (w.history actions) id n i l.connection.rooms o) ∧
    PrincipalReflects (w.history actions) id n i l.connection.principal o) ?_ ?_ hi hv
  · have hread := (modifies_read u id).line_own hl
    have heffective := (hs.accepted haccepts).1
    refine ⟨l.read u.moment, hread, .inr ?_, ?_⟩
    · cases o with
      | authenticated p => trivial
      | subscribed rooms => exact fun room hroom => .inl (heffective room hroom)
      | unsubscribed rooms => exact fun room hroom hin => absurd hin (heffective room hroom)
    · cases o with
      | authenticated p => exact .inl heffective
      | subscribed rooms => trivial
      | unsubscribed rooms => trivial
  · rintro i v b l l' hni hv hl heffect hl' ⟨hrooms, hprincipal⟩
    refine ⟨?_, hprincipal.step hni hv hl heffect hl'⟩
    rcases hrooms with hclosed | hrooms
    · exact .inl (heffect.leads.invariant (fun _ _ => Line.Move.closed) hclosed)
    · exact hrooms.step hni hv hl heffect

/-! ### Places in the queue -/

/-- A step of a run, with the run to its end. -/
lemma leads_of_getElem? {w v : World} {a : Action} {l k : Line} (hv : (w.history actions)[i]? = some (v, a))
    (hl : v.line? id = some l) (hk : (w.run actions).line? id = some k) :
    ∃ l', (v.step a).line? id = some l' ∧ v.Effect id a l l' ∧ l'.Leads k := by
  obtain ⟨l', hl', heffect⟩ := effect_step (a := a) hl
  refine ⟨l', hl', heffect, ?_⟩
  rw [getElem?_history] at hv
  obtain ⟨b, hb, heq⟩ := Option.map_eq_some_iff.1 hv
  cases heq
  have hsplit : w.run actions = ((w.run (actions.take i)).step a).run (actions.drop (i + 1)) := by
    conv_lhs => rw [← List.take_append_drop (i + 1) actions]
    rw [run_append, run_take_succ hb]
  obtain ⟨k', hk', hleads⟩ := leads_run hl' (actions.drop (i + 1))
  rw [← hsplit, hk, Option.some.injEq] at hk'
  exact hk' ▸ hleads

/-- Between two positions of a history only moves are made on a line. -/
lemma leads_between {w u v : World} {a b : Action} {i n : Nat} {l k : Line} (hin : i ≤ n)
    (hv : (w.history actions)[i]? = some (v, a)) (hu : (w.history actions)[n]? = some (u, b))
    (hl : v.line? id = some l) (hk : u.line? id = some k) : l.Leads k := by
  rw [getElem?_history] at hv hu
  obtain ⟨_, -, heq⟩ := Option.map_eq_some_iff.1 hv
  cases heq
  obtain ⟨_, -, heq⟩ := Option.map_eq_some_iff.1 hu
  cases heq
  obtain ⟨k', hk', hleads⟩ := leads_run hl ((actions.take n).drop i)
  have hrun : (w.run (actions.take i)).run ((actions.take n).drop i) = w.run (actions.take n) := by
    rw [← run_append]
    conv_rhs => rw [← List.take_append_drop i (actions.take n), List.take_take, Nat.min_eq_left hin]
  rw [hrun, hk, Option.some.injEq] at hk'
  exact hk' ▸ hleads

/-- A slot is as far behind in the queue as the queue was long when it was reserved. -/
lemma ReservedAt.place {slot : Nat} {e : Event} {k : Line}
    (h : ReservedAt ((start config store).history actions) id i slot e)
    (hk : ((start config store).run actions).line? id = some k) :
    ∃ v a m l, ((start config store).history actions)[i]? = some (v, a) ∧
      v.Reserves a id m e slot ∧ v.line? id = some l ∧ l.connection.closed = false ∧
      ∃ entry, k.connection.outbound.ledger[l.connection.outbound.ledger.length]? = some entry ∧
        entry.slot? = some slot := by
  obtain ⟨v, a, m, hv, hr⟩ := h
  have hsound : v.Sound := sound_of_getElem?_history hv
  obtain ⟨l, hl⟩ : ∃ l, v.line? id = some l := by
    rw [← Option.isSome_iff_exists]
    by_contra hnone
    exact not_reserves_of_line?_eq_none hsound.paired (by simpa using hnone) a m e slot hr
  obtain ⟨haccepts, hslot⟩ : l.connection.accepts = true ∧
      l.connection.outbound.nextSlot = slot := by
    have hopen := hr.slot
    rw [(line?_eq_some_iff.1 hl).2, Option.bind_some] at hopen
    exact Connection.openSlot?_eq_some_iff.1 hopen
  have hclosed : l.connection.closed = false := by
    simp only [Connection.accepts, Bool.and_eq_true, Bool.not_eq_true'] at haccepts
    exact haccepts.1
  obtain ⟨l', -, heffect, hleads⟩ := leads_of_getElem? hv hl hk
  have hreserve : l' = l.reserve e := heffect.reserves hr.dispatched (hr.routed hsound.broker)
  have hentry : l'.connection.outbound.ledger[l.connection.outbound.ledger.length]? =
      some (.pending slot) := by
    simp [hreserve, Line.reserve, haccepts, Connection.reserve, hslot]
  obtain ⟨entry, hget, hsame⟩ := hleads.accepted_getElem? hentry
  refine ⟨v, a, m, l, hv, hr, hl, hclosed, entry, hget, ?_⟩
  rw [← Entry.slot?_accepted, hsame]
  rfl

section

variable {l : Line} (hl : ((start config store).run actions).line? id = some l) {place : Nat}
  {text : String} (h : AnsweredAt ((start config store).history actions) id n place text o)
include hl h

/-- The reply stays at its place. -/
lemma AnsweredAt.ledger_getElem? : l.connection.outbound.ledger[place]? = some (.ready text) := by
  obtain ⟨u, lu, reference, hu, hlu, hs, haccepts, hplace, htext⟩ := h
  obtain ⟨l', hl', -, hleads⟩ := leads_of_getElem? hu hlu hl
  have hread := (modifies_read u id).line_own hlu
  obtain rfl := Option.some.inj (hl'.symm.trans hread)
  have hentry : (lu.read u.moment).connection.outbound.ledger[place]? = some (.ready text) := by
    rw [(hs.accepted haccepts).2, hplace, htext]
    simp
  obtain ⟨entry, hget, hsame⟩ := hleads.accepted_getElem? hentry
  rw [hget]
  cases entry with
  | ready frame => exact congrArg some hsame
  | pending slot => cases hsame
  | settled slot frame => cases hsame

/-- A slot behind the reply has been reserved after the command has succeeded. -/
lemma AnsweredAt.lt_of_reservedAt {j slot : Nat} {entry : Entry} {e : Event} (hj : place < j)
    (hentry : l.connection.outbound.ledger[j]? = some entry) (hslot : entry.slot? = some slot)
    (hr : ReservedAt ((start config store).history actions) id i slot e) : n < i := by
  obtain ⟨u, lu, reference, hu, hlu, -, -, hplace, -⟩ := h
  obtain ⟨v, a, m, li, hv, -, hli, -, entry', hget, hslot'⟩ := hr.place hl
  have hsame : j = li.connection.outbound.ledger.length :=
    Line.eq_of_apart (queue_invariants hl).2.1.pairwise_apart hentry hget hslot hslot'
  by_contra hnot
  have hle := (leads_between (Nat.le_of_not_lt hnot) hv hu hli hlu).length_ledger_le
  omega

/-- The event has been routed by rooms that reflect the command. -/
lemma AnsweredAt.routed {slot : Nat} {e : Event} (hlt : n < i)
    (hr : ReservedAt ((start config store).history actions) id i slot e) :
    ∃ v a m c, ((start config store).history actions)[i]? = some (v, a) ∧
      v.Reserves a id m e slot ∧ v.broker.connection? id = some c ∧
      RoomsReflect ((start config store).history actions) id n i c.rooms o := by
  obtain ⟨v, a, m, li, hv, hr, hli, hopen, -⟩ := hr.place hl
  obtain ⟨k, hk, hrooms, -⟩ := reflects_of_answeredAt h hlt hv
  rw [hli, Option.some.injEq] at hk
  subst hk
  refine ⟨v, a, m, li.connection, hv, hr, (line?_eq_some_iff.1 hli).2, ?_⟩
  exact hrooms.resolve_left (by simp [hopen])

omit hl in
/-- The event has been decided for a principal that reflects the command. -/
lemma AnsweredAt.decided {slot : Nat} {e : Event} {p : Principal} {r : Limited Decision} (hlt : n < i)
    (hcheck : checkOf ((start config store).history actions) id i slot e = some (p, r)) :
    ∃ k v, i < k ∧ ((start config store).history actions)[k]? =
        some (v, .task (.delivery ⟨id, slot⟩)) ∧ v.principal? id = some p ∧
      PrincipalReflects ((start config store).history actions) id n k p o := by
  obtain ⟨w, later, c, hpoints, hc, hp, -⟩ := exists_checkpoint hcheck
  obtain ⟨k, hik, hw⟩ := getElem?_of_mem_checkpoints (hpoints ▸ List.mem_cons_self ..)
  obtain ⟨l, hl, -, hprincipal⟩ := reflects_of_answeredAt h (Nat.lt_trans hlt hik) hw
  have hconnection : l.connection = c :=
    Option.some.inj ((line?_eq_some_iff.1 hl).2.symm.trans hc)
  refine ⟨k, w, hik, hw, ?_, ?_⟩
  · rw [principal?, hl, Option.map_some, hconnection, hp]
  · rw [← hp, ← hconnection]
    exact hprincipal

end

/-- Every slot of the queue has been reserved for an event. -/
lemma exists_reservedAt {l : Line} (hl : ((start config store).run actions).line? id = some l)
    {entry : Entry} (hentry : entry ∈ l.connection.outbound.ledger) {slot : Nat}
    (hslot : entry.slot? = some slot) :
    ∃ i e, ReservedAt ((start config store).history actions) id i slot e := by
  obtain ⟨-, hslots, htallies⟩ := queue_invariants hl
  have hrange : slot ∈ List.range l.connection.outbound.nextSlot := by
    rw [← show _ = _ from hslots]
    exact List.mem_filterMap.2 ⟨entry, hentry, hslot⟩
  have hlt : slot < l.session.deliveries.length := by
    rw [htallies.count]
    exact List.mem_range.1 hrange
  obtain ⟨i, hi⟩ := ((explained_run config store actions id).1 l hl).reserved slot _
    (List.getElem?_eq_getElem hlt)
  exact ⟨i, _, hi⟩

/-- A reply is a barrier. What is written begins with what comes of the entries before the reply of a
command that has succeeded; then comes the reply, then what comes of the entries behind it. Frames of
events come only of slots there, and every one of these was reserved after the command had taken effect,
for an event in one of the rooms that the connection was then in. These rooms were those that the command
had left, but for rooms that a later command joined or left; and the check of the event read the principal
later still, which was the one that the command had installed unless a later authentication had installed
it or a pass had taken the installed one away. -/
theorem reply_is_barrier {l : Line} (hl : ((start config store).run actions).line? id = some l)
    {place : Nat} {text : String}
    (h : AnsweredAt ((start config store).history actions) id n place text o) :
    let history := (start config store).history actions
    let ledger := l.connection.outbound.ledger
    (l.session.frames <+: (ledger.take place).filterMap Entry.output? ++
      .frame none text :: (ledger.drop (place + 1)).filterMap Entry.output?) ∧
    ∀ entry ∈ ledger.drop (place + 1),
      (∀ frame, entry = .ready frame → ¬ IsEventFrame frame) ∧
      ∀ slot, entry.slot? = some slot →
        (∃ i e, ReservedAt history id i slot e) ∧
        ∀ i e, ReservedAt history id i slot e → n < i ∧
          (∃ v a m c, history[i]? = some (v, a) ∧ v.Reserves a id m e slot ∧
            v.broker.connection? id = some c ∧ RoomsReflect history id n i c.rooms o) ∧
          ∀ p r, checkOf history id i slot e = some (p, r) →
            ∃ k v, i < k ∧ history[k]? = some (v, .task (.delivery ⟨id, slot⟩)) ∧
              v.principal? id = some p ∧ PrincipalReflects history id n k p o := by
  intro history ledger
  obtain ⟨hdrains, -, htallies⟩ := queue_invariants hl
  refine ⟨?_, ?_⟩
  · have hsplit : ledger = ledger.take place ++ .ready text :: ledger.drop (place + 1) := by
      obtain ⟨hlt, hget⟩ := List.getElem?_eq_some_iff.1 (h.ledger_getElem? hl)
      conv_lhs => rw [← List.take_append_drop place ledger, List.drop_eq_getElem_cons hlt, hget]
    have hframes : l.session.frames <+: ledger.filterMap Entry.output? := hdrains.frames_prefix
    rw [hsplit, List.filterMap_append] at hframes
    exact hframes
  · intro entry hbehind
    obtain ⟨j, hj⟩ := List.mem_iff_getElem?.1 hbehind
    rw [List.getElem?_drop] at hj
    have hentry : entry ∈ ledger := List.mem_of_getElem? hj
    constructor
    · rintro frame rfl
      rcases htallies.ready frame hentry with rfl | ⟨reference, result, rfl⟩
      · exact not_isEventFrame_helloFrame _ _
      · exact not_isEventFrame_renderReply _ _
    · intro slot hslot
      refine ⟨exists_reservedAt hl hentry hslot, ?_⟩
      intro i e hr
      have hlt : n < i := h.lt_of_reservedAt hl (by omega) hj hslot hr
      exact ⟨hlt, h.routed hl hlt hr, fun p r hcheck => h.decided hlt hcheck⟩

/-- The event that follows the subscription stands behind its reply. -/
theorem barrier_of_one_message :
    ∃ l text, ((start { jwtSecret := "s" } {}).run oneMessage).line? "c" = some l ∧
      AnsweredAt ((start { jwtSecret := "s" } {}).history oneMessage) "c" 2 1 text
        (.subscribed [.globalUsers]) ∧
      ∃ i e, ReservedAt ((start { jwtSecret := "s" } {}).history oneMessage) "c" i 0 e ∧ 2 < i := by
  have hbefore : (((start { jwtSecret := "s" } {}).run (oneMessage.take 2)).line? "c").map
      (fun l => ((l.nextCommand?, [Room.globalUsers].findSome? l.connection.principal.refusal?),
        (l.connection.closed, l.connection.accepts), l.connection.outbound.ledger.length)) =
      some ((some (none, .subscribe [.globalUsers]), none), (false, true), 1) := by
    decide +kernel
  have hafter : (((start { jwtSecret := "s" } {}).run oneMessage).line? "c").bind
      (fun l => l.connection.outbound.ledger[2]?.map Entry.slot?) = some (some 0) := by
    decide +kernel
  obtain ⟨j, hj, heq⟩ := Option.map_eq_some_iff.1 hbefore
  simp only [Prod.mk.injEq] at heq
  obtain ⟨⟨hnext, hrefusal⟩, ⟨hclosed, haccepts⟩, hlength⟩ := heq
  obtain ⟨l, hl, hentry⟩ := Option.bind_eq_some_iff.1 hafter
  obtain ⟨entry, hget, hslot⟩ := Option.map_eq_some_iff.1 hentry
  have hanswered : AnsweredAt ((start { jwtSecret := "s" } {}).history oneMessage) "c" 2 1 _
      (.subscribed [.globalUsers]) :=
    ⟨_, j, none, rfl, hj, .subscribes hnext hclosed hrefusal, haccepts, hlength.symm, rfl⟩
  have hbehind : entry ∈ l.connection.outbound.ledger.drop 2 :=
    List.mem_iff_getElem?.2 ⟨0, by rw [List.getElem?_drop]; exact hget⟩
  obtain ⟨⟨i, e, hr⟩, hlater⟩ := ((reply_is_barrier hl hanswered).2 entry hbehind).2 0 hslot
  exact ⟨l, _, hl, hanswered, i, e, hr, (hlater i e hr).1⟩

end World

end EventGateway
