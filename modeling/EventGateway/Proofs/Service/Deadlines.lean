import EventGateway.Proofs.Service.Readmission
import EventGateway.Proofs.Session.Heartbeats
import Mathlib.Data.List.Chain

/-!
# Deadlines for heartbeats

From the opening of a connection, and from every heartbeat, a client has the time of the grace. Time does
not pass beyond the deadline while the reader is idle, nor while an idle reader has anything to read. So a
deadline is missed, or a heartbeat that is there is not read, only while an authentication waits for the
store: the reader does neither of the two then.
-/

namespace EventGateway.World

variable {config : Config} {store : Store} {actions : List Action} {id : ConnectionId}
  {history past : List Happening} {w : World} {a : Action} {l l' : Line}

/-! ### Heartbeats of a history -/

/-- The instant of the happening, if the time for a heartbeat of the connection is counted from it: the
connection is opened, or a heartbeat arrives on it. -/
def beat? (id : ConnectionId) : Happening → Option Nat
  | (w, .connect i _) => if i = id ∧ (w.line? id).isNone then some w.now else none
  | (w, .arrive i arrival) =>
    if i = id ∧ (w.line? id).isSome ∧ arrival.isHeartbeat then some w.now else none
  | _ => none

/-- The instants at which the connection was opened and heartbeats arrived on it. -/
def beats (history : List Happening) (id : ConnectionId) : List Nat := history.filterMap (beat? id)

/-- An authentication of the connection has been under way at the instant and after it. -/
def WaitsPast (history : List Happening) (id : ConnectionId) (t : Nat) : Prop :=
  ∃ w target l reference lookup, (w, .elapse target) ∈ history ∧ w.line? id = some l ∧
    l.session.reader = .authenticating reference lookup ∧ w.now ≤ t ∧ t < (w.elapse target).now

/-- The connection is ended for want of a heartbeat, in the step of the given position and at the given
instant. -/
def TimesOutAt (history : List Happening) (id : ConnectionId) (n t : Nat) : Prop :=
  ∃ w a l l', history[n]? = some (w, a) ∧ w.now = t ∧ w.line? id = some l ∧ ¬ l.TimedOut ∧
    (w.step a).line? id = some l' ∧ l'.TimedOut

lemma WaitsPast.concat {t : Nat} (h : WaitsPast past id t) (x : Happening) :
    WaitsPast (past ++ [x]) id t := by
  obtain ⟨w, target, l, reference, lookup, hmem, hrest⟩ := h
  exact ⟨w, target, l, reference, lookup, List.mem_append_left _ hmem, hrest⟩

lemma beats_concat (past : List Happening) (x : Happening) :
    beats (past ++ [x]) id = beats past id ++ (beat? id x).toList := by
  rw [beats, List.filterMap_append]
  cases hx : beat? id x <;> simp [beats, hx]

/-! ### Steps -/

lemma beat?_eq_none (hl : w.line? id = some l) (ha : ∀ arrival, a ≠ .arrive id arrival) :
    beat? id (w, a) = none := by
  cases a with
  | connect i caller => simp [beat?, hl]
  | arrive i arrival =>
    refine if_neg ?_
    rintro ⟨rfl, -⟩
    exact ha arrival rfl
  | _ => rfl

lemma eq_now_of_beat? {b : Nat} (h : beat? id (w, a) = some b) : b = w.now := by
  cases a with
  | connect i caller =>
    simp only [beat?, Option.ite_none_right_eq_some] at h
    exact (Option.some.inj h.2).symm
  | arrive i arrival =>
    simp only [beat?, Option.ite_none_right_eq_some] at h
    exact (Option.some.inj h.2).symm
  | _ => cases h

/-- A step reads a heartbeat, ends the session because its time is over, or leaves all that alone but for
a heartbeat that arrives. -/
lemma paces_step (hl : w.line? id = some l) (heffect : w.Effect id a l l')
    (hl' : (w.step a).line? id = some l') :
    Line.Paces w.now w.config.heartbeatGrace.toNat (beat? id (w, a)).toList.length l l' := by
  by_cases harrive : ∃ arrival, a = .arrive id arrival
  · obtain ⟨arrival, rfl⟩ := harrive
    have harrived : l' = l.arrive arrival := by
      have hline := (modifies_modifySession w id
        fun s => { s with inbox := s.inbox ++ [arrival] }).line id
      rw [if_pos rfl, hl] at hline
      exact Option.some.inj (hl'.symm.trans hline)
    have hcount : (beat? id (w, .arrive id arrival)).toList.length =
        if arrival.isHeartbeat then 1 else 0 := by
      simp only [beat?, hl, Option.isSome_some, true_and]
      split <;> rfl
    rw [hcount, harrived]
    exact Line.paces_arrive _ _ arrival l
  · have hnone := beat?_eq_none hl fun arrival h => harrive ⟨arrival, h⟩
    rw [hnone]
    cases heffect with
    | read => exact l.paces_read w.moment
    | missHeartbeat => exact Line.paces_missHeartbeat _ _ l
    | write => exact l.keepsPace_write.paces _ _
    | deliver => exact (l.keepsPace_deliver _ _).paces _ _
    | demote _ _ ps => exact (l.keepsPace_demotions ps).paces _ _
    | reserve => exact (l.keepsPace_reserve _).paces _ _
    | arrive _ arrival => exact absurd ⟨arrival, rfl⟩ harrive
    | depart => exact l.keepsPace_depart.paces _ _
    | spare => exact (Line.KeepsPace.refl l).paces _ _

/-- While the reader is idle, time passes up to the deadline at most, and only if nothing has
arrived. -/
lemma elapse_of_idle (hl : w.line? id = some l) (hidle : l.session.reader = .idle) (target : Nat) :
    (w.elapse target).now = w.now ∨
      l.unread = 0 ∧ (w.elapse target).now ≤ l.session.heartbeatDue := by
  obtain hsame | ⟨hnow, hle, hdue⟩ := elapse_cases w target
  · exact .inl (by rw [hsame])
  · have hsession := (line?_eq_some_iff.1 hl).1
    have htask {t : Task} (ht : t ∈ [.reader id, .heartbeat id, .writer id]) : t ∈ w.tasks := by
      have hentry := Dictionary.get?_eq_some_iff.1 hsession
      refine List.mem_append_left _ (List.mem_cons_of_mem _ (List.mem_flatMap.2 ⟨_, hentry, ?_⟩))
      exact List.mem_append_right _ ht
    cases hinbox : l.session.inbox with
    | nil =>
      right
      have hready : w.readyAt? (.heartbeat id) = some l.session.heartbeatDue := by
        simp only [readyAt?, hsession, Option.bind_some, Session.heartbeatReadyAt?, hidle]
      refine ⟨by rw [Line.unread, hinbox, List.countP_nil], ?_⟩
      rw [hnow]
      exact hdue _ (htask (by simp)) _ hready
    | cons arrival rest =>
      left
      have hready : w.readyAt? (.reader id) = some 0 := by
        simp only [readyAt?, hsession, Option.bind_some, Session.readerReadyAt?, hidle, hinbox]
        rfl
      have := hdue _ (htask (by simp)) _ hready
      omega

/-- Time that passes beyond an instant, with a reader that has not ended, passes while an authentication
waits, or not beyond what an idle reader allows. -/
lemma elapse_waits (past : List Happening) (hl : w.line? id = some l)
    (hopen : l.session.reader ≠ .ended) (target : Nat) :
    ((w.elapse target).now = w.now ∨
      l.unread = 0 ∧ (w.elapse target).now ≤ l.session.heartbeatDue) ∨
    ∀ t, w.now ≤ t → t < (w.elapse target).now → WaitsPast (past ++ [(w, .elapse target)]) id t := by
  cases hr : l.session.reader with
  | idle => exact .inl (elapse_of_idle hl hr target)
  | authenticating reference lookup =>
    refine .inr fun t hle hlt => ?_
    exact ⟨w, target, l, reference, lookup, by simp, hl, hr, hle, hlt⟩
  | ended => exact absurd hr hopen

/-! ### The invariant -/

/-- The deadline of an open connection is a grace later than when the time was last counted anew for the
reader, at `counted`; the heartbeats that came after that have not been read yet. Where anything is late,
an authentication has kept the reader from it. -/
structure Punctual (grace : Nat) (history : List Happening) (id : ConnectionId) (now : Nat) (l : Line)
    (earlier : List Nat) (counted : Nat) (waiting : List Nat) : Prop where
  beats : beats history id = earlier ++ counted :: waiting
  unread : waiting.length = l.unread
  notBefore : counted + grace ≤ l.session.heartbeatDue
  notAfter : l.session.heartbeatDue ≤ now + grace
  due : l.session.heartbeatDue = counted + grace ∨ WaitsPast history id counted
  arrived : ∀ b ∈ waiting, b ≤ now
  read : ∀ b ∈ waiting, b = now ∨ WaitsPast history id b
  inTime : now ≤ l.session.heartbeatDue ∨ WaitsPast history id l.session.heartbeatDue

lemma punctual_opened (w : World) (caller : Caller) (hnone : w.line? id = none) (grace : Nat)
    (hgrace : grace = config.heartbeatGrace.toNat) :
    Punctual grace (past ++ [(w, .connect id caller)]) id w.now (.opened config w.now id caller)
      (beats past id) w.now [] where
  beats := by
    rw [beats_concat]
    simp [beat?, hnone]
  unread := by simp [Line.unread, Line.opened]
  notBefore := by rw [Line.heartbeatDue_opened, hgrace]
  notAfter := by rw [Line.heartbeatDue_opened, hgrace]
  due := .inl (by rw [Line.heartbeatDue_opened, hgrace])
  arrived _ hb := absurd hb List.not_mem_nil
  read _ hb := absurd hb List.not_mem_nil
  inTime := .inl (by rw [Line.heartbeatDue_opened]; exact Nat.le_add_right _ _)

section

variable {grace counted : Nat} {earlier waiting : List Nat}

/-- Time passes. -/
lemma Punctual.elapse (h : Punctual grace past id w.now l earlier counted waiting)
    (hl : w.line? id = some l) (hopen : l.session.reader ≠ .ended) (target : Nat) :
    Punctual grace (past ++ [(w, .elapse target)]) id (w.elapse target).now l earlier counted
      waiting where
  beats := by
    rw [beats_concat, h.beats]
    exact List.append_nil _
  unread := h.unread
  notBefore := h.notBefore
  notAfter := Nat.le_trans h.notAfter (Nat.add_le_add_right (le_elapse w target) grace)
  due := h.due.imp_right fun hwaits => hwaits.concat _
  arrived b hb := Nat.le_trans (h.arrived b hb) (le_elapse w target)
  read b hb := by
    obtain rfl | hwaits := h.read b hb
    · obtain (hsame | ⟨hnone, -⟩) | hpast := elapse_waits past hl hopen target
      · exact .inl hsame.symm
      · -- There is a heartbeat to read.
        rw [← h.unread] at hnone
        rw [List.length_eq_zero_iff.1 hnone] at hb
        cases hb
      · by_cases hlt : w.now < (w.elapse target).now
        · exact .inr (hpast _ (Nat.le_refl _) hlt)
        · exact .inl (Nat.le_antisymm (le_elapse w target) (Nat.not_lt.1 hlt))
    · exact .inr (hwaits.concat _)
  inTime := by
    obtain hle | hwaits := h.inTime
    · obtain (hsame | ⟨-, hdue⟩) | hpast := elapse_waits past hl hopen target
      · exact .inl (hsame ▸ hle)
      · exact .inl hdue
      · by_cases hlt : l.session.heartbeatDue < (w.elapse target).now
        · exact .inr (hpast _ hle hlt)
        · exact .inl (by omega)
    · exact .inr (hwaits.concat _)

/-- Something happens at an instant. -/
lemma Punctual.step (h : Punctual grace past id w.now l earlier counted waiting)
    (hgrace : grace = w.config.heartbeatGrace.toNat) (hopen : l'.session.reader ≠ .ended)
    (hpaces : Line.Paces w.now w.config.heartbeatGrace.toNat (beat? id (w, a)).toList.length l l') :
    ∃ earlier counted waiting,
      Punctual grace (past ++ [(w, a)]) id w.now l' earlier counted waiting := by
  have hdue := h.due.imp_right fun hwaits => hwaits.concat (w, a)
  have hread (b : Nat) (hb : b ∈ waiting) : b = w.now ∨ WaitsPast (past ++ [(w, a)]) id b :=
    (h.read b hb).imp_right fun hwaits => hwaits.concat (w, a)
  cases hpaces with
  | keeps hsame hunread _ _ =>
    -- What arrives waits behind the other heartbeats.
    have hnew (b : Nat) (hb : b ∈ (beat? id (w, a)).toList) : b = w.now :=
      eq_now_of_beat? (Option.mem_toList.1 hb)
    refine ⟨earlier, counted, waiting ++ (beat? id (w, a)).toList, ⟨?_, ?_, ?_, ?_, ?_, ?_, ?_, ?_⟩⟩
    · rw [beats_concat, h.beats, List.append_assoc, List.cons_append]
    · rw [List.length_append, h.unread, hunread]
    · rw [hsame]
      exact h.notBefore
    · rw [hsame]
      exact h.notAfter
    · rw [hsame]
      exact hdue
    · intro b hb
      rcases List.mem_append.1 hb with hb | hb
      · exact h.arrived b hb
      · exact Nat.le_of_eq (hnew b hb)
    · intro b hb
      rcases List.mem_append.1 hb with hb | hb
      · exact hread b hb
      · exact .inl (hnew b hb)
    · rw [hsame]
      exact h.inTime.imp_right fun hwaits => hwaits.concat (w, a)
  | reads hnone _ hone hmoved _ =>
    -- The heartbeat that has waited longest is read.
    cases waiting with
    | nil =>
      have hlength := h.unread
      rw [hone] at hlength
      cases hlength
    | cons b rest =>
      have hbeats : World.beats (past ++ [(w, a)]) id = earlier ++ counted :: b :: rest := by
        rw [beats_concat, h.beats, List.length_eq_zero_iff.1 hnone, List.append_nil]
      rw [← hgrace] at hmoved
      refine ⟨earlier ++ [counted], b, rest, ⟨?_, ?_, ?_, ?_, ?_, ?_, ?_, ?_⟩⟩
      · rw [hbeats, List.append_assoc, List.singleton_append]
      · exact Nat.add_right_cancel (h.unread.trans hone)
      · rw [hmoved]
        exact Nat.add_le_add_right (h.arrived b (List.mem_cons_self ..)) grace
      · exact Nat.le_of_eq hmoved
      · rw [hmoved]
        exact (hread b (List.mem_cons_self ..)).imp_left fun hb => by rw [hb]
      · exact fun c hc => h.arrived c (List.mem_cons_of_mem _ hc)
      · exact fun c hc => hread c (List.mem_cons_of_mem _ hc)
      · rw [hmoved]
        exact .inl (Nat.le_add_right _ _)
  | misses _ _ hended => exact absurd hended hopen

/-- The deadline of an open connection has to do with its last heartbeat, or with its opening. -/
lemma Punctual.exists_last {now : Nat} (h : Punctual grace past id now l earlier counted waiting) :
    ∃ last, (World.beats past id).getLast? = some last ∧
      (now ≤ last + grace ∨ WaitsPast past id last ∨ WaitsPast past id (last + grace)) ∧
      (last + grace ≤ now → ¬ WaitsPast past id last → l.session.heartbeatDue ≤ now) := by
  rcases List.eq_nil_or_concat waiting with rfl | ⟨before, last, rfl⟩
  · refine ⟨counted, by rw [h.beats]; simp, ?_, fun hlate hwaits => ?_⟩
    · obtain hdue | hwaits := h.due
      · rw [← hdue]
        exact h.inTime.imp_right .inr
      · exact .inr (.inl hwaits)
    · rw [h.due.resolve_right hwaits]
      exact hlate
  · -- The last heartbeat has not been read.
    refine ⟨last, by rw [h.beats]; simp [List.getLast?_cons], ?_, fun hlate hwaits => ?_⟩
    · obtain rfl | hwaits := h.read last (by simp)
      · exact .inl (Nat.le_add_right _ _)
      · exact .inr (.inl hwaits)
    · have harrived := (h.read last (by simp)).resolve_right hwaits
      have hnotAfter := h.notAfter
      omega

end

/-- Every reader that has not ended is punctual. -/
lemma exists_punctual {actions : List Action}
    (hl : ((start config store).run actions).line? id = some l) (hopen : l.session.reader ≠ .ended) :
    ∃ earlier counted waiting,
      Punctual config.heartbeatGrace.toNat ((start config store).history actions) id
        ((start config store).run actions).now l earlier counted waiting := by
  refine line_run (P := fun past w l => l.session.reader ≠ .ended → ∃ earlier counted waiting,
    Punctual config.heartbeatGrace.toNat past id w.now l earlier counted waiting) ?_ ?_ actions hl hopen
  · intro past w caller _ _ hnone _
    rw [now_step (by simp)]
    exact ⟨_, _, _, punctual_opened w caller hnone _ rfl⟩
  · intro past w a l l' hconfig _ hl heffect hl' ih hopen'
    have hpaces := paces_step hl heffect hl'
    have hopen : l.session.reader ≠ .ended := fun hended => hopen' (hpaces.ended hended)
    obtain ⟨earlier, counted, waiting, h⟩ := ih hopen
    by_cases helapse : ∃ target, a = .elapse target
    · obtain ⟨target, rfl⟩ := helapse
      obtain rfl : l' = l := by
        rw [← Option.some.injEq, ← hl, ← hl']
        simp only [World.step, World.elapse]
        split <;> rfl
      exact ⟨_, _, _, h.elapse hl hopen target⟩
    · rw [now_step fun target h => helapse ⟨target, h⟩]
      exact h.step (by rw [hconfig]) hopen' hpaces

/-! ### Timeouts -/

/-- A session is ended for want of a heartbeat only by an idle reader, when the deadline has come. -/
lemma due_of_timedOut (hl : w.line? id = some l) (hbefore : ¬ l.TimedOut)
    (hl' : (w.step a).line? id = some l') (hafter : l'.TimedOut) :
    l.session.reader = .idle ∧ l.session.heartbeatDue ≤ w.now := by
  obtain ⟨k, hk, heffect⟩ := effect_step (a := a) hl
  obtain rfl : l' = k := by
    rw [hl', Option.some.injEq] at hk
    exact hk
  cases paces_step hl heffect hl' with
  | keeps _ _ htimedOut _ => exact absurd (htimedOut hafter) hbefore
  | reads _ _ _ _ htimedOut => exact absurd (htimedOut hafter) hbefore
  | misses hidle hdue _ => exact ⟨hidle, hdue⟩

/-- When the deadline has come, an idle reader can be told so. -/
lemma timedOut_of_due (hl : w.line? id = some l) (hidle : l.session.reader = .idle)
    (hdue : l.session.heartbeatDue ≤ w.now) :
    ∃ l', (w.step (.task (.heartbeat id))).line? id = some l' ∧ l'.TimedOut := by
  have hline := (modifies_missHeartbeat w id).line id
  rw [if_pos rfl, hl] at hline
  refine ⟨l.missHeartbeat w.now, hline, .heartbeatTimeout, ?_, rfl⟩
  simp only [Line.missHeartbeat, Session.heartbeatReadyAt?, hidle]
  rw [if_pos hdue]
  rfl

/-- What the deadline has been counted from when the session is ended for want of a heartbeat. -/
lemma TimesOutAt.punctual {actions : List Action} {n t : Nat}
    (h : TimesOutAt ((start config store).history actions) id n t) :
    ∃ w a l earlier counted waiting, ((start config store).history actions)[n]? = some (w, a) ∧
      w.line? id = some l ∧ l.session.heartbeatDue ≤ t ∧
      Punctual config.heartbeatGrace.toNat (((start config store).history actions).take n) id t l
        earlier counted waiting := by
  obtain ⟨w, a, l, l', hw, rfl, hl, hbefore, hl', hafter⟩ := h
  obtain ⟨hidle, hdue⟩ := due_of_timedOut hl hbefore hl' hafter
  have hrun := hw
  rw [getElem?_history] at hrun
  obtain ⟨b, -, heq⟩ := Option.map_eq_some_iff.1 hrun
  cases heq
  obtain ⟨earlier, counted, waiting, hpunctual⟩ := exists_punctual hl (by simp [hidle])
  exact ⟨_, _, l, earlier, counted, waiting, hw, hl, hdue, history_take .. ▸ hpunctual⟩

/-- A session that has been ended for want of a heartbeat was so at an instant. -/
lemma exists_timesOutAt {actions : List Action}
    (hl : ((start config store).run actions).line? id = some l) (htimedOut : l.TimedOut) :
    ∃ n t, TimesOutAt ((start config store).history actions) id n t := by
  refine line_history (P := fun past l => l.TimedOut → ∃ n t, TimesOutAt past id n t) ?_ ?_ actions hl
    htimedOut
  · rintro past w caller - - - ⟨code, hcode, -⟩
    exact absurd hcode (Session.ending_opened_ne _ _ code)
  · intro past w a l l' _ hl _ hl' ih hafter
    by_cases hbefore : l.TimedOut
    · obtain ⟨n, t, v, b, k, k', hv, hrest⟩ := ih hbefore
      refine ⟨n, t, v, b, k, k', ?_, hrest⟩
      rw [List.getElem?_append_left (List.getElem?_eq_some_iff.1 hv).1]
      exact hv
    · exact ⟨past.length, w.now, w, a, l, l', by simp, rfl, hl, hbefore, hl', hafter⟩

/-- The session of a connection goes on for a grace from its last heartbeat, or from its opening. Then
there is nothing left for an idle reader but to end for want of another one, and no session is ended so
at another time. It is so unless an authentication waits, either past the arrival of the heartbeat, which
is read when the authentication is done, or past the deadline, which is looked at then. The grace is one
and a half intervals if these can be told in 64 bits. -/
theorem times_out_at_deadline_unless_waiting (config : Config) (store : Store) (actions : List Action)
    (id : ConnectionId) :
    let history := (start config store).history actions
    let grace := config.heartbeatGrace.toNat
    (∀ l, ((start config store).run actions).line? id = some l →
      (l.session.reader ≠ .ended → ∃ last, (beats history id).getLast? = some last ∧
        (((start config store).run actions).now ≤ last + grace ∨ WaitsPast history id last ∨
          WaitsPast history id (last + grace)) ∧
        (l.session.reader = .idle → last + grace ≤ ((start config store).run actions).now →
          ¬ WaitsPast history id last →
          ∃ l', (((start config store).run actions).step (.task (.heartbeat id))).line? id = some l' ∧
            l'.TimedOut)) ∧
      (l.TimedOut → ∃ n t, TimesOutAt history id n t)) ∧
    (∀ n t, TimesOutAt history id n t → ∃ earlier last later,
      beats (history.take n) id = earlier ++ last :: later ∧
      (∀ b ∈ later, b = t ∨ WaitsPast (history.take n) id b) ∧
      (t = last + grace ∨ WaitsPast (history.take n) id last ∨
        WaitsPast (history.take n) id (last + grace))) ∧
    (config.heartbeatInterval.toNat * 3 < UInt64.size →
      grace = config.heartbeatInterval.toNat * 3 / 2) := by
  refine ⟨fun l hl => ⟨fun hopen => ?_, exists_timesOutAt hl⟩, fun n t htimesOut => ?_,
    Config.toNat_heartbeatGrace⟩
  · obtain ⟨earlier, counted, waiting, h⟩ := exists_punctual hl hopen
    obtain ⟨last, hlast, hinTime, hdue⟩ := h.exists_last
    exact ⟨last, hlast, hinTime, fun hidle hlate hwaits => timedOut_of_due hl hidle (hdue hlate hwaits)⟩
  · obtain ⟨w, a, l, earlier, counted, waiting, -, -, hdue, h⟩ := htimesOut.punctual
    refine ⟨earlier, counted, waiting, h.beats, h.read, ?_⟩
    obtain hcounted | hwaits := h.due
    · rw [← hcounted]
      obtain hinTime | hwaits := h.inTime
      · exact .inl (Nat.le_antisymm hinTime hdue)
      · exact .inr (.inr hwaits)
    · exact .inr (.inl hwaits)

/-- A client authenticates on a store that takes longer than the grace. -/
def untilWaiting : List Action := [
  .connect "c" {},
  .task (.writer "c"),
  .updateStore (.setLatency (some 200)),
  .arrive "c" (.text ("\x7b\"op\":\"auth\",\"d\":\x7b\"authToken\":\"" ++ firstIssue ++
    "\"\x7d\x7d")),
  .task (.reader "c")]

def briskConfig : Config := { jwtSecret := "secret", heartbeatInterval := 100 }

/-- The session goes on after the deadline. -/
lemma waiting_past_deadline :
    let actions := untilWaiting ++ [.elapse 200]
    ∃ l, ((start briskConfig {}).run actions).line? "c" = some l ∧ l.session.reader ≠ .ended ∧
      (beats ((start briskConfig {}).history actions) "c").getLast? = some 0 ∧
      0 + briskConfig.heartbeatGrace.toNat < ((start briskConfig {}).run actions).now := by
  intro actions
  have hrun :
      (((start briskConfig {}).run actions).line? "c").map (fun l => l.session.reader matches .ended) =
        some false ∧
      (beats ((start briskConfig {}).history actions) "c").getLast? = some 0 ∧
      0 + briskConfig.heartbeatGrace.toNat < ((start briskConfig {}).run actions).now := by
    decide +kernel
  obtain ⟨hline, hbeats, hnow⟩ := hrun
  obtain ⟨l, hl, hopen⟩ := Option.map_eq_some_iff.1 hline
  refine ⟨l, hl, fun hended => ?_, hbeats, hnow⟩
  rw [hended] at hopen
  cases hopen

/-- A client that sends no heartbeat need not be timed out when its time is over. -/
theorem open_after_deadline :
    ¬ ∀ (config : Config) (store : Store) (actions : List Action) (id : ConnectionId) (l : Line)
      (last : Nat), ((start config store).run actions).line? id = some l → l.session.reader ≠ .ended →
      (beats ((start config store).history actions) id).getLast? = some last →
      ((start config store).run actions).now ≤ last + config.heartbeatGrace.toNat := by
  intro hinTime
  obtain ⟨l, hl, hopen, hlast, hnow⟩ := waiting_past_deadline
  exact Nat.not_le.2 hnow (hinTime _ _ _ _ l _ hl hopen hlast)

/-- The authentication has waited. -/
theorem waits_past_deadline :
    let history := (start briskConfig {}).history (untilWaiting ++ [.elapse 200])
    WaitsPast history "c" 0 ∨ WaitsPast history "c" briskConfig.heartbeatGrace.toNat := by
  intro history
  obtain ⟨l, hl, hopen, hlast, hnow⟩ := waiting_past_deadline
  obtain ⟨last, hlast', hinTime, -⟩ := ((times_out_at_deadline_unless_waiting _ _ _ _).1 l hl).1 hopen
  rw [hlast, Option.some.injEq] at hlast'
  subst hlast'
  rw [Nat.zero_add] at hinTime
  exact hinTime.resolve_left (by simpa using hnow)

/-- The first of these comes in less than a grace from the one before, and each next one too, and the
last of them is less than a grace ago. -/
def Steady (grace now : Nat) (beats : List Nat) : Prop :=
  (beats ++ [now]).IsChain fun b next => next < b + grace

/-- A client whose heartbeats arrive in time is timed out only if an authentication waits past the
arrival of one of them. The heartbeat is there, and the reader has not come to it. -/
theorem times_out_beside_unread_heartbeat {config : Config} {store : Store} {actions : List Action}
    {id : ConnectionId} {n t : Nat}
    (htimesOut : TimesOutAt ((start config store).history actions) id n t)
    (hsteady : Steady config.heartbeatGrace.toNat t
      (beats (((start config store).history actions).take n) id)) :
    ∃ w a l b, ((start config store).history actions)[n]? = some (w, a) ∧ w.line? id = some l ∧
      0 < l.unread ∧ b ∈ beats (((start config store).history actions).take n) id ∧ b < t ∧
      WaitsPast (((start config store).history actions).take n) id b := by
  obtain ⟨w, a, l, earlier, counted, waiting, hw, hl, hdue, h⟩ := htimesOut.punctual
  have hlate := Nat.le_trans h.notBefore hdue
  rw [Steady, h.beats, List.append_assoc, List.cons_append] at hsteady
  have hnext := hsteady.right_of_append
  cases waiting with
  | nil =>
    -- The deadline has not come.
    have : t < counted + config.heartbeatGrace.toNat := (List.isChain_cons_cons.1 hnext).1
    omega
  | cons b rest =>
    have : b < counted + config.heartbeatGrace.toNat := (List.isChain_cons_cons.1 hnext).1
    have hearlier : b < t := by omega
    refine ⟨w, a, l, b, hw, hl, by rw [← h.unread]; exact Nat.succ_pos _, by simp [h.beats], hearlier, ?_⟩
    exact (h.read b (List.mem_cons_self ..)).resolve_left (Nat.ne_of_lt hearlier)

/-- A heartbeat arrives while the authentication waits. The time is over when that is done, and so it is
seen before the heartbeat. -/
def timedOutWhileWaiting : List Action := untilWaiting ++ [
  .elapse 100,
  .arrive "c" (.text "\x7b\"op\":\"heartbeat\"\x7d"),
  .elapse 200,
  .task (.reader "c"),
  .task (.heartbeat "c")]

lemma timesOutAt_timedOutWhileWaiting :
    let history := (start briskConfig {}).history timedOutWhileWaiting
    TimesOutAt history "c" 9 200 ∧
      Steady briskConfig.heartbeatGrace.toNat 200 (beats (history.take 9) "c") := by
  intro history
  have hrun :
      ((start briskConfig {}).run (timedOutWhileWaiting.take 9)).now = 200 ∧
      (((start briskConfig {}).run (timedOutWhileWaiting.take 9)).line? "c").map
        (fun l => l.session.ending) = some none ∧
      (((start briskConfig {}).run timedOutWhileWaiting).line? "c").map
        (fun l => l.session.ending) = some (some (some .heartbeatTimeout)) ∧
      beats (history.take 9) "c" = [0, 100] ∧ briskConfig.heartbeatGrace.toNat = 150 := by
    decide +kernel
  obtain ⟨hnow, hbefore, hafter, hbeats, hgrace⟩ := hrun
  obtain ⟨l, hl, hopen⟩ := Option.map_eq_some_iff.1 hbefore
  obtain ⟨l', hl', hended⟩ := Option.map_eq_some_iff.1 hafter
  constructor
  · have haction : timedOutWhileWaiting[9]? = some (.task (.heartbeat "c")) := rfl
    have hhistory : history[9]? = some ((start briskConfig {}).run (timedOutWhileWaiting.take 9),
        .task (.heartbeat "c")) := by
      rw [getElem?_history, haction, Option.map_some]
    refine ⟨_, _, l, l', hhistory, hnow, hl, ?_, ?_, .heartbeatTimeout, hended, rfl⟩
    · rintro ⟨code, hcode, -⟩
      cases hopen.symm.trans hcode
    · rw [← run_take_succ haction]
      exact hl'
  · rw [hbeats, hgrace, Steady]
    simp

/-- A client whose heartbeats arrive in time may be timed out. -/
theorem timed_out_beside_heartbeat :
    ¬ ∀ (config : Config) (store : Store) (actions : List Action) (id : ConnectionId) (n t : Nat),
      Steady config.heartbeatGrace.toNat t
        (beats (((start config store).history actions).take n) id) →
      ¬ TimesOutAt ((start config store).history actions) id n t := by
  intro hspared
  obtain ⟨htimesOut, hsteady⟩ := timesOutAt_timedOutWhileWaiting
  exact hspared _ _ _ _ _ _ hsteady htimesOut

/-- The heartbeat had arrived, and an authentication had waited since. -/
theorem unread_heartbeat_timedOutWhileWaiting :
    let history := (start briskConfig {}).history timedOutWhileWaiting
    ∃ w a l b, history[9]? = some (w, a) ∧ w.line? "c" = some l ∧ 0 < l.unread ∧
      b ∈ beats (history.take 9) "c" ∧ b < 200 ∧ WaitsPast (history.take 9) "c" b :=
  times_out_beside_unread_heartbeat timesOutAt_timedOutWhileWaiting.1
    timesOutAt_timedOutWhileWaiting.2

end EventGateway.World
