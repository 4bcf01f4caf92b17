import EventGateway.Proofs.Json.Numerals
import EventGateway.Proofs.Service.Deadlines
import EventGateway.Proofs.Session.Replies

/-!
# The grace of heartbeats

The grace is counted in 64 bits. It is one and a half intervals as long as three intervals can be told in
them. For a longer interval, which the settings may give, there is no grace: every connection is accepted
and registered, and then its session stops, so nothing that the client sends is read and not even the
greeting is written. Main statement: `grace_exact_unless_overflow`.
-/

namespace EventGateway

namespace Config

variable {c c' : Config} {var? : String → Option String} {grace grace' : UInt64}

/-! ### The grace of an interval -/

lemma checkedGrace_eq_ok_iff : c.checkedGrace = .ok grace ↔
    c.heartbeatInterval.toNat * 3 < UInt64.size ∧ grace.toNat = c.heartbeatInterval.toNat * 3 / 2 := by
  by_cases hfits : c.heartbeatInterval.toNat * 3 < UInt64.size
  · have hexact : (c.heartbeatInterval * 3 / 2).toNat = c.heartbeatInterval.toNat * 3 / 2 := by
      rw [← toNat_heartbeatGrace hfits, heartbeatGrace, checkedGrace_of_lt hfits]
      rfl
    rw [checkedGrace_of_lt hfits, Except.ok.injEq, ← UInt64.toNat_inj, hexact]
    exact ⟨fun h => ⟨hfits, h.symm⟩, fun h => h.2.symm⟩
  · rw [checkedGrace_of_le (Nat.not_lt.1 hfits)]
    constructor
    · intro h
      cases h
    · intro h
      exact absurd h.1 hfits

lemma heartbeatInterval_le (h : c.checkedGrace = .ok grace) :
    c.heartbeatInterval.toNat ≤ grace.toNat := by
  rw [(checkedGrace_eq_ok_iff.1 h).2]
  omega

/-- A longer interval has no shorter grace, and what is no longer than an interval with a grace has one. -/
lemma checkedGrace_mono (hle : c.heartbeatInterval.toNat ≤ c'.heartbeatInterval.toNat)
    (h' : c'.checkedGrace = .ok grace') :
    ∃ grace, c.checkedGrace = .ok grace ∧ grace.toNat ≤ grace'.toNat := by
  obtain ⟨hfits, hexact⟩ := checkedGrace_eq_ok_iff.1 h'
  have hless : c.heartbeatInterval.toNat * 3 < UInt64.size := by omega
  refine ⟨_, checkedGrace_of_lt hless, ?_⟩
  rw [(checkedGrace_eq_ok_iff.1 (checkedGrace_of_lt hless)).2, hexact]
  omega

/-! ### Intervals in the environment -/

/-- Every interval of 64 bits can be given. -/
lemma ofEnvironment_decimal {database secret : String} {n : UInt64}
    (hdatabase : var? "DATABASE_URL" = some database) (hsecret : var? "JWT_SECRET" = some secret)
    (hinterval : var? "HEARTBEAT_INTERVAL_MS" = some (String.ofList (Text.decimal n.toNat))) :
    ∃ c, ofEnvironment var? = .ok c ∧ c.heartbeatInterval = n := by
  have hread : readNat? (Nat.pow 2 64) (String.ofList (Text.decimal n.toNat)) = some n.toNat := by
    rw [readNat?, String.toList_ofList]
    exact Json.unsigned?_decimal n.toNat_lt
  simp only [ofEnvironment, hdatabase, hsecret]
  refine ⟨_, rfl, ?_⟩
  simp [hinterval, hread]

end Config

/-! ### Sessions without a grace -/

/-- The session has stopped before its first message: it reads and writes nothing, while its connection
counts as open. -/
structure Line.Stopped (l : Line) : Prop where
  reader : l.session.reader = .ended
  ending : l.session.ending = some none
  written : l.session.written = []
  closed : l.connection.closed = false

namespace Line

variable {l k : Line}

lemma stopped_opened {config : Config} {e : Overflow} (h : config.checkedGrace = .error e) (now : Nat)
    (id : ConnectionId) (caller : Caller) : (opened config now id caller).Stopped where
  reader := by simp only [opened, h, Session.opened]
  ending := by simp only [opened, h, Session.opened]
  written := by simp only [opened, h, Session.opened]
  closed := (World.send_keeps _ _).2

/-- What leaves the reader alone and writes nothing starts no session that has stopped. -/
lemma Stopped.spares (h : l.Stopped) (hspares : l.Spares k)
    (hwritten : k.session.written = l.session.written) : k.Stopped := by
  obtain ⟨hreader, hending, hclosed⟩ | ⟨hidle, -⟩ := hspares.reader
  · exact ⟨hreader.trans h.reader, hending.trans h.ending, hwritten.trans h.written,
      hclosed.trans h.closed⟩
  · rw [h.reader] at hidle
    cases hidle

lemma written_deliver (m : Moment) (slot : Nat) (l : Line) :
    (l.deliver m slot).session.written = l.session.written := by
  obtain heq | ⟨d, progress, -, -, p, heq⟩ := l.deliver_cases m slot
  · rw [heq]
  · rw [heq]
    cases progress <;> rfl

lemma written_reserve (e : Event) (l : Line) : (l.reserve e).session.written = l.session.written := by
  obtain ⟨-, heq⟩ | ⟨-, heq⟩ := l.reserve_cases e <;> rw [heq]

/-- The writer stops too, without a word. -/
lemma Stopped.write (h : l.Stopped) : l.write.Stopped := by
  refine h.spares l.spares_write ?_
  simp only [Line.write, h.ending]
  split <;> rfl

/-- Whatever happens, a session that has stopped goes on to be so. -/
lemma Stopped.step {w : World} {id : ConnectionId} {a : World.Action} (h : l.Stopped)
    (heffect : w.Effect id a l k) : k.Stopped := by
  cases heffect with
  | read =>
    have hrests : l.read w.moment = l := by simp only [read, h.reader]
    rwa [hrests]
  | missHeartbeat =>
    obtain heq | ⟨hidle, -⟩ := l.missHeartbeat_cases w.now
    · rwa [heq]
    · rw [h.reader] at hidle
      cases hidle
  | write => exact h.write
  | deliver _ slot => exact h.spares (l.spares_deliver _ _) (l.written_deliver _ _)
  | demote _ index ps =>
    exact h.spares (l.spares_demotions _) (congrArg Session.written (l.demotions_leave ps).2.1)
  | reserve _ hm he => exact h.spares (l.spares_reserve _) (l.written_reserve _)
  | arrive _ arrival => exact ⟨h.reader, h.ending, h.written, h.closed⟩
  | depart => exact ⟨h.reader, h.ending, h.written, h.closed⟩
  | spare => exact h

end Line

namespace World

variable {config : Config} {store : Store} {actions : List Action} {id : ConnectionId}
  {w : World} {a : Action} {l l' : Line}

/-- Without a grace every session has stopped, and its connection stays in the registry. -/
lemma stopped_run {e : Overflow} (h : config.checkedGrace = .error e)
    (hl : ((start config store).run actions).line? id = some l) :
    l.Stopped ∧ id ∈ ((start config store).run actions).broker.registry := by
  have hstopped : l.Stopped :=
    line_history (P := fun _ l => l.Stopped) (fun _ w caller _ _ _ => Line.stopped_opened h w.now id caller)
      (fun _ _ _ _ _ _ _ heffect _ ih => ih.step heffect) actions hl
  have hsound := (sound_start config store).run actions
  exact ⟨hstopped, (hsound.broker.registered id).2 ⟨_, (line?_eq_some_iff.1 hl).2, hstopped.closed⟩⟩

/-! ### Deadlines -/

/-- The instant of the happening, if the time for a heartbeat of the connection is counted anew in it: the
connection is opened, or its reader comes to a heartbeat. -/
def counting? (id : ConnectionId) : Happening → Option Nat
  | (w, a) =>
    match w.line? id, a with
    | none, .connect i _ => if i = id then some w.now else none
    | none, _ => none
    | some l, a => ((w.step a).line? id).bind fun l' =>
      if l'.unread < l.unread then some w.now else none

/-- The connection is open at the end of the run, and the time for its heartbeat has last been counted anew
at the instant. -/
structure CountedFrom (config : Config) (store : Store) (actions : List Action) (id : ConnectionId)
    (l : Line) (t : Nat) : Prop where
  line : ((start config store).run actions).line? id = some l
  isOpen : l.session.reader ≠ .ended
  last : (((start config store).history actions).filterMap (counting? id)).getLast? = some t

lemma getLast?_filterMap_concat {α β : Type} (f : α → Option β) (l : List α) (x : α) :
    ((l ++ [x]).filterMap f).getLast? = (f x).or (l.filterMap f).getLast? := by
  rw [List.filterMap_append, List.getLast?_append]
  cases hx : f x <;> simp [hx]

/-- The deadline of an open connection is a grace later than when it was counted from. -/
lemma exists_counting (hl : ((start config store).run actions).line? id = some l)
    (hopen : l.session.reader ≠ .ended) :
    ∃ t, (((start config store).history actions).filterMap (counting? id)).getLast? = some t ∧
      l.session.heartbeatDue = t + config.heartbeatGrace.toNat := by
  refine line_run (P := fun past _ l => l.session.reader ≠ .ended →
    ∃ t, (past.filterMap (counting? id)).getLast? = some t ∧
      l.session.heartbeatDue = t + config.heartbeatGrace.toNat) ?_ ?_ actions hl hopen
  · intro past w caller _ _ hnone _
    refine ⟨w.now, ?_, Line.heartbeatDue_opened ..⟩
    have hcounting : counting? id (w, .connect id caller) = some w.now := by
      simp only [counting?, hnone, if_true]
    rw [getLast?_filterMap_concat, hcounting, Option.some_or]
  · intro past w a l l' hconfig _ hl heffect hl' ih hopen'
    rw [getLast?_filterMap_concat]
    have hcounting : counting? id (w, a) = if l'.unread < l.unread then some w.now else none := by
      simp only [counting?, hl, hl', Option.bind_some]
    rw [hcounting]
    cases paces_step hl heffect hl' with
    | keeps hdue hunread _ hended =>
      rw [if_neg (by omega), Option.none_or, hdue]
      exact ih fun h => hopen' (hended h)
    | reads _ _ hunread hdue _ =>
      rw [if_pos (by omega), Option.some_or]
      exact ⟨w.now, rfl, by rw [hdue, hconfig]⟩
    | misses _ _ hended => exact absurd hended hopen'

/-- There is an open session only if there is a grace. -/
lemma checkedGrace_of_open (hl : ((start config store).run actions).line? id = some l)
    (hopen : l.session.reader ≠ .ended) : config.checkedGrace = .ok config.heartbeatGrace := by
  cases h : config.checkedGrace with
  | ok grace =>
    rw [Config.heartbeatGrace, h]
    rfl
  | error e => exact absurd (stopped_run h hl).1.reader hopen

/-- A deadline lies one and a half intervals behind the instant that it is counted from. -/
lemma CountedFrom.due {t : Nat} (h : CountedFrom config store actions id l t) :
    l.session.heartbeatDue = t + config.heartbeatInterval.toNat * 3 / 2 := by
  obtain ⟨t', hlast, hdue⟩ := exists_counting h.line h.isOpen
  have hexact := (Config.checkedGrace_eq_ok_iff.1 (checkedGrace_of_open h.line h.isOpen)).2
  rw [hdue, hexact, Option.some.inj (hlast.symm.trans h.last)]

/-! ### The main statement -/

/-- There is a grace exactly if three intervals can be told in 64 bits, and then it is one and a half
intervals, so it is not shorter than the interval, and an interval that is no longer has a grace that is no
longer. The deadline of an open session is one and a half intervals later than when it was counted from, so
a longer interval never has the earlier deadline. If there is no grace, there is no open session: whatever
happens, all have stopped, and their connections stay registered. Every interval of 64 bits can be given in
the environment. -/
theorem grace_exact_unless_overflow (config : Config) :
    (∀ grace, config.checkedGrace = .ok grace ↔ config.heartbeatInterval.toNat * 3 < UInt64.size ∧
      grace.toNat = config.heartbeatInterval.toNat * 3 / 2) ∧
    (∀ grace, config.checkedGrace = .ok grace → config.heartbeatInterval.toNat ≤ grace.toNat ∧
      ∀ config' : Config, config'.heartbeatInterval.toNat ≤ config.heartbeatInterval.toNat →
        ∃ grace', config'.checkedGrace = .ok grace' ∧ grace'.toNat ≤ grace.toNat) ∧
    (∀ store actions id l, ((start config store).run actions).line? id = some l →
      l.session.reader ≠ .ended → ∃ t, CountedFrom config store actions id l t ∧
        l.session.heartbeatDue = t + config.heartbeatInterval.toNat * 3 / 2) ∧
    (∀ config' : Config, config.heartbeatInterval.toNat ≤ config'.heartbeatInterval.toNat →
      ∀ store actions id l store' actions' id' l' t, CountedFrom config store actions id l t →
        CountedFrom config' store' actions' id' l' t →
        l.session.heartbeatDue ≤ l'.session.heartbeatDue) ∧
    (UInt64.size ≤ config.heartbeatInterval.toNat * 3 → config.checkedGrace = .error .multiply ∧
      ∀ store actions id l, ((start config store).run actions).line? id = some l →
        l.Stopped ∧ id ∈ ((start config store).run actions).broker.registry) ∧
    ∀ (var? : String → Option String) (database secret : String) (n : UInt64),
      var? "DATABASE_URL" = some database → var? "JWT_SECRET" = some secret →
      var? "HEARTBEAT_INTERVAL_MS" = some (String.ofList (Text.decimal n.toNat)) →
      ∃ c, Config.ofEnvironment var? = .ok c ∧ c.heartbeatInterval = n := by
  refine ⟨fun grace => Config.checkedGrace_eq_ok_iff, ?_, ?_, ?_, ?_, ?_⟩
  · intro grace hgrace
    exact ⟨Config.heartbeatInterval_le hgrace, fun config' hle => Config.checkedGrace_mono hle hgrace⟩
  · intro store actions id l hl hopen
    obtain ⟨t, hlast, -⟩ := exists_counting hl hopen
    have hcounted : CountedFrom config store actions id l t := ⟨hl, hopen, hlast⟩
    exact ⟨t, hcounted, hcounted.due⟩
  · intro config' hle store actions id l store' actions' id' l' t h h'
    rw [h.due, h'.due]
    omega
  · intro hlong
    have hfails := Config.checkedGrace_of_le hlong
    exact ⟨hfails, fun store actions id l hl => stopped_run hfails hl⟩
  · intro var? database secret n hdatabase hsecret hinterval
    exact Config.ofEnvironment_decimal hdatabase hsecret hinterval

/-- A connection is opened and the greeting is written. -/
def opening : List Action := [.connect "c" {}, .task (.writer "c")]

/-- The client sends a heartbeat 100 ms after that, and it is read. -/
def heartbeatAt100 : List Action := opening ++ [
  .elapse 100,
  .arrive "c" (.text "\x7b\"op\":\"heartbeat\"\x7d"),
  .task (.reader "c")]

/-- An environment that gives the interval, and what else has to be there. -/
def environment (interval : String) : String → Option String
  | "DATABASE_URL" => some "db"
  | "JWT_SECRET" => some "secret"
  | "HEARTBEAT_INTERVAL_MS" => some interval
  | _ => none

/-- The usual interval and the longest that has a grace, with the deadlines that they give, and one that is
too long. -/
theorem longest_exact_grace :
    let usual : Config := { jwtSecret := "secret" }
    let longest : Config := { jwtSecret := "secret", heartbeatInterval := 6148914691236517205 }
    let tooLong : Config := { jwtSecret := "secret", heartbeatInterval := 6148914691236517206 }
    longest.checkedGrace = .ok 9223372036854775807 ∧
      (∃ l l', CountedFrom usual {} heartbeatAt100 "c" l 100 ∧
        CountedFrom longest {} heartbeatAt100 "c" l' 100 ∧
        l.session.heartbeatDue ≤ l'.session.heartbeatDue) ∧
      (∃ l, ((start tooLong {}).run heartbeatAt100).line? "c" = some l ∧ l.Stopped) ∧
      ∃ c, Config.ofEnvironment (environment "6148914691236517205") = .ok c ∧
        c.heartbeatInterval = 6148914691236517205 := by
  intro usual longest tooLong
  have hcounted (config : Config) (hconfig : config = usual ∨ config = longest) :
      ∃ l, CountedFrom config {} heartbeatAt100 "c" l 100 := by
    have hrun :
        (((start config {}).run heartbeatAt100).line? "c").map
          (fun l => l.session.reader matches .ended) = some false ∧
        (((start config {}).history heartbeatAt100).filterMap (counting? "c")).getLast? = some 100 := by
      rcases hconfig with rfl | rfl <;> decide +kernel
    obtain ⟨hline, hlast⟩ := hrun
    obtain ⟨l, hl, hopen⟩ := Option.map_eq_some_iff.1 hline
    refine ⟨l, hl, fun hended => ?_, hlast⟩
    rw [hended] at hopen
    cases hopen
  obtain ⟨l, h⟩ := hcounted usual (.inl rfl)
  obtain ⟨l', h'⟩ := hcounted longest (.inr rfl)
  obtain ⟨-, -, -, hlonger, -, henvironment⟩ := grace_exact_unless_overflow usual
  have hexact := ((grace_exact_unless_overflow longest).1 9223372036854775807).2 (by decide)
  obtain ⟨-, -, -, -, hstops, -⟩ := grace_exact_unless_overflow tooLong
  have hthere : (((start tooLong {}).run heartbeatAt100).line? "c").isSome = true := by decide +kernel
  obtain ⟨k, hk⟩ := Option.isSome_iff_exists.1 hthere
  refine ⟨hexact, ⟨l, l', h, h', hlonger longest (by decide) _ _ _ _ _ _ _ _ _ h h'⟩,
    ⟨k, hk, ((hstops (by decide)).2 _ _ _ _ hk).1⟩, ?_⟩
  exact henvironment _ "db" "secret" 6148914691236517205 rfl rfl (by decide +kernel)

/-- What an environment with an interval that does not fit is read as. -/
def overlongConfig : Config where
  databaseUrl := "db"
  jwtSecret := "secret"
  port := 4100
  authzTimeout := 1500
  heartbeatInterval := 6148914691236517206
  strictEventNames := false

lemma ofEnvironment_overlong :
    Config.ofEnvironment (environment "6148914691236517206") = .ok overlongConfig := by
  decide +kernel

/-- An interval that does not fit has no grace. A client that connects stays registered, but it is not
greeted, nothing that it sends is read, and it is not timed out. -/
theorem overlong_interval_stops_sessions :
    (¬ ∀ (var? : String → Option String) (config : Config), Config.ofEnvironment var? = .ok config →
      ∃ grace, config.checkedGrace = .ok grace ∧
        grace.toNat = config.heartbeatInterval.toNat * 3 / 2) ∧
    ∃ config, Config.ofEnvironment (environment "6148914691236517206") = .ok config ∧
      let w := (start config {}).run (heartbeatAt100 ++ [.task (.writer "c"), .task (.heartbeat "c")])
      w.broker.connectionCount = 1 ∧
        (w.sessions.get? "c").map (fun s => (s.inbox, s.written)) =
          some ([.text "\x7b\"op\":\"heartbeat\"\x7d"], []) := by
  refine ⟨fun hall => ?_, overlongConfig, ofEnvironment_overlong, by decide +kernel⟩
  obtain ⟨grace, hgrace, -⟩ := hall _ _ ofEnvironment_overlong
  rw [Config.checkedGrace_of_le (by decide)] at hgrace
  cases hgrace

end World

end EventGateway
