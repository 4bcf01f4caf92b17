import EventGateway.Proofs.Transport.Ring
import EventGateway.Transport.Hub
import EventGateway.Transport.Local

/-!
# Delivery by the local transport

The transport publishes on a broadcast channel and gives a stream of messages to every subscriber. Its
streams go on when the channel tells them that they lag. So a subscriber receives what is published after
it subscribed, in that order and as it was published, and misses only what is no longer among the latest
messages, whatever the other subscribers do. Main statement: `stream_delivers`.
-/

namespace EventGateway

namespace LocalTransport

variable {b : Broadcast}

/-! ### What streams are told -/

/-- What the stream is told by the act. -/
def answer? (stream : Nat) (t : LocalTransport b) : Act → Option Received
  | .ask other => if other = stream then (t.ask stream).2 else none
  | _ => none

/-- The messages that are published. -/
def published (acts : List Act) : List Message :=
  acts.filterMap fun
    | .publish m => some m
    | _ => none

/-- How many streams are given. -/
def subscriptions (acts : List Act) : Nat := acts.countP (· = .subscribe)

/-- What a stream is told each time that it asks, and how many messages have been published by then. -/
def turnsFrom (stream : Nat) (t : LocalTransport b) (count : Nat) : List Act → List (Nat × Received)
  | [] => []
  | act :: acts => (t.answer? stream act).toList.map (count, ·) ++
    turnsFrom stream (t.step act) (count + (published [act]).length) acts

/-- How often the stream asks before it is dropped. -/
def asks (stream : Nat) (acts : List Act) : Nat :=
  (acts.takeWhile (· ≠ .drop stream)).count (.ask stream)

def turns (b : Broadcast) (stream : Nat) (acts : List Act) : List (Nat × Received) :=
  turnsFrom stream ({} : LocalTransport b) 0 acts

/-- The messages that a stream gives its subscriber. -/
def messages (turns : List (Nat × Received)) : List Message :=
  turns.filterMap fun
    | (_, .message m) => some m
    | _ => none

/-- Is the act none of another subscriber's? -/
def spares (stream : Nat) : Act → Bool
  | .ask other | .drop other => other = stream
  | .publish _ | .subscribe => true

/-! ### What is to be delivered -/

/-- Of so many messages that have been published, the oldest one that is not before the first place and
that is among the latest. Every message that is passed over is further behind. -/
structure Oldest (first count place : Nat) : Prop where
  first_le : first ≤ place
  lt_count : place < count
  latest : count ≤ place + hubCapacity
  passed : ∀ other, first ≤ other → other < place → other + hubCapacity < count

/-- A stream whose messages before the first place are over is told of all others in their order: each
time of the oldest one that is among the latest. It is told of nothing only if all are over, and of a lag
only if it is further behind than the latest messages; if it asks again at once, there is a message. -/
inductive Follows (log : List Message) : Nat → List (Nat × Received) → Prop
  | nil {first : Nat} : Follows log first []
  | message {first count place : Nat} {m : Message} {turns : List (Nat × Received)} :
    Oldest first count place → log[place]? = some m → Follows log (place + 1) turns →
      Follows log first ((count, .message m) :: turns)
  | nothing {first count : Nat} {turns : List (Nat × Received)} : count ≤ first →
    Follows log first turns → Follows log first ((count, .nothing) :: turns)
  | lagged {first count skipped : Nat} {turns : List (Nat × Received)} : first + hubCapacity < count →
    (∀ turn ∈ turns.head?, turn.1 = count → ∃ m, turn.2 = .message m) →
      Follows log first turns → Follows log first ((count, .lagged skipped) :: turns)

/-- The messages are some of those from the first place on, in their order. -/
lemma Follows.sublist {log : List Message} {first : Nat} {turns : List (Nat × Received)}
    (h : Follows log first turns) : (messages turns).Sublist (log.drop first) := by
  induction h with
  | nil => exact List.nil_sublist _
  | message holdest hm _ ih =>
    obtain ⟨hlt, rfl⟩ := List.getElem?_eq_some_iff.1 hm
    refine List.Sublist.trans ?_ (List.drop_sublist_drop_left log holdest.first_le)
    rw [List.drop_eq_getElem_cons hlt]
    exact ih.cons_cons _
  | nothing _ _ ih => exact ih
  | lagged _ _ _ ih => exact ih

/-! ### The hub -/

lemma oldest_iff {first count place : Nat} :
    Oldest first count place ↔ place = max first (count - hubCapacity) ∧ place < count := by
  have hcapacity : 0 < hubCapacity := by decide
  constructor
  · rintro ⟨hfirst, hlt, hlatest, hpassed⟩
    refine ⟨?_, hlt⟩
    by_contra hne
    have := hpassed (max first (count - hubCapacity)) (Nat.le_max_left ..) (by omega)
    omega
  · rintro ⟨rfl, hlt⟩
    exact ⟨Nat.le_max_left .., hlt, by omega, fun other hfirst hother => by omega⟩

/-- The hub gives a subscriber the oldest message among the latest. -/
lemma receive?_eq_some_iff {hub : Hub} {first next : Nat} {m : Message} :
    hub.receive? first = some (m, next) ↔
      ∃ place, Oldest first hub.log.size place ∧ hub.log[place]? = some m ∧ next = place + 1 := by
  simp only [Hub.receive?, Hub.oldest, Option.map_eq_some_iff, Prod.mk.injEq]
  constructor
  · rintro ⟨n, hn, rfl, rfl⟩
    have hlt : max first (hub.log.size - hubCapacity) < hub.log.size :=
      (Array.getElem?_eq_some_iff.1 hn).1
    exact ⟨_, oldest_iff.2 ⟨rfl, hlt⟩, hn, rfl⟩
  · rintro ⟨place, holdest, hm, rfl⟩
    obtain ⟨rfl, -⟩ := oldest_iff.1 holdest
    exact ⟨m, hm, rfl, rfl⟩

lemma receive?_eq_none_iff {hub : Hub} {first : Nat} :
    hub.receive? first = none ↔ hub.log.size ≤ first := by
  have hcapacity : 0 < hubCapacity := by decide
  simp only [Hub.receive?, Hub.oldest, Option.map_eq_none_iff, Array.getElem?_eq_none_iff]
  omega

/-! ### What a stream sees -/

/-- The transport as one of its streams sees it, in a channel that everything published is sent to: all
messages, how many streams have been given, and the place at which the stream is. -/
structure View where
  log : List Message := []
  given : Nat := 0
  place : Option Nat := none

namespace View

variable {stream : Nat} {v : View}

def step (stream : Nat) (v : View) : Act → View
  | .publish m => { v with log := v.log ++ [m] }
  | .subscribe => { v with
    given := v.given + 1
    place := if v.given = stream then some v.log.length else v.place }
  | .ask other =>
    if other = stream then
      { v with place := v.place.map fun place => (poll hubCapacity v.log place).2 }
    else v
  | .drop other => if other = stream then { v with place := none } else v

def run (stream : Nat) (v : View) (acts : List Act) : View := acts.foldl (step stream) v

def answer? (stream : Nat) (v : View) : Act → Option Received
  | .ask other =>
    if other = stream then v.place.map fun place => (poll hubCapacity v.log place).1 else none
  | _ => none

def turns (stream : Nat) : View → List Act → List (Nat × Received)
  | _, [] => []
  | v, act :: acts =>
    (v.answer? stream act).toList.map (v.log.length, ·) ++ turns stream (v.step stream act) acts

/-- An act on another stream, or on one that is not there, is not seen. -/
lemma step_eq_self {other : Nat} (h : other = stream → v.place = none) :
    v.step stream (.ask other) = v ∧ v.step stream (.drop other) = v ∧
      v.answer? stream (.ask other) = none := by
  by_cases hother : other = stream
  · cases v
    cases h hother
    simp [step, answer?]
  · simp [step, answer?, hother]

/-- What other subscribers do is not seen. -/
lemma turns_filter (stream : Nat) (v : View) (acts : List Act) :
    v.turns stream (acts.filter (spares stream)) = v.turns stream acts := by
  induction acts generalizing v with
  | nil => rfl
  | cons act acts ih =>
    by_cases hspares : spares stream act = true
    · rw [List.filter_cons_of_pos hspares, turns, turns, ih]
    · have hother : v.step stream act = v ∧ v.answer? stream act = none := by
        cases act with
        | publish m => exact absurd rfl hspares
        | subscribe => exact absurd rfl hspares
        | ask other =>
          have hself := step_eq_self (v := v) fun heq => absurd (decide_eq_true heq) hspares
          exact ⟨hself.1, hself.2.2⟩
        | drop other =>
          have hself := step_eq_self (v := v) fun heq => absurd (decide_eq_true heq) hspares
          exact ⟨hself.2.1, rfl⟩
      rw [List.filter_cons_of_neg hspares, turns, hother.1, hother.2, ih]
      rfl

lemma published_cons (act : Act) (acts : List Act) :
    published (act :: acts) = published [act] ++ published acts := by
  rw [published, published, published, ← List.filterMap_append]
  rfl

lemma subscriptions_cons (act : Act) (acts : List Act) :
    subscriptions (act :: acts) = subscriptions [act] + subscriptions acts := by
  rw [subscriptions, subscriptions, subscriptions, ← List.countP_append]
  rfl

lemma step_log (stream : Nat) (v : View) (act : Act) :
    (v.step stream act).log = v.log ++ published [act] := by
  cases act with
  | publish m => rfl
  | subscribe => exact (List.append_nil _).symm
  | ask other =>
    by_cases hother : other = stream <;> simp [step, published, hother]
  | drop other =>
    by_cases hother : other = stream <;> simp [step, published, hother]

lemma step_given (stream : Nat) (v : View) (act : Act) :
    (v.step stream act).given = v.given + subscriptions [act] := by
  cases act with
  | publish m => rfl
  | subscribe => rfl
  | ask other =>
    by_cases hother : other = stream <;> simp [step, subscriptions, hother]
  | drop other =>
    by_cases hother : other = stream <;> simp [step, subscriptions, hother]

/-- Nothing but its subscription gives a stream a place. -/
lemma step_place_eq_none (hplace : v.place = none) {act : Act}
    (h : act = .subscribe → v.given ≠ stream) : (v.step stream act).place = none := by
  cases act with
  | publish m => exact hplace
  | subscribe => exact (if_neg (h rfl)).trans hplace
  | ask other => by_cases hother : other = stream <;> simp [step, hplace, hother]
  | drop other => by_cases hother : other = stream <;> simp [step, hplace, hother]

lemma answer?_eq_none (hplace : v.place = none) (act : Act) : v.answer? stream act = none := by
  cases act <;> simp [answer?, hplace]

/-- Before it is given a stream is told nothing. -/
lemma turns_before (hplace : v.place = none) {before : List Act}
    (hgiven : v.given + subscriptions before ≤ stream) (acts : List Act) :
    v.turns stream (before ++ acts) = (v.run stream before).turns stream acts ∧
      (v.run stream before).place = none ∧
      (v.run stream before).given = v.given + subscriptions before ∧
      (v.run stream before).log = v.log ++ published before := by
  induction before generalizing v with
  | nil => exact ⟨rfl, hplace, rfl, (List.append_nil _).symm⟩
  | cons act before ih =>
    rw [subscriptions_cons, ← Nat.add_assoc, ← step_given stream] at hgiven
    have hplace' : (v.step stream act).place = none := by
      refine step_place_eq_none hplace ?_
      rintro rfl
      have : (v.step stream .subscribe).given = v.given + 1 := rfl
      omega
    obtain ⟨hturns, hnone, hlater, hlog⟩ := ih hplace' hgiven
    refine ⟨?_, hnone, ?_, ?_⟩
    · rw [List.cons_append, turns, answer?_eq_none hplace, hturns]
      rfl
    · rw [subscriptions_cons, ← Nat.add_assoc, ← step_given stream]
      exact hlater
    · rw [published_cons, ← List.append_assoc, ← step_log stream]
      exact hlog

/-- After it is dropped a stream is told nothing. -/
lemma turns_dropped (hplace : v.place = none) (hgiven : stream < v.given) (acts : List Act) :
    v.turns stream acts = [] := by
  induction acts generalizing v with
  | nil => rfl
  | cons act acts ih =>
    have hplace' : (v.step stream act).place = none :=
      step_place_eq_none hplace fun _ => hgiven.ne'
    have hgiven' : stream < (v.step stream act).given := by
      rw [step_given]
      omega
    rw [turns, answer?_eq_none hplace, ih hplace' hgiven']
    rfl

/-! ### What a stream is told -/

lemma le_of_mem_turns {acts : List Act} {turn : Nat × Received} (h : turn ∈ v.turns stream acts) :
    v.log.length ≤ turn.1 := by
  induction acts generalizing v with
  | nil => cases h
  | cons act acts ih =>
    rcases List.mem_append.1 h with h | h
    · obtain ⟨answer, -, rfl⟩ := List.mem_map.1 h
      exact Nat.le_refl _
    · refine Nat.le_trans ?_ (ih h)
      rw [step_log, List.length_append]
      omega

/-- What an act is to a stream that is at a place. -/
lemma turns_cons {place : Nat} (hplace : v.place = some place) (hgiven : stream < v.given) (act : Act)
    (acts : List Act) :
    (act = .ask stream ∧ v.turns stream (act :: acts) =
      (v.log.length, (poll hubCapacity v.log place).1) ::
        View.turns stream { v with place := some (poll hubCapacity v.log place).2 } acts) ∨
    (act = .drop stream ∧ v.turns stream (act :: acts) = []) ∨
    (act ≠ .ask stream ∧ act ≠ .drop stream ∧
      v.turns stream (act :: acts) = (v.step stream act).turns stream acts ∧
      (v.step stream act).place = some place ∧ stream < (v.step stream act).given) := by
  cases act with
  | publish m => exact .inr (.inr ⟨nofun, nofun, rfl, hplace, hgiven⟩)
  | subscribe =>
    exact .inr (.inr ⟨nofun, nofun, rfl, (if_neg hgiven.ne').trans hplace, Nat.lt_succ_of_lt hgiven⟩)
  | ask other =>
    by_cases hother : other = stream
    · subst hother
      exact .inl ⟨rfl, by simp [turns, answer?, step, hplace]⟩
    · refine .inr (.inr ⟨by simpa using hother, nofun, ?_⟩)
      simp [turns, answer?, step, hother, hplace, hgiven]
  | drop other =>
    by_cases hother : other = stream
    · subst hother
      have hnone : (v.step other (.drop other)).place = none := by simp [step]
      refine .inr (.inl ⟨rfl, ?_⟩)
      rw [turns, turns_dropped hnone (by rwa [step_given])]
      rfl
    · refine .inr (.inr ⟨nofun, by simpa using hother, ?_⟩)
      simp [turns, answer?, step, hother, hplace, hgiven]

/-- A stream is told something each time that it asks. -/
lemma length_turns {place : Nat} (hplace : v.place = some place) (hgiven : stream < v.given)
    (acts : List Act) : (v.turns stream acts).length = asks stream acts := by
  induction acts generalizing v place with
  | nil => rfl
  | cons act acts ih =>
    rcases turns_cons hplace hgiven act acts with
      ⟨rfl, hturns⟩ | ⟨rfl, hturns⟩ | ⟨hask, hdrop, hturns, hplace', hgiven'⟩
    · have hnext := ih (v := { v with place := some (poll hubCapacity v.log place).2 }) rfl hgiven
      rw [hturns, List.length_cons, hnext]
      simp [asks]
    · rw [hturns]
      simp [asks]
    · rw [hturns, ih hplace' hgiven']
      simp [asks, hask, hdrop]

/-- A stream at a place with a message is told the message if it asks at once. -/
lemma message_of_head {place : Nat} (hplace : v.place = some place) (hgiven : stream < v.given)
    (hlt : place < v.log.length) (hlatest : v.log.length ≤ place + hubCapacity) {acts : List Act} :
    ∀ turn ∈ (v.turns stream acts).head?, turn.1 = v.log.length → ∃ m, turn.2 = .message m := by
  induction acts generalizing v with
  | nil => exact nofun
  | cons act acts ih =>
    intro turn hturn hcount
    rcases turns_cons hplace hgiven act acts with
      ⟨-, hturns⟩ | ⟨-, hturns⟩ | ⟨-, -, hturns, hplace', hgiven'⟩
    · rw [hturns, poll_message (List.getElem?_eq_getElem hlt) hlatest] at hturn
      cases hturn
      exact ⟨_, rfl⟩
    · rw [hturns] at hturn
      cases hturn
    · rw [hturns] at hturn
      have hle := le_of_mem_turns (List.mem_of_mem_head? hturn)
      -- nothing is published before the turn, so that the place still has its message
      have hlength : (v.step stream act).log.length = v.log.length := by
        rw [step_log, List.length_append] at hle ⊢
        omega
      exact ih hplace' hgiven' (hlength ▸ hlt) (hlength ▸ hlatest) turn hturn (hcount.trans hlength.symm)

/-- The place of a stream whose messages before the first place are over: the first place, unless the
stream has been told of a lag since. -/
structure Lies (first place count : Nat) : Prop where
  first_le : first ≤ place
  le_count : place ≤ count
  lagged : place = first ∨ place + hubCapacity ≤ count

lemma Lies.mono {first place count later : Nat} (h : Lies first place count) (hle : count ≤ later) :
    Lies first place later :=
  ⟨h.first_le, h.le_count.trans hle, h.lagged.imp_right hle.trans'⟩

lemma Lies.oldest {first place count : Nat} (h : Lies first place count) (hlt : place < count)
    (hlatest : count ≤ place + hubCapacity) : Oldest first count place where
  first_le := h.first_le
  lt_count := hlt
  latest := hlatest
  passed other hfirst hother := by
    have := h.lagged
    omega

lemma follows_turns {first place : Nat} (hplace : v.place = some place) (hgiven : stream < v.given)
    (hlies : Lies first place v.log.length) (acts : List Act) :
    Follows (v.log ++ published acts) first (v.turns stream acts) := by
  have hcapacity : 0 < hubCapacity := by decide
  induction acts generalizing v first place with
  | nil => exact .nil
  | cons act acts ih =>
    rcases turns_cons hplace hgiven act acts with
      ⟨rfl, hturns⟩ | ⟨-, hturns⟩ | ⟨-, -, hturns, hplace', hgiven'⟩
    · have hnext {first place : Nat} (hlies : Lies first place v.log.length) :
          Follows (v.log ++ published acts) first
            (View.turns stream { v with place := some place } acts) :=
        ih (v := { v with place := some place }) rfl hgiven hlies
      rw [hturns]
      change Follows (v.log ++ published acts) _ _
      have hfirst := hlies.first_le
      have hle := hlies.le_count
      by_cases hlags : place + hubCapacity < v.log.length
      · rw [poll_lagged hlags]
        refine .lagged (by omega) ?_ (hnext ⟨by omega, by omega, .inr (by omega)⟩)
        exact message_of_head (v := { v with place := some (v.log.length - hubCapacity) }) rfl hgiven
          (Nat.sub_lt (by omega) hcapacity) (Nat.le_add_of_sub_le le_rfl)
      · cases hm : v.log[place]? with
        | some m =>
          have hlt : place < v.log.length := (List.getElem?_eq_some_iff.1 hm).1
          rw [poll_message hm (by omega)]
          refine .message (hlies.oldest hlt (by omega)) ?_ (hnext ⟨le_rfl, hlt, .inl rfl⟩)
          rw [List.getElem?_append_left hlt, hm]
        | none =>
          have hend : v.log.length ≤ place := List.getElem?_eq_none_iff.1 hm
          have hlagged := hlies.lagged
          rw [poll_nothing hend]
          exact .nothing (by omega) (hnext hlies)
    · rw [hturns]
      exact .nil
    · rw [hturns, published_cons, ← List.append_assoc, ← step_log stream]
      refine ih hplace' hgiven' (hlies.mono ?_)
      rw [step_log, List.length_append]
      exact Nat.le_add_right ..

/-- A stream that is given between the acts is told of what is published after them, and of something
each time that it asks. -/
lemma follows_subscribe (before after : List Act) :
    Follows (published before ++ published after) (published before).length
      (View.turns (subscriptions before) {} (before ++ .subscribe :: after)) ∧
    (View.turns (subscriptions before) {} (before ++ .subscribe :: after)).length =
      asks (subscriptions before) after := by
  obtain ⟨hturns, -, hgiven, hlog⟩ := turns_before (v := {}) rfl (Nat.zero_add _).le (.subscribe :: after)
  generalize View.run (subscriptions before) {} before = v at hturns hgiven hlog
  rw [Nat.zero_add] at hgiven
  rw [List.nil_append] at hlog
  have hplace : (v.step (subscriptions before) .subscribe).place = some v.log.length := if_pos hgiven
  have hgiven' : subscriptions before < (v.step (subscriptions before) .subscribe).given := by
    rw [step_given, hgiven]
    exact Nat.lt_succ_self _
  rw [hturns, ← hlog]
  exact ⟨follows_turns hplace hgiven' ⟨le_rfl, le_rfl, .inl rfl⟩ after,
    length_turns hplace hgiven' after⟩

end View

/-! ### The transport as its streams see it -/

/-- For a receiver and for the place in the view of its stream the same messages are still to come. -/
inductive Stands (b : Broadcast) (sent log : List Message) : Option b.Receiver → Option Nat → Prop
  | absent : Stands b sent log none none
  | present {r : b.Receiver} {place : Nat} : b.place r ≤ sent.length → place ≤ log.length →
    sent.drop (b.place r) = log.drop place → Stands b sent log (some r) (some place)

lemma Stands.append {sent log : List Message} {r : Option b.Receiver} {place : Option Nat}
    (h : Stands b sent log r place) (m : Message) : Stands b (sent ++ [m]) (log ++ [m]) r place := by
  cases h with
  | absent => exact .absent
  | present hr hplace hdrop =>
    refine .present ?_ ?_ ?_
    · exact hr.trans (by simp)
    · exact hplace.trans (by simp)
    · rw [List.drop_append_of_le_length hr, List.drop_append_of_le_length hplace, hdrop]

/-- They are told the same, and stand so afterwards. -/
lemma poll_eq_of_drop_eq (capacity : Nat) {p q : Nat} {sent log : List Message} (hp : p ≤ sent.length)
    (hq : q ≤ log.length) (hdrop : sent.drop p = log.drop q) :
    (poll capacity sent p).1 = (poll capacity log q).1 ∧
      (poll capacity sent p).2 ≤ sent.length ∧ (poll capacity log q).2 ≤ log.length ∧
      sent.drop (poll capacity sent p).2 = log.drop (poll capacity log q).2 := by
  have hlength : sent.length - p = log.length - q := by
    rw [← List.length_drop, hdrop, List.length_drop]
  have hlater (n : Nat) : sent.drop (p + n) = log.drop (q + n) := by
    rw [← List.drop_drop, hdrop, List.drop_drop]
  by_cases hlags : p + capacity < sent.length
  · rw [poll_lagged hlags, poll_lagged (show q + capacity < log.length by omega)]
    refine ⟨congrArg Received.lagged (by omega), Nat.sub_le .., Nat.sub_le .., ?_⟩
    have := hlater (sent.length - capacity - p)
    rwa [show p + (sent.length - capacity - p) = sent.length - capacity by omega,
      show q + (sent.length - capacity - p) = log.length - capacity by omega] at this
  · have hget : sent[p]? = log[q]? := by
      rw [← List.head?_drop, hdrop, List.head?_drop]
    cases hm : sent[p]? with
    | some m =>
      have hlt : p < sent.length := (List.getElem?_eq_some_iff.1 hm).1
      rw [poll_message hm (by omega), poll_message (hget ▸ hm) (by omega)]
      exact ⟨rfl, hlt, by simp only; omega, hlater 1⟩
    | none =>
      have hend : sent.length ≤ p := List.getElem?_eq_none_iff.1 hm
      rw [poll_nothing hend, poll_nothing (show log.length ≤ q by omega)]
      exact ⟨rfl, hp, hq, hdrop⟩

/-- The stream sees the transport so. -/
structure Shows (stream : Nat) (sent : List Message) (t : LocalTransport b) (v : View) : Prop where
  holds : b.Sent t.channel sent
  receivers : b.receivers t.channel = t.streams.countP Option.isSome
  given : v.given = t.streams.length
  stands : Stands b sent v.log t.streams[stream]?.join v.place

variable {stream : Nat} {sent : List Message} {t : LocalTransport b} {v : View}

lemma Shows.publish (h : b.IsRing hubCapacity) (hshows : Shows stream sent t v) (m : Message) :
    ∃ sent, Shows stream sent (t.publish m).1 (v.step stream (.publish m)) := by
  by_cases hheard : b.receivers t.channel = 0
  · have hpublish : (t.publish m).1 = t := by
      rw [LocalTransport.publish, h.send_unheard m hheard]
      rfl
    have hstands := hshows.stands
    -- nobody receives, so that the stream has been dropped or is not given yet
    have habsent : t.streams[stream]?.join = none := by
      cases hr : t.streams[stream]?.join with
      | none => rfl
      | some r =>
        have hmem := List.mem_of_getElem? (Option.join_eq_some_iff.1 hr)
        rw [hshows.receivers, List.countP_eq_zero] at hheard
        exact absurd rfl (hheard _ hmem)
    rw [habsent] at hstands
    rw [hpublish]
    refine ⟨sent, hshows.holds, hshows.receivers, hshows.given, ?_⟩
    have hplace : v.place = none := by
      cases hplace : v.place with
      | none => rfl
      | some place =>
        rw [hplace] at hstands
        cases hstands
    change Stands b sent _ _ v.place
    rw [habsent, hplace]
    exact .absent
  · obtain ⟨channel, hsend, hsent, hreceivers⟩ := h.send_heard m hshows.holds hheard
    have hpublish : (t.publish m).1 = { t with channel := channel } := by
      rw [LocalTransport.publish, hsend]
      rfl
    rw [hpublish]
    exact ⟨sent ++ [m], hsent, hreceivers.trans hshows.receivers, hshows.given,
      hshows.stands.append m⟩

lemma Shows.subscribe (h : b.IsRing hubCapacity) (hshows : Shows stream sent t v) :
    Shows stream sent t.subscribe (v.step stream .subscribe) := by
  obtain ⟨hsent, hreceivers, hplace⟩ := h.subscribe hshows.holds
  refine ⟨hsent, ?_, ?_, ?_⟩
  · rw [LocalTransport.subscribe, hreceivers, hshows.receivers, List.countP_append]
    rfl
  · simp [LocalTransport.subscribe, View.step, hshows.given]
  · simp only [LocalTransport.subscribe, View.step]
    have hstands := hshows.stands
    rcases Nat.lt_trichotomy stream t.streams.length with hlt | rfl | hgt
    · rw [List.getElem?_append_left hlt, if_neg (by rw [hshows.given]; omega)]
      exact hstands
    · rw [List.getElem?_concat_length, if_pos hshows.given]
      exact .present hplace.le le_rfl (by rw [hplace, List.drop_length, List.drop_length])
    · rw [List.getElem?_eq_none hgt.le] at hstands
      rw [List.getElem?_eq_none (by simpa using Nat.succ_le_of_lt hgt), if_neg (by rw [hshows.given]; omega)]
      exact hstands

lemma Stands.place_eq_none {sent log : List Message} {place : Option Nat}
    (h : Stands b sent log none place) : place = none := by
  cases h
  rfl

lemma Shows.receivers_set {other : Nat} {r : b.Receiver} (hshows : Shows stream sent t v)
    (hr : t.streams[other]? = some (some r)) (x : Option b.Receiver) :
    (t.streams.set other x).countP Option.isSome =
      b.receivers t.channel - 1 + if x.isSome then 1 else 0 := by
  obtain ⟨hlt, hget⟩ := List.getElem?_eq_some_iff.1 hr
  rw [hshows.receivers, List.countP_set hlt, hget]
  rfl

lemma Shows.receivers_ne_zero {other : Nat} {r : b.Receiver} (hshows : Shows stream sent t v)
    (hr : t.streams[other]? = some (some r)) : b.receivers t.channel ≠ 0 := by
  rw [hshows.receivers]
  exact (List.countP_pos_iff.2 ⟨_, List.mem_of_getElem? hr, rfl⟩).ne'

/-- What another stream does is not seen. -/
lemma Shows.set_other {other : Nat} (hshows : Shows stream sent t v) (hother : other ≠ stream)
    {channel : b.Channel} {x : Option b.Receiver} (hsent : b.Sent channel sent)
    (hreceivers : b.receivers channel = (t.streams.set other x).countP Option.isSome) :
    Shows stream sent ⟨channel, t.streams.set other x⟩ v where
  holds := hsent
  receivers := hreceivers
  given := hshows.given.trans List.length_set.symm
  stands := by
    rw [List.getElem?_set_ne hother]
    exact hshows.stands

lemma Shows.set_self {r : b.Receiver} (hshows : Shows stream sent t v)
    (hr : t.streams[stream]? = some (some r)) {channel : b.Channel} {x : Option b.Receiver}
    {place : Option Nat} (hsent : b.Sent channel sent)
    (hreceivers : b.receivers channel = (t.streams.set stream x).countP Option.isSome)
    (hstands : Stands b sent v.log x place) :
    Shows stream sent ⟨channel, t.streams.set stream x⟩ { v with place := place } where
  holds := hsent
  receivers := hreceivers
  given := hshows.given.trans List.length_set.symm
  stands := by
    rw [List.getElem?_set_self (List.getElem?_eq_some_iff.1 hr).1]
    exact hstands

lemma Shows.ask (h : b.IsRing hubCapacity) (hshows : Shows stream sent t v) (other : Nat) :
    t.answer? stream (.ask other) = v.answer? stream (.ask other) ∧
      Shows stream sent (t.ask other).1 (v.step stream (.ask other)) := by
  have hstands := hshows.stands
  cases hr : t.streams[other]?.join with
  | none =>
    have hask : t.ask other = (t, none) := by rw [LocalTransport.ask, hr]
    have hself : other = stream → v.place = none := by
      rintro rfl
      exact (hr ▸ hstands).place_eq_none
    obtain ⟨hstep, -, hanswer⟩ := View.step_eq_self hself
    rw [hask, hstep, hanswer]
    refine ⟨?_, hshows⟩
    by_cases hother : other = stream
    · subst hother
      exact (if_pos rfl).trans (congrArg Prod.snd hask)
    · exact if_neg hother
  | some r =>
    have hget := Option.join_eq_some_iff.1 hr
    obtain ⟨hsent, hreceivers⟩ := h.receive_keeps r hshows.holds
    have hask : t.ask other = (⟨(b.receive t.channel r).2.1,
        t.streams.set other (some (b.receive t.channel r).2.2)⟩, some (b.receive t.channel r).1) := by
      rw [LocalTransport.ask, hr]
    have hcount : b.receivers (b.receive t.channel r).2.1 =
        (t.streams.set other (some (b.receive t.channel r).2.2)).countP Option.isSome := by
      have hpos := Nat.pos_of_ne_zero (hshows.receivers_ne_zero hget)
      rw [hshows.receivers_set hget, hreceivers, Option.isSome_some, if_pos rfl]
      omega
    rw [hask]
    by_cases hother : other = stream
    · subst hother
      rw [hr] at hstands
      generalize hplace : v.place = place at hstands
      cases hstands with
      | @present _ place hle hle' hdrop =>
        have hreceive := Prod.ext_iff.1 (h.receive r hshows.holds hle)
        have hpoll := poll_eq_of_drop_eq hubCapacity hle hle' hdrop
        rw [← hreceive.1, ← hreceive.2] at hpoll
        obtain ⟨hanswer, hr', hplace', hdrop'⟩ := hpoll
        have hstep : v.step other (.ask other) =
            { v with place := some (poll hubCapacity v.log place).2 } := by
          simp [View.step, hplace]
        refine ⟨?_, hstep ▸ hshows.set_self hget hsent hcount (.present hr' hplace' hdrop')⟩
        simpa [answer?, View.answer?, hask, hplace] using hanswer
    · obtain ⟨hstep, -, hanswer⟩ := View.step_eq_self (v := v) fun heq => absurd heq hother
      rw [hstep, hanswer]
      exact ⟨if_neg hother, hshows.set_other hother hsent hcount⟩

lemma Shows.drop (h : b.IsRing hubCapacity) (hshows : Shows stream sent t v) (other : Nat) :
    Shows stream sent (t.drop other) (v.step stream (.drop other)) := by
  cases hr : t.streams[other]?.join with
  | none =>
    have hdrop : t.drop other = t := by rw [LocalTransport.drop, hr]
    have hself : other = stream → v.place = none := by
      rintro rfl
      exact (hr ▸ hshows.stands).place_eq_none
    rw [hdrop, (View.step_eq_self hself).2.1]
    exact hshows
  | some r =>
    have hget := Option.join_eq_some_iff.1 hr
    obtain ⟨hsent, hreceivers⟩ := h.drop r hshows.holds
    have hdrop : t.drop other = ⟨b.drop t.channel r, t.streams.set other none⟩ := by
      rw [LocalTransport.drop, hr]
    have hcount : b.receivers (b.drop t.channel r) =
        (t.streams.set other none).countP Option.isSome := by
      rw [hshows.receivers_set hget, hreceivers]
      rfl
    rw [hdrop]
    by_cases hother : other = stream
    · subst hother
      have hstep : v.step other (.drop other) = { v with place := none } := if_pos rfl
      rw [hstep]
      exact hshows.set_self hget hsent hcount .absent
    · rw [(View.step_eq_self (v := v) fun heq => absurd heq hother).2.1]
      exact hshows.set_other hother hsent hcount

lemma Shows.step (h : b.IsRing hubCapacity) (hshows : Shows stream sent t v) (act : Act) :
    t.answer? stream act = v.answer? stream act ∧
      ∃ sent, Shows stream sent (t.step act) (v.step stream act) := by
  cases act with
  | publish m => exact ⟨rfl, hshows.publish h m⟩
  | subscribe => exact ⟨rfl, _, hshows.subscribe h⟩
  | ask other =>
    obtain ⟨hanswer, hshows⟩ := hshows.ask h other
    exact ⟨hanswer, _, hshows⟩
  | drop other => exact ⟨rfl, _, hshows.drop h other⟩

lemma Shows.turnsFrom_eq (h : b.IsRing hubCapacity) (hshows : Shows stream sent t v)
    (acts : List Act) : turnsFrom stream t v.log.length acts = v.turns stream acts := by
  induction acts generalizing t v sent with
  | nil => rfl
  | cons act acts ih =>
    obtain ⟨hanswer, sent, hshows⟩ := hshows.step h act
    have hcount : v.log.length + (published [act]).length = (v.step stream act).log.length := by
      rw [View.step_log, List.length_append]
    rw [turnsFrom, View.turns, hanswer, hcount, ih hshows]

lemma shows_start (h : b.IsRing hubCapacity) (stream : Nat) :
    Shows stream [] ({} : LocalTransport b) {} where
  holds := h.empty.1
  receivers := h.empty.2
  given := rfl
  stands := .absent

lemma turns_eq (h : b.IsRing hubCapacity) (stream : Nat) (acts : List Act) :
    turns b stream acts = View.turns stream {} acts :=
  (shows_start h stream).turnsFrom_eq h acts

/-- Once all streams have been dropped nobody receives. -/
lemma Shows.receivers_eq_zero (hshows : Shows stream sent t v)
    (hdropped : ∀ r ∈ t.streams, r = none) : b.receivers t.channel = 0 := by
  rw [hshows.receivers, List.countP_eq_zero]
  rintro r hr
  simp [hdropped r hr]

lemma exists_shows_run (h : b.IsRing hubCapacity) (stream : Nat) (acts : List Act) :
    ∃ sent, Shows stream sent (run ({} : LocalTransport b) acts) (View.run stream {} acts) := by
  have hrun {sent : List Message} {t : LocalTransport b} {v : View} (hshows : Shows stream sent t v) :
      ∃ sent, Shows stream sent (t.run acts) (v.run stream acts) := by
    induction acts generalizing t v sent with
    | nil => exact ⟨sent, hshows⟩
    | cons act acts ih =>
      obtain ⟨-, sent, hshows⟩ := hshows.step h act
      exact ih hshows
  exact hrun (shows_start h stream)

/-! ### The main statement -/

instance : NeZero hubCapacity := ⟨by decide⟩

/-- A stream delivers what is published after it was given, in that order and unchanged: each time the
oldest message after the one before that is among the latest. What other subscribers ask for, and whether
they drop their streams, makes no difference to it. Publishing succeeds, also if there is no stream that
could receive. The hub gives its subscribers the same messages. -/
theorem stream_delivers {b : Broadcast} (h : b.IsRing hubCapacity) :
    (∀ before after : List Act,
      let acts := before ++ .subscribe :: after
      let stream := subscriptions before
      Follows (published acts) (published before).length (turns b stream acts) ∧
        (turns b stream acts).length = asks stream after ∧
        (messages (turns b stream acts)).Sublist (published after)) ∧
    (∀ (stream : Nat) (acts acts' : List Act), acts.filter (spares stream) = acts'.filter (spares stream) →
      turns b stream acts = turns b stream acts') ∧
    (∀ (acts : List Act) (m : Message), let t := run ({} : LocalTransport b) acts
      (t.publish m).2 = .ok () ∧
        ((∀ r ∈ t.streams, r = none) → b.send t.channel m = none ∧ (t.publish m).1 = t)) ∧
    (∀ (hub : Hub) (first next : Nat) (m : Message), hub.receive? first = some (m, next) ↔
      ∃ place, Oldest first hub.log.size place ∧ hub.log[place]? = some m ∧ next = place + 1) ∧
    ∀ (hub : Hub) (first : Nat), hub.receive? first = none ↔ hub.log.size ≤ first := by
  refine ⟨fun before after => ?_, fun stream acts acts' hacts => ?_, fun acts m => ⟨rfl, fun hdropped => ?_⟩,
    fun _ _ _ _ => receive?_eq_some_iff, fun _ _ => receive?_eq_none_iff⟩
  · intro acts stream
    have hpublished : published acts = published before ++ published after := List.filterMap_append
    obtain ⟨hfollows, hlength⟩ := View.follows_subscribe before after
    rw [← turns_eq h] at hfollows hlength
    refine ⟨hpublished ▸ hfollows, hlength, ?_⟩
    have hafter : (published before ++ published after).drop (published before).length =
        published after := List.drop_left
    exact hafter ▸ hfollows.sublist
  · rw [turns_eq h, turns_eq h, ← View.turns_filter, hacts, View.turns_filter]
  · obtain ⟨sent, hshows⟩ := exists_shows_run h 0 acts
    have hsend := h.send_unheard m (hshows.receivers_eq_zero hdropped)
    refine ⟨hsend, ?_⟩
    rw [publish, hsend]
    rfl

/-- Nobody receives the first message. The other stream never asks, and is dropped. -/
theorem second_stream_delivers :
    let m (body : String) : Message := ⟨"post:new", body⟩
    let before : List Act := [.publish (m "1"), .subscribe, .publish (m "2")]
    let after : List Act := [.publish (m "3"), .ask 1, .publish (m "4"), .drop 0, .ask 1, .ask 1]
    let b := MessageRing.channel hubCapacity
    turns b 1 (before ++ .subscribe :: after) =
        [(3, .message (m "3")), (4, .message (m "4")), (4, .nothing)] ∧
      Follows [m "1", m "2", m "3", m "4"] 2 (turns b 1 (before ++ .subscribe :: after)) := by
  intro m before after b
  have hring : b.IsRing hubCapacity := MessageRing.isRing_channel hubCapacity
  exact ⟨by decide +kernel, ((stream_delivers hring).1 before after).1⟩

end LocalTransport

end EventGateway
