import EventGateway.Proofs.Service.Instants
import EventGateway.Proofs.Store.Faults
import EventGateway.Proofs.Visibility.Specification

/-!
# Authorization under faults

How many queries a decision asks, and what becomes of it when they are delayed or fail. A decision asks
five queries at most. Whatever fails and however late it is, the decision is the one without faults, or
nothing is delivered.
-/

namespace EventGateway

/-! ### How many queries are asked -/

section

variable (viewer : Option String)

lemma asksAtMost_someFeedOpen (feeds : List FeedAccess) :
    (someFeedOpen feeds viewer).AsksAtMost 1 := by
  simp only [someFeedOpen]
  split
  · trivial
  · split
    · exact Lookup.asksAtMost_query_bind fun _ => trivial
    · trivial

lemma asksAtMost_readable (author : Option String) (feeds : List FeedAccess) :
    (readable author feeds viewer).AsksAtMost 2 := by
  simp only [readable]
  split
  · trivial
  · refine (asksAtMost_someFeedOpen viewer feeds).bind (n := 1) fun opened => ?_
    split
    · split
      · exact Lookup.asksAtMost_query_bind fun _ => trivial
      · trivial
    · trivial

lemma asksAtMost_postVisible (postId : Option String) :
    (postVisible postId viewer).AsksAtMost 3 := by
  cases postId with
  | none => trivial
  | some id =>
    refine Lookup.asksAtMost_query_bind fun post => ?_
    cases post with
    | none => trivial
    | some post => exact asksAtMost_readable viewer _ _

lemma asksAtMost_destroyedPostVisible (refs : Refs) :
    (destroyedPostVisible refs viewer).AsksAtMost 3 :=
  Lookup.asksAtMost_query_bind fun feeds => asksAtMost_readable viewer _ feeds

lemma asksAtMost_commentDecision (name : EventName) (actor : Option String) :
    (commentDecision name actor viewer).AsksAtMost 2 := by
  simp only [commentDecision]
  split
  · split
    · trivial
    · refine Lookup.asksAtMost_query_bind fun bans => ?_
      split
      · refine Lookup.asksAtMost_query_bind fun hides => ?_
        split
        · trivial
        · trivial
      · trivial
  · trivial

lemma asksAtMost_likeDecision (actor : Option String) :
    (likeDecision actor viewer).AsksAtMost 1 := by
  simp only [likeDecision]
  split
  · split
    · trivial
    · exact Lookup.asksAtMost_query_bind fun _ => trivial
  · trivial

/-- A decision asks five queries at most: the post, a subscription and a ban tell whether it is visible,
and another ban and a preference what is shown of a comment. -/
theorem Event.asksAtMost_decision (e : Event) : (e.decision viewer).AsksAtMost 5 := by
  have hpost := asksAtMost_postVisible viewer e.refs.postId
  simp only [Event.decision]
  cases e.name.eventClass with
  | post =>
    dsimp only
    split
    · exact ((asksAtMost_destroyedPostVisible viewer e.refs).map _).mono (by decide)
    · exact (hpost.map _).mono (by decide)
  | personalPost =>
    dsimp only
    split
    · exact (hpost.map _).mono (by decide)
    · trivial
  | comment =>
    refine hpost.bind (n := 2) fun visible => ?_
    split
    · exact asksAtMost_commentDecision viewer _ _
    · trivial
  | like =>
    refine hpost.bind (n := 2) fun visible => ?_
    split
    · exact (asksAtMost_likeDecision viewer _).mono (by decide)
    · trivial
  | user => trivial
  | notification => trivial
  | global => trivial

end

/-! ### Decisions on a store with faults -/

/-- What a principal gets of an event, and how long it takes to decide, when the queries find the store
in one state after the other. -/
def decideThrough (timeout : Nat) (stores : Nat → Store) (e : Event) (p : Principal) :
    Timed Decision :=
  let t := ((e.decision p.userId).runThrough stores).within timeout
  ⟨(t.result.map decisionResult).getD .deny, t.elapsed⟩

section

variable {c : Content} {stores : Nat → Store} {timeout : Nat} {e : Event} {p : Principal}

lemma decideThrough_const (s : Store) :
    decideThrough timeout (fun _ => s) e p = decideWithin timeout s e p := by
  rw [decideThrough, Lookup.runThrough_const]
  rfl

/-- Queries that do not fail only delay the decision, up to the time limit. -/
lemma decideThrough_faultless (hcontent : ∀ i, (stores i).content = c)
    (h : ∀ i < ((e.decision p.userId).asked c).length, (stores i).failing = false) :
    let total := ∑ i ∈ Finset.range ((e.decision p.userId).asked c).length, (stores i).delay
    decideThrough timeout stores e p =
      if total ≤ timeout then ⟨(e.decision p.userId).eval c, total⟩ else ⟨.deny, timeout⟩ := by
  rw [decideThrough, Lookup.runThrough_faultless _ hcontent h, Timed.within]
  dsimp only
  split
  · rfl
  · rfl

/-- A query that fails denies, before or after the time limit. -/
lemma decideThrough_fault (hcontent : ∀ i, (stores i).content = c) {i : Nat}
    (hi : i < ((e.decision p.userId).asked c).length) (h : (stores i).failing = true) :
    (decideThrough timeout stores e p).result = .deny := by
  obtain ⟨fault, hfault⟩ := Lookup.exists_error_runThrough _ hcontent hi h
  rw [decideThrough, Timed.within]
  split
  · simp only [hfault]
    rfl
  · rfl

/-- Whatever queries fail or are delayed, the decision is the one without faults, or it denies. -/
theorem decideThrough_deny_or_faultless (hcontent : ∀ i, (stores i).content = c) :
    (decideThrough timeout stores e p).result = .deny ∨
      (decideThrough timeout stores e p).result = (e.decision p.userId).eval c := by
  by_cases h : ∃ i < ((e.decision p.userId).asked c).length, (stores i).failing = true
  · obtain ⟨i, hi, hfailing⟩ := h
    exact .inl (decideThrough_fault hcontent hi hfailing)
  · push Not at h
    rw [decideThrough_faultless hcontent fun i hi => by simpa using h i hi]
    split
    · exact .inr rfl
    · exact .inl rfl

/-- On a store that is slow all the time, the decision takes its share for every query. -/
lemma decideWithin_latency (latency : Nat) :
    let total := ((e.decision p.userId).asked c).length * latency
    decideWithin timeout { content := c, latency := some latency } e p =
      if total ≤ timeout then ⟨(e.decision p.userId).eval c, total⟩ else ⟨.deny, timeout⟩ := by
  have h : decideThrough timeout (fun _ => { content := c, latency := some latency }) e p = _ :=
    decideThrough_faultless (fun _ => rfl) fun _ _ => rfl
  rw [decideThrough_const] at h
  simpa [Store.delay] using h

/-- On a store that fails all the time, only what asks nothing is decided. -/
lemma decideWithin_failing (latency : Option Nat) :
    (decideWithin timeout { content := c, failing := true, latency } e p).result =
      if ((e.decision p.userId).asked c).length = 0 then (e.decision p.userId).eval c else .deny := by
  rw [← decideThrough_const]
  split
  · next hnone =>
    rw [decideThrough_faultless (c := c) (fun _ => rfl) fun i hi => absurd hi (by omega), hnone]
    rfl
  · next hsome => exact decideThrough_fault (fun _ => rfl) (Nat.pos_of_ne_zero hsome) rfl

end

namespace World

/-- Faults begin and end, and everything else happens, without a change of what is stored. -/
lemma content_step {a : Action} (ha : ∀ u, a ≠ .updateStore (.content u)) (w : World) :
    (w.step a).store.content = w.store.content := by
  by_cases hstore : ∃ u, a = .updateStore u
  · obtain ⟨u, rfl⟩ := hstore
    cases u with
    | content u => exact absurd rfl (ha u)
    | setFailing | setLatency => rfl
  · exact congrArg Store.content (store_step (fun u hu => hstore ⟨u, hu⟩) w)

lemma content_history {w : World} {actions : List Action}
    (h : ∀ a ∈ actions, ∀ u, a ≠ .updateStore (.content u)) {x : Happening}
    (hx : x ∈ w.history actions) : x.1.store.content = w.store.content := by
  induction actions generalizing w with
  | nil => cases hx
  | cons a rest ih =>
    rcases List.mem_cons.1 hx with rfl | hx
    · rfl
    · rw [ih (fun b hb => h b (List.mem_cons_of_mem _ hb)) hx,
        content_step (h a (List.mem_cons_self ..))]

/-- A check of a delivery during which only queries fail or are delayed decides what it decides without
faults, or it denies. -/
lemma decided_deny_or_faultless {history : List Happening} {id : ConnectionId} {n slot : Nat}
    {e : Event} {p : Principal} {r : Limited Decision} {d : Decision} {c : Content}
    (hcheck : checkOf history id n slot e = some (p, r)) (hd : r.decision? = some d)
    (hcontent : ∀ w ∈ checkpoints history n ⟨id, slot⟩, w.store.content = c) :
    d = .deny ∨ d = (e.decision p.userId).eval c := by
  by_cases hallowed : d = .deny
  · exact .inl hallowed
  · right
    obtain ⟨answers, hanswers, hrests⟩ := exists_answers hcheck
    have hleads := leads_of_allowed hrests hd hallowed
    refine (hleads.eval_eq fun answer hanswer => ?_).symm
    obtain ⟨a, ha, rfl⟩ := List.mem_map.1 hanswer
    have hstate := (hanswers.steps a ha).state
    rw [Answered.answer, hcontent a.state (List.mem_of_getElem? hstate)]

/-- Authorization fails closed, within bounds. A decision asks five queries at most. On a slow store it
takes its share for every query, and denies when the limit is over; on one that fails only what asks
nothing is decided. Whatever single queries fail or are delayed, at once or in a run of the service, the
decision is the one without faults, or it denies. A delivery that is checked step by step is decided as
at once. -/
theorem authorization_fails_closed (c : Content) (e : Event) (p : Principal) (timeout : Nat) :
    let faultless := (decideWithin timeout { content := c } e p).result
    let count := ((e.decision p.userId).asked c).length
    count ≤ 5 ∧
    (∀ latency : Nat,
      (count * latency < timeout →
        decideWithin timeout { content := c, latency := some latency } e p =
          ⟨faultless, count * latency⟩) ∧
      (timeout < count * latency →
        decideWithin timeout { content := c, latency := some latency } e p = ⟨.deny, timeout⟩)) ∧
    (∀ latency : Option Nat,
      (decideWithin timeout { content := c, failing := true, latency } e p).result =
        if count = 0 then faultless else .deny) ∧
    (∀ stores : Nat → Store, (∀ i, (stores i).content = c) →
      (decideThrough timeout stores e p).result = .deny ∨
        (decideThrough timeout stores e p).result = faultless) ∧
    (∀ (s : Store) (now turn : Nat), ∃ r,
      (Limited.start s now timeout turn (e.decision p.userId)).ComesTo s now r
          (now + (decideWithin timeout s e p).elapsed) ∧
        (r.map decisionResult).getD .deny = (decideWithin timeout s e p).result) ∧
    (∀ (config : Config) (store : Store) (actions : List Action) (id : ConnectionId) (n slot : Nat)
      (r : Limited Decision) (d : Decision),
      checkOf ((start config store).history actions) id n slot e = some (p, r) →
      r.decision? = some d →
      (∀ w ∈ checkpoints ((start config store).history actions) n ⟨id, slot⟩, w.store.content = c) →
      d = .deny ∨ d = faultless) := by
  intro faultless count
  have hfaultless : faultless = (e.decision p.userId).eval c :=
    congrArg Timed.result (decideWithin_content c e p timeout)
  refine ⟨?_, ?_, ?_, ?_, ?_, ?_⟩
  · exact (e.asksAtMost_decision p.userId).length_asked_le c
  · intro latency
    rw [decideWithin_latency, hfaultless]
    exact ⟨fun h => if_pos (Nat.le_of_lt h), fun h => if_neg (Nat.not_le_of_lt h)⟩
  · intro latency
    rw [decideWithin_failing, hfaultless]
  · intro stores hcontent
    rw [hfaultless]
    exact decideThrough_deny_or_faultless hcontent
  · intro s now turn
    exact ⟨_, Limited.comesTo_start s now timeout turn (e.decision p.userId), rfl⟩
  · intro config store actions id n slot r d hcheck hd hcontent
    rw [hfaultless]
    exact decided_deny_or_faultless hcheck hd hcontent

/-! ### A comment that takes five queries -/

/-- A post of somebody private, which a subscriber may see, and somebody banned by the subscriber. -/
def bannedCommenter : Content := List.foldl Content.update {} [
  .addUser "luna", .addUser "mars", .addUser "venus", .addFeed "luna:posts" "luna" "Posts",
  .setPrivate "luna" true, .addPost "p" "luna" ["luna:posts"], .subscribe "mars" "luna",
  .ban "mars" "venus"]

def bannedComment : Event :=
  ⟨.commentNew, { postId := some "p", feedIds := ["luna:posts"], actorId := some "venus" }, ['1']⟩

/-- The subscriber joins the timeline, and the comment is checked on a slow store that fails after the
first ban has been looked up. -/
def failsBeforeRedaction : List Action := untilChecked ++ [
  .dispatch (.ofEvent bannedComment),
  .task (.delivery ⟨"c", 0⟩),
  .task (.writer "c"),
  .elapse 100,
  .task (.delivery ⟨"c", 0⟩),
  .elapse 200,
  .task (.delivery ⟨"c", 0⟩),
  .elapse 300,
  .task (.delivery ⟨"c", 0⟩),
  .updateStore (.setFailing true),
  .elapse 400,
  .task (.delivery ⟨"c", 0⟩)]

/-- A store on which one query fails. -/
def failsAt (c : Content) (k i : Nat) : Store := { content := c, failing := i = k }

/-- The subscriber gets a placeholder of the comment, after five queries. If a query is late, or if only
the ban of the author cannot be looked up, the comment itself is not delivered instead. -/
theorem bannedComment_fails_closed :
    let p := Principal.session "mars"
    let history := (start { jwtSecret := "secret" } { content := bannedCommenter }).history
      failsBeforeRedaction
    (decideWithin 500 { content := bannedCommenter } bannedComment p).result = .allowRedacted ∧
    ((bannedComment.decision p.userId).asked bannedCommenter).length = 5 ∧
    decideWithin 500 { content := bannedCommenter, latency := some 99 } bannedComment p =
      ⟨.allowRedacted, 495⟩ ∧
    decideWithin 500 { content := bannedCommenter, latency := some 101 } bannedComment p =
      ⟨.deny, 500⟩ ∧
    (decideWithin 500 { content := bannedCommenter, failing := true } bannedComment p).result =
      .deny ∧
    (decideThrough 500 (failsAt bannedCommenter 3) bannedComment p).result ≠ .allow ∧
    ∃ r d, checkOf history "c" 9 0 bannedComment = some (p, r) ∧ r.decision? = some d ∧
      d ≠ .allow := by
  intro p history
  obtain ⟨-, hlatency, hfailing, hfaults, -, hruns⟩ :=
    authorization_fails_closed bannedCommenter bannedComment p 500
  have hfaultless : (decideWithin 500 { content := bannedCommenter } bannedComment p).result =
      .allowRedacted := by decide +kernel
  have hcount : ((bannedComment.decision p.userId).asked bannedCommenter).length = 5 := by
    decide +kernel
  have hrun : ((checkOf history "c" 9 0 bannedComment).map fun c => (c.1, c.2.decision?)) =
      some (p, some .deny) := by decide +kernel
  rw [hfaultless] at hlatency hfailing hfaults hruns
  rw [hcount] at hlatency hfailing
  have hnot {d : Decision} (h : d = .deny ∨ d = .allowRedacted) : d ≠ .allow := by
    rintro rfl
    simp at h
  refine ⟨hfaultless, hcount, (hlatency 99).1 (by decide), (hlatency 101).2 (by decide),
    hfailing none, hnot (hfaults (failsAt bannedCommenter 3) fun _ => rfl), ?_⟩
  obtain ⟨⟨q, r⟩, hcheck, heq⟩ := Option.map_eq_some_iff.1 hrun
  obtain ⟨hq, hd⟩ := Prod.mk.inj heq
  subst hq
  refine ⟨r, .deny, hcheck, hd, hnot (hruns _ _ _ _ _ _ _ _ hcheck hd fun w hw => ?_)⟩
  obtain ⟨k, -, hk⟩ := getElem?_of_mem_checkpoints hw
  exact content_history (by simp [failsBeforeRedaction, untilChecked]) (List.mem_of_getElem? hk)

end World

end EventGateway
