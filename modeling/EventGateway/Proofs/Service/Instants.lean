import EventGateway.Proofs.Service.Provenance
import EventGateway.Proofs.Store.Answers
import Mathlib.Data.List.Pairwise

/-!
# Instants of visibility

A check asks the store one query after another, and the store may change between them. What the check
decides is what the answers lead to, each from the content in one of its steps. Where the last of these
contents still gives the earlier answers, the decision is the one of that instant; where an answer has
been outdated by then, what is let through may have been visible at no instant.
-/

namespace EventGateway.World

/-! ### Answers of a check -/

/-- The check takes a step in the state, as its step `i`, and has decided nothing before. -/
structure StepsAt (e : Event) (id : ConnectionId) (worlds : List World) (i : Nat) (w : World) :
    Prop where
  state : worlds[i]? = some w
  undecided : ∀ p r, check e id (worlds.take i) = some (p, r) → r.decision? = none

/-- A query that a check has asked, and the step and state in which the store answered. -/
structure Answered where
  query : Query
  step : Nat
  state : World

/-- The query with the content that answered. -/
def Answered.answer (a : Answered) : Query × Content := (a.query, a.state.store.content)

variable {e : Event} {id : ConnectionId} {worlds : List World} {p : Principal} {r : Limited Decision}

lemma StepsAt.lt {i : Nat} {w : World} (h : StepsAt e id worlds i w) : i < worlds.length :=
  (List.getElem?_eq_some_iff.1 h.state).1

lemma StepsAt.append {i : Nat} {w : World} (h : StepsAt e id worlds i w) (later : List World) :
    StepsAt e id (worlds ++ later) i w := by
  have hlt := h.lt
  refine ⟨?_, ?_⟩
  · rw [List.getElem?_append_left hlt]
    exact h.state
  · rw [List.take_append_of_le_length (Nat.le_of_lt hlt)]
    exact h.undecided

/-- After its first step a check goes on from what it has come to. -/
lemma check_append {w : World} (hne : worlds ≠ []) :
    check e id (worlds ++ [w]) = (check e id worlds).map fun c => (c.1, c.2.goOn w.moment) := by
  cases worlds with
  | nil => exact absurd rfl hne
  | cons v later => simp [check, Function.comp_def]

/-- The answers were given in the steps of the check, in this order, by a store without faults. -/
structure Gathers (e : Event) (id : ConnectionId) (worlds : List World) (answers : List Answered) :
    Prop where
  steps : ∀ a ∈ answers, StepsAt e id worlds a.step a.state
  faultless : ∀ a ∈ answers, a.state.store.failing = false
  ordered : answers.Pairwise fun a b => a.step ≤ b.step

lemma gathers_nil : Gathers e id [] [] where
  steps _ ha := absurd ha List.not_mem_nil
  faultless _ ha := absurd ha List.not_mem_nil
  ordered := .nil

/-- What the store answers in the next step comes behind the other answers. -/
lemma Gathers.append {answers : List Answered} (h : Gathers e id worlds answers) {w : World}
    {qs : List Query} (hfaultless : qs = [] ∨ w.store.failing = false)
    (hundecided : qs = [] ∨ ∀ p r, check e id worlds = some (p, r) → r.decision? = none) :
    Gathers e id (worlds ++ [w]) (answers ++ qs.map fun q => ⟨q, worlds.length, w⟩) := by
  have hnew {P : Prop} {a : Answered} (hqs : qs = [] ∨ P)
      (ha : a ∈ qs.map fun q => (⟨q, worlds.length, w⟩ : Answered)) :
      P ∧ a.step = worlds.length ∧ a.state = w := by
    obtain ⟨q, hq, rfl⟩ := List.mem_map.1 ha
    refine ⟨hqs.resolve_left ?_, rfl, rfl⟩
    rintro rfl
    cases hq
  refine ⟨?_, ?_, ?_⟩
  · intro a ha
    rcases List.mem_append.1 ha with ha | ha
    · exact (h.steps a ha).append [w]
    · obtain ⟨hnone, hstep, hstate⟩ := hnew hundecided ha
      refine ⟨?_, ?_⟩
      · rw [hstep, hstate, List.getElem?_concat_length]
      · rw [hstep, List.take_left]
        exact hnone
  · intro a ha
    rcases List.mem_append.1 ha with ha | ha
    · exact h.faultless a ha
    · obtain ⟨hstore, -, hstate⟩ := hnew hfaultless ha
      rw [hstate]
      exact hstore
  · refine List.pairwise_append.2 ⟨h.ordered, ?_, fun a ha b hb => ?_⟩
    · refine List.pairwise_of_forall_mem_list fun a ha b hb => Nat.le_of_eq ?_
      rw [(hnew hundecided ha).2.1, (hnew hundecided hb).2.1]
    · obtain ⟨q, -, rfl⟩ := List.mem_map.1 hb
      exact Nat.le_of_lt (h.steps a ha).lt

/-- In a step of a check that has come to its end the store answers nothing. -/
lemma Gathers.rest {answers : List Answered} (h : Gathers e id worlds answers) (w : World) :
    Gathers e id (worlds ++ [w]) answers := by
  have hnothing := h.append (w := w) (.inl (rfl : ([] : List Query) = [])) (.inl rfl)
  rwa [List.map_nil, List.append_nil] at hnothing

/-- Whatever a check has come to, it was led there by answers that the store gave in its steps. -/
theorem exists_answers (h : check e id worlds = some (p, r)) :
    ∃ answers, Gathers e id worlds answers ∧
      r.Rests ((e.decision p.userId).Leads (answers.map Answered.answer)) := by
  induction worlds using List.reverseRecOn generalizing r with
  | nil => cases h
  | append_singleton before w ih =>
    by_cases hbefore : before = []
    · -- The check begins, and asks as far as the store answers at once.
      subst hbefore
      obtain ⟨c, -, heq⟩ := Option.map_eq_some_iff.1 h
      cases heq
      obtain ⟨qs, hfaultless, hleads⟩ := Limited.exists_leads_ofProgress w.store w.now
        (w.now + w.config.authzTimeout.toNat) w.turns (e.decision c.principal.userId)
      refine ⟨_, gathers_nil.append hfaultless (.inr ?_), ?_⟩
      · intro q r hbegun
        cases hbegun
      · rw [List.nil_append, List.map_map]
        exact hleads
    · rw [check_append hbefore] at h
      obtain ⟨⟨p, r⟩, hcheck, heq⟩ := Option.map_eq_some_iff.1 h
      cases heq
      obtain ⟨answers, hanswers, hleads⟩ := ih hcheck
      cases r with
      | finished result => exact ⟨answers, hanswers.rest w, hleads⟩
      | timedOut => exact ⟨answers, hanswers.rest w, trivial⟩
      | waiting a =>
        obtain ⟨qs, hfaultless, hmore⟩ := Limited.exists_leads_advance w.store w.now w.turns a
        refine ⟨_, hanswers.append hfaultless (.inr ?_), ?_⟩
        · intro q r hr
          cases hcheck.symm.trans hr
          rfl
        · rw [List.map_append, List.map_map]
          exact hmore.mono fun y hy => hleads.trans hy

/-! ### Instants -/

/-- What is let through is what the answers lead to, for a check that fails or runs out of time lets
nothing through. -/
lemma leads_of_allowed {answers : List (Query × Content)} {d : Decision}
    (h : r.Rests ((e.decision p.userId).Leads answers)) (hd : r.decision? = some d)
    (hallowed : d ≠ .deny) : (e.decision p.userId).Leads answers (.done d) := by
  rcases r with (fault | d') | _ | a
  · cases hd
    exact absurd rfl hallowed
  · cases hd
    exact h
  · cases hd
    exact absurd rfl hallowed
  · cases hd

lemma exists_first_step (h : check e id worlds = some (p, r)) : ∃ w, StepsAt e id worlds 0 w := by
  cases worlds with
  | nil => cases h
  | cons w later =>
    refine ⟨w, rfl, fun q r hbegun => ?_⟩
    cases hbegun

/-- In one step all answers come from one content. -/
lemma Gathers.state_eq {answers : List Answered} {a b : Answered} (h : Gathers e id worlds answers)
    (ha : a ∈ answers) (hb : b ∈ answers) (hstep : a.step = b.step) : a.state = b.state := by
  have hstate := (h.steps a ha).state
  rw [hstep, (h.steps b hb).state] at hstate
  exact (Option.some.inj hstate).symm

/-- The content of the last answer gives all of them, or one of them is outdated by then. -/
lemma Gathers.eval_eq_or_outdated {earlier : List Answered} {last : Answered} {d : Decision}
    (h : Gathers e id worlds (earlier ++ [last]))
    (hleads : (e.decision p.userId).Leads ((earlier ++ [last]).map Answered.answer) (.done d)) :
    (e.decision p.userId).eval last.state.store.content = d ∨
      ∃ a ∈ earlier ++ [last], a.step < last.step ∧
        last.state.store.content.answer a.query ≠ a.state.store.content.answer a.query := by
  by_cases hstill : ∀ a ∈ earlier ++ [last],
      last.state.store.content.answer a.query = a.state.store.content.answer a.query
  · left
    refine hleads.eval_eq fun answer hanswer => ?_
    obtain ⟨a, ha, rfl⟩ := List.mem_map.1 hanswer
    exact (hstill a ha).symm
  · right
    push Not at hstill
    obtain ⟨a, ha, hne⟩ := hstill
    refine ⟨a, ha, Nat.lt_of_le_of_ne ?_ fun hstep => hne ?_, hne⟩
    · rcases List.mem_append.1 ha with hearlier | hlast
      · exact (List.pairwise_append.1 h.ordered).2.2 a hearlier last (List.mem_singleton_self _)
      · exact Nat.le_of_eq (congrArg Answered.step (List.mem_singleton.1 hlast))
    · rw [h.state_eq ha (by simp) hstep]

/-- What is let through is what the answers of the store lead to. Either it is also the decision on the
content of one instant of the check, or the content of a later answer no longer gives an earlier one. -/
theorem allowed_in_an_instant_unless_outdated {config : Config} {store : Store}
    {actions : List Action} {n slot : Nat} {d : Decision}
    (hcheck : checkOf ((start config store).history actions) id n slot e = some (p, r))
    (hd : r.decision? = some d) (hallowed : d ≠ .deny) :
    let worlds := checkpoints ((start config store).history actions) n ⟨id, slot⟩
    ∃ answers, Gathers e id worlds answers ∧
      (e.decision p.userId).Leads (answers.map Answered.answer) (.done d) ∧
      ((∃ i w, StepsAt e id worlds i w ∧ (e.decision p.userId).eval w.store.content = d) ∨
        ∃ a ∈ answers, ∃ b ∈ answers, a.step < b.step ∧
          b.state.store.content.answer a.query ≠ a.state.store.content.answer a.query) := by
  intro worlds
  obtain ⟨answers, hanswers, hrests⟩ := exists_answers hcheck
  have hleads := leads_of_allowed hrests hd hallowed
  refine ⟨answers, hanswers, hleads, ?_⟩
  obtain rfl | ⟨earlier, last, rfl⟩ := List.eq_nil_or_concat' answers
  · -- Nothing was asked, so any step is such an instant.
    obtain ⟨w, hw⟩ := exists_first_step hcheck
    exact .inl ⟨0, w, hw, hleads.eval_eq fun _ h => absurd h List.not_mem_nil⟩
  · have hlast : last ∈ earlier ++ [last] := by simp
    obtain heval | ⟨a, ha, houtdated⟩ := hanswers.eval_eq_or_outdated hleads
    · exact .inl ⟨last.step, last.state, hanswers.steps last hlast, heval⟩
    · exact .inr ⟨a, ha, last, hlast, houtdated⟩

/-! ### A ban that is lifted with the subscription -/

/-- A post of somebody private. A subscriber, who is banned by the author, cannot see it. -/
def bannedSubscriber : Store where
  content := List.foldl Content.update {} [
    .addUser "luna", .addUser "mars", .addFeed "luna:posts" "luna" "Posts", .setPrivate "luna" true,
    .addPost "p" "luna" ["luna:posts"], .subscribe "mars" "luna", .ban "luna" "mars"]

def privatePost : Event := ⟨.postNew, { postId := some "p", feedIds := ["luna:posts"] }, ['1']⟩

/-- A token of the subscriber. -/
def subscriberToken : String :=
  "eyJ0eXAiOiJKV1QiLCJhbGciOiJIUzI1NiJ9" ++
  ".eyJ0eXBlIjoic2Vzcy52MSIsInVzZXJJZCI6Im1hcnMifQ" ++
  ".jwpzsIDi8TzkHUYperFwLUOfSJnKHKGbcpoMOf8522I"

/-- The subscriber joins the timeline, and the post is checked on a store that takes its time. -/
def untilChecked : List Action := [
  .connect "c" {},
  .arrive "c" (.text ("\x7b\"op\":\"auth\",\"d\":\x7b\"authToken\":\"" ++ subscriberToken ++
    "\"\x7d\x7d")),
  .task (.reader "c"),
  .arrive "c" (.text
    "\x7b\"op\":\"subscribe\",\"d\":\x7b\"timeline\":[\"luna:posts\"]\x7d\x7d"),
  .task (.reader "c"),
  .task (.writer "c"),
  .task (.writer "c"),
  .task (.writer "c"),
  .updateStore (.setLatency (some 100))]

/-- The subscription has been found when it ends. The ban is lifted after that, and before it is looked
up. -/
def unsubscribedThenUnbanned : List Action := untilChecked ++ [
  .dispatch (.ofEvent privatePost),
  .task (.delivery ⟨"c", 0⟩),
  .task (.writer "c"),
  .elapse 100,
  .task (.delivery ⟨"c", 0⟩),
  .elapse 200,
  .task (.delivery ⟨"c", 0⟩),
  .updateStore (.content (.unsubscribe "mars" "luna")),
  .updateStore (.content (.unban "luna" "mars")),
  .elapse 300,
  .task (.delivery ⟨"c", 0⟩)]

/-- The post is let through, and at no instant since it was dispatched may the subscriber see it. -/
lemma unsubscribedThenUnbanned_allows :
    let history := (start { jwtSecret := "secret" } bannedSubscriber).history unsubscribedThenUnbanned
    ReservedAt history "c" 9 0 privatePost ∧
      (∃ p r, checkOf history "c" 9 0 privatePost = some (p, r) ∧ p.userId = some "mars" ∧
        r.decision? = some .allow) ∧
      ∀ k v a, 9 < k → history[k]? = some (v, a) →
        (privatePost.decision (some "mars")).eval v.store.content = .deny := by
  intro history
  have hrun :
      ((((start { jwtSecret := "secret" } bannedSubscriber).run untilChecked).line? "c").map
          fun l => (l.connection.accepts, l.connection.outbound.nextSlot)) = some (true, 0) ∧
      ((start { jwtSecret := "secret" } bannedSubscriber).run untilChecked).routed?
        (.ofEvent privatePost) "c" = some privatePost ∧
      ((checkOf history "c" 9 0 privatePost).map fun c => (c.1.userId, c.2.decision?)) =
        some (some "mars", some .allow) ∧
      ((history.drop 10).all fun h => decide
        ((privatePost.decision (some "mars")).eval h.1.store.content = .deny)) = true := by
    decide +kernel
  obtain ⟨hline, hrouted, hcheck, hdenied⟩ := hrun
  refine ⟨?_, ?_, ?_⟩
  · obtain ⟨l, hl, hfacts⟩ := Option.map_eq_some_iff.1 hline
    rw [Prod.mk.injEq] at hfacts
    have hsound := (sound_start { jwtSecret := "secret" } bannedSubscriber).run untilChecked
    have hget : history[9]? = some ((start { jwtSecret := "secret" } bannedSubscriber).run untilChecked,
        .dispatch (.ofEvent privatePost)) := by
      rw [getElem?_history]
      rfl
    refine ⟨_, _, .ofEvent privatePost, hget, ?_⟩
    rw [← hfacts.2]
    exact reserves_of_routed hsound.broker hl rfl hrouted hfacts.1
  · obtain ⟨⟨p, r⟩, hpr, heq⟩ := Option.map_eq_some_iff.1 hcheck
    rw [Prod.mk.injEq] at heq
    exact ⟨p, r, hpr, heq.1, heq.2⟩
  · intro k v a hk hv
    have hmem : (v, a) ∈ history.drop 10 :=
      List.mem_of_getElem? (i := k - 10) (by rwa [List.getElem?_drop, Nat.add_sub_cancel' hk])
    exact of_decide_eq_true (List.all_eq_true.1 hdenied _ hmem)

/-- What is let through need not have been visible at any instant. -/
theorem allowed_at_no_instant :
    ¬ ∀ (config : Config) (store : Store) (actions : List Action) (id : ConnectionId) (n slot : Nat)
      (e : Event) (p : Principal) (r : Limited Decision) (d : Decision),
      ReservedAt ((start config store).history actions) id n slot e →
      checkOf ((start config store).history actions) id n slot e = some (p, r) →
      r.decision? = some d → d ≠ .deny →
      ∃ k v a, n < k ∧ ((start config store).history actions)[k]? = some (v, a) ∧
        (e.decision p.userId).eval v.store.content ≠ .deny := by
  intro hvisible
  obtain ⟨hreserved, ⟨p, r, hcheck, huser, hd⟩, hdenied⟩ := unsubscribedThenUnbanned_allows
  obtain ⟨k, v, a, hk, hv, hallowed⟩ := hvisible _ _ _ _ _ _ _ _ _ _ hreserved hcheck hd nofun
  rw [huser] at hallowed
  exact hallowed (hdenied k v a hk hv)

/-- There the subscription has been outdated when the ban is looked up. -/
theorem outdated_when_unbanned :
    let history := (start { jwtSecret := "secret" } bannedSubscriber).history unsubscribedThenUnbanned
    ∃ answers, Gathers privatePost "c" (checkpoints history 9 ⟨"c", 0⟩) answers ∧
      ∃ a ∈ answers, ∃ b ∈ answers, a.step < b.step ∧
        b.state.store.content.answer a.query ≠ a.state.store.content.answer a.query := by
  intro history
  obtain ⟨-, ⟨p, r, hcheck, huser, hd⟩, hdenied⟩ := unsubscribedThenUnbanned_allows
  obtain ⟨answers, hanswers, -, ⟨i, w, hstep, hvisible⟩ | houtdated⟩ :=
    allowed_in_an_instant_unless_outdated hcheck hd nofun
  · obtain ⟨k, hk, hw⟩ := getElem?_of_mem_checkpoints (List.mem_of_getElem? hstep.state)
    rw [huser, hdenied k w _ hk hw] at hvisible
    cases hvisible
  · exact ⟨answers, hanswers, houtdated⟩

end EventGateway.World
