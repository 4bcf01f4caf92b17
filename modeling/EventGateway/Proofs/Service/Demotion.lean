import EventGateway.Proofs.Service.Barrier
import EventGateway.Proofs.Visibility.Anonymous

/-!
# What is written after a demotion

Once a pass has taken the principal of a connection away, and until somebody authenticates on it, every
check that begins is made for nobody. What such a check lets through is visible to anybody. But a check
that had begun before, or a frame that it had let through and that waits behind others, is written all
the same: the principal is read when a check begins and not looked at again.
-/

namespace EventGateway

/-! ### Checks that ask one query -/

namespace Limited

variable {later : List World}

/-- Goes on in one state after the other. -/
def goOnAll {α : Type} (worlds : List World) (r : Limited α) : Limited α :=
  worlds.foldl (fun r w => r.goOn w.moment) r

lemma foldl_goOn_finished {α : Type} (r : Except ServiceError α) :
    goOnAll later (.finished r) = .finished r := by
  induction later with
  | nil => rfl
  | cons v rest ih => exact ih

lemma foldl_goOn_timedOut {α : Type} :
    goOnAll later (.timedOut : Limited α) = .timedOut := by
  induction later with
  | nil => rfl
  | cons v rest ih => exact ih

/-- A lookup that waits for its only query has the result of the store in the state in which it goes on,
unless it is given up. -/
lemma decision_of_foldl_waiting {a : Awaited Decision} (ha : a.rest.AsksOnce) {d : Decision}
    (hd : (goOnAll later (.waiting a)).decision? = some d) :
    d = .deny ∨ ∃ v ∈ later, d = decisionResult (a.rest.run v.store).result := by
  induction later with
  | nil => cases hd
  | cons v rest ih =>
    have hd : (goOnAll rest (v.moment.advance a)).decision? = some d := hd
    simp only [Moment.advance, Awaited.advance] at hd
    split at hd
    · have hresult : ofProgress v.moment.now a.deadline v.moment.turn
          (a.waiting.resume v.moment.store v.moment.now) =
            .finished (a.rest.run v.store).result := by
        simp only [Waiting.resume, Awaited.rest, Lookup.run]
        rw [show v.moment.store = v.store from rfl]
        cases v.store.ask a.waiting.query with
        | error e => rfl
        | ok answer =>
          obtain ⟨b, hb⟩ := ha answer
          simp only [hb]
          rfl
      rw [hresult, foldl_goOn_finished] at hd
      exact .inr ⟨v, List.mem_cons_self .., (Option.some.inj hd).symm⟩
    · split at hd
      · rw [foldl_goOn_timedOut] at hd
        exact .inl (Option.some.inj hd).symm
      · obtain hdeny | ⟨u, hu, hres⟩ := ih hd
        · exact .inl hdeny
        · exact .inr ⟨u, List.mem_cons_of_mem _ hu, hres⟩

/-- A check that asks one query at most comes to what the store would answer in one of the states in
which the check took a step, or denies. -/
lemma decision_of_asksOnce {x : Lookup Decision} (hx : x.AsksOnce) {w : World} {d : Decision}
    (hd : (goOnAll later (w.moment.start x)).decision? = some d) :
    d = .deny ∨ ∃ v ∈ w :: later, d = decisionResult (x.run v.store).result := by
  have hfinished {r : Except ServiceError Decision} (hr : r = (x.run w.store).result)
      (hd : (goOnAll later (.finished r)).decision? = some d) :
      d = .deny ∨ ∃ v ∈ w :: later, d = decisionResult (x.run v.store).result := by
    rw [foldl_goOn_finished] at hd
    exact .inr ⟨w, List.mem_cons_self .., hr ▸ (Option.some.inj hd).symm⟩
  cases x with
  | done a => exact hfinished rfl hd
  | ask q next =>
    simp only [Moment.start, start, Lookup.proceed] at hd
    rw [show w.moment.store = w.store from rfl] at hd
    split at hd
    · cases hask : w.store.ask q with
      | error e =>
        rw [hask] at hd
        exact hfinished (by simp [Lookup.run, hask]) hd
      | ok answer =>
        obtain ⟨b, hb⟩ := hx answer
        rw [hask] at hd
        simp only [hb] at hd
        exact hfinished (by simp [Lookup.run, hask, hb]) hd
    · simp only [ofProgress] at hd
      split at hd
      · rw [foldl_goOn_timedOut] at hd
        exact .inl (Option.some.inj hd).symm
      · obtain hdeny | ⟨v, hv, hres⟩ := decision_of_foldl_waiting (by exact hx) hd
        · exact .inl hdeny
        · exact .inr ⟨v, List.mem_cons_of_mem _ hv, hres⟩

end Limited

/-- The writer writes the frame of a slot when it takes its next step. -/
def Line.Emits (l : Line) (slot : Nat) (text : String) : Prop :=
  l.write.session.written = l.session.written ++ [.frame (some slot) text]

namespace World

variable {config : Config} {store : Store} {actions : List Action} {id : ConnectionId} {n : Nat}

/-- Since a pass took the principal of the connection away in the step of the given position, nobody has
authenticated on it. -/
structure DemotedSince (history : List Happening) (id : ConnectionId) (n : Nat) : Prop where
  demoted : TakenAwayAt history id n
  unauthenticated : ∀ k p, n < k → ¬ SucceedsAt history id k (.authenticated p)

/-- Nobody acts on the connection. -/
lemma DemotedSince.anonymous {w : World} (h : DemotedSince (w.history actions) id n) {i : Nat}
    (hi : n < i) {v : World} {a : Action} (hv : (w.history actions)[i]? = some (v, a)) :
    ∃ l, v.line? id = some l ∧ l.connection.principal = .anonymous := by
  obtain ⟨u, index, hu, -, hafter⟩ := h.demoted
  refine line_after hu (P := fun _ l => l.connection.principal = .anonymous) ?_ ?_ hi hv
  · obtain ⟨l, hl, hp⟩ := Option.map_eq_some_iff.1 hafter
    exact ⟨l, hl, hp⟩
  · intro k v b l l' hnk hv hl heffect _ hp
    obtain hsame | ⟨rfl, reference, hs⟩ | ⟨-, hanonymous⟩ := heffect.principal_cases
    · exact hsame.trans hp
    · exact absurd ⟨v, l, reference, hv, hl, hs⟩ (h.unauthenticated k _ hnk)
    · exact hanonymous

/-- A check that began after the demotion lets through what anybody may see since then. -/
lemma DemotedSince.visibleToAnybody {w : World} (h : DemotedSince (w.history actions) id n)
    {i slot : Nat} {e : Event}
    (hlate : ∀ v ∈ checkpoints (w.history actions) i ⟨id, slot⟩, ∃ k a, n < k ∧
      (w.history actions)[k]? = some (v, a))
    {p : Principal} {r : Limited Decision} {d : Decision}
    (hcheck : checkOf (w.history actions) id i slot e = some (p, r)) (hd : r.decision? = some d)
    (hallowed : d ≠ .deny) :
    ∃ k v a, n < k ∧ (w.history actions)[k]? = some (v, a) ∧ e.VisibleToAnybody v.store := by
  obtain ⟨v, later, c, hpoints, hc, hp, hfold⟩ := exists_checkpoint hcheck
  have hanonymous : p = .anonymous := by
    obtain ⟨k, a, hk, hv⟩ := hlate v (hpoints ▸ List.mem_cons_self ..)
    obtain ⟨l, hl, hanonymous⟩ := h.anonymous hk hv
    rw [← hp, ← hanonymous]
    exact congrArg Connection.principal (Option.some.inj (hc.symm.trans (line?_eq_some_iff.1 hl).2))
  rw [← hfold, hanonymous] at hd
  obtain hdeny | ⟨u, hu, hresult⟩ := Limited.decision_of_asksOnce e.asksOnce_decision_none hd
  · exact absurd hdeny hallowed
  · obtain ⟨k, a, hk, hv⟩ := hlate u (hpoints ▸ hu)
    exact ⟨k, u, a, hk, hv, fun hdeny => hallowed (hresult.trans hdeny)⟩

/-- What the writer writes next since a demotion is of an event that the store, in some state since then,
would let anybody see, and that is about no single user; unless the check of the event had begun before
the demotion. -/
theorem written_since_demotion (h : DemotedSince ((start config store).history actions) id n)
    {l : Line} (hl : ((start config store).run actions).line? id = some l) {slot : Nat}
    {text : String} (he : l.Emits slot text) :
    let history := (start config store).history actions
    (∃ i e, ReservedAt history id i slot e) ∧
    ∀ i e, ReservedAt history id i slot e →
      (∃ k v a, n < k ∧ history[k]? = some (v, a) ∧ e.VisibleToAnybody v.store ∧
        e.name.eventClass ≠ .notification ∧ e.name.eventClass ≠ .user ∧
        e.name.eventClass ≠ .personalPost) ∨
      ∃ k v, i < k ∧ k < n ∧ history[k]? = some (v, .task (.delivery ⟨id, slot⟩)) := by
  intro history
  obtain ⟨hdrains, -, htallies⟩ := queue_invariants hl
  have hexplained := (explained_run config store actions id).1 l hl
  have hm : .frame (some slot) text ∈ l.write.session.written := by
    rw [Line.Emits] at he
    simp [he]
  obtain ⟨d, p, decision, hd, hs, htext⟩ := htallies.write.delivery_of_mem_written hdrains.write hm
  rw [Line.deliveries_of_sidesteps l.sidesteps_write] at hd
  constructor
  · obtain ⟨i, hi⟩ := hexplained.reserved slot d hd
    exact ⟨i, d.event, hi⟩
  · intro i e hr
    obtain ⟨d', hd', rfl, hstage, -⟩ := hexplained.stage i slot e hr
    rw [hd, Option.some.injEq] at hd'
    subst hd'
    obtain ⟨r, hcheck, hdecision⟩ := Stage.ofCheck_eq_decided_iff.1 (hstage.symm.trans hs)
    by_cases hearly : ∃ k v, i < k ∧ k < n ∧ history[k]? = some (v, .task (.delivery ⟨id, slot⟩))
    · exact .inr hearly
    · have hlate (v : World) (hv : v ∈ checkpoints history i ⟨id, slot⟩) :
          ∃ k a, n < k ∧ history[k]? = some (v, a) := by
        obtain ⟨k, hik, hk⟩ := getElem?_of_mem_checkpoints hv
        refine ⟨k, _, ?_, hk⟩
        rcases Nat.lt_trichotomy k n with hlt | rfl | hlt
        · exact absurd ⟨k, v, hik, hlt, hk⟩ hearly
        · -- The step of the demotion is one of a pass.
          obtain ⟨u, index, hu, -⟩ := h.demoted
          cases hk.symm.trans hu
        · exact hlt
      have hallowed : decision ≠ .deny := by
        rintro rfl
        cases htext
      obtain ⟨k, v, a, hk, hv, hvisible⟩ := h.visibleToAnybody hlate hcheck hdecision hallowed
      exact .inl ⟨k, v, a, hk, hv, hvisible, hvisible.eventClass_ne⟩

/-! ### A notification that waits -/

/-- A notification of a user. -/
def notice : Event := ⟨.eventNew, { userId := some "luna" }, ['1']⟩

/-- A change of a post, the lookup of which takes some time. -/
def change : Event := ⟨.postUpdate, { postId := some "p", feedIds := ["luna:posts"] }, ['2']⟩

/-- A client authenticates and subscribes. A change is being checked, and a notification that has been
allowed waits behind it, when the token is issued anew. A pass takes the principal away; then the check
is over. -/
def noticeWaits : List Action := [
  .updateStore (.content (.addUser "luna")),
  .updateStore (.content (.putToken
    ⟨"apt_luna", "luna", 1, true, .ofList [.readRealtime], .ofTexts [] []⟩)),
  .connect "c" {},
  .arrive "c" (.text ("\x7b\"op\":\"auth\",\"d\":\x7b\"authToken\":\"" ++ firstIssue ++
    "\"\x7d\x7d")),
  .task (.reader "c"),
  .arrive "c" (.text ("\x7b\"op\":\"subscribe\",\"d\":" ++
    "\x7b\"user\":[\"luna\"],\"timeline\":[\"luna:posts\"]\x7d\x7d")),
  .task (.reader "c"),
  .task (.writer "c"),
  .task (.writer "c"),
  .task (.writer "c"),
  .updateStore (.setLatency (some 100)),
  .dispatch (.ofEvent change),
  .task (.delivery ⟨"c", 0⟩),
  .task (.writer "c"),
  .dispatch (.ofEvent notice),
  .task (.delivery ⟨"c", 1⟩),
  .elapse 50,
  .updateStore (.setLatency none),
  .updateStore (.content (.reissueToken "apt_luna")),
  .reauthorize none,
  .task (.pass 0),
  .elapse 100,
  .task (.delivery ⟨"c", 0⟩),
  .task (.writer "c")]

lemma demotedSince_noticeWaits :
    DemotedSince ((start { jwtSecret := "secret" } {}).history noticeWaits) "c" 20 ∧
      ∃ l i, ((start { jwtSecret := "secret" } {}).run noticeWaits).line? "c" = some l ∧
        l.Emits 1 notice.frame ∧
        ReservedAt ((start { jwtSecret := "secret" } {}).history noticeWaits) "c" i 1 notice := by
  have hrun :
      ((start { jwtSecret := "secret" } {}).run (noticeWaits.take 20)).principal? "c" =
        some firstPrincipal ∧
      ((start { jwtSecret := "secret" } {}).run (noticeWaits.take 21)).principal? "c" =
        some .anonymous ∧
      (((start { jwtSecret := "secret" } {}).run noticeWaits).line? "c").map (fun l =>
        (decide (l.write.session.written = l.session.written ++ [.frame (some 1) notice.frame]),
          l.session.deliveries[1]?.map (·.event))) = some (true, some notice) := by
    decide +kernel
  obtain ⟨hbefore, hafter, hline⟩ := hrun
  have hpass : noticeWaits[20]? = some (.task (.pass 0)) := rfl
  rw [run_take_succ hpass] at hafter
  obtain ⟨l, hl, hfacts⟩ := Option.map_eq_some_iff.1 hline
  rw [Prod.mk.injEq, decide_eq_true_eq] at hfacts
  obtain ⟨d, hd, hevent⟩ := Option.map_eq_some_iff.1 hfacts.2
  obtain ⟨i, hi⟩ := ((explained_run _ _ _ _).1 l hl).reserved 1 d hd
  refine ⟨⟨?_, ?_⟩, l, i, hl, hfacts.1, hevent ▸ hi⟩
  · refine ⟨(start { jwtSecret := "secret" } {}).run (noticeWaits.take 20), 0, ?_, ?_, hafter⟩
    · rw [getElem?_history, hpass, Option.map_some]
    · rw [hbefore]
      nofun
  · -- After the pass no step is one of the reader.
    rintro k p hk ⟨w, j, reference, hget, -⟩
    rw [getElem?_history] at hget
    obtain ⟨a, ha, heq⟩ := Option.map_eq_some_iff.1 hget
    have hmem : .task (.reader "c") ∈ noticeWaits.drop 21 := by
      rw [← (Prod.mk.inj heq).2]
      exact List.mem_of_getElem? (i := k - 21) (by rwa [List.getElem?_drop, Nat.add_sub_cancel' hk])
    simp [noticeWaits] at hmem

/-- The notification is written on a connection on which nobody acts any more. -/
theorem written_for_former_user :
    ¬ ∀ (config : Config) (store : Store) (actions : List Action) (id : ConnectionId) (n : Nat)
      (l : Line) (slot : Nat) (text : String) (i : Nat) (e : Event),
      DemotedSince ((start config store).history actions) id n →
      ((start config store).run actions).line? id = some l → l.Emits slot text →
      ReservedAt ((start config store).history actions) id i slot e →
      ∃ k v a, n < k ∧ ((start config store).history actions)[k]? = some (v, a) ∧
        e.VisibleToAnybody v.store := by
  intro hsince
  obtain ⟨hdemoted, l, i, hl, he, hr⟩ := demotedSince_noticeWaits
  obtain ⟨k, v, a, -, -, hvisible⟩ := hsince _ _ _ _ _ l _ _ i _ hdemoted hl he hr
  exact hvisible.eventClass_ne.1 rfl

/-- Its check had begun before. -/
theorem noticeWaits_checked_before :
    ∃ k v, k < 20 ∧ ((start { jwtSecret := "secret" } {}).history noticeWaits)[k]? =
      some (v, .task (.delivery ⟨"c", 1⟩)) := by
  obtain ⟨hdemoted, l, i, hl, he, hr⟩ := demotedSince_noticeWaits
  obtain ⟨k, v, a, -, -, -, hclass, -⟩ | ⟨k, v, -, hk, hv⟩ :=
    (written_since_demotion hdemoted hl he).2 i notice hr
  · exact absurd rfl hclass
  · exact ⟨k, v, hk, hv⟩

end World

end EventGateway
