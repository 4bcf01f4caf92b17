import EventGateway.Proofs.Service.Barrier

/-!
# Authentications during a pass

A pass reads the principal of a connection and looks up for a while whether it still stands. If somebody
authenticates meanwhile, the pass can tell by the principal alone: one that differs from the principal it
has read is left alone, and one that equals it is taken away, although it is newer than what was read.
Main statements: `takenAwayAt_iff_principal?` and `takenAwayAt_iff_of_authenticated`.
-/

namespace EventGateway

/-- What a check comes to, once it is over. One that fails or takes too long does not find that the
principal stands. -/
def Limited.verdict? : Limited Bool → Option Bool
  | .finished (.ok valid) => some valid
  | .finished (.error _) => some false
  | .timedOut => some false
  | .waiting _ => none

lemma Limited.stands_of_verdict? {progress : Limited Bool} {valid : Bool}
    (h : progress.verdict? = some valid) : progress.stands = valid := by
  rcases progress with (e | b) | _ | lookup
  · exact Option.some.inj h
  · exact Option.some.inj h
  · exact Option.some.inj h
  · cases h

/-- Connections are checked one by one: what the pass has in hand is of somebody, and not of a connection
that is still to come, nor is any of these twice. -/
structure Pass.Apart (p : Pass) : Prop where
  nodup : p.remaining.Nodup
  current : ∀ id q lookup, p.current = some (id, q, lookup) → id ∉ p.remaining ∧ q ≠ .anonymous

namespace World

/-! ### One connection at a time -/

lemma apart_settleCheck (w : World) {p : Pass} {id : ConnectionId} (hid : id ∉ p.remaining)
    (hp : p.remaining.Nodup) {q : Principal} (hq : q ≠ .anonymous) (progress : Limited Bool) :
    (w.settleCheck p id q progress).2.Apart := by
  have hremaining := (settleCheck_affected w p id q progress).2
  refine ⟨hremaining ▸ hp, fun i r lookup hcur => ?_⟩
  rw [hremaining]
  rcases settleCheck_current w p id q progress with ⟨lookup', -, hwaits⟩ | hover
  · rw [hwaits] at hcur
    cases hcur
    exact ⟨hid, hq⟩
  · rw [hover] at hcur
    cases hcur

lemma ne_anonymous_of_passChecks {affected : Option String} {c : Connection}
    (h : passChecks affected c = true) : c.principal ≠ .anonymous := by
  intro hp
  simp [passChecks, hp] at h

lemma apart_checkRemaining (w : World) {p : Pass} {ids : List ConnectionId} (hids : ids.Nodup)
    (hcur : p.current = none) : (w.checkRemaining p ids).2.Apart := by
  induction ids generalizing w p with
  | nil => exact ⟨.nil, by simp [checkRemaining, hcur]⟩
  | cons id rest ih =>
    obtain ⟨hid, hrest⟩ := List.nodup_cons.1 hids
    unfold checkRemaining
    split
    · exact ih w hrest hcur
    · next c hc =>
      split
      · next hchecks =>
        set settled := w.settleCheck p id c.principal
          (.start w.store w.now w.timeLimit w.turns (c.principal.stillValid c.caller)) with hsettled
        dsimp only
        split
        · refine ⟨hrest, fun i q lookup hwaits => ?_⟩
          rcases settleCheck_current w p id c.principal _ with ⟨lookup', -, hcurrent⟩ | hover
          · rw [← hsettled] at hcurrent
            cases hcurrent.symm.trans hwaits
            exact ⟨hid, ne_anonymous_of_passChecks hchecks⟩
          · cases hover.symm.trans hwaits
        · next hnone => exact ih _ hrest (by simpa using hnone)
      · exact ih w hrest hcur

lemma apart_advancePass (w : World) {p : Pass} (hp : p.Apart) : (w.advancePass p).2.Apart := by
  unfold advancePass
  split
  · next hcur => exact apart_checkRemaining w hp.nodup hcur
  · next id q lookup hcur =>
    obtain ⟨hid, hq⟩ := hp.current id q lookup hcur
    split
    · have hsettled := apart_settleCheck w (p := { p with current := none }) hid hp.nodup hq
        (lookup.advance w.store w.now w.turns)
      dsimp only
      split
      · exact hsettled
      · next hnone => exact apart_checkRemaining _ hsettled.nodup (by simpa using hnone)
    · exact hp

/-- Passes take the connections that they check from a registry without duplicates. -/
theorem apart_run (config : Config) (store : Store) (actions : List Action) {index : Nat} {p : Pass}
    (hp : ((start config store).run actions).passes[index]? = some p) : p.Apart := by
  induction actions using List.reverseRecOn generalizing p with
  | nil => cases hp
  | append_singleton before a ih =>
    rw [run_concat] at hp
    obtain hsame | ⟨p', -, hp', rfl, -⟩ | ⟨-, ⟨affected, rfl⟩, -⟩ := passes_step hp
    · exact ih hsame
    · exact apart_advancePass _ (ih hp')
    · refine ⟨((sound_start config store).run before).broker.nodup, fun id q lookup hcur => ?_⟩
      cases hcur

/-! ### The end of a check -/

lemma line?_checkRemaining_of_not_mem (w : World) (p : Pass) {ids : List ConnectionId}
    {id : ConnectionId} (hid : id ∉ ids) : (w.checkRemaining p ids).1.line? id = w.line? id := by
  induction ids generalizing w p with
  | nil => rfl
  | cons i rest ih =>
    obtain ⟨hne, hrest⟩ := not_or.1 (mt List.mem_cons.2 hid)
    unfold checkRemaining
    split
    · exact ih w p hrest
    · split
      · dsimp only
        split
        · exact line?_settleCheck_of_ne hne _ _
        · exact (ih _ _ hrest).trans (line?_settleCheck_of_ne hne _ _)
      · exact ih w p hrest

/-- The pass is looking up whether the principal of the connection still stands. -/
def Examines (w : World) (index : Nat) (id : ConnectionId) (q : Principal) : Prop :=
  (w.passes[index]?.bind Pass.current).map (fun c => (c.1, c.2.1)) = some (id, q)

instance (w : World) (index : Nat) (id : ConnectionId) (q : Principal) :
    Decidable (w.Examines index id q) := by
  unfold Examines; infer_instance

/-- In all states between the positions the pass is looking up the principal that it has read. -/
def ExaminesFrom (history : List Happening) (index : Nat) (id : ConnectionId) (q : Principal)
    (k n : Nat) : Prop :=
  ∀ i v a, k ≤ i → i ≤ n → history[i]? = some (v, a) → v.Examines index id q

/-- The pass comes to the end of a lookup in the step of the position. -/
def DecidesAt (history : List Happening) (index : Nat) (id : ConnectionId) (q : Principal) (n : Nat)
    (valid : Bool) : Prop :=
  ∃ w p lookup, history[n]? = some (w, .task (.pass index)) ∧ w.passes[index]? = some p ∧
    p.current = some (id, q, lookup) ∧ lookup.readyAt ≤ w.now ∧
    (lookup.advance w.store w.now w.turns).verdict? = some valid

/-- The line of the connection whose check comes to its end. -/
lemma line?_of_verdict? {w : World} {p : Pass} (hp : p.Apart) {id : ConnectionId} {q : Principal}
    {lookup : Awaited Bool} (hcur : p.current = some (id, q, lookup)) (hready : lookup.readyAt ≤ w.now)
    {valid : Bool} (hverdict : (lookup.advance w.store w.now w.turns).verdict? = some valid) :
    (w.advancePass p).1.line? id =
      (w.line? id).map fun l => if valid then l else l.demote q := by
  have hid := (hp.current id q lookup hcur).1
  have hsettle := modifies_settleCheck w { p with current := none } id q
    (lookup.advance w.store w.now w.turns)
  rw [Limited.stands_of_verdict? hverdict] at hsettle
  have hremaining := (settleCheck_affected w { p with current := none } id q
    (lookup.advance w.store w.now w.turns)).2
  simp only [advancePass, hcur, hready, if_true]
  rw [← (hsettle.line id).trans (if_pos rfl)]
  split
  · rfl
  · refine line?_checkRemaining_of_not_mem _ _ ?_
    rw [hremaining]
    exact hid

/-- What is left of the principal of the connection. -/
lemma principal?_of_verdict? {w : World} {index : Nat} {p : Pass}
    (hindex : w.passes[index]? = some p) (hp : p.Apart) {id : ConnectionId} {q : Principal}
    {lookup : Awaited Bool} (hcur : p.current = some (id, q, lookup)) (hready : lookup.readyAt ≤ w.now)
    {valid : Bool} (hverdict : (lookup.advance w.store w.now w.turns).verdict? = some valid) :
    (w.step (.task (.pass index))).principal? id =
      (w.principal? id).map fun r => if valid = false ∧ r = q then .anonymous else r := by
  have hline : (w.step (.task (.pass index))).line? id = (w.advancePass p).1.line? id := by
    simp only [step, work, runPass, hindex]
    rfl
  have hq : q.isAnonymous = false := by
    cases q with
    | anonymous => exact absurd rfl (hp.current id _ lookup hcur).2
    | session u => rfl
    | appToken t => rfl
  rw [principal?, hline, line?_of_verdict? hp hcur hready hverdict, principal?, Option.map_map,
    Option.map_map]
  congr 1
  funext l
  cases valid with
  | true => rfl
  | false =>
    by_cases hsame : l.connection.principal = q
    · simp [Line.demote, Line.modifyConnection, Connection.demoteIf, Connection.demotable, hsame, hq]
    · simp [Line.demote, Line.modifyConnection, Connection.demoteIf, Connection.demotable, hsame]

variable {config : Config} {store : Store} {actions : List Action} {index : Nat} {id : ConnectionId}
  {p q : Principal} {valid : Bool} {k n : Nat}

/-- The state in which a pass decides, with the pass. -/
lemma DecidesAt.exists_apart (h : DecidesAt ((start config store).history actions) index id q n valid) :
    ∃ w pass lookup, ((start config store).history actions)[n]? = some (w, .task (.pass index)) ∧
      w.passes[index]? = some pass ∧ pass.Apart ∧ pass.current = some (id, q, lookup) ∧
      lookup.readyAt ≤ w.now ∧ (lookup.advance w.store w.now w.turns).verdict? = some valid := by
  obtain ⟨w, pass, lookup, hw, hpass, hrest⟩ := h
  refine ⟨w, pass, lookup, hw, hpass, ?_, hrest⟩
  rw [getElem?_history] at hw
  obtain ⟨_, -, heq⟩ := Option.map_eq_some_iff.1 hw
  cases heq
  exact apart_run config store _ hpass

lemma DecidesAt.ne_anonymous (h : DecidesAt ((start config store).history actions) index id q n valid) :
    q ≠ .anonymous := by
  obtain ⟨-, pass, lookup, -, -, hapart, hcur, -⟩ := h.exists_apart
  exact (hapart.current id q lookup hcur).2

/-- A pass takes away what it has read, if that is still there and does not stand, and nothing else. -/
lemma takenAwayAt_iff_principal?
    (h : DecidesAt ((start config store).history actions) index id q n valid) :
    TakenAwayAt ((start config store).history actions) id n ↔ valid = false ∧
      ∃ v a, ((start config store).history actions)[n]? = some (v, a) ∧ v.principal? id = some q := by
  have hq := h.ne_anonymous
  obtain ⟨w, pass, lookup, hw, hpass, hapart, hcur, hready, hverdict⟩ := h.exists_apart
  have hafter := principal?_of_verdict? hpass hapart hcur hready hverdict
  constructor
  · rintro ⟨v, j, hv, hbefore, hanonymous⟩
    cases hw.symm.trans hv
    rw [hafter] at hanonymous
    obtain ⟨r, hr, hgone⟩ := Option.map_eq_some_iff.1 hanonymous
    split at hgone
    · next hlost => exact ⟨hlost.1, w, _, hw, hlost.2 ▸ hr⟩
    · exact absurd (hgone ▸ hr) hbefore
  · rintro ⟨hvalid, v, a, hv, hprincipal⟩
    cases hw.symm.trans hv
    refine ⟨w, index, hw, ?_, ?_⟩
    · rw [hprincipal]
      exact fun heq => hq (Option.some.inj heq)
    · rw [hafter, hprincipal, Option.map_some, if_pos ⟨hvalid, rfl⟩]

/-! ### An authentication meanwhile -/

/-- An authentication that succeeds installs its principal. -/
lemma principal_of_succeeds {m : Moment} {l : Line} {reference : Option UInt64}
    (h : l.Succeeds m reference (.authenticated p)) : (l.read m).connection.principal = p := by
  obtain ⟨j, -, heffective, hread⟩ := h.replies
  rw [hread]
  exact (Line.steady_reply j reference _).principal.trans heffective

/-- Until the pass decides, the principal is the one that the authentication has installed, but for
later ones and for other passes. -/
lemma SucceedsAt.principalReflects {w : World}
    (h : SucceedsAt (w.history actions) id k (.authenticated p)) (hkn : k < n) {v : World} {a : Action}
    (hv : (w.history actions)[n]? = some (v, a)) : ∃ r, v.principal? id = some r ∧
      PrincipalReflects (w.history actions) id k n r (.authenticated p) := by
  obtain ⟨u, l, reference, hu, hl, hs⟩ := h
  obtain ⟨l', hl', hreflects⟩ := line_after hu
    (P := fun i l => PrincipalReflects (w.history actions) id k i l.connection.principal
      (.authenticated p))
    ⟨_, (modifies_read u id).line_own hl, .inl (principal_of_succeeds hs)⟩
    (fun i x b j j' hki hx hj heffect hj' hreflects => hreflects.step hki hx hj heffect hj') hkn hv
  exact ⟨_, by rw [principal?, hl']; rfl, hreflects⟩

/-- A pass that decides after an authentication takes nothing away but the principal that it has read,
and only if this does not stand and has been installed since. If nobody else has authenticated since, and
no other pass has taken the new principal away, it takes the new one away exactly if the old one does not
stand and equals it. -/
theorem takenAwayAt_iff_of_authenticated
    (hauth : SucceedsAt ((start config store).history actions) id k (.authenticated p)) (hkn : k < n)
    (hdecides : DecidesAt ((start config store).history actions) index id q n valid) :
    let history := (start config store).history actions
    (TakenAwayAt history id n →
      valid = false ∧ ∃ j, k ≤ j ∧ j < n ∧ SucceedsAt history id j (.authenticated q)) ∧
    ((∀ j, k < j → j < n → ¬ TakenAwayAt history id j ∧
        ∀ r, ¬ SucceedsAt history id j (.authenticated r)) →
      (TakenAwayAt history id n ↔ valid = false ∧ p = q)) := by
  intro history
  have hiff := takenAwayAt_iff_principal? hdecides
  have hq := hdecides.ne_anonymous
  obtain ⟨w, pass, lookup, hw, -⟩ := hdecides
  obtain ⟨r, hr, hreflects⟩ := hauth.principalReflects hkn hw
  have hprincipal : (∃ v a, history[n]? = some (v, a) ∧ v.principal? id = some q) ↔ r = q := by
    constructor
    · rintro ⟨v, a, hv, hprincipal⟩
      cases hw.symm.trans hv
      exact Option.some.inj (hr.symm.trans hprincipal)
    · rintro rfl
      exact ⟨w, _, hw, hr⟩
  rw [hprincipal] at hiff
  constructor
  · intro htaken
    obtain ⟨hvalid, rfl⟩ := hiff.1 htaken
    refine ⟨hvalid, ?_⟩
    obtain rfl | ⟨j, hkj, hjn, hsucceeds | ⟨rfl, -⟩⟩ := hreflects
    · exact ⟨k, Nat.le_refl k, hkn, hauth⟩
    · exact ⟨j, Nat.le_of_lt hkj, hjn, hsucceeds⟩
    · exact absurd rfl hq
  · intro hnothing
    obtain rfl | ⟨j, hkj, hjn, hsucceeds | ⟨-, htaken⟩⟩ := hreflects
    · exact hiff
    · exact absurd hsucceeds ((hnothing j hkj hjn).2 _)
    · exact absurd htaken (hnothing j hkj hjn).1

/-! ### The same credential again -/

def presentsToken : Action :=
  .arrive "c" (.text ("\x7b\"op\":\"auth\",\"d\":\x7b\"authToken\":\"" ++ firstIssue ++
    "\"\x7d\x7d"))

/-- A client authenticates, a pass looks its principal up on a store that takes too long, and the client
authenticates again, on a store that takes no time any more. The lookup of the pass runs out of time. -/
def authenticatesAgain : List Action := [
  .updateStore (.content (.addUser "luna")),
  .updateStore (.content (.putToken
    ⟨"apt_luna", "luna", 1, true, .ofList [.readRealtime], .ofTexts [] []⟩)),
  .connect "c" {},
  .task (.writer "c"),
  presentsToken,
  .task (.reader "c"),
  .task (.writer "c"),
  .updateStore (.setLatency (some 1000)),
  .reauthorize none,
  .task (.pass 0),
  .updateStore (.setLatency none),
  presentsToken,
  .task (.reader "c"),
  .task (.writer "c"),
  .elapse 500,
  .task (.pass 0)]

/-- The principal of an authentication that is over. -/
def granted? : Limited (Except CommandError Principal) → Option Principal
  | .finished (.ok (.ok p)) => some p
  | _ => none

lemma eq_of_granted? {progress : Limited (Except CommandError Principal)} {p : Principal}
    (h : granted? progress = some p) : progress = .finished (.ok (.ok p)) := by
  unfold granted? at h
  split at h
  · rw [Option.some.inj h]
  · cases h

/-- The action of a happening is the one of the run. -/
lemma action_of_getElem? {w v : World} {actions : List Action} {a : Action} {i : Nat}
    (h : (w.history actions)[i]? = some (v, a)) : actions[i]? = some a := by
  rw [getElem?_history] at h
  obtain ⟨b, hb, heq⟩ := Option.map_eq_some_iff.1 h
  rw [hb, (Prod.mk.inj heq).2]

/-- The second authentication succeeds while the first principal is looked up, and the pass takes the
principal away. -/
lemma authenticatesAgain_takenAway :
    let history := (start { jwtSecret := "secret" } {}).history authenticatesAgain
    ExaminesFrom history 0 "c" firstPrincipal 12 15 ∧
      SucceedsAt history "c" 12 (.authenticated firstPrincipal) ∧
      DecidesAt history 0 "c" firstPrincipal 15 false ∧ TakenAwayAt history "c" 15 := by
  intro history
  have hrun :
      ((List.range' 12 4).all fun i => (history[i]?.map fun x =>
        decide (x.1.Examines 0 "c" firstPrincipal)) = some true) = true ∧
      (history[12]?.bind fun x => (x.1.line? "c").bind fun l => l.nextCommand?.bind fun c =>
        some (c.2, granted? (x.1.moment.start
          (authenticate x.1.config.jwtSecret firstIssue l.connection.caller)))) =
        some (.authenticate firstIssue, some firstPrincipal) ∧
      (history[15]?.bind fun x => (x.1.passes[0]?.bind Pass.current).map fun c =>
        ((c.1, c.2.1), decide (c.2.2.readyAt ≤ x.1.now),
          (c.2.2.advance x.1.store x.1.now x.1.turns).verdict?)) =
        some (("c", firstPrincipal), true, some false) ∧
      (history[15]?.map fun x => (x.1.principal? "c", (x.1.step (.task (.pass 0))).principal? "c")) =
        some (some firstPrincipal, some .anonymous) := by
    decide +kernel
  obtain ⟨hexamines, hauth, hdecides, htaken⟩ := hrun
  refine ⟨?_, ?_, ?_, ?_⟩
  · intro i v a hk hn hv
    have hi := List.all_eq_true.1 hexamines i (List.mem_range'_1.2 ⟨hk, by omega⟩)
    simpa [hv] using hi
  · obtain ⟨⟨w, a⟩, hw, hline⟩ := Option.bind_eq_some_iff.1 hauth
    obtain ⟨l, hl, hcommand⟩ := Option.bind_eq_some_iff.1 hline
    obtain ⟨⟨reference, command⟩, hnext, hgranted⟩ := Option.bind_eq_some_iff.1 hcommand
    obtain ⟨rfl, hstart⟩ := Prod.mk.inj (Option.some.inj hgranted)
    obtain rfl : .task (.reader "c") = a := Option.some.inj (action_of_getElem? hw)
    exact ⟨w, l, reference, hw, hl,
      .authenticates hnext (eq_of_granted? hstart)⟩
  · obtain ⟨⟨w, a⟩, hw, hpass⟩ := Option.bind_eq_some_iff.1 hdecides
    obtain ⟨⟨i, q, lookup⟩, hcurrent, hover⟩ := Option.map_eq_some_iff.1 hpass
    obtain ⟨p, hp, hcur⟩ := Option.bind_eq_some_iff.1 hcurrent
    obtain ⟨hread, hover⟩ := Prod.mk.inj hover
    obtain ⟨rfl, rfl⟩ := Prod.mk.inj hread
    obtain ⟨hready, hverdict⟩ := Prod.mk.inj hover
    obtain rfl : .task (.pass 0) = a := Option.some.inj (action_of_getElem? hw)
    exact ⟨w, p, lookup, hw, hp, hcur, of_decide_eq_true hready, hverdict⟩
  · obtain ⟨⟨w, a⟩, hw, hprincipal⟩ := Option.map_eq_some_iff.1 htaken
    obtain ⟨hbefore, hafter⟩ := Prod.mk.inj hprincipal
    obtain rfl : .task (.pass 0) = a := Option.some.inj (action_of_getElem? hw)
    refine ⟨w, 0, hw, ?_, hafter⟩
    rw [hbefore]
    exact fun heq => Principal.noConfusion (Option.some.inj heq)

/-- A pass takes away a principal that has been installed after the pass has read the one before. -/
theorem demoted_after_fresh_authentication :
    ¬ ∀ (config : Config) (store : Store) (actions : List Action) (index : Nat) (id : ConnectionId)
      (p q : Principal) (valid : Bool) (k n : Nat),
      ExaminesFrom ((start config store).history actions) index id q k n →
      SucceedsAt ((start config store).history actions) id k (.authenticated p) → k < n →
      DecidesAt ((start config store).history actions) index id q n valid →
      ¬ TakenAwayAt ((start config store).history actions) id n := by
  intro hkept
  obtain ⟨hexamines, hauth, hdecides, htaken⟩ := authenticatesAgain_takenAway
  exact hkept _ _ _ _ _ _ _ _ _ _ hexamines hauth (by decide) hdecides htaken

/-- What is taken away there is the new principal, which nothing has happened to meanwhile and which
equals the old one. -/
theorem authenticatesAgain_takes_equal_away :
    let history := (start { jwtSecret := "secret" } {}).history authenticatesAgain
    SucceedsAt history "c" 12 (.authenticated firstPrincipal) ∧
      DecidesAt history 0 "c" firstPrincipal 15 false ∧
      (∃ j, 12 ≤ j ∧ j < 15 ∧ SucceedsAt history "c" j (.authenticated firstPrincipal)) ∧
      (TakenAwayAt history "c" 15 ↔ false = false ∧ firstPrincipal = firstPrincipal) := by
  intro history
  obtain ⟨-, hauth, hdecides, htaken⟩ := authenticatesAgain_takenAway
  obtain ⟨hinstalled, hexactly⟩ := takenAwayAt_iff_of_authenticated hauth (by decide) hdecides
  refine ⟨hauth, hdecides, (hinstalled htaken).2, hexactly fun j hlow hhigh => ?_⟩
  -- between the two steps a frame is written and time passes
  obtain rfl | rfl : j = 13 ∨ j = 14 := by omega
  all_goals
    constructor
    · rintro ⟨w, index, hw, -⟩
      cases action_of_getElem? hw
    · rintro r ⟨w, l, reference, hw, -⟩
      cases action_of_getElem? hw

end World

end EventGateway
