import EventGateway.Proofs.Session.LineTasks
import EventGateway.Proofs.Store.Progress

/-!
# Readers and principals

The principal of a connection changes in two ways only: the reader finishes an authentication, or a pass
takes the principal away. Everything else is steady: it leaves the principal alone and begins no
authentication.
-/

namespace EventGateway.Line

/-- The principal stays, an authentication goes on as it was or is over, and what is closed stays
closed. -/
structure Steady (l k : Line) : Prop where
  principal : k.connection.principal = l.connection.principal
  reader : k.session.reader = l.session.reader ∨
    ∀ reference a, k.session.reader ≠ .authenticating reference a
  closed : l.connection.closed = true → k.connection.closed = true

lemma Steady.refl (l : Line) : l.Steady l := ⟨rfl, .inl rfl, id⟩

lemma Steady.trans {l k j : Line} (h : l.Steady k) (h' : k.Steady j) : l.Steady j where
  principal := h'.principal.trans h.principal
  reader := by
    rcases h'.reader with hr' | hr'
    · rcases h.reader with hr | hr
      · exact .inl (hr'.trans hr)
      · exact .inr fun reference a => hr' ▸ hr reference a
    · exact .inr hr'
  closed := h'.closed ∘ h.closed

/-! ### What is steady -/

lemma steady_endReader (l : Line) (code : Option CloseCode) : l.Steady (l.endReader code) :=
  ⟨rfl, .inr (by simp [endReader]), fun _ => rfl⟩

lemma steady_modifyConnection {f : Connection → Connection} {l : Line}
    (hf : (f l.connection).principal = l.connection.principal ∧
      (f l.connection).closed = l.connection.closed) : l.Steady (l.modifyConnection f) where
  principal := hf.1
  reader := .inl rfl
  closed h := hf.2.trans h

lemma steady_reply (l : Line) (reference : Option UInt64)
    (result : Except CommandError ReplyMembers) : l.Steady (l.reply reference result) := by
  simp only [reply]
  split
  · apply steady_modifyConnection
    simp only [Connection.send]
    split <;> exact ⟨rfl, rfl⟩
  · exact l.steady_endReader _

lemma steady_write (l : Line) : l.Steady l.write := by
  obtain ⟨outbound, writing, written, heq, -⟩ := l.write_leaves
  rw [heq]
  exact ⟨rfl, .inl rfl, id⟩

lemma steady_settleDelivery (l : Line) (slot : Nat) (e : Event) (p : Principal)
    (progress : Limited Decision) : l.Steady (l.settleDelivery slot e p progress) := by
  cases progress <;> exact ⟨rfl, .inl rfl, id⟩

lemma steady_deliver (m : Moment) (slot : Nat) (l : Line) : l.Steady (l.deliver m slot) := by
  obtain heq | ⟨d, progress, -, -, p, heq⟩ := l.deliver_cases m slot
  · rw [heq]
    exact .refl l
  · rw [heq]
    exact l.steady_settleDelivery slot d.event p progress

lemma steady_missHeartbeat (now : Nat) (l : Line) : l.Steady (l.missHeartbeat now) := by
  obtain heq | ⟨-, -, heq⟩ := l.missHeartbeat_cases now
  · rw [heq]
    exact .refl l
  · rw [heq]
    exact l.steady_endReader _

lemma steady_reserve (e : Event) (l : Line) : l.Steady (l.reserve e) := by
  simp only [reserve]
  split
  · have hreserve : l.connection.reserve.principal = l.connection.principal ∧
        l.connection.reserve.closed = l.connection.closed := by
      simp only [Connection.reserve]
      split <;> exact ⟨rfl, rfl⟩
    have hsession (k : Line) : k.Steady (k.modifySession fun s =>
        { s with deliveries := s.deliveries ++ [{ event := e }] }) := ⟨rfl, .inl rfl, id⟩
    exact (steady_modifyConnection hreserve).trans (hsession _)
  · exact .refl l

lemma steady_foldl {f : Line → Room → Line} (hf : ∀ (l : Line) room, l.Steady (f l room)) (l : Line)
    (rooms : List Room) : l.Steady (rooms.foldl f l) := by
  apply List.foldlRecOn rooms f (.refl l)
  intro k hk room _
  exact hk.trans (hf k room)

lemma steady_join (l : Line) (room : Room) : l.Steady (l.join room) := by
  apply steady_modifyConnection
  simp only [Connection.join]
  split <;> exact ⟨rfl, rfl⟩

lemma steady_leave (l : Line) (room : Room) : l.Steady (l.leave room) := by
  apply steady_modifyConnection
  simp only [Connection.leave]
  split <;> exact ⟨rfl, rfl⟩

lemma steady_of_subscribe {l k : Line} {rooms : List Room} (h : l.subscribe rooms = .ok k) :
    l.Steady k := by
  obtain rfl | rfl := eq_of_subscribe h
  · exact .refl k
  · exact steady_foldl steady_join l rooms

/-- A principal that is taken away leaves nobody behind. -/
lemma demote_leaves (l : Line) (p : Principal) :
    ((l.demote p).connection.principal = l.connection.principal ∨
      (l.demote p).connection.principal = .anonymous) ∧
      (l.demote p).session = l.session ∧
      (l.demote p).connection.closed = l.connection.closed := by
  refine ⟨?_, rfl, ?_⟩
  · simp only [demote, modifyConnection, Connection.demoteIf]
    split
    · exact .inr rfl
    · exact .inl rfl
  · simp only [demote, modifyConnection, Connection.demoteIf]
    split <;> rfl

lemma demotions_leave (l : Line) (ps : List Principal) :
    ((ps.foldl demote l).connection.principal = l.connection.principal ∨
      (ps.foldl demote l).connection.principal = .anonymous) ∧
      (ps.foldl demote l).session = l.session ∧
      (ps.foldl demote l).connection.closed = l.connection.closed := by
  induction ps generalizing l with
  | nil => exact ⟨.inl rfl, rfl, rfl⟩
  | cons p rest ih =>
    obtain ⟨hp, hs, hc⟩ := l.demote_leaves p
    obtain ⟨hp', hs', hc'⟩ := ih (l.demote p)
    refine ⟨?_, hs'.trans hs, hc'.trans hc⟩
    rcases hp' with hp' | hp'
    · exact hp.imp hp'.trans hp'.trans
    · exact .inr hp'

/-! ### Authentications -/

/-- What a reader does: something steady, or it begins or goes on with an authentication. -/
inductive Reads (m : Moment) (l k : Line) : Prop
  | steady : l.Steady k → Reads m l k
  | begins {j : Line} (reference : Option UInt64) (token : String) :
    l.session.reader = .idle → l.Steady j →
    k = j.settleAuthentication reference
      (m.start (EventGateway.authenticate m.config.jwtSecret token j.connection.caller)) →
    Reads m l k
  | resumes (reference : Option UInt64) (a : Awaited (Except CommandError Principal)) :
    l.session.reader = .authenticating reference a →
    k = l.settleAuthentication reference (m.advance a) → Reads m l k

lemma reads_perform {l j : Line} (hr : l.session.reader = .idle) (h : l.Steady j) (m : Moment)
    (reference : Option UInt64) (command : Command) : Reads m l (j.perform m reference command) := by
  cases command with
  | authenticate token => exact .begins reference token hr h rfl
  | subscribe rooms =>
    simp only [perform]
    split
    · exact .steady (h.trans (j.steady_reply _ _))
    · next hs => exact .steady ((h.trans (steady_of_subscribe hs)).trans (steady_reply _ _ _))
  | unsubscribe rooms =>
    exact .steady ((h.trans (steady_foldl steady_leave j rooms)).trans (steady_reply _ _ _))
  | status => exact .steady (h.trans (j.steady_reply _ _))
  | heartbeat =>
    have hq : j.Steady (j.modifySession fun s =>
        { s with heartbeatDue := m.now + m.config.heartbeatGrace.toNat }) := ⟨rfl, .inl rfl, id⟩
    exact .steady ((h.trans hq).trans (steady_reply _ _ _))

lemma reads_receive {l j : Line} (hr : l.session.reader = .idle) (h : l.Steady j) (m : Moment)
    (arrival : Arrival) : Reads m l (j.receive m arrival) := by
  cases arrival with
  | text text =>
    simp only [receive, receiveText]
    split
    · exact .steady (h.trans (j.steady_reply _ _))
    · split
      · exact .steady (h.trans (j.steady_reply _ _))
      · exact reads_perform hr h m _ _
  | other => exact .steady h
  | ended => exact .steady (h.trans (j.steady_endReader none))

lemma reads_read (m : Moment) (l : Line) : Reads m l (l.read m) := by
  simp only [read]
  cases hr : l.session.reader with
  | idle =>
    dsimp only
    split
    · exact .steady (.refl l)
    · next rest _ =>
      have hq : l.Steady (l.modifySession fun s => { s with inbox := rest }) := ⟨rfl, .inl rfl, id⟩
      exact reads_receive hr hq m _
  | authenticating reference a =>
    dsimp only
    split
    · exact .resumes reference a hr rfl
    · exact .steady (.refl l)
  | ended => exact .steady (.refl l)

/-- Is the property true of what is left of the authentication that is under way, if there is one? -/
def LooksUp (S : Lookup (Except CommandError Principal) → Prop) (l : Line) : Prop :=
  ∀ reference a, l.session.reader = .authenticating reference a → S a.rest

variable {S : Lookup (Except CommandError Principal) → Prop}

lemma looksUp_opened (config : Config) (now : Nat) (id : ConnectionId) (caller : Caller) :
    (opened config now id caller).LooksUp S := by
  intro reference a hr
  rcases Session.reader_opened config.checkedGrace now with h | h <;> cases h.symm.trans hr

lemma LooksUp.steady {l k : Line} (hl : l.LooksUp S) (h : l.Steady k) : k.LooksUp S := by
  intro reference a hk
  rcases h.reader with hr | hr
  · exact hl reference a (hr ▸ hk)
  · exact absurd hk (hr reference a)

lemma principal_settleAuthentication (l : Line) (reference : Option UInt64)
    (progress : Limited (Except CommandError Principal)) :
    (l.settleAuthentication reference progress).connection.principal = l.connection.principal ∨
      ∃ p, progress = .finished (.ok (.ok p)) ∧
        (l.settleAuthentication reference progress).connection.principal = p := by
  have hrefused (e : CommandError) : (l.finishAuthentication reference
      (.error e)).connection.principal = l.connection.principal :=
    (steady_reply (l.setReader .idle) reference (.error e)).principal
  cases progress with
  | finished r =>
    cases r with
    | ok result =>
      cases result with
      | ok p => exact .inr ⟨p, rfl, (steady_reply _ reference (.ok p.reply)).principal⟩
      | error e => exact .inl (hrefused e)
    | error e => exact .inl (hrefused .unavailable)
  | timedOut => exact .inl (hrefused .timeout)
  | waiting a => exact .inl rfl

/-- An authentication that is over installs what it came to, or nothing. -/
lemma settleAuthentication_leaves (l : Line) (reference : Option UInt64)
    {progress : Limited (Except CommandError Principal)} (h : progress.Rests S) :
    ((l.settleAuthentication reference progress).connection.principal = l.connection.principal ∨
      S (.done (.ok (l.settleAuthentication reference progress).connection.principal))) ∧
    (l.settleAuthentication reference progress).LooksUp S ∧
    (l.connection.closed = true →
      (l.settleAuthentication reference progress).connection.closed = true) := by
  refine ⟨(principal_settleAuthentication l reference progress).imp_right ?_, ?_⟩
  · rintro ⟨p, rfl, hp⟩
    rw [hp]
    exact h
  · have hreply {k : Line} (hk : k.session.reader = .idle)
        (hc : k.connection.closed = l.connection.closed) (result : Except CommandError ReplyMembers) :
        (k.reply reference result).LooksUp S ∧
          (l.connection.closed = true → (k.reply reference result).connection.closed = true) := by
      have hsteady := k.steady_reply reference result
      refine ⟨LooksUp.steady (fun reference a hr => ?_) hsteady, fun h => hsteady.closed (hc.trans h)⟩
      simp [hk] at hr
    have hfinish (result : Except CommandError Principal) :
        (l.finishAuthentication reference result).LooksUp S ∧ (l.connection.closed = true →
          (l.finishAuthentication reference result).connection.closed = true) := by
      cases result with
      | ok p =>
        exact hreply (k := (l.setReader .idle).modifyConnection fun c => c.setPrincipal p) rfl rfl _
      | error e => exact hreply (k := l.setReader .idle) rfl rfl _
    cases progress with
    | finished r => exact hfinish _
    | timedOut => exact hfinish _
    | waiting a =>
      refine ⟨?_, id⟩
      intro reference' a' hr
      have hr : Reader.authenticating reference a = .authenticating reference' a' := hr
      cases hr
      exact h

/-- What is true of every authentication that begins, and stays true, is true of what the reader waits
for and of a principal that it installs. -/
lemma read_leaves {I : Content → Prop} (hS : Lookup.Persists I S) {m : Moment} (hm : I m.store.content)
    (hbegin : ∀ secret token caller, S (EventGateway.authenticate secret token caller)) {l : Line}
    (hl : l.LooksUp S) :
    ((l.read m).connection.principal = l.connection.principal ∨
      S (.done (.ok (l.read m).connection.principal))) ∧
    (l.read m).LooksUp S ∧ (l.connection.closed = true → (l.read m).connection.closed = true) := by
  cases reads_read m l with
  | steady h => exact ⟨.inl h.principal, hl.steady h, h.closed⟩
  | begins reference token hr h heq =>
    obtain ⟨hp, hk, hc⟩ := settleAuthentication_leaves _ reference
      (Limited.rests_start hS hm m.now m.config.authzTimeout.toNat m.turn (hbegin _ token _))
    rw [heq]
    exact ⟨hp.imp_left fun hp => hp.trans h.principal, hk, hc ∘ h.closed⟩
  | resumes reference a hr heq =>
    rw [heq]
    exact settleAuthentication_leaves l reference
      (Limited.rests_advance hS hm m.now m.turn (hl reference a hr))

/-- Only the account is left to be looked up for the principal. -/
def AwaitsAccount (l : Line) (q : Principal) : Prop :=
  ∃ reference a u, l.session.reader = .authenticating reference a ∧ q.userId = some u ∧
    a.rest = ifActive u q

/-- The authentication that is under way comes to the principal at the moment. -/
def Installs (l : Line) (m : Moment) (q : Principal) : Prop :=
  ∃ reference a, l.session.reader = .authenticating reference a ∧
    m.advance a = .finished (.ok (.ok q))

/-- The reader goes on with an authentication whose lookup is over. -/
lemma read_of_finished {l : Line} {m : Moment} {reference : Option UInt64}
    {a : Awaited (Except CommandError Principal)}
    {r : Except ServiceError (Except CommandError Principal)}
    (hr : l.session.reader = .authenticating reference a) (ha : m.advance a = .finished r) :
    l.read m = l.finishAuthentication reference (authenticationResult r) := by
  have hready : a.readyAt ≤ m.now := by
    have hadvance := ha
    unfold Moment.advance Awaited.advance at hadvance
    split at hadvance
    · next hdue => exact Nat.le_trans (Nat.min_le_left _ _) hdue
    · split at hadvance <;> cases hadvance
  simp only [read]
  rw [hr]
  dsimp only
  rw [if_pos hready, ha]
  rfl

/-- What an authentication comes to is the principal from then on. -/
lemma principal_of_installs {l : Line} {m : Moment} {q : Principal} (h : l.Installs m q) :
    (l.read m).connection.principal = q := by
  obtain ⟨reference, a, hr, hadvance⟩ := h
  rw [read_of_finished hr hadvance]
  exact (steady_reply _ reference (.ok q.reply)).principal

/-- The account has to be looked up for the principal, or that has been done. -/
def IsLastStep (u : String) (q : Principal) (x : Lookup (Except CommandError Principal)) : Prop :=
  x = ifActive u q ∨ ∃ result, x = .done result ∧ ∀ p, result = .ok p → p = q

lemma persists_isLastStep (u : String) (q : Principal) :
    Lookup.Persists (fun _ => True) (IsLastStep u q) := by
  rintro query next c - (h | ⟨result, h, -⟩)
  · cases h
    show IsLastStep u q (if c.isActive u then _ else _)
    split
    · exact .inr ⟨.ok q, rfl, fun p hp => by cases hp; rfl⟩
    · exact .inr ⟨.error .inactiveToken, rfl, nofun⟩
  · cases h

/-- Whoever waits for an account goes on waiting, or is done and may install its principal. -/
lemma read_of_awaitsAccount {l : Line} {q : Principal} (h : l.AwaitsAccount q) (m : Moment) :
    ((l.read m).AwaitsAccount q ∨
      ∀ reference a, (l.read m).session.reader ≠ .authenticating reference a) ∧
    ((l.read m).connection.principal = l.connection.principal ∨ l.Installs m q) ∧
    (l.connection.closed = true → (l.read m).connection.closed = true) := by
  obtain ⟨reference, a, u, hr, hu, hrest⟩ := h
  cases reads_read m l with
  | steady hs =>
    refine ⟨?_, .inl hs.principal, hs.closed⟩
    rcases hs.reader with hk | hk
    · exact .inl ⟨reference, a, u, hk.trans hr, hu, hrest⟩
    · exact .inr hk
  | begins reference' token hidle => simp [hr] at hidle
  | resumes reference' a' hr' heq =>
    rw [hr] at hr'
    cases hr'
    have hlast : (m.advance a).Rests (IsLastStep u q) :=
      Limited.rests_advance (persists_isLastStep u q) trivial m.now m.turn (.inl hrest)
    obtain ⟨-, hk, hc⟩ := settleAuthentication_leaves l reference hlast
    rw [heq]
    refine ⟨?_, (principal_settleAuthentication l reference (m.advance a)).imp_right ?_, hc⟩
    · by_cases hauth : ∃ reference' a',
          (l.settleAuthentication reference (m.advance a)).session.reader =
            .authenticating reference' a'
      · obtain ⟨reference', a', hr'⟩ := hauth
        rcases hk reference' a' hr' with hlast | ⟨result, hdone, -⟩
        · exact .inl ⟨reference', a', u, hr', hu, hlast⟩
        · cases hdone
      · exact .inr fun reference' a' hr' => hauth ⟨reference', a', hr'⟩
    · rintro ⟨p, hadvance, -⟩
      rw [hadvance] at hlast
      obtain hlast | ⟨result, hdone, hq⟩ := hlast
      · cases hlast
      · cases hdone
        exact ⟨reference, a, hr, by rw [hadvance, hq p rfl]⟩

end EventGateway.Line
