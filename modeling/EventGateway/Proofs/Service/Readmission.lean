import EventGateway.Proofs.Service.History
import EventGateway.Proofs.Service.Passes
import Mathlib.Data.List.Chain
import Mathlib.Data.List.Induction

/-!
# How a revoked principal comes back

Once a pass that has begun since a revocation has come to its end, no open connection that it concerns
has a revoked principal, with one exception. An authentication that had read the record of the token
before the token was revoked, and that waits for the account alone, installs its principal although the
pass is past the connection. Nothing takes the principal away then. Accounts that are set inactive have
no such exception, as the account is the last that an authentication asks for.
-/

namespace EventGateway

namespace World

/-- The principal of a connection. -/
def principal? (w : World) (id : ConnectionId) : Option Principal :=
  (w.line? id).map fun l => l.connection.principal

/-- Only the account is left to be looked up for the principal on the connection. -/
def AwaitsAccount (w : World) (id : ConnectionId) (q : Principal) : Prop :=
  ∃ l, w.line? id = some l ∧ l.AwaitsAccount q

/-- An authentication that waits from the beginning for the account alone, and comes to its principal
when the pass is past the connection. The principal is left alone from then on. -/
structure InstallsLate (index : Nat) (id : ConnectionId) (q : Principal)
    (earlier : List Happening) (v : World) (later : List Happening) : Prop where
  waits : ∀ x ∈ earlier, x.1.AwaitsAccount id q
  installs : ∃ l, v.line? id = some l ∧ l.AwaitsAccount q ∧ l.Installs v.moment q
  passed : ∃ p, v.passes[index]? = some p ∧ ¬ p.Handles id q
  stands : ∀ x ∈ later, (x.1.step x.2).principal? id = x.1.principal? id

/-- Has such an authentication happened? -/
def InstalledLate (history : List Happening) (index : Nat) (id : ConnectionId) (q : Principal) :
    Prop :=
  ∃ earlier v later, history = earlier ++ (v, .task (.reader id)) :: later ∧
    InstallsLate index id q earlier v later

variable {index : Nat} {id : ConnectionId} {q : Principal} {past : List Happening}

/-- Whatever leaves the principal alone may follow. -/
lemma InstalledLate.concat (h : InstalledLate past index id q) {x : Happening}
    (hx : (x.1.step x.2).principal? id = x.1.principal? id) :
    InstalledLate (past ++ [x]) index id q := by
  obtain ⟨earlier, v, later, rfl, hlate⟩ := h
  refine ⟨earlier, v, later ++ [x], by simp, hlate.waits, hlate.installs, hlate.passed, ?_⟩
  intro y hy
  rcases List.mem_append.1 hy with hy | hy
  · exact hlate.stands y hy
  · rw [List.mem_singleton.1 hy]
    exact hx

/-! ### What an action does to principals -/

/-- An action is a step of the reader, of a pass, or leaves authentications and the principal alone. -/
lemma Effect.cases_steady {w : World} {a : Action} {l l' : Line} (h : w.Effect id a l l') :
    (a = .task (.reader id) ∧ l' = l.read w.moment) ∨ l.Steady l' ∨
      (l'.connection.principal = .anonymous ∧ l'.session = l.session ∧
        l'.connection.closed = l.connection.closed) := by
  cases h with
  | read => exact .inl ⟨rfl, rfl⟩
  | missHeartbeat => exact .inr (.inl (l.steady_missHeartbeat _))
  | write => exact .inr (.inl l.steady_write)
  | deliver slot => exact .inr (.inl (l.steady_deliver _ _))
  | demote _ _ ps =>
    obtain ⟨hp, hs, hc⟩ := l.demotions_leave ps
    refine .inr (hp.imp (fun hp => ?_) fun hp => ⟨hp, hs, hc⟩)
    exact ⟨hp, .inl (congrArg Session.reader hs), fun h => hc.trans h⟩
  | reserve => exact .inr (.inl (l.steady_reserve _))
  | arrive _ arrival => exact .inr (.inl ⟨rfl, .inl rfl, fun h => h⟩)
  | depart => exact .inr (.inl ⟨rfl, .inl rfl, fun h => h⟩)
  | spare => exact .inr (.inl (.refl l))

section

variable {I : Content → Prop} {S : Lookup (Except CommandError Principal) → Prop}

/-- What is true of every authentication that begins, and stays true, stays true of what is under
way, and is true of a principal that is installed. -/
lemma Effect.looksUp (hS : Lookup.Persists I S) {w : World} (hw : I w.store.content)
    (hbegin : ∀ secret token caller, S (authenticate secret token caller)) {a : Action}
    {l l' : Line} (h : w.Effect id a l l') (hl : l.LooksUp S) : l'.LooksUp S ∧
      (l'.connection.principal = l.connection.principal ∨ l'.connection.principal = .anonymous ∨
        S (.done (.ok l'.connection.principal))) ∧
      (l.connection.closed = true → l'.connection.closed = true) := by
  rcases h.cases_steady with ⟨-, rfl⟩ | hsteady | ⟨hp, hs, hc⟩
  · obtain ⟨hp, hk, hc⟩ := Line.read_leaves hS (m := w.moment) hw hbegin hl
    exact ⟨hk, hp.imp_right .inr, hc⟩
  · exact ⟨hl.steady hsteady, .inl hsteady.principal, hsteady.closed⟩
  · refine ⟨fun reference a hr => hl reference a ?_, .inr (.inl hp), fun h => hc.trans h⟩
    rw [← hs]
    exact hr

/-- Who waits for an account only goes on waiting or is done, and then may install its principal. -/
lemma Effect.awaitsAccount {w : World} {a : Action} {l l' : Line} (h : w.Effect id a l l')
    (hl : l.AwaitsAccount q) : (l'.AwaitsAccount q ∨ l'.LooksUp S) ∧
      (l'.connection.principal = l.connection.principal ∨ l'.connection.principal = .anonymous ∨
        (a = .task (.reader id) ∧ l.Installs w.moment q ∧ l'.connection.principal = q)) ∧
      (l.connection.closed = true → l'.connection.closed = true) := by
  have hidle {k : Line} (hk : ∀ reference a, k.session.reader ≠ .authenticating reference a) :
      k.LooksUp S := fun reference a hr => absurd hr (hk reference a)
  have hkeep {k : Line} (hk : k.session.reader = l.session.reader) : k.AwaitsAccount q := by
    obtain ⟨reference, a, u, hr, hrest⟩ := hl
    exact ⟨reference, a, u, hk.trans hr, hrest⟩
  rcases h.cases_steady with ⟨ha, rfl⟩ | hsteady | ⟨hp, hs, hc⟩
  · obtain ⟨hk, hp, hc⟩ := Line.read_of_awaitsAccount hl w.moment
    exact ⟨hk.imp_right hidle,
      hp.imp_right fun hi => .inr ⟨ha, hi, Line.principal_of_installs hi⟩, hc⟩
  · exact ⟨hsteady.reader.imp hkeep hidle, .inl hsteady.principal, hsteady.closed⟩
  · exact ⟨.inl (hkeep (congrArg Session.reader hs)), .inr (.inl hp), fun h => hc.trans h⟩

end

/-- A line that is opened has nobody's principal and authenticates nobody. -/
lemma line_opened {w : World} {a : Action} {l' : Line} (hl : w.line? id = none)
    (hl' : (w.step a).line? id = some l') : l'.connection.principal = .anonymous ∧
      ∀ S, l'.LooksUp S := by
  obtain ⟨caller, -, rfl⟩ := (grows_step w a).opened id l' hl' hl
  constructor
  · show (Connection.send _ _).principal = _
    simp only [Connection.send]
    split <;> rfl
  · exact fun S => Line.looksUp_opened _ _ _ _

/-- Every authentication that is under way in a run is one. -/
lemma looksUp_run (config : Config) (store : Store) (actions : List Action) {l : Line}
    (hl : ((start config store).run actions).line? id = some l) :
    l.LooksUp Revocation.IsAuthentication := by
  induction actions using List.reverseRecOn generalizing l with
  | nil => cases hl
  | append_singleton before a ih =>
    rw [run_concat] at hl
    cases hold : ((start config store).run before).line? id with
    | none => exact (line_opened hold hl).2 _
    | some k =>
      obtain ⟨l', hl', heffect⟩ := effect_step (a := a) hold
      rw [hl, Option.some.injEq] at hl'
      subst hl'
      exact (heffect.looksUp Revocation.persists_isAuthentication trivial
        Revocation.isAuthentication_authenticate (ih hold)).1

/-! ### While something is revoked -/

variable {r : Revocation}

/-- What holds as long as something is revoked, after what has happened since. -/
structure Watched (r : Revocation) (index : Nat) (past : List Happening) (w : World) : Prop where
  /-- No authentication comes to a revoked principal but one that waits for the account alone. -/
  line : ∀ id l, w.line? id = some l → l.LooksUp r.Blocks ∨
    ∃ q, r.Covers q ∧ r.IsToken ∧ l.AwaitsAccount q ∧ ∀ x ∈ past, x.1.AwaitsAccount id q
  pass : ∀ p, w.passes[index]? = some p → p.Refutes r
  /-- The pass has not done with a revoked principal, or the principal has come late. -/
  principal : ∀ id l p, w.line? id = some l → w.passes[index]? = some p →
    l.connection.closed = false → r.Covers l.connection.principal →
    p.Concerns l.connection.principal → p.Handles id l.connection.principal ∨
      (r.IsToken ∧ InstalledLate past index id l.connection.principal)

/-- It holds when the revocation comes into force, before the pass begins. -/
lemma watched_of_run (r : Revocation) (config : Config) (store : Store) (before : List Action)
    (hpass : ((start config store).run before).passes[index]? = none) :
    Watched r index [] ((start config store).run before) where
  line id l hl := by
    by_cases hblocks : l.LooksUp r.Blocks
    · exact .inl hblocks
    · obtain ⟨reference, a, hr, hnot⟩ : ∃ reference a,
          l.session.reader = .authenticating reference a ∧ ¬ r.Blocks a.rest := by
        simpa [Line.LooksUp] using hblocks
      have hshape := looksUp_run config store before hl reference a hr
      obtain ⟨u, q, hu, hrest, hcovers, htoken⟩ :=
        (Revocation.blocks_or_awaits hshape r).resolve_left hnot
      exact .inr ⟨q, hcovers, htoken, ⟨reference, a, u, hr, hu, hrest⟩, by simp⟩
  pass p hp := by rw [hpass] at hp; cases hp
  principal id l p _ hp := by rw [hpass] at hp; cases hp

section

variable {w : World} (h : Watched r index past w) (hforce : r.InForce w.store.content)
include h hforce

/-- What an action makes of an authentication, and which revoked principal it may install. -/
lemma Watched.effect {a : Action} {l l' : Line} (hl : w.line? id = some l)
    (heffect : w.Effect id a l l') :
    (l'.LooksUp r.Blocks ∨ ∃ q, r.Covers q ∧ r.IsToken ∧ l'.AwaitsAccount q ∧
      ∀ x ∈ past ++ [(w, a)], x.1.AwaitsAccount id q) ∧
    (r.Covers l'.connection.principal →
      l'.connection.principal = l.connection.principal ∨
      (r.IsToken ∧ a = .task (.reader id) ∧ l.AwaitsAccount l'.connection.principal ∧
        l.Installs w.moment l'.connection.principal ∧
        ∀ x ∈ past, x.1.AwaitsAccount id l'.connection.principal)) ∧
    (l.connection.closed = true → l'.connection.closed = true) := by
  have hanonymous {p : Principal} (hp : p = .anonymous) : ¬ r.Covers p := by
    rw [hp]
    exact r.not_covers_anonymous
  rcases h.line id l hl with hblocks | ⟨q, hq, htoken, hawaits, hpast⟩
  · obtain ⟨hk, hp, hc⟩ := heffect.looksUp (Lookup.persists_avoids _ _) hforce
      r.blocks_authenticate hblocks
    refine ⟨.inl hk, fun hcovers => .inl ?_, hc⟩
    rcases hp with hp | hp | hp
    · exact hp
    · exact absurd hcovers (hanonymous hp)
    · exact absurd ⟨_, rfl, hcovers⟩ hp
  · obtain ⟨hk, hp, hc⟩ := heffect.awaitsAccount (S := r.Blocks) hawaits
    refine ⟨?_, ?_, hc⟩
    · refine hk.symm.imp_right fun hk => ⟨q, hq, htoken, hk, fun x hx => ?_⟩
      rcases List.mem_append.1 hx with hx | hx
      · exact hpast x hx
      · rw [List.mem_singleton.1 hx]
        exact ⟨l, hl, hawaits⟩
    · intro hcovers
      rcases hp with hp | hp | ⟨ha, hi, rfl⟩
      · exact .inl hp
      · exact absurd hcovers (hanonymous hp)
      · exact .inr ⟨htoken, ha, hawaits, hi, hpast⟩

/-- The pass goes on with a connection that it has not done with, or is past it. -/
lemma Watched.principal_advancePass {p : Pass} (hp : w.passes[index]? = some p) {a : Action}
    (hline : (w.step a).line? id = (w.advancePass p).1.line? id) {l' : Line}
    (hl' : (w.step a).line? id = some l') (hopen : l'.connection.closed = false)
    (hcovers : r.Covers l'.connection.principal)
    (hconcerns : (w.advancePass p).2.Concerns l'.connection.principal) :
    (w.advancePass p).2.Handles id l'.connection.principal ∨
      (r.IsToken ∧ InstalledLate (past ++ [(w, a)]) index id l'.connection.principal) := by
  have hdemotes := demotes_advancePass w p
  obtain ⟨l, hl⟩ : ∃ l, w.line? id = some l := by
    rw [← Option.isSome_iff_exists, ← hdemotes.known, ← hline, hl']
    rfl
  obtain ⟨k, hk, hprincipal, -, hclosed⟩ := hdemotes.exists_line hl
  rw [← hline, hl', Option.some.injEq] at hk
  subst hk
  have hsame : l'.connection.principal = l.connection.principal := by
    refine hprincipal.resolve_right fun hanonymous => ?_
    rw [hanonymous] at hcovers
    exact r.not_covers_anonymous hcovers
  rw [hsame] at hcovers hconcerns ⊢
  have hconcerns : p.Concerns l.connection.principal := by
    intro user hu
    rw [← affected_advancePass w p]
    exact hconcerns user hu
  have hopen : l.connection.closed = false := by rw [← hclosed, hopen]
  rcases h.principal id l p hl hp hopen hcovers hconcerns with hhandles | ⟨htoken, hlate⟩
  · obtain ⟨k, hk, hpursued⟩ :=
      pursues_advancePass hforce hl hopen hcovers hconcerns hhandles (h.pass p hp)
    rw [← hline, hl', Option.some.injEq] at hk
    subst hk
    rw [hsame] at hpursued
    rcases hpursued with hanonymous | ⟨-, hhandles⟩
    · rw [hanonymous] at hcovers
      exact absurd hcovers r.not_covers_anonymous
    · exact .inl hhandles
  · refine .inr ⟨htoken, hlate.concat ?_⟩
    simp [principal?, hl, hl', hsame]

/-- It goes on to hold, whatever happens. -/
lemma Watched.step (hsound : w.Sound) (a : Action) :
    Watched r index (past ++ [(w, a)]) (w.step a) where
  line id l' hl' := by
    cases hold : w.line? id with
    | none => exact .inl ((line_opened hold hl').2 _)
    | some l =>
      obtain ⟨k, hk, heffect⟩ := effect_step (a := a) hold
      rw [hl', Option.some.injEq] at hk
      exact hk ▸ (h.effect hforce hold heffect).1
  pass p hp := by
    rcases passes_step hp with hp | ⟨p', -, hp', rfl, -⟩ | ⟨-, ⟨affected, rfl⟩, -⟩
    · exact h.pass p hp
    · exact refutes_advancePass hforce (h.pass p' hp')
    · exact nofun
  principal id l' p hl' hp hopen hcovers hconcerns := by
    cases hold : w.line? id with
    | none =>
      rw [(line_opened hold hl').1] at hcovers
      exact absurd hcovers r.not_covers_anonymous
    | some l =>
      obtain ⟨k, hk, heffect⟩ := effect_step (a := a) hold
      rw [hl', Option.some.injEq] at hk
      subst hk
      rcases passes_step hp with hkept | ⟨p', -, hp', rfl, hline⟩ | ⟨-, ⟨affected, rfl⟩, hline⟩
      · obtain ⟨-, hprincipal, hclosed⟩ := h.effect hforce hold heffect
        rcases hprincipal hcovers with hsame | ⟨htoken, rfl, hawaits, hinstalls, hpast⟩
        · rw [hsame] at hcovers hconcerns ⊢
          have hopen : l.connection.closed = false := by
            cases hc : l.connection.closed with
            | true => rw [hclosed hc] at hopen; cases hopen
            | false => rfl
          apply (h.principal id l p hold hkept hopen hcovers hconcerns).imp_right
          rintro ⟨ht, hlate⟩
          refine ⟨ht, hlate.concat ?_⟩
          simp [principal?, hold, hl', hsame]
        · by_cases hhandles : p.Handles id l'.connection.principal
          · exact .inl hhandles
          · exact .inr ⟨htoken, past, w, [], rfl, hpast, ⟨l, hold, hawaits, hinstalls⟩,
              ⟨p, hkept, hhandles⟩, by simp⟩
      · exact h.principal_advancePass hforce hp' (hline id) hl' hopen hcovers hconcerns
      · -- The connection was open when the pass began, so it is registered.
        rw [hline, hold, Option.some.injEq] at hl'
        subst hl'
        refine .inl (.inl ((hsound.broker.registered id).2 ⟨l.connection, ?_, hopen⟩))
        exact (line?_eq_some_iff.1 hold).2

end

lemma Watched.run {w : World} (h : Watched r index past w) (hsound : w.Sound)
    (actions : List Action) (hforce : ∀ x ∈ w.history actions, r.InForce x.1.store.content) :
    Watched r index (past ++ w.history actions) (w.run actions) := by
  induction actions generalizing w past with
  | nil =>
    rw [history, List.append_nil]
    exact h
  | cons a rest ih =>
    have hw := hforce (w, a) (List.mem_cons_self ..)
    rw [history, List.append_cons]
    exact ih (h.step hw hsound a) (hsound.step a) fun x hx => hforce x (List.mem_cons_of_mem _ hx)

/-- It holds after a change of the store, which leaves authentications and passes alone. -/
lemma Watched.updateStore {w : World} (h : Watched r index past w) (u : StoreUpdate) :
    Watched r index (past ++ [(w, .updateStore u)]) (w.step (.updateStore u)) where
  line id l hl := by
    refine (h.line id l hl).imp_right ?_
    rintro ⟨q, hcovers, htoken, hawaits, hpast⟩
    refine ⟨q, hcovers, htoken, hawaits, fun x hx => ?_⟩
    rcases List.mem_append.1 hx with hx | hx
    · exact hpast x hx
    · rw [List.mem_singleton.1 hx]
      exact ⟨l, hl, hawaits⟩
  pass := h.pass
  principal id l p hl hp hopen hcovers hconcerns :=
    (h.principal id l p hl hp hopen hcovers hconcerns).imp_right fun hlate =>
      ⟨hlate.1, hlate.2.concat rfl⟩

/-! ### A principal that comes late -/

/-- The happenings after one of them are those of a run of their own. -/
lemma history_eq_append {w v : World} {a : Action} {actions : List Action}
    {earlier later : List Happening} (h : w.history actions = earlier ++ (v, a) :: later) :
    ∃ rest, later = (v.step a).history rest ∧ w.run actions = (v.step a).run rest := by
  induction actions generalizing w earlier with
  | nil => simp [history] at h
  | cons b rest ih =>
    cases earlier with
    | nil =>
      simp only [history, List.nil_append, List.cons.injEq, Prod.mk.injEq] at h
      obtain ⟨⟨rfl, rfl⟩, rfl⟩ := h
      exact ⟨rest, rfl, rfl⟩
    | cons x earlier =>
      simp only [history, List.cons_append, List.cons.injEq] at h
      exact ih h.2

lemma principal?_run {w : World} {actions : List Action}
    (h : ∀ x ∈ w.history actions, (x.1.step x.2).principal? id = x.1.principal? id) :
    (w.run actions).principal? id = w.principal? id := by
  induction actions generalizing w with
  | nil => rfl
  | cons a rest ih =>
    exact (ih fun x hx => h x (List.mem_cons_of_mem _ hx)).trans (h (w, a) (List.mem_cons_self ..))

lemma InstalledLate.principal? {w : World} {actions : List Action}
    (h : InstalledLate (w.history actions) index id q) :
    (w.run actions).principal? id = some q := by
  obtain ⟨earlier, v, later, hsplit, hlate⟩ := h
  obtain ⟨rest, rfl, hrun⟩ := history_eq_append hsplit
  obtain ⟨l, hl, -, hinstalls⟩ := hlate.installs
  rw [hrun, principal?_run hlate.stands]
  have hline := (modifies_read v id).line_own hl
  show ((v.read id).line? id).map _ = _
  rw [hline]
  exact congrArg some (Line.principal_of_installs hinstalls)

/-! ### After a pass -/

/-- In a state of a run something is being revoked, or has been revoked before. Nothing makes it valid again
from then on, and a pass that has begun since then has come to its end. -/
structure CheckedSince (r : Revocation) (w : World) (actions : List Action) (index : Nat)
    (p : Pass) : Prop where
  reached : ∃ config store before, w = (start config store).run before
  revoked : r.InForce w.store.content ∨ ∃ u rest, actions = .updateStore (.content u) :: rest ∧
    r.RevokedBy w.store.content u
  stays : (w.history actions).IsChain fun x y =>
    r.InForce x.1.store.content → r.InForce y.1.store.content
  begins : w.passes[index]? = none
  pass : (w.run actions).passes[index]? = some p
  ends : p.isDone = true

/-- What is in force and is not made valid again stays in force. -/
lemma inForce_of_isChain {w : World} {actions : List Action} (hforce : r.InForce w.store.content)
    (h : (w.history actions).IsChain fun x y =>
      r.InForce x.1.store.content → r.InForce y.1.store.content) :
    ∀ x ∈ w.history actions, r.InForce x.1.store.content := by
  induction actions generalizing w with
  | nil => exact fun _ hx => absurd hx List.not_mem_nil
  | cons a rest ih =>
    rintro x (_ | ⟨_, hx⟩)
    · exact hforce
    · cases rest with
      | nil => exact absurd hx List.not_mem_nil
      | cons b later =>
        obtain ⟨hnext, hlater⟩ := List.isChain_cons_cons.1 h
        exact ih (hnext hforce) hlater x hx

lemma CheckedSince.watched {w : World} {actions : List Action} {p : Pass}
    (h : CheckedSince r w actions index p) :
    Watched r index (w.history actions) (w.run actions) := by
  obtain ⟨config, store, before, rfl⟩ := h.reached
  have hwatched := watched_of_run r config store before h.begins
  have hsound : ((start config store).run before).Sound := (sound_start config store).run before
  obtain hforce | ⟨u, rest, rfl, hrevoked⟩ := h.revoked
  · exact hwatched.run hsound actions (inForce_of_isChain hforce h.stays)
  · exact (hwatched.updateStore (.content u)).run (hsound.step _) rest
      (inForce_of_isChain hrevoked.inForce h.stays.tail)

/-- An open connection that the pass concerns has a revoked principal exactly if the principal has come
late, and never one of an account that has been set inactive. -/
theorem covers_iff_installedLate {w : World} {actions : List Action} {p : Pass}
    (h : CheckedSince r w actions index p) {l : Line} (hl : (w.run actions).line? id = some l)
    (hopen : l.connection.closed = false) (hconcerns : p.Concerns l.connection.principal) :
    (r.Covers l.connection.principal ↔
      ∃ q, r.Covers q ∧ InstalledLate (w.history actions) index id q) ∧
    ∀ userId, r = .account userId → ¬ r.Covers l.connection.principal := by
  have hlate (hcovers : r.Covers l.connection.principal) : r.IsToken ∧
      InstalledLate (w.history actions) index id l.connection.principal :=
    (h.watched.principal id l p hl h.pass hopen hcovers hconcerns).resolve_left
      (Pass.not_handles_of_isDone h.ends id _)
  refine ⟨⟨fun hcovers => ⟨_, hcovers, (hlate hcovers).2⟩, ?_⟩, ?_⟩
  · rintro ⟨q, hq, hinstalled⟩
    have hprincipal := hinstalled.principal?
    rw [World.principal?, hl, Option.map_some, Option.some.injEq] at hprincipal
    rwa [hprincipal]
  · rintro userId rfl hcovers
    obtain ⟨tokenId, issue, htoken⟩ := (hlate hcovers).1
    cases htoken

/-! ### An issue that is superseded meanwhile -/

/-- The first issue of the app token of a user, signed with "secret". -/
def firstIssue : String :=
  "eyJ0eXAiOiJKV1QiLCJhbGciOiJIUzI1NiJ9" ++
  ".eyJ0eXBlIjoiYXBwLnYxIiwidG9rZW5JZCI6ImFwdF9sdW5hIiwiaXNzdWUiOjEsInVzZXJJZCI6Imx1bmEifQ" ++
  ".mFw9lT6ukU_iwp7xy0eyGh1cj0q_tmmCpOZKV-JYZ6w"

/-- The principal of the issue. -/
def firstPrincipal : Principal :=
  .appToken ⟨"luna", "apt_luna", 1, .ofList [.readRealtime], .ofTexts [] []⟩

/-- A client authenticates on a store that takes its time. The record of the token has been read, and
the account is being looked up. -/
def untilRecordRead : List Action := [
  .updateStore (.content (.addUser "luna")),
  .updateStore (.content (.putToken
    ⟨"apt_luna", "luna", 1, true, .ofList [.readRealtime], .ofTexts [] []⟩)),
  .updateStore (.setLatency (some 100)),
  .connect "c" {},
  .task (.writer "c"),
  .task (.writer "c"),
  .arrive "c" (.text ("\x7b\"op\":\"auth\",\"d\":\x7b\"authToken\":\"" ++ firstIssue ++
    "\"\x7d\x7d")),
  .task (.reader "c"),
  .elapse 100,
  .task (.reader "c")]

/-- The token is issued anew. A pass finds an anonymous connection and is done; then the account turns
out to be active. -/
def reissueAndPass : List Action := [
  .updateStore (.content (.reissueToken "apt_luna")),
  .reauthorize none,
  .task (.pass 0),
  .elapse 200,
  .task (.reader "c")]

/-- The state in which the token is issued anew. -/
def recordRead : World := (start { jwtSecret := "secret" } {}).run untilRecordRead

lemma checkedSince_recordRead :
    ∃ p l, CheckedSince (.token "apt_luna" 1) recordRead reissueAndPass 0 p ∧
      (recordRead.run reissueAndPass).line? "c" = some l ∧ l.connection.closed = false ∧
      l.connection.principal = firstPrincipal ∧ p.affected = none := by
  have hrun :
      (recordRead.passes[0]?.isNone = true ∧
        recordRead.store.content.issueOf? "apt_luna" = some 1 ∧
        recordRead.store.content.nextIssue "apt_luna" = .ok (some 2) ∧
        ((recordRead.history reissueAndPass).tail.all fun x =>
          (x.1.store.content.tokens.get? "apt_luna").all fun t => t.issue != 1) = true) ∧
      ((recordRead.run reissueAndPass).line? "c").map
        (fun l => (l.connection.principal, l.connection.closed)) = some (firstPrincipal, false) ∧
      (recordRead.run reissueAndPass).passes[0]?.map (fun p => (p.isDone, p.affected)) =
        some (true, none) := by
    decide +kernel
  obtain ⟨⟨hbegins, hissue, hnext, hforce⟩, hline, hpass⟩ := hrun
  obtain ⟨l, hl, hconnection⟩ := Option.map_eq_some_iff.1 hline
  obtain ⟨p, hp, hends⟩ := Option.map_eq_some_iff.1 hpass
  rw [Prod.mk.injEq] at hconnection hends
  have hrevoked := Revocation.RevokedBy.superseded hissue hnext
  refine ⟨p, l, ⟨⟨_, _, _, rfl⟩, .inr ⟨_, _, rfl, hrevoked⟩, ?_, by simpa using hbegins, hp, hends.1⟩, hl,
    hconnection.2, hconnection.1, hends.2⟩
  refine List.isChain_iff_getElem.2 fun i hi _ record hrecord _ => ?_
  have hlater : (recordRead.history reissueAndPass)[i + 1] ∈ (recordRead.history reissueAndPass).tail := by
    rw [← List.getElem_tail (by simpa using Nat.lt_sub_of_add_lt hi)]
    exact List.getElem_mem _
  have hother := List.all_eq_true.1 hforce _ hlater
  rw [hrecord] at hother
  simpa using hother

/-- The pass is done, and the connection acts with the issue that has been superseded. -/
theorem superseded_after_pass :
    ¬ ∀ (r : Revocation) (w : World) (actions : List Action) (index : Nat) (p : Pass)
      (id : ConnectionId) (l : Line), CheckedSince r w actions index p →
      (w.run actions).line? id = some l → l.connection.closed = false →
      p.Concerns l.connection.principal → ¬ r.Covers l.connection.principal := by
  intro huncovered
  obtain ⟨p, l, hchecked, hl, hopen, hprincipal, haffected⟩ := checkedSince_recordRead
  apply huncovered _ _ _ _ p _ l hchecked hl hopen (fun user _ => by rw [haffected]; rfl)
  rw [hprincipal]
  exact ⟨rfl, rfl⟩

/-- That is how it has come. -/
theorem installedLate_of_reissued :
    ∃ q, (Revocation.token "apt_luna" 1).Covers q ∧
      InstalledLate (recordRead.history reissueAndPass) 0 "c" q := by
  obtain ⟨p, l, hchecked, hl, hopen, hprincipal, haffected⟩ := checkedSince_recordRead
  apply (covers_iff_installedLate hchecked hl hopen fun user _ => by rw [haffected]; rfl).1.1
  rw [hprincipal]
  exact ⟨rfl, rfl⟩

end World

end EventGateway
