import EventGateway.Access.Authenticate
import EventGateway.Proofs.Store.Progress

/-!
# Revoked credentials

The issue of an app token is revoked when it is superseded or the token is deactivated, an account when
it is set inactive. While a revocation is in force no authentication that has still to read the record
of the token comes to a principal that it covers, and no check of a principal that it covers finds that
the principal still stands. An authentication that has read the record of the token, and waits for the
account, asks for nothing that could stop it.
-/

namespace EventGateway

/-- What is revoked. -/
inductive Revocation where
  /-- An issue of an app token. -/
  | token (tokenId : String) (issue : Int32)
  /-- The account of a user. -/
  | account (userId : String)
  deriving DecidableEq, Repr, Inhabited

namespace Revocation

/-- Is the principal one that is revoked? -/
def Covers : Revocation → Principal → Prop
  | .token tokenId issue, .appToken t => t.tokenId = tokenId ∧ t.issue = issue
  | .token _ _, _ => False
  | .account userId, p => p.userId = some userId

/-- Is it an issue of a token that is revoked? -/
def IsToken (r : Revocation) : Prop := ∃ tokenId issue, r = .token tokenId issue

/-- Is it revoked by the content? -/
def InForce : Revocation → Content → Prop
  | .token tokenId issue, c =>
    ∀ record, c.tokens.get? tokenId = some record → record.isActive = true → record.issue ≠ issue
  | .account userId, c => c.isActive userId = false

variable {r : Revocation}

lemma not_covers_anonymous (r : Revocation) : ¬ r.Covers .anonymous := by
  cases r <;> simp [Covers]

/-! ### Revoking -/

/-- What a change of the content revokes: a reissue the issue that it supersedes, and a deactivation every
issue of the token. -/
inductive RevokedBy (c : Content) : Revocation → ContentUpdate → Prop
  | superseded {tokenId : String} {issue next : Int32} : c.issueOf? tokenId = some issue →
    c.nextIssue tokenId = .ok (some next) → RevokedBy c (.token tokenId issue) (.reissueToken tokenId)
  | deactivated {tokenId : String} {issue : Int32} :
    RevokedBy c (.token tokenId issue) (.deactivateToken tokenId)
  | inactive {userId : String} : RevokedBy c (.account userId) (.setActive userId false)

/-- What a change revokes is revoked by the content afterwards. -/
lemma RevokedBy.inForce {c : Content} {u : ContentUpdate} (h : r.RevokedBy c u) :
    r.InForce (c.update u) := by
  cases h with
  | @superseded tokenId issue next hissue hnext =>
    obtain ⟨old, hold, hmore⟩ := Content.nextIssue_eq_some_iff.1 hnext
    have hissue : old.issue = issue := by simpa [Content.issueOf?, hold] using hissue
    intro record hr _
    have hrecord : { old with issue := next } = record := by
      simpa [Content.update, hnext, Content.updateToken, Dictionary.get?_modify, hold] using hr
    rw [← hrecord, ← hissue]
    rintro rfl
    omega
  | @deactivated tokenId issue =>
    intro record hr hactive
    have hget : (c.tokens.get? tokenId).map (fun t => { t with isActive := false }) =
        some record := by
      simpa [Content.update, Content.updateToken, Dictionary.get?_modify] using hr
    obtain ⟨old, -, rfl⟩ := Option.map_eq_some_iff.1 hget
    cases hactive
  | @inactive userId =>
    simp only [InForce, Content.isActive]
    simp only [Content.update, Content.updateAccount, Dictionary.get?_modify, if_true]
    cases c.accounts.get? userId <;> rfl

/-! ### Authentications -/

/-- Does the authentication come to a principal that is revoked? -/
def Admits (r : Revocation) (result : Except CommandError Principal) : Prop :=
  ∃ p, result = .ok p ∧ r.Covers p

/-- The authentication comes to no principal that is revoked, as long as the revocation is in force. -/
def Blocks (r : Revocation) (x : Lookup (Except CommandError Principal)) : Prop :=
  x.Avoids r.InForce r.Admits

lemma blocks_error (r : Revocation) (e : CommandError) : r.Blocks (.done (.error e)) := by
  rintro ⟨p, h, -⟩
  cases h

/-- An account that is inactive lets nobody in, and who is not revoked may come in. -/
lemma blocks_ifActive {u : String} {q : Principal} (hu : q.userId = some u)
    (h : r.IsToken → ¬ r.Covers q) : r.Blocks (ifActive u q) := by
  intro c hc
  show (if c.isActive u then _ else _ : Lookup (Except CommandError Principal)).Avoids _ _
  split
  · next hactive =>
    rintro ⟨p, hp, hcovers⟩
    cases hp
    cases r with
    | token tokenId issue => exact h ⟨tokenId, issue, rfl⟩ hcovers
    | account userId =>
      have : u = userId := Option.some.inj (hu.symm.trans hcovers)
      rw [this, show _ = false from hc] at hactive
      cases hactive
  · exact r.blocks_error .inactiveToken

lemma blocks_claims (r : Revocation) (caller : Caller) (claims : Claims) :
    r.Blocks (claims.authenticate caller) := by
  cases claims with
  | session userId => exact blocks_ifActive rfl (by rintro ⟨_, _, rfl⟩; exact id)
  | appToken tokenId issue userId =>
    intro c hc
    dsimp only [Lookup.bind, Content.answer]
    cases hrecord : c.tokens.get? tokenId with
    | none => exact r.blocks_error .invalidToken
    | some record =>
      dsimp only
      split
      · exact r.blocks_error .invalidToken
      · split
        · exact r.blocks_error _
        · next hrefusal =>
          -- A record that admits the token is neither inactive nor of another issue.
          have hadmits : record.isActive = true ∧ record.issue = issue := by
            unfold TokenRecord.refusal? at hrefusal
            split at hrefusal
            · cases hrefusal
            · next h => simpa using h
          apply blocks_ifActive rfl
          rintro ⟨t, i, rfl⟩ ⟨rfl, rfl⟩
          exact hc record hrecord hadmits.1 hadmits.2

lemma blocks_authenticate (r : Revocation) (secret token : String) (caller : Caller) :
    r.Blocks (authenticate secret token caller) := by
  simp only [authenticate]
  split
  · exact r.blocks_error .invalidToken
  · exact r.blocks_claims caller _

/-! ### How far an authentication has come -/

/-- An authentication that has to read the record of the token first, one that has to read the account
only, or its result. -/
def IsAuthentication (x : Lookup (Except CommandError Principal)) : Prop :=
  (∃ claims caller, x = Claims.authenticate caller claims) ∨
    (∃ u q, Principal.userId q = some u ∧ x = ifActive u q) ∨ ∃ result, x = .done result

lemma isAuthentication_authenticate (secret token : String) (caller : Caller) :
    IsAuthentication (authenticate secret token caller) := by
  simp only [authenticate]
  split
  · exact .inr (.inr ⟨_, rfl⟩)
  · exact .inl ⟨_, caller, rfl⟩

lemma isAuthentication_next {u : String} {q : Principal} {query : Query}
    {next : query.Answer → Lookup (Except CommandError Principal)} (h : .ask query next = ifActive u q)
    (c : Content) : IsAuthentication (next (c.answer query)) := by
  cases h
  show IsAuthentication (if c.isActive u then _ else _)
  split <;> exact .inr (.inr ⟨_, rfl⟩)

lemma persists_isAuthentication : Lookup.Persists (fun _ => True) IsAuthentication := by
  rintro query next c - (⟨claims, caller, h⟩ | ⟨u, q, -, h⟩ | ⟨result, h⟩)
  · cases claims with
    | session userId => exact isAuthentication_next h c
    | appToken tokenId issue userId =>
      cases h
      dsimp only [Lookup.bind, Content.answer]
      split
      · exact .inr (.inr ⟨_, rfl⟩)
      · split
        · exact .inr (.inr ⟨_, rfl⟩)
        · split
          · exact .inr (.inr ⟨_, rfl⟩)
          · exact .inr (.inl ⟨userId, _, rfl, rfl⟩)
  · exact isAuthentication_next h c
  · cases h

/-- An authentication that waits is blocked, unless it only waits for the account of a user whose token
is revoked. -/
lemma blocks_or_awaits {a : Awaited (Except CommandError Principal)} (h : IsAuthentication a.rest)
    (r : Revocation) : r.Blocks a.rest ∨
      ∃ u q, Principal.userId q = some u ∧ a.rest = ifActive u q ∧ r.Covers q ∧ r.IsToken := by
  obtain ⟨claims, caller, h⟩ | ⟨u, q, hu, h⟩ | ⟨result, h⟩ := h
  · rw [h]
    exact .inl (r.blocks_claims caller claims)
  · by_cases hcovers : r.Covers q ∧ r.IsToken
    · exact .inr ⟨u, q, hu, h, hcovers⟩
    · rw [h]
      exact .inl (blocks_ifActive hu fun ht hc => hcovers ⟨hc, ht⟩)
  · cases h

/-! ### Checks -/

/-- The check does not find that the principal stands, as long as the revocation is in force. -/
def Refutes (r : Revocation) (x : Lookup Bool) : Prop := x.Avoids r.InForce fun valid => valid = true

lemma refutes_stillValid {p : Principal} (hp : r.Covers p) (caller : Caller) :
    r.Refutes (p.stillValid caller) := by
  have hactive {u : String} (hu : p.userId = some u) {userId : String} (hr : r = .account userId) :
      r.Refutes (.query (.userIsActive u)) := by
    subst hr
    intro c hc
    show ¬ c.isActive u = true
    have : u = userId := Option.some.inj (hu.symm.trans hp)
    rw [this, show _ = false from hc]
    simp
  cases p with
  | anonymous => exact absurd hp (not_covers_anonymous r)
  | session userId =>
    cases r with
    | token tokenId issue => exact hp.elim
    | account u => exact hactive rfl rfl
  | appToken t =>
    intro c hc
    dsimp only [Lookup.bind, Content.answer]
    cases hrecord : c.tokens.get? t.tokenId with
    | none => exact Bool.false_ne_true
    | some record =>
      dsimp only
      split
      · next hadmits =>
        cases r with
        | token tokenId issue =>
          obtain ⟨rfl, rfl⟩ := hp
          simp only [TokenRecord.admits, Bool.and_eq_true, decide_eq_true_eq] at hadmits
          exact absurd hadmits.1.1.2 (hc record hrecord hadmits.1.1.1)
        | account u => exact hactive rfl rfl
      · exact Bool.false_ne_true

end Revocation

end EventGateway
