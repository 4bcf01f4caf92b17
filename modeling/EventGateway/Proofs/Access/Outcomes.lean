import EventGateway.Access.Authenticate
import EventGateway.Proofs.Store.Faults

/-!
# What an authentication comes to

The table of the outcomes of a presented credential: what is asked for in which order, and what the
first condition that does not hold makes of it. Lookups are told apart, so that the store may change
between them and each may fail on its own. Main statement: claims come to what the table says
(`authenticationResult_claims`).
-/

namespace EventGateway

open Net

/-! ### Conditions -/

/-- The caller is one that the restrictions leave room for: every netmask could be read, and where there
are netmasks or origins, the address is in one of the netmasks and the origin is one of the origins. -/
structure Restrictions.Permits (r : Restrictions) (caller : Caller) : Prop where
  readable : r.unparseable = false
  address : r.netmasks = [] ∨
    ∃ a mask, caller.address = some a ∧ mask ∈ r.netmasks ∧ mask.contains a = true
  origin : r.origins = [] ∨ ∃ o, caller.origin = some o ∧ o ∈ r.origins

lemma Restrictions.permitsCaller_iff {r : Restrictions} {caller : Caller} :
    r.permitsCaller caller = true ↔ r.Permits caller := by
  simp only [permitsCaller, permits, permitsAddress, permitsOrigin, Bool.and_eq_true, Bool.or_eq_true,
    Bool.not_eq_true', List.isEmpty_iff, Option.any_eq_true, List.any_eq_true, List.contains_iff_mem]
  constructor
  · rintro ⟨hreadable, haddress, horigin⟩
    refine ⟨hreadable, haddress.imp_right ?_, horigin⟩
    rintro ⟨a, ha, mask, hmask, hcontains⟩
    exact ⟨a, mask, ha, hmask, hcontains⟩
  · rintro ⟨hreadable, haddress, horigin⟩
    refine ⟨hreadable, haddress.imp_right ?_, horigin⟩
    rintro ⟨a, mask, ha, hmask, hcontains⟩
    exact ⟨a, ha, mask, hmask, hcontains⟩

instance (r : Restrictions) (caller : Caller) : Decidable (r.Permits caller) :=
  decidable_of_iff _ r.permitsCaller_iff

/-- The user is there and active. -/
def Content.HasActive (c : Content) (userId : String) : Prop :=
  ∃ account, c.accounts.get? userId = some account ∧ account.isActive = true

lemma Content.isActive_iff {c : Content} {userId : String} :
    c.isActive userId = true ↔ c.HasActive userId := by
  simp only [isActive, Option.any_eq_true, HasActive]

instance (c : Content) (userId : String) : Decidable (c.HasActive userId) :=
  decidable_of_iff _ c.isActive_iff

/-! ### The table -/

/-- What comes of a principal whose account is looked up last. -/
def Principal.outcome (p : Principal) (userId : String) (s : Store) : Except CommandError Principal :=
  if s.failing then .error .unavailable
  else if s.content.HasActive userId then .ok p
  else .error .inactiveToken

/-- What comes of an app token whose record has been found: the account is looked up after it. -/
def TokenRecord.outcome (record : TokenRecord) (tokenId : String) (issue : Int32) (userId : String)
    (caller : Caller) (s : Store) : Except CommandError Principal :=
  if record.userId ≠ userId then .error .invalidToken
  else if record.isActive = false ∨ record.issue ≠ issue then .error .inactiveToken
  else if .readRealtime ∉ record.scopes.toList then .error .insufficientScope
  else if ¬ record.restrictions.Permits caller then .error .restrictedToken
  else Principal.outcome (.appToken {
    userId, tokenId, issue, scopes := record.scopes, restrictions := record.restrictions }) userId s

/-- What comes of claims, from the store at the first lookup and at the second one. -/
def Claims.outcome (caller : Caller) (first second : Store) : Claims → Except CommandError Principal
  | .session userId => Principal.outcome (.session userId) userId first
  | .appToken tokenId issue userId =>
    if first.failing then .error .unavailable
    else
      match first.content.tokens.get? tokenId with
      | none => .error .invalidToken
      | some record => record.outcome tokenId issue userId caller second

/-! ### Authentications -/

/-- A first lookup that fails makes the service unavailable; otherwise its answer is gone on with. -/
lemma authenticationResult_query_bind (stores : Nat → Store) (q : Query)
    (f : q.Answer → Lookup (Except CommandError Principal)) :
    authenticationResult ((Lookup.query q >>= f).runThrough stores).result =
      if (stores 0).failing then .error .unavailable
      else authenticationResult
        ((f ((stores 0).content.answer q)).runThrough fun i => stores (i + 1)).result := by
  rw [Lookup.query_bind, Lookup.result_runThrough_ask]
  exact apply_ite authenticationResult _ _ _

lemma authenticationResult_ifActive (p : Principal) (userId : String) (stores : Nat → Store) :
    authenticationResult ((ifActive userId p).runThrough stores).result =
      p.outcome userId (stores 0) := by
  refine (authenticationResult_query_bind stores (.userIsActive userId) _).trans ?_
  unfold Principal.outcome
  congr 1
  by_cases hactive : (stores 0).content.isActive userId = true
  · rw [if_pos (Content.isActive_iff.1 hactive)]
    exact congrArg (fun x => authenticationResult (Lookup.runThrough _ x).result) (if_pos hactive)
  · rw [if_neg (mt Content.isActive_iff.2 hactive)]
    exact congrArg (fun x => authenticationResult (Lookup.runThrough _ x).result) (if_neg hactive)

lemma authenticationResult_record (record : TokenRecord) (tokenId : String) (issue : Int32)
    (userId : String) (caller : Caller) (stores : Nat → Store) :
    authenticationResult (Lookup.runThrough stores
      (if record.userId ≠ userId then .done (.error .invalidToken)
      else
        match record.refusal? issue caller with
        | some e => .done (.error e)
        | none => ifActive userId <| .appToken {
            userId, tokenId, issue, scopes := record.scopes,
            restrictions := record.restrictions })).result =
      record.outcome tokenId issue userId caller (stores 0) := by
  unfold TokenRecord.outcome TokenRecord.refusal?
  by_cases howner : record.userId ≠ userId
  · rw [if_pos howner, if_pos howner]
    rfl
  rw [if_neg howner, if_neg howner]
  by_cases hissue : record.isActive = false ∨ record.issue ≠ issue
  · rw [if_pos hissue, if_pos (by simpa using hissue)]
    rfl
  rw [if_neg hissue, if_neg (by simpa using hissue)]
  by_cases hscope : .readRealtime ∉ record.scopes.toList
  · rw [if_pos hscope, if_pos (by simpa [ScopeSet.contains] using hscope)]
    rfl
  rw [if_neg hscope, if_neg (by simpa [ScopeSet.contains] using hscope)]
  by_cases hpermits : record.restrictions.Permits caller
  · rw [if_neg (not_not_intro hpermits), if_neg (by simpa using Restrictions.permitsCaller_iff.2 hpermits)]
    exact authenticationResult_ifActive _ userId stores
  · have hcaller : record.restrictions.permitsCaller caller = false := by
      simpa using mt Restrictions.permitsCaller_iff.1 hpermits
    rw [if_pos hpermits, if_pos (by simpa using hcaller)]
    rfl

/-- Claims come to what the table says. -/
theorem authenticationResult_claims (claims : Claims) (caller : Caller) (stores : Nat → Store) :
    authenticationResult ((claims.authenticate caller).runThrough stores).result =
      claims.outcome caller (stores 0) (stores 1) := by
  cases claims with
  | session userId => exact authenticationResult_ifActive _ userId stores
  | appToken tokenId issue userId =>
    refine (authenticationResult_query_bind stores (.appToken tokenId) _).trans ?_
    unfold Claims.outcome
    congr 1
    dsimp only [Content.answer]
    cases (stores 0).content.tokens.get? tokenId with
    | none => rfl
    | some record =>
      exact authenticationResult_record record tokenId issue userId caller fun i => stores (i + 1)

end EventGateway
