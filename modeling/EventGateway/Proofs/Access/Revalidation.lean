import EventGateway.Proofs.Access.Acceptance
import EventGateway.Proofs.Access.Issuance

/-!
# Principals that still stand

Whether a principal still stands is asked without its token. The answer is what a new authentication
with the token would come to: yes where it would come to the same credential, no where it would be
refused, and none where the service would be unavailable. Main statement: `stillValid_iff_authenticates`.
-/

namespace EventGateway

/-- The claims of the token that the principal came from. -/
def Principal.credential : Principal → Option Claims
  | .anonymous => none
  | .session userId => some (.session userId)
  | .appToken t => some (.appToken t.tokenId t.issue t.userId)

/-! ### What a check comes to -/

/-- What a lookup of the account of a user comes to. -/
def Store.activity (s : Store) (userId : String) : Except ServiceError Bool :=
  if s.failing then .error .storeUnavailable else .ok (decide (s.content.HasActive userId))

/-- What a check of a principal comes to, from the store at the first lookup and at the second one. -/
def Principal.standing (caller : Caller) (first second : Store) : Principal → Except ServiceError Bool
  | .anonymous => .ok true
  | .session userId => first.activity userId
  | .appToken t =>
    if first.failing then .error .storeUnavailable
    else
      match first.content.tokens.get? t.tokenId with
      | none => .ok false
      | some record =>
        if record.isActive = true ∧ record.issue = t.issue ∧ record.userId = t.userId ∧
          record.restrictions.Permits caller
        then second.activity t.userId
        else .ok false

lemma TokenRecord.admits_iff {record : TokenRecord} {t : AppTokenUser} {caller : Caller} :
    record.admits t caller = true ↔ record.isActive = true ∧ record.issue = t.issue ∧
      record.userId = t.userId ∧ record.restrictions.Permits caller := by
  simp only [admits, Bool.and_eq_true, decide_eq_true_eq, Restrictions.permitsCaller_iff, and_assoc]

lemma result_userIsActive (userId : String) (stores : Nat → Store) :
    ((Lookup.query (.userIsActive userId)).runThrough stores).result = (stores 0).activity userId := by
  refine (Lookup.result_runThrough_ask stores (.userIsActive userId) .done).trans ?_
  unfold Store.activity
  congr 1
  refine congrArg Except.ok ?_
  rw [Bool.eq_iff_iff, decide_eq_true_iff]
  exact Content.isActive_iff

/-- A check of a principal comes to what the table says. -/
theorem result_stillValid (p : Principal) (caller : Caller) (stores : Nat → Store) :
    ((p.stillValid caller).runThrough stores).result = p.standing caller (stores 0) (stores 1) := by
  cases p with
  | anonymous => rfl
  | session userId => exact result_userIsActive userId stores
  | appToken t =>
    refine (Lookup.result_runThrough_ask stores (.appToken t.tokenId) _).trans ?_
    unfold Principal.standing
    congr 1
    dsimp only [Content.answer]
    cases (stores 0).content.tokens.get? t.tokenId with
    | none => rfl
    | some record =>
      dsimp only
      by_cases hadmits : record.admits t caller = true
      · rw [if_pos (TokenRecord.admits_iff.1 hadmits)]
        refine Eq.trans ?_ (result_userIsActive t.userId fun i => stores (i + 1))
        exact congrArg (fun x => (Lookup.runThrough _ x).result) (if_pos hadmits)
      · rw [if_neg (mt TokenRecord.admits_iff.2 hadmits)]
        exact congrArg (fun x => (Lookup.runThrough _ x).result) (if_neg hadmits)

/-! ### Checks and authentications -/

/-- The check of a principal says the same as an authentication with its token. -/
inductive Principal.Agrees (p : Principal) :
    Except ServiceError Bool → Except CommandError Principal → Prop
  | same {q : Principal} : q.credential = p.credential → Agrees p (.ok true) (.ok q)
  | refused {e : CommandError} : e ∈ [.invalidToken, .inactiveToken, .restrictedToken] →
    Agrees p (.ok false) (.error e)
  | unavailable (e : ServiceError) : Agrees p (.error e) (.error .unavailable)

namespace Principal

variable {p q : Principal}

lemma agrees_activity (hcredential : q.credential = p.credential) (userId : String) (s : Store) :
    p.Agrees (s.activity userId) (q.outcome userId s) := by
  unfold Store.activity Principal.outcome
  split
  · exact .unavailable _
  · split
    · next hactive =>
      rw [decide_eq_true hactive]
      exact .same hcredential
    · next hinactive =>
      rw [decide_eq_false hinactive]
      exact .refused (by simp)

/-- An account and an app token are checked for what their claims are looked up for, as long as a record
of the token has the scope that lets it in. -/
lemma agrees_of_vouched {claims : Claims} {caller₀ caller : Caller} {first₀ second₀ first second : Store}
    (h : claims.Vouched caller₀ first₀ second₀ p)
    (hscope : ∀ t record, p = .appToken t → first.content.tokens.get? t.tokenId = some record →
      .readRealtime ∈ record.scopes.toList) :
    p.Agrees (p.standing caller first second) (claims.outcome caller first second) := by
  cases h with
  | session _ => exact agrees_activity rfl _ first
  | @appToken tokenId userId issue _ _ howner _ _ _ _ _ =>
    simp only [standing, Claims.outcome]
    by_cases hfailing : first.failing = true
    · rw [if_pos hfailing, if_pos hfailing]
      exact .unavailable _
    rw [if_neg hfailing, if_neg hfailing]
    cases hrecord : first.content.tokens.get? tokenId with
    | none => exact .refused (by simp)
    | some record =>
      have hscope := hscope _ record rfl hrecord
      dsimp only
      unfold TokenRecord.outcome
      by_cases huser : record.userId = userId
      · rw [if_neg (not_not_intro huser)]
        by_cases hissue : record.isActive = false ∨ record.issue ≠ issue
        · rw [if_pos hissue, if_neg (by rintro ⟨hactive, hsame, -⟩; simp [hactive, hsame] at hissue)]
          exact .refused (by simp)
        · rw [if_neg hissue, if_neg (not_not_intro hscope)]
          obtain ⟨hactive, hsame⟩ := not_or.1 hissue
          by_cases hpermits : record.restrictions.Permits caller
          · rw [if_neg (not_not_intro hpermits),
              if_pos ⟨by simpa using hactive, not_not.1 hsame, huser, hpermits⟩]
            refine agrees_activity ?_ userId second
            rfl
          · rw [if_pos hpermits, if_neg fun hall => hpermits hall.2.2.2]
            exact .refused (by simp)
      · rw [if_pos huser, if_neg fun hall => huser hall.2.2.1]
        exact .refused (by simp)

end Principal

/-- A principal comes from a token whose claims the lookups have stood behind. -/
lemma exists_vouched_of_accepted {secret token : String} {caller : Caller} {stores : Nat → Store}
    {p : Principal}
    (h : authenticationResult ((authenticate secret token caller).runThrough stores).result = .ok p) :
    ∃ claims, Claims.decode? secret token = some claims ∧
      claims.Vouched caller (stores 0) (stores 1) p := by
  unfold authenticate at h
  split at h
  · cases h
  · next claims hdecode =>
    rw [authenticationResult_claims] at h
    exact ⟨claims, hdecode, Claims.vouched_of_outcome h⟩

/-- A principal that came from a token still stands exactly where the token, presented by the same
caller, comes to the same credential; it does not exactly where the token is refused; and that cannot be
told exactly where the service is unavailable. It is so whatever has become of the store, even between
the lookups, and whichever lookups fail, if a record of an app token has the scope that every accepted
one has had. -/
theorem stillValid_iff_authenticates {secret token : String} {caller₀ caller : Caller}
    {earlier later : Nat → Store} {p : Principal}
    (haccepted : authenticationResult
      ((authenticate secret token caller₀).runThrough earlier).result = .ok p)
    (hscope : ∀ t record, p = .appToken t → (later 0).content.tokens.get? t.tokenId = some record →
      .readRealtime ∈ record.scopes.toList) :
    let valid := ((p.stillValid caller).runThrough later).result
    let result := authenticationResult ((authenticate secret token caller).runThrough later).result
    (valid = .ok true ↔ ∃ q, result = .ok q ∧ q.credential = p.credential) ∧
    (valid = .ok false ↔
      ∃ e ∈ [CommandError.invalidToken, .inactiveToken, .restrictedToken], result = .error e) ∧
    ((∃ e, valid = .error e) ↔ result = .error .unavailable) := by
  intro valid result
  obtain ⟨claims, hdecode, hvouched⟩ := exists_vouched_of_accepted haccepted
  have hagrees : p.Agrees valid result := by
    have hresult : result = claims.outcome caller (later 0) (later 1) := by
      simp only [result, authenticate, hdecode]
      exact authenticationResult_claims claims caller later
    rw [hresult]
    simp only [valid, result_stillValid]
    exact Principal.agrees_of_vouched hvouched hscope
  clear_value valid result
  cases hagrees with
  | same hcredential => simpa using hcredential
  | refused he =>
    refine ⟨by simp, ⟨fun _ => ⟨_, he, rfl⟩, fun _ => rfl⟩, ?_⟩
    constructor
    · rintro ⟨e, he⟩
      cases he
    · intro hunavailable
      cases hunavailable
      simp at he
  | unavailable e => simp

/-- An app token that may be used from one origin. -/
def homeRecord : TokenRecord where
  id := "apt"
  userId := "luna"
  issue := 7
  isActive := true
  scopes := .ofList [.readRealtime]
  restrictions := { origins := ["https://here"] }

def homeToken : String := (Claims.appToken "apt" 7 "luna").sign "secret"

def homeCaller : Caller := { origin := some "https://here" }

def homePrincipal : Principal :=
  .appToken ⟨"luna", "apt", 7, homeRecord.scopes, homeRecord.restrictions⟩

def homeStore : Store where
  content := (({} : Content).update (.addUser "luna")).update (.putToken homeRecord)

/-- The account of the user is set inactive while the record of the token is looked up. -/
def withdrawnMeanwhile (i : Nat) : Store :=
  if i = 0 then homeStore else homeStore.update (.content (.setActive "luna" false))

/-- The principal stands no more, and the token is refused. -/
theorem withdrawnMeanwhile_agrees :
    authenticationResult
        ((authenticate "secret" homeToken homeCaller).runThrough fun _ => homeStore).result =
          .ok homePrincipal ∧
      (∀ t record, homePrincipal = .appToken t →
        (withdrawnMeanwhile 0).content.tokens.get? t.tokenId = some record →
        .readRealtime ∈ record.scopes.toList) ∧
      ((homePrincipal.stillValid homeCaller).runThrough withdrawnMeanwhile).result = .ok false ∧
      ∃ e ∈ [CommandError.invalidToken, .inactiveToken, .restrictedToken],
        authenticationResult
          ((authenticate "secret" homeToken homeCaller).runThrough withdrawnMeanwhile).result =
            .error e := by
  have haccepted : authenticationResult
      ((authenticate "secret" homeToken homeCaller).runThrough fun _ => homeStore).result =
        .ok homePrincipal := by
    rw [authenticate, homeToken, Claims.decode?_sign]
    decide +kernel
  have hscope : ∀ t record, homePrincipal = .appToken t →
      (withdrawnMeanwhile 0).content.tokens.get? t.tokenId = some record →
      .readRealtime ∈ record.scopes.toList := by
    intro t record hp hrecord
    have hhome : (withdrawnMeanwhile 0).content.tokens.get? t.tokenId = some homeRecord := by
      rw [← Principal.appToken.inj hp]
      decide +kernel
    rw [← Option.some.inj (hhome.symm.trans hrecord)]
    decide +kernel
  have hvalid : ((homePrincipal.stillValid homeCaller).runThrough withdrawnMeanwhile).result =
      .ok false := by
    decide +kernel
  obtain ⟨-, hrefused, -⟩ := @stillValid_iff_authenticates "secret" homeToken homeCaller homeCaller
    (fun _ => homeStore) withdrawnMeanwhile homePrincipal haccepted hscope
  exact ⟨haccepted, hscope, hvalid, hrefused.1 hvalid⟩

end EventGateway
