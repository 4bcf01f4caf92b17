import EventGateway.Proofs.Access.Revalidation

/-!
# Issues of app tokens

What becomes of the record of an app token while no other record is put in its place: each reissue
counts its issue up by one, as far as 32 bits go, and it may be deactivated. A reissue of the greatest
issue fails and leaves the token as it is. Every other reissue supersedes an issue, which never comes
back: every token and every principal of it is refused from then on. Main statement:
`superseded_refused_unless_greatest`.
-/

namespace EventGateway

/-! ### Counting in 32 bits -/

/-- An issue counted up, as far as it goes. -/
def countUp (issue : Int32) (n : Nat) : Int32 := .ofInt (min (issue.toInt + n) Int32.maxValue.toInt)

lemma toInt_countUp (issue : Int32) (n : Nat) :
    (countUp issue n).toInt = min (issue.toInt + n) Int32.maxValue.toInt := by
  have hle := issue.le_toInt
  have hmax : Int32.maxValue.toInt = 2 ^ 31 - 1 := Int32.toInt_maxValue
  exact Int32.toInt_ofInt_of_le (by omega) (by omega)

lemma toInt_le_maxValue (issue : Int32) : issue.toInt ≤ Int32.maxValue.toInt := by
  have hlt := issue.toInt_lt
  rw [Int32.toInt_maxValue]
  omega

lemma toInt_lt_maxValue_iff {issue : Int32} :
    issue.toInt < Int32.maxValue.toInt ↔ issue ≠ Int32.maxValue := by
  rw [Ne, ← Int32.toInt_inj]
  exact (toInt_le_maxValue issue).lt_iff_ne

@[simp] lemma countUp_zero (issue : Int32) : countUp issue 0 = issue := by
  have hle := toInt_le_maxValue issue
  rw [← Int32.toInt_inj, toInt_countUp]
  omega

lemma countUp_add (issue : Int32) (m n : Nat) :
    countUp issue (m + n) = countUp (countUp issue m) n := by
  simp only [← Int32.toInt_inj, toInt_countUp]
  omega

/-- The next issue is one more, and the greatest issue has none. -/
lemma addChecked_one (issue : Int32) :
    addChecked issue 1 = if issue = Int32.maxValue then .error .add else .ok (countUp issue 1) := by
  split
  · next hgreatest =>
    subst hgreatest
    rfl
  · next hne =>
    have hlt := toInt_lt_maxValue_iff.2 hne
    rw [addChecked_eq_ok_iff, toInt_countUp, Int32.toInt_one]
    omega

/-! ### Updates -/

/-- Makes one change after the other. -/
def Store.updates (s : Store) (us : List StoreUpdate) : Store := us.foldl Store.update s

lemma Store.updates_cons (s : Store) (u : StoreUpdate) (us : List StoreUpdate) :
    s.updates (u :: us) = (s.update u).updates us := rfl

/-- No update puts a record in the place of the token's. -/
def KeepsToken (tokenId : String) (us : List StoreUpdate) : Prop :=
  ∀ record, .content (.putToken record) ∈ us → record.id ≠ tokenId

/-- How often the updates reissue the token. -/
def reissues (tokenId : String) (us : List StoreUpdate) : Nat :=
  us.count (.content (.reissueToken tokenId))

/-- The record of a token after updates that put no other in its place. -/
def TokenRecord.after (record : TokenRecord) (tokenId : String) (us : List StoreUpdate) : TokenRecord :=
  { record with
    issue := countUp record.issue (reissues tokenId us)
    isActive := record.isActive && decide (.content (.deactivateToken tokenId) ∉ us) }

section Updates

variable {s : Store} {tokenId : String} {record : TokenRecord} {us : List StoreUpdate}

/-- An update that is not about the token leaves its record as it is. -/
lemma get?_update_of_ne {u : StoreUpdate} (hkeeps : KeepsToken tokenId [u])
    (hreissue : u ≠ .content (.reissueToken tokenId))
    (hdeactivate : u ≠ .content (.deactivateToken tokenId)) :
    (s.update u).content.tokens.get? tokenId = s.content.tokens.get? tokenId := by
  cases u with
  | content c =>
    cases c with
    | putToken new =>
      have hid : tokenId ≠ new.id := (hkeeps new (by simp)).symm
      simp [Store.update, Content.update, hid]
    | reissueToken id =>
      have hid : tokenId ≠ id := by
        rintro rfl
        exact hreissue rfl
      simp only [Store.update, Content.update]
      split
      · simp [Content.updateToken, Dictionary.get?_modify, hid]
      · rfl
    | deactivateToken id =>
      have hid : tokenId ≠ id := by
        rintro rfl
        exact hdeactivate rfl
      simp [Store.update, Content.update, Content.updateToken, Dictionary.get?_modify, hid]
    | _ => rfl
  | _ => rfl

lemma nextIssue_of_get? {c : Content} (h : c.tokens.get? tokenId = some record) :
    c.nextIssue tokenId =
      if record.issue = Int32.maxValue then .error .add else .ok (some (countUp record.issue 1)) := by
  simp only [Content.nextIssue, h, addChecked_one]
  split <;> rfl

lemma get?_update_reissue (h : s.content.tokens.get? tokenId = some record) :
    (s.update (.content (.reissueToken tokenId))).content.tokens.get? tokenId =
      some { record with issue := countUp record.issue 1 } := by
  simp only [Store.update, Content.update, nextIssue_of_get? h]
  by_cases hgreatest : record.issue = Int32.maxValue
  · have hstays : countUp record.issue 1 = record.issue := by rw [hgreatest]; rfl
    rw [if_pos hgreatest, hstays]
    exact h
  · rw [if_neg hgreatest]
    simp [Content.updateToken, Dictionary.get?_modify, h]

lemma get?_update_deactivate (h : s.content.tokens.get? tokenId = some record) :
    (s.update (.content (.deactivateToken tokenId))).content.tokens.get? tokenId =
      some { record with isActive := false } := by
  simp [Store.update, Content.update, Content.updateToken, Dictionary.get?_modify, h]

/-- After updates that put no other in its place, the record has its issue counted up by the reissues and
is active if it was and has not been deactivated. -/
lemma get?_updates (h : s.content.tokens.get? tokenId = some record) (hkeeps : KeepsToken tokenId us) :
    (s.updates us).content.tokens.get? tokenId = some (record.after tokenId us) := by
  induction us generalizing s record with
  | nil => simpa [Store.updates, TokenRecord.after, reissues] using h
  | cons u us ih =>
    have ih {new : TokenRecord} (hnew : (s.update u).content.tokens.get? tokenId = some new) :
        ((s.update u).updates us).content.tokens.get? tokenId = some (new.after tokenId us) :=
      ih hnew fun r hr => hkeeps r (List.mem_cons_of_mem _ hr)
    rw [Store.updates_cons]
    by_cases hreissue : u = .content (.reissueToken tokenId)
    · subst hreissue
      rw [ih (get?_update_reissue h)]
      have hcount : reissues tokenId (.content (.reissueToken tokenId) :: us) =
          1 + reissues tokenId us :=
        List.count_cons_self.trans (Nat.add_comm ..)
      simp [TokenRecord.after, hcount, countUp_add]
    by_cases hdeactivate : u = .content (.deactivateToken tokenId)
    · subst hdeactivate
      rw [ih (get?_update_deactivate h)]
      simp [TokenRecord.after, reissues]
    · have hu : KeepsToken tokenId [u] := fun r hr => hkeeps r (by simp_all)
      rw [ih ((get?_update_of_ne hu hreissue hdeactivate).trans h)]
      simp [TokenRecord.after, reissues, hreissue, Ne.symm hdeactivate]

lemma issueOf?_updates (h : s.content.tokens.get? tokenId = some record)
    (hkeeps : KeepsToken tokenId us) :
    (s.updates us).content.issueOf? tokenId = some (countUp record.issue (reissues tokenId us)) := by
  rw [Content.issueOf?, get?_updates h hkeeps]
  rfl

end Updates

/-! ### Superseded issues -/

/-- The issue is greater than every one that the token has had on the way of the updates. -/
def Store.Outdates (s : Store) (tokenId : String) (us : List StoreUpdate) (issue : Int32) : Prop :=
  ∀ past earlier, past <+: us → (s.updates past).content.issueOf? tokenId = some earlier →
    earlier < issue

/-- A store lets in nobody by an issue of a token. -/
structure Store.Refuses (s : Store) (tokenId : String) (issue : Int32) (owner : String) : Prop where
  /-- A token of the issue is not active, or not valid if it is not the owner's. -/
  tokens {secret token userId : String} {stores : Nat → Store} (caller : Caller) :
    Claims.decode? secret token = some (.appToken tokenId issue userId) → stores 0 = s →
    authenticationResult ((authenticate secret token caller).runThrough stores).result =
      .error (if s.failing then .unavailable
        else if userId = owner then .inactiveToken else .invalidToken)
  /-- A principal of the issue stands no more. -/
  principals {t : AppTokenUser} {stores : Nat → Store} (caller : Caller) :
    t.tokenId = tokenId → t.issue = issue → stores 0 = s →
    (((Principal.appToken t).stillValid caller).runThrough stores).result =
      if s.failing then .error .storeUnavailable else .ok false

section Superseded

variable {s : Store} {tokenId : String} {record : TokenRecord} {us : List StoreUpdate}

/-- The next issue is greater than all that the token has had. -/
lemma outdates_next (h : s.content.tokens.get? tokenId = some record) (hkeeps : KeepsToken tokenId us)
    (hnext : countUp record.issue (reissues tokenId us) ≠ Int32.maxValue) :
    s.Outdates tokenId us (countUp record.issue (reissues tokenId us + 1)) := by
  intro past earlier hpast hearlier
  have hle : reissues tokenId past ≤ reissues tokenId us := hpast.sublist.count_le _
  have hcurrent := toInt_lt_maxValue_iff.2 hnext
  rw [issueOf?_updates h fun r hr => hkeeps r (hpast.subset hr), Option.some.injEq] at hearlier
  rw [← hearlier, Int32.lt_iff_toInt_lt, toInt_countUp, toInt_countUp]
  rw [toInt_countUp] at hcurrent
  omega

/-- A store lets in nobody by an issue that is not the one of the record. -/
lemma refuses_of_ne {issue : Int32} {owner : String}
    (h : s.content.tokens.get? tokenId = some record) (howner : record.userId = owner)
    (hne : record.issue ≠ issue) : s.Refuses tokenId issue owner where
  tokens {secret token userId stores} caller hdecode hs := by
    have hresult : authenticationResult
        ((authenticate secret token caller).runThrough stores).result =
          (Claims.appToken tokenId issue userId).outcome caller s (stores 1) := by
      simp only [authenticate, hdecode, ← hs]
      exact authenticationResult_claims _ caller stores
    rw [hresult]
    simp only [Claims.outcome, h, TokenRecord.outcome]
    by_cases hfailing : s.failing = true
    · rw [if_pos hfailing, if_pos hfailing]
    rw [if_neg hfailing, if_neg hfailing]
    by_cases huser : userId = owner
    · rw [if_neg (not_not_intro (howner.trans huser.symm)), if_pos (.inr hne), if_pos huser]
    · rw [if_pos (howner.trans_ne (Ne.symm huser)), if_neg huser]
  principals {t stores} caller htoken hissue hs := by
    rw [result_stillValid, hs]
    simp only [Principal.standing, htoken, h]
    congr 1
    exact if_neg fun hall => hne (hall.2.1.trans hissue)

end Superseded

/-- A reissue of a token that there is tells the issue plus one, unless the issue is the greatest one: then
it fails and changes nothing. The new issue is greater than every one that the token has had. From then on
the issue of the token is greater than the superseded one in every later state, and every token and every
principal of the superseded issue is refused. It is so for every record of a token and whatever else is
changed, as long as no other record is put in its place. -/
theorem superseded_refused_unless_greatest {s : Store} {tokenId : String} {record : TokenRecord}
    {before after : List StoreUpdate} (hrecord : s.content.tokens.get? tokenId = some record)
    (hkeeps : KeepsToken tokenId (before ++ after)) :
    let reissue := StoreUpdate.content (.reissueToken tokenId)
    let present := s.updates before
    let told := present.content.nextIssue tokenId
    let later := (present.update reissue).updates after
    let old := countUp record.issue (reissues tokenId before)
    present.content.issueOf? tokenId = some old ∧
    (old = Int32.maxValue → told = .error .add ∧ present.update reissue = present) ∧
    (old ≠ Int32.maxValue → ∃ new, told = .ok (some new) ∧ new.toInt = old.toInt + 1 ∧
      (present.update reissue).content.issueOf? tokenId = some new ∧
      s.Outdates tokenId before new ∧
      (∃ current, later.content.issueOf? tokenId = some current ∧ old < current) ∧
      later.Refuses tokenId old record.userId) := by
  intro reissue present told later old
  have hbefore : KeepsToken tokenId before := fun r hr => hkeeps r (List.mem_append_left _ hr)
  have hafter : KeepsToken tokenId after := fun r hr => hkeeps r (List.mem_append_right _ hr)
  have hpresent : present.content.tokens.get? tokenId = some (record.after tokenId before) :=
    get?_updates hrecord hbefore
  have htold : told = if old = Int32.maxValue then .error .add else .ok (some (countUp old 1)) :=
    nextIssue_of_get? hpresent
  refine ⟨issueOf?_updates hrecord hbefore, fun hgreatest => ?_, fun hne => ?_⟩
  · rw [if_pos hgreatest] at htold
    refine ⟨htold, ?_⟩
    simp [present, told, reissue, Store.update, Content.update, htold]
  · rw [if_neg hne] at htold
    have hreissued := get?_update_reissue hpresent
    have hlater := get?_updates hreissued hafter
    have hlt : old.toInt < Int32.maxValue.toInt := toInt_lt_maxValue_iff.2 hne
    have hmore : (countUp old 1).toInt = old.toInt + 1 := by
      rw [toInt_countUp]
      omega
    have hnew : (present.update reissue).content.issueOf? tokenId = some (countUp old 1) := by
      rw [Content.issueOf?, hreissued]
      rfl
    have hgreater : s.Outdates tokenId before (countUp old 1) := by
      rw [← countUp_add]
      exact outdates_next hrecord hbefore hne
    -- What the token has later is the superseded issue, counted up by the reissue and by those since.
    have hcurrent : later.content.issueOf? tokenId =
        some (countUp (countUp old 1) (reissues tokenId after)) := by
      rw [Content.issueOf?, hlater]
      rfl
    have hpassed : old < countUp (countUp old 1) (reissues tokenId after) := by
      rw [Int32.lt_iff_toInt_lt, toInt_countUp (countUp old 1), hmore]
      omega
    have hrefuses : later.Refuses tokenId old record.userId :=
      refuses_of_ne hlater rfl (Int32.ne_of_lt hpassed).symm
    exact ⟨_, htold, hmore, hnew, hgreater, ⟨_, hcurrent, hpassed⟩, hrefuses⟩

/-- The token of the first issue, while the next one is current and has been deactivated. -/
theorem first_issue_refused :
    let reissue := StoreUpdate.content (.reissueToken "apt")
    let before := [StoreUpdate.setLatency (some 5)]
    let after := [.content (.deactivateToken "apt"), reissue, .content (.setActive "luna" false)]
    let present := homeStore.updates before
    let later := (present.update reissue).updates after
    homeStore.content.tokens.get? "apt" = some homeRecord ∧ KeepsToken "apt" (before ++ after) ∧
      countUp homeRecord.issue (reissues "apt" before) = 7 ∧
      (∃ new, present.content.nextIssue "apt" = .ok (some new) ∧ new.toInt = 8) ∧
      authenticationResult
        ((authenticate "secret" homeToken homeCaller).runThrough fun _ => later).result =
          .error .inactiveToken ∧
      ((homePrincipal.stillValid homeCaller).runThrough fun _ => later).result = .ok false := by
  intro reissue before after present later
  have hrecord : homeStore.content.tokens.get? "apt" = some homeRecord := by decide +kernel
  have hkeeps : KeepsToken "apt" (before ++ after) := by
    intro record h
    simp [before, after, reissue] at h
  have hold : countUp homeRecord.issue (reissues "apt" before) = 7 := by decide +kernel
  obtain ⟨-, -, hnew⟩ := superseded_refused_unless_greatest hrecord hkeeps
  rw [hold] at hnew
  obtain ⟨new, htold, hone, -, -, -, hrefuses⟩ := hnew (by decide)
  exact ⟨hrecord, hkeeps, hold, ⟨new, htold, hone⟩,
    hrefuses.tokens homeCaller (Claims.decode?_sign ..) rfl,
    hrefuses.principals homeCaller rfl rfl rfl⟩

/-- A reissue of the greatest issue fails, and the token that it should supersede goes on letting its owner
in. -/
theorem greatest_issue_stays :
    let greatest := homeStore.update
      (.content (.putToken { homeRecord with issue := Int32.maxValue }))
    let reissued := greatest.update (.content (.reissueToken "apt"))
    greatest.content.issueOf? "apt" = some 2147483647 ∧
      greatest.content.nextIssue "apt" = .error .add ∧
      reissued.content.issueOf? "apt" = some 2147483647 ∧
      authenticationResult
        ((authenticate "secret" ((Claims.appToken "apt" 2147483647 "luna").sign "secret")
          homeCaller).runThrough fun _ => reissued).result =
          .ok (.appToken ⟨"luna", "apt", 2147483647, homeRecord.scopes, homeRecord.restrictions⟩) := by
  refine ⟨by decide +kernel, by decide +kernel, by decide +kernel, ?_⟩
  rw [authenticate, Claims.decode?_sign]
  decide +kernel

end EventGateway
