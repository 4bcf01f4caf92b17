import EventGateway.Proofs.Access.Outcomes
import EventGateway.Proofs.Json.Members
import EventGateway.Proofs.Text.Base64Url

/-!
# Credentials that are issued

Signed claims are read back from their token, whatever texts their ids are, and the token comes to what
the table says of the claims. Main statements: `Claims.decode?_sign` and `Claims.sign_authenticates`.
-/

namespace EventGateway

open Json

namespace Claims

/-! ### Claims as members -/

/-- The issue of an app token as a number. -/
def issueNumber (issue : Int32) : Number :=
  match issue.toInt with
  | .ofNat n => .natural (UInt64.ofNat n)
  | .negSucc n => .negative (UInt64.ofNat (n + 1))

/-- The members of the object that claims are written as. -/
def members : Claims → List (String × Value)
  | .session userId => [("type", .string sessionType), ("userId", .string userId)]
  | .appToken tokenId issue userId => [
      ("type", .string appTokenType), ("tokenId", .string tokenId),
      ("issue", .number (issueNumber issue)), ("userId", .string userId)]

lemma issueNumber_cases (issue : Int32) :
    (∃ n : UInt64, n.toNat < Nat.pow 2 31 ∧ issue.toInt = Int.ofNat n.toNat ∧
        issueNumber issue = .natural n) ∨
      ∃ (m : Nat) (n : UInt64), n.toNat = m + 1 ∧ m < Nat.pow 2 31 ∧ issue.toInt = Int.negSucc m ∧
        issueNumber issue = .negative n := by
  have hlow := issue.le_toInt
  have hhigh := issue.toInt_lt
  have hpow : Nat.pow 2 31 = 2147483648 := rfl
  have hsize : UInt64.size = 18446744073709551616 := rfl
  unfold issueNumber
  cases hissue : issue.toInt with
  | ofNat n =>
    rw [hissue, Int.ofNat_eq_natCast] at hhigh
    have hn : (UInt64.ofNat n).toNat = n := UInt64.toNat_ofNat_of_lt' (by omega)
    exact .inl ⟨UInt64.ofNat n, by omega, by rw [hn], rfl⟩
  | negSucc n =>
    rw [hissue] at hlow
    have hn : (UInt64.ofNat (n + 1)).toNat = n + 1 := UInt64.toNat_ofNat_of_lt' (by omega)
    exact .inr ⟨n, UInt64.ofNat (n + 1), hn, by omega, rfl, rfl⟩

lemma chars_issueNumber (issue : Int32) :
    (issueNumber issue).chars = Text.signedDecimal issue.toInt := by
  obtain ⟨n, -, hissue, hnumber⟩ | ⟨m, n, hn, -, hissue, hnumber⟩ := issueNumber_cases issue
  · rw [hnumber, hissue]
    rfl
  · rw [hnumber, hissue, Number.chars, hn]
    rfl

lemma readsBack_issueNumber (depth : Nat) (issue : Int32) :
    ReadsBack depth (.number (issueNumber issue)) := by
  obtain ⟨n, -, -, hnumber⟩ | ⟨m, n, hn, hm, -, hnumber⟩ := issueNumber_cases issue
  · rw [hnumber]
    exact readsBack_natural depth n
  · have hle : n.toNat ≤ Nat.pow 2 63 := by
      rw [hn]
      exact Nat.le_trans hm (Nat.pow_le_pow_right (by decide) (by decide))
    rw [hnumber]
    exact readsBack_negative depth (hn ▸ Nat.succ_ne_zero m) hle

lemma chars_eq (claims : Claims) : claims.chars = (Value.object claims.members).chars := by
  cases claims with
  | session userId => rfl
  | appToken tokenId issue userId =>
    simp [chars, members, Value.chars, membersChars, chars_issueNumber]

lemma readsBack_members (depth : Nat) (claims : Claims) :
    ∀ m ∈ claims.members, ReadsBack depth m.2 := by
  cases claims with
  | session userId => simp [members, readsBack_string]
  | appToken tokenId issue userId => simp [members, readsBack_string, readsBack_issueNumber]

lemma onlyIssue?_issueNumber {key : String} {members : List (String × Value)} {issue : Int32}
    (h : onlyMember? key members = some (.number (issueNumber issue))) :
    onlyIssue? key members = some issue := by
  rw [onlyIssue?, h]
  obtain ⟨n, hlt, hissue, hnumber⟩ | ⟨m, n, hn, hm, hissue, hnumber⟩ := issueNumber_cases issue
  · rw [hnumber]
    dsimp only
    rw [if_pos hlt, ← Int32.ofInt_eq_ofNat, ← Int.ofNat_eq_natCast, ← hissue, Int32.ofInt_toInt]
  · have hneg : -(n.toNat : Int) = issue.toInt := by
      rw [hissue, hn]
      rfl
    rw [hnumber]
    dsimp only
    rw [if_pos (hn ▸ hm), hneg, Int32.ofInt_toInt]

/-- Claims are told from their members. -/
lemma ofMembers?_members (claims : Claims) : ofMembers? claims.members = some claims := by
  cases claims with
  | session userId =>
    have htype : onlyText? "type" (session userId).members = some sessionType := rfl
    have huser : onlyText? "userId" (session userId).members = some userId := rfl
    simp [ofMembers?, htype, huser]
  | appToken tokenId issue userId =>
    have htype : onlyText? "type" (appToken tokenId issue userId).members = some appTokenType := rfl
    have htoken : onlyText? "tokenId" (appToken tokenId issue userId).members = some tokenId := rfl
    have hissue : onlyIssue? "issue" (appToken tokenId issue userId).members = some issue :=
      onlyIssue?_issueNumber rfl
    have huser : onlyText? "userId" (appToken tokenId issue userId).members = some userId := rfl
    simp [ofMembers?, htype, htoken, hissue, huser, sessionType, appTokenType]

lemma respectsRegistered_members (claims : Claims) : respectsRegistered claims.members = true := by
  cases claims with
  | session userId => rfl
  | appToken tokenId issue userId => rfl

/-- Claims are read back from their written form. -/
theorem ofChars?_chars (claims : Claims) : ofChars? claims.chars = some claims := by
  have hmembers := readMemberList_object (claims.readsBack_members (nestingLimit - 2)) []
  rw [List.append_nil, ← chars_eq] at hmembers
  have hwhole : readWhole (readMemberList (nestingLimit - 2)) claims.chars = .ok claims.members := by
    rw [readWhole, hmembers]
    rfl
  rw [ofChars?, hwhole]
  dsimp only
  rw [if_pos claims.respectsRegistered_members, ofMembers?_members]

/-! ### Tokens -/

lemma splitDots_encode (header claims mark : List UInt8) :
    splitDots (signedPart (Text.Base64Url.encode header) (Text.Base64Url.encode claims) ++
      '.' :: Text.Base64Url.encode mark) =
      [Text.Base64Url.encode header, Text.Base64Url.encode claims, Text.Base64Url.encode mark] := by
  have hdots : ∀ part ∈ [Text.Base64Url.encode header, Text.Base64Url.encode claims,
      Text.Base64Url.encode mark], '.' ∉ part := by
    simp [Text.Base64Url.dot_not_mem_encode]
  have hsplit := List.splitOn_intercalate '.' hdots (List.cons_ne_nil _ _)
  rw [splitDots, ← hsplit]
  congr 1
  simp [signedPart, List.intercalate]

/-- Signed claims are read back under the secret that they were signed with. -/
theorem decode?_sign (claims : Claims) (secret : String) :
    decode? secret (claims.sign secret) = some claims := by
  have hheader : isHeader tokenHeader = true := by decide +kernel
  have hsplit := splitDots_encode (Text.utf8 tokenHeader) (Text.utf8 claims.chars)
    (Hash.hmac (Text.utf8 secret.toList) (Text.utf8 (signedPart
      (Text.Base64Url.encode (Text.utf8 tokenHeader)) (Text.Base64Url.encode (Text.utf8 claims.chars)))))
  rw [decode?, sign, String.toList_ofList, signature, hsplit]
  simp only [Text.Base64Url.decode_encode, Text.ofUtf8?_utf8, Option.bind_eq_bind, Option.bind_some,
    hheader, signature, and_self, if_true, ofChars?_chars]

/-- A token that is issued is read as its claims, and comes to what the table says of them: on a store
that stays as it is, and on one that changes between the lookups. -/
theorem sign_authenticates (secret : String) (claims : Claims) (caller : Caller) :
    decode? secret (claims.sign secret) = some claims ∧
      (∀ s : Store, authenticationResult
        ((EventGateway.authenticate secret (claims.sign secret) caller).run s).result =
          claims.outcome caller s s) ∧
      ∀ stores : Nat → Store, authenticationResult
        ((EventGateway.authenticate secret (claims.sign secret) caller).runThrough stores).result =
          claims.outcome caller (stores 0) (stores 1) := by
  have hdecode := claims.decode?_sign secret
  have houtcome (stores : Nat → Store) : authenticationResult
      ((EventGateway.authenticate secret (claims.sign secret) caller).runThrough stores).result =
        claims.outcome caller (stores 0) (stores 1) := by
    rw [EventGateway.authenticate, hdecode]
    exact authenticationResult_claims claims caller stores
  refine ⟨hdecode, fun s => ?_, houtcome⟩
  rw [← Lookup.runThrough_const]
  exact houtcome fun _ => s

end Claims

end EventGateway
