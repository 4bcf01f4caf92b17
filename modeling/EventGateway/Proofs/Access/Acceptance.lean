import EventGateway.Proofs.Access.Headers
import EventGateway.Proofs.Access.Outcomes
import EventGateway.Proofs.Text.Base64Url

/-!
# Credentials that are accepted

A token is read as claims only if it is signed under the secret: three segments between dots, a header
that names the signature, claims as an object of JSON, and the signature of the two. An authentication
comes to a principal only if the token is signed claims of it and the store stands behind it. Main
statement: `accepted_is_signed`.
-/

namespace EventGateway

open Json

/-! ### Signed claims -/

/-- The members spell the claims, each field of them exactly once. -/
def Claims.CarriedBy (members : List (String × List Char)) : Claims → Prop
  | .session userId =>
    HasOnly members "type" (IsText "sess.v1") ∧ HasOnly members "userId" (IsText userId)
  | .appToken tokenId issue userId =>
    HasOnly members "type" (IsText "app.v1") ∧ HasOnly members "tokenId" (IsText tokenId) ∧
      HasOnly members "issue" (· = Text.signedDecimal issue.toInt) ∧
      HasOnly members "userId" (IsText userId)

/-- The token is three segments between dots, each written in the letters of base 64: a header, an
object of JSON that names its signature as said; the claims, an object of JSON too; and the keyed hash of
the two under the secret. -/
inductive IsSigned (names : List Char → Prop) (secret : String) : String → Claims → Prop
  | mk {token : String} {claims : Claims} {first second third header payload : List Char}
    {headerMembers claimMembers : List (String × List Char)} :
    token.toList = first ++ '.' :: (second ++ '.' :: third) →
    '.' ∉ first → '.' ∉ second → '.' ∉ third →
    first = Text.Base64Url.encode (Text.utf8 header) →
    IsObjectText headerMembers header → HasOnly headerMembers "alg" names →
    second = Text.Base64Url.encode (Text.utf8 payload) →
    IsObjectText claimMembers payload → claims.CarriedBy claimMembers →
    third = Text.Base64Url.encode
      (Hash.hmac (Text.utf8 secret.toList) (Text.utf8 (first ++ '.' :: second))) →
    IsSigned names secret token claims

/-! ### Claims that are read -/

section

variable {key : String} {members : List (String × Value)} {written : List (String × List Char)}

/-- The only member of a key is written as the only one of it. -/
lemma hasOnly_of_onlyMember? {v : Value} {P : List Char → Prop} (hlists : Lists written members)
    (hshows : ∀ value, Shows value v → P value) (h : onlyMember? key members = some v) :
    HasOnly written key P := by
  have hfilter := hlists.filter key
  unfold onlyMember? at h
  split at h
  · next key' v' hmembers =>
    cases h
    rw [hmembers] at hfilter
    cases hwritten : written.filter (·.1 == key) with
    | nil =>
      rw [hwritten] at hfilter
      cases hfilter
    | cons w others =>
      rw [hwritten] at hfilter
      obtain ⟨⟨-, hw⟩, hothers⟩ := List.forall₂_cons.1 hfilter
      have hkey : w.1 = key := by
        have hmem : w ∈ written.filter (·.1 == key) := hwritten ▸ List.mem_cons_self ..
        simpa using (List.mem_filter.1 hmem).2
      rw [List.forall₂_nil_right_iff.1 hothers] at hwritten
      exact ⟨w.2, by rw [hwritten, ← hkey], hshows _ hw⟩
  · cases h

lemma hasOnly_of_onlyText? {s : String} (hlists : Lists written members)
    (h : onlyText? key members = some s) : HasOnly written key (IsText s) := by
  unfold onlyText? at h
  split at h
  · next hmember =>
    cases h
    exact hasOnly_of_onlyMember? hlists (fun _ => id) hmember
  · cases h

lemma signedDecimal_natural {n : UInt64} (hn : n.toNat < Nat.pow 2 31) :
    Text.signedDecimal (Int32.ofNat n.toNat).toInt = Text.decimal n.toNat := by
  have hpow : Nat.pow 2 31 = 2147483648 := rfl
  rw [← Int32.ofInt_eq_ofNat, Int32.toInt_ofInt_of_le (by omega) (by omega)]
  rfl

lemma signedDecimal_negative {n : UInt64} (hne : n.toNat ≠ 0) (hn : n.toNat ≤ Nat.pow 2 31) :
    Text.signedDecimal (Int32.ofInt (-(n.toNat : Int))).toInt = '-' :: Text.decimal n.toNat := by
  have hpow : Nat.pow 2 31 = 2147483648 := rfl
  obtain ⟨m, hm⟩ := Nat.exists_eq_succ_of_ne_zero hne
  rw [Int32.toInt_ofInt_of_le (by omega) (by omega), hm]
  rfl

lemma hasOnly_of_onlyIssue? {issue : Int32} (hlists : Lists written members)
    (h : onlyIssue? key members = some issue) :
    HasOnly written key (· = Text.signedDecimal issue.toInt) := by
  unfold onlyIssue? at h
  split at h
  · next n hmember =>
    split at h
    · next hn =>
      cases h
      rw [signedDecimal_natural hn]
      exact hasOnly_of_onlyMember? hlists (fun _ => id) hmember
    · cases h
  · next n hmember =>
    split at h
    · next hn =>
      cases h
      refine hasOnly_of_onlyMember? hlists ?_ hmember
      rintro value ⟨hne, hvalue⟩
      rw [signedDecimal_negative hne hn]
      exact hvalue
    · cases h
  · cases h

lemma carriedBy_of_ofMembers? {claims : Claims} (hlists : Lists written members)
    (h : Claims.ofMembers? members = some claims) : claims.CarriedBy written := by
  obtain ⟨type, htype, hclaims⟩ := Option.bind_eq_some_iff.1 h
  split_ifs at hclaims with hsession happ
  · obtain ⟨userId, huser, hsome⟩ := Option.bind_eq_some_iff.1 hclaims
    cases hsome
    rw [hsession] at htype
    exact ⟨hasOnly_of_onlyText? hlists htype, hasOnly_of_onlyText? hlists huser⟩
  · obtain ⟨tokenId, htoken, hothers⟩ := Option.bind_eq_some_iff.1 hclaims
    obtain ⟨issue, hissue, hlast⟩ := Option.bind_eq_some_iff.1 hothers
    obtain ⟨userId, huser, hsome⟩ := Option.bind_eq_some_iff.1 hlast
    cases hsome
    rw [happ] at htype
    exact ⟨hasOnly_of_onlyText? hlists htype, hasOnly_of_onlyText? hlists htoken,
      hasOnly_of_onlyIssue? hlists hissue, hasOnly_of_onlyText? hlists huser⟩

/-- Claims are read from an object whose members spell them. -/
lemma carriedBy_of_ofChars? {claims : Claims} {cs : List Char} (h : Claims.ofChars? cs = some claims) :
    ∃ written, IsObjectText written cs ∧ claims.CarriedBy written := by
  unfold Claims.ofChars? at h
  split at h
  · next members hread =>
    split at h
    · obtain ⟨payload, hjson, written, hobject, hlists⟩ :=
        (takes_readMemberList _).of_readWhole hread
      exact ⟨written, ⟨payload, hjson, hobject⟩, carriedBy_of_ofMembers? hlists h⟩
    · cases h
  · cases h

/-- A token that is read as claims is signed. -/
theorem isSigned_of_decode? {secret token : String} {claims : Claims}
    (h : Claims.decode? secret token = some claims) : IsSigned (IsName "HS256") secret token claims := by
  unfold Claims.decode? at h
  split at h
  · next header payload mark hsplit =>
    obtain ⟨headerBytes, hheader, hfirst⟩ := Option.bind_eq_some_iff.1 h
    obtain ⟨headerChars, hheaderText, hsecond⟩ := Option.bind_eq_some_iff.1 hfirst
    obtain ⟨payloadBytes, hpayload, hthird⟩ := Option.bind_eq_some_iff.1 hsecond
    obtain ⟨payloadChars, hpayloadText, hlast⟩ := Option.bind_eq_some_iff.1 hthird
    split at hlast
    · next hchecks =>
      obtain ⟨headerMembers, hheaderObject, halgorithm⟩ := hasOnly_of_isHeader hchecks.2
      obtain ⟨claimMembers, hclaimObject, hcarried⟩ := carriedBy_of_ofChars? hlast
      have hheaderEq : header = Text.Base64Url.encode (Text.utf8 headerChars) := by
        rw [Text.utf8_of_ofUtf8? hheaderText, Text.Base64Url.encode_of_decode hheader]
      have hpayloadEq : payload = Text.Base64Url.encode (Text.utf8 payloadChars) := by
        rw [Text.utf8_of_ofUtf8? hpayloadText, Text.Base64Url.encode_of_decode hpayload]
      have htoken : token.toList = header ++ '.' :: (payload ++ '.' :: mark) := by
        have hjoin : ['.'].intercalate (token.toList.splitOn '.') = token.toList :=
          List.intercalate_splitOn '.'
        rw [show token.toList.splitOn '.' = [header, payload, mark] from hsplit] at hjoin
        rw [← hjoin]
        simp [List.intercalate]
      refine .mk htoken ?_ ?_ ?_ hheaderEq hheaderObject halgorithm hpayloadEq hclaimObject hcarried
        hchecks.1
      · rw [hheaderEq]
        exact Text.Base64Url.dot_not_mem_encode _
      · rw [hpayloadEq]
        exact Text.Base64Url.dot_not_mem_encode _
      · rw [hchecks.1]
        exact Text.Base64Url.dot_not_mem_encode _
    · cases hlast
  · cases h

end

/-! ### Principals -/

/-- The principal is the user of the claims, and what the lookups have found stands behind it. -/
inductive Claims.Vouched (caller : Caller) (first second : Store) : Claims → Principal → Prop
  | session {userId : String} :
    first.content.HasActive userId → Vouched caller first second (.session userId) (.session userId)
  | appToken {tokenId userId : String} {issue : Int32} {record : TokenRecord} :
    first.content.tokens.get? tokenId = some record → record.userId = userId →
    record.issue = issue → record.isActive = true → .readRealtime ∈ record.scopes.toList →
    record.restrictions.Permits caller → second.content.HasActive userId →
    Vouched caller first second (.appToken tokenId issue userId) (.appToken {
      userId, tokenId, issue, scopes := record.scopes, restrictions := record.restrictions })

lemma Principal.of_outcome {p q : Principal} {userId : String} {s : Store}
    (h : p.outcome userId s = .ok q) : q = p ∧ s.content.HasActive userId := by
  unfold Principal.outcome at h
  split_ifs at h with hfailing hactive
  cases h
  exact ⟨rfl, hactive⟩

lemma Claims.vouched_of_outcome {claims : Claims} {caller : Caller} {first second : Store}
    {p : Principal} (h : claims.outcome caller first second = .ok p) :
    claims.Vouched caller first second p := by
  cases claims with
  | session userId =>
    obtain ⟨rfl, hactive⟩ := Principal.of_outcome h
    exact .session hactive
  | appToken tokenId issue userId =>
    rw [Claims.outcome] at h
    split_ifs at h with hfailing
    split at h
    · cases h
    · next record hrecord =>
      unfold TokenRecord.outcome at h
      split_ifs at h with howner hissue hscope hpermits
      obtain ⟨rfl, hactive⟩ := Principal.of_outcome h
      obtain ⟨hisActive, hsame⟩ := not_or.1 hissue
      exact .appToken hrecord (Decidable.not_not.1 howner) (Decidable.not_not.1 hsame)
        (by simpa using hisActive) hscope hpermits hactive

/-- Accepted credentials are signed: a token that is read as claims is those claims signed under the
secret, and an authentication comes to a principal only if the token is signed claims of it and what the
lookups have found stands behind it. -/
theorem accepted_is_signed (secret token : String) :
    (∀ claims, Claims.decode? secret token = some claims →
      IsSigned (IsName "HS256") secret token claims) ∧
    ∀ caller (stores : Nat → Store) p, authenticationResult
        ((authenticate secret token caller).runThrough stores).result = .ok p →
      ∃ claims, Claims.decode? secret token = some claims ∧
        IsSigned (IsName "HS256") secret token claims ∧
        claims.Vouched caller (stores 0) (stores 1) p := by
  refine ⟨fun claims => isSigned_of_decode?, fun caller stores p h => ?_⟩
  unfold authenticate at h
  split at h
  · cases h
  · next claims hdecode =>
    rw [authenticationResult_claims] at h
    exact ⟨claims, hdecode, isSigned_of_decode? hdecode, Claims.vouched_of_outcome h⟩

/-- The token of an app is accepted where its record stands behind it. -/
theorem appToken_accepted :
    let record : TokenRecord := { id := "apt", userId := "luna", issue := -7, isActive := true,
                                  scopes := .ofList [.readRealtime], restrictions := {} }
    let s : Store := { content := (({} : Content).update (.addUser "luna")).update (.putToken record) }
    let p : Principal := .appToken { userId := "luna", tokenId := "apt", issue := -7,
                                     scopes := record.scopes, restrictions := record.restrictions }
    let token := "eyJ0eXAiOiJKV1QiLCJhbGciOiJIUzI1NiJ9" ++
      ".eyJ0eXBlIjoiYXBwLnYxIiwidG9rZW5JZCI6ImFwdCIsImlzc3VlIjotNywidXNlcklkIjoibHVuYSJ9" ++
      ".37qxpBY6qVzHqfwlRbyb64iT4NvX3yN-HLPgg8PQmZM"
    (Claims.decode? "secret" token = some (.appToken "apt" (-7) "luna") ∧
        IsSigned (IsName "HS256") "secret" token (.appToken "apt" (-7) "luna")) ∧
      authenticationResult ((authenticate "secret" token {}).runThrough fun _ => s).result = .ok p ∧
      ∃ claims, Claims.decode? "secret" token = some claims ∧
        IsSigned (IsName "HS256") "secret" token claims ∧ claims.Vouched {} s s p := by
  intro record s p token
  have hdecode : Claims.decode? "secret" token = some (.appToken "apt" (-7) "luna") := by
    decide +kernel
  have hresult : authenticationResult ((authenticate "secret" token {}).runThrough fun _ => s).result =
      .ok p := by
    rw [authenticate, hdecode]
    decide +kernel
  exact ⟨⟨hdecode, (accepted_is_signed "secret" token).1 _ hdecode⟩, hresult,
    (accepted_is_signed "secret" token).2 {} (fun _ => s) p hresult⟩

/-- A header may name its signature as the key of an object: the token is read as claims, but the name
of its signature is no text. -/
theorem algorithm_object_accepted :
    let token := "eyJhbGciOnsiSFMyNTYiOm51bGx9fQ" ++ ".eyJ0eXBlIjoic2Vzcy52MSIsInVzZXJJZCI6Imx1bmEifQ" ++
      ".dWF6pcwccHoqG16gndpw-Ti5Qpq-yJiYjQ8X674uwsA"
    Claims.decode? "secret" token = some (.session "luna") ∧
      ¬ IsSigned (IsText "HS256") "secret" token (.session "luna") := by
  intro token
  refine ⟨by decide +kernel, ?_⟩
  rintro ⟨htoken, hdot, -, -, hfirst, hobject, ⟨value, halg, quoted, rfl, -⟩, -, -, -, -⟩
  next first second third header payload headerMembers claimMembers =>
  -- the first segment, and with it the header, is known
  have hsegment : token.toList.takeWhile (· ≠ '.') = first := by
    rw [htoken, List.takeWhile_append_of_pos fun c hc => by
      simpa using fun (h : c = '.') => hdot (h ▸ hc)]
    simp
  have hheader : (Text.Base64Url.decode (token.toList.takeWhile (· ≠ '.'))).bind Text.ofUtf8? =
      some header := by
    rw [hsegment, hfirst, Text.Base64Url.decode_encode, Option.bind_some, Text.ofUtf8?_utf8]
  have hknown : (Text.Base64Url.decode (token.toList.takeWhile (· ≠ '.'))).bind Text.ofUtf8? =
      some "\x7b\"alg\":\x7b\"HS256\":null\x7d\x7d".toList := by
    decide +kernel
  rw [hknown] at hheader
  -- none of its colons stands before a quote
  have hnone : ∀ tail ∈ "\x7b\"alg\":\x7b\"HS256\":null\x7d\x7d".toList.tails,
      tail.head? = some ':' → (skipBlanks tail.tail).head? ≠ some '"' := by
    decide
  have hmem : ("alg", '"' :: quoted) ∈ headerMembers :=
    (List.mem_filter.1 (halg ▸ List.mem_singleton_self _)).1
  obtain ⟨before, after, rest, hcolon, hafter⟩ := hobject.exists_colon hmem
  rw [Option.some.inj hheader, hcolon] at hnone
  refine hnone (':' :: (after ++ ('"' :: quoted ++ rest)))
    ((List.mem_tails _ _).2 (List.suffix_append _ _)) rfl ?_
  rw [List.tail_cons, skipBlanks_append hafter]
  rfl

end EventGateway
