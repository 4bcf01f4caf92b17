import EventGateway.Access.Header
import EventGateway.Hash.Hmac
import EventGateway.Text.Base64Url
import EventGateway.Text.Utf8

/-!
# Signed claims

A credential is a token of three parts between dots: a header that names the signature, the claims, and
the signature of the two under the shared secret. The claims only name the credential; whether it may
be used is looked up. A token is either read exactly or refused.
-/

namespace EventGateway

open Json

/-- What a credential claims to be. -/
inductive Claims where
  | session (userId : String)
  | appToken (tokenId : String) (issue : Int32) (userId : String)
  deriving DecidableEq, Repr, Inhabited

/-! ### Writing tokens -/

namespace Claims

def sessionType : String := "sess.v1"

def appTokenType : String := "app.v1"

/-- The claims in written form. -/
def chars : Claims → List Char
  | .session userId =>
    (Value.object [("type", .string sessionType), ("userId", .string userId)]).chars
  | .appToken tokenId issue userId =>
    '{' :: stringChars "type" ++ ':' :: stringChars appTokenType ++
      ',' :: stringChars "tokenId" ++ ':' :: stringChars tokenId ++
      ',' :: stringChars "issue" ++ ':' :: Text.signedDecimal issue.toInt ++
      ',' :: stringChars "userId" ++ ':' :: stringChars userId ++ ['}']

end Claims

def signature (secret : String) (message : List Char) : List Char :=
  Text.Base64Url.encode (Hash.hmac (Text.utf8 secret.toList) (Text.utf8 message))

def signedPart (header claims : List Char) : List Char :=
  header ++ '.' :: claims

namespace Claims

def sign (claims : Claims) (secret : String) : String :=
  let message := signedPart (Text.Base64Url.encode (Text.utf8 tokenHeader))
    (Text.Base64Url.encode (Text.utf8 claims.chars))
  String.ofList (message ++ '.' :: signature secret message)

end Claims

/-! ### Reading claims -/

def onlyMember? (key : String) (members : List (String × Value)) : Option Value :=
  match members.filter (·.1 == key) with
  | [(_, v)] => some v
  | _ => none

def onlyText? (key : String) (members : List (String × Value)) : Option String :=
  match onlyMember? key members with
  | some (.string s) => some s
  | _ => none

/-- The whole number of thirty-two bits of a key that exactly one member has. -/
def onlyIssue? (key : String) (members : List (String × Value)) : Option Int32 :=
  match onlyMember? key members with
  | some (.number (.natural n)) =>
    if n.toNat < Nat.pow 2 31 then some (Int32.ofNat n.toNat) else none
  | some (.number (.negative n)) =>
    if n.toNat ≤ Nat.pow 2 31 then some (Int32.ofInt (-(n.toNat : Int))) else none
  | _ => none

/-- Is the value no array and no object? -/
def isScalar : Value → Bool
  | .array _ => false
  | .object _ => false
  | _ => true

def isScalarOrEmpty : Value → Bool
  | .array items => items.isEmpty
  | .object members => members.isEmpty
  | _ => true

/-- Does the value name an audience, a text or a list of texts? -/
def namesAudience : Value → Bool
  | .string _ => true
  | .array items => items.all fun
    | .string _ => true
    | _ => false
  | _ => false

/-- The claims that a token may carry besides its own, each at most once, with the values they may
have: times and the subject are not looked into, and no audience may be named. -/
def registeredClaims : List (String × (Value → Bool)) := [
  ("exp", isScalarOrEmpty),
  ("nbf", isScalarOrEmpty),
  ("sub", isScalar),
  ("iss", fun _ => true),
  ("aud", fun v => !namesAudience v)]

def respectsRegistered (members : List (String × Value)) : Bool :=
  registeredClaims.all fun (key, allowed) =>
    match members.filter (·.1 == key) with
    | [] => true
    | [(_, v)] => allowed v
    | _ => false

namespace Claims

def ofMembers? (members : List (String × Value)) : Option Claims := do
  let type ← onlyText? "type" members
  if type = sessionType then
    some (.session (← onlyText? "userId" members))
  else if type = appTokenType then
    some (.appToken (← onlyText? "tokenId" members) (← onlyIssue? "issue" members)
      (← onlyText? "userId" members))
  else none

def ofChars? (cs : List Char) : Option Claims :=
  match readWhole (readMemberList (nestingLimit - 2)) cs with
  | .ok members => if respectsRegistered members then ofMembers? members else none
  | .error _ => none

def splitDots (cs : List Char) : List (List Char) :=
  cs.splitOn '.'

def decode? (secret token : String) : Option Claims :=
  match splitDots token.toList with
  | [header, claims, mark] => do
    let headerChars ← Text.ofUtf8? (← Text.Base64Url.decode header)
    let claimChars ← Text.ofUtf8? (← Text.Base64Url.decode claims)
    if mark = signature secret (signedPart header claims) ∧ isHeader headerChars then
      ofChars? claimChars
    else none
  | _ => none

end Claims

end EventGateway
