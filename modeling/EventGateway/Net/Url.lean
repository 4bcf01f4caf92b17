import EventGateway.Net.Address

/-!
# URLs

The parts of a URL whose scheme has no rules of its own: the scheme, the credentials, the host and the
port, the path and the query. Steps up and down in the path are taken at once, and the fragment is left
out.
-/

namespace EventGateway.Net

/-- The path of a URL. -/
inductive UrlPath where
  /-- A text that does not begin with a slash and is not divided. -/
  | whole (text : List Char)
  /-- What stands after each slash. -/
  | segments (segments : List (List Char))
  deriving DecidableEq, Repr, Inhabited

/-- The parts of a URL. -/
structure Url where
  scheme : List Char
  username : List Char := []
  password : Option (List Char) := none
  /-- The host, if one is named. -/
  host : Option (List Char) := none
  port : Option Nat := none
  path : UrlPath
  /-- What stands between the question mark and the number sign. -/
  query : List Char := []
  deriving DecidableEq, Repr, Inhabited

namespace Url

/-- Splits a text before the first character that satisfies a condition. -/
def splitBefore (stop : Char → Bool) (cs : List Char) : List Char × List Char :=
  (cs.takeWhile fun c => !stop c, cs.dropWhile fun c => !stop c)

/-- Leaves out the control characters and spaces around a URL, and tabs and line ends in it. -/
def trim (cs : List Char) : List Char :=
  let trimStart := List.dropWhile fun c : Char => decide (c ≤ ' ')
  ((trimStart (trimStart cs).reverse).reverse).filter (· ∉ ['\t', '\n', '\r'])

/-- The scheme in small letters and what follows the colon. -/
def readScheme (cs : List Char) : Option (List Char × List Char) :=
  let (scheme, rest) := splitBefore (· = ':') cs
  match scheme, rest with
  | c :: tail, ':' :: rest =>
    if c.isAlpha ∧ tail.all fun d => d.isAlphanum ∨ d ∈ ['+', '-', '.'] then
      some (scheme.map Char.toLower, rest)
    else none
  | _, _ => none

/-! ### The authority -/

/-- The credentials before the last at sign, if there is one, and what follows it. -/
def splitCredentials (authority : List Char) : Option (List Char) × List Char :=
  let host := (authority.reverse.takeWhile (· ≠ '@')).reverse
  if '@' ∈ authority then (some (authority.take (authority.length - host.length - 1)), host)
  else (none, authority)

/-- Do credentials need a host after them? Those that name neither a user nor a password need one only
if they are empty and something follows the authority. -/
def needHost (followed : Bool) : (credentials : Option (List Char)) → Bool
  | none | some [':'] => false
  | some [] => followed
  | some _ => true

/-- The characters that no host contains. -/
def notInHost : List Char :=
  ['\x00', ' ', '#', '/', '<', '>', '?', '@', '[', '\\', ']', '^', '|']

/-- Reads the host and what follows it. A host in brackets is an address of groups. -/
def readHost (authority : List Char) : Option (List Char × List Char) :=
  match authority with
  | '[' :: rest =>
    match splitBefore (· = ']') rest with
    | (address, ']' :: rest) =>
      match readV6 address with
      | some (_, []) => some ('[' :: address ++ [']'], rest)
      | _ => none
    | _ => none
  | _ =>
    let (host, rest) := splitBefore (· = ':') authority
    if host.any (· ∈ notInHost) then none else some (host, rest)

/-- Reads the port after a colon, if there is one, and what follows it: a backslash ends the port and
begins the path. -/
def readPort : List Char → Option (Option Nat × List Char)
  | [] => some (none, [])
  | ':' :: rest =>
    let (digits, rest) := splitBefore (!·.isDigit) rest
    let n := Text.ofDigits digits
    if n < 65536 ∧ (rest.isEmpty ∨ rest.head? = some '\\') then
      some (if digits.isEmpty then none else some n, rest)
    else none
  | _ => none

/-! ### The path -/

/-- What a segment does to the place that a path has come to. -/
inductive PathStep where
  | up
  | stay
  | down
  deriving DecidableEq, Repr

def stepOf (segment : List Char) : PathStep :=
  let segment := String.ofList (segment.map Char.toLower)
  if segment ∈ ["..", ".%2e", "%2e.", "%2e%2e"] then .up
  else if segment ∈ [".", "%2e"] then .stay
  else .down

/-- Does the segment name a drive? A step up does not leave one. -/
def namesDrive : List Char → Bool
  | letter :: mark :: rest =>
    letter.isAlpha ∧ mark ∈ [':', '|'] ∧ (rest.isEmpty ∨ rest.head? = some '\\')
  | _ => false

def stepUp (taken : List (List Char)) : List (List Char) :=
  if taken.getLast?.any namesDrive then taken else taken.dropLast

/-- Takes the steps of a path one after the other. A path that ends with a step up or a step that stays
ends with a slash. -/
def takeSteps (taken : List (List Char)) : List (List Char) → List (List Char)
  | [] => taken
  | segment :: rest =>
    let ending := if rest.isEmpty then [[]] else []
    match stepOf segment with
    | .up => takeSteps (stepUp taken ++ ending) rest
    | .stay => takeSteps (taken ++ ending) rest
    | .down => takeSteps (taken ++ [segment]) rest

/-- The path after an authority, which may lack its first slash. -/
def pathAfterAuthority : List Char → UrlPath
  | [] => .segments []
  | '/' :: rest => .segments (takeSteps [] (rest.splitOn '/'))
  | rest => .segments (takeSteps [] (rest.splitOn '/'))

/-- The path where there is no authority. -/
def pathAlone : List Char → UrlPath
  | '/' :: rest => .segments (takeSteps [] (rest.splitOn '/'))
  | rest => .whole rest

/-! ### All together -/

/-- Reads what follows the scheme, up to the query or fragment if one of them follows. -/
def readHierarchy (scheme cs : List Char) (followed : Bool) : Option Url :=
  match cs with
  | '/' :: '/' :: rest => do
    let (authority, path) := splitBefore (· = '/') rest
    let (credentials, authority) := splitCredentials authority
    let (host, afterHost) ← readHost authority
    let (port, afterPort) ← readPort afterHost
    if host.isEmpty ∧ (needHost (followed || !path.isEmpty) credentials ∨ !afterHost.isEmpty) then none
    else
      let (username, password) := splitBefore (· = ':') (credentials.getD [])
      some {
        scheme, username, port
        password := if (password.drop 1).isEmpty then none else some (password.drop 1)
        host := if host.isEmpty then none else some host
        path := pathAfterAuthority (afterPort ++ path) }
  | _ => some { scheme, path := pathAlone cs }

def ofText? (cs : List Char) : Option Url := do
  let (scheme, rest) ← readScheme (trim cs)
  let (rest, fragment) := splitBefore (· = '#') rest
  let (hierarchy, query) := splitBefore (· = '?') rest
  let url ← readHierarchy scheme hierarchy (!query.isEmpty || !fragment.isEmpty)
  some { url with query := query.drop 1 }

end Url

end EventGateway.Net
