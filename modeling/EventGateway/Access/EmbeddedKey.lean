import EventGateway.Json.Record

/-!
# Embedded keys

The header of a token may carry a key. It is not used, but it has to be one: of a known type, with the
fields that keys of the type have. Fields are taken from the written members, so that one that is given
twice is seen.
-/

namespace EventGateway

open Json

/-- The members of an object with their values as they are written. -/
abbrev WrittenMembers := List (String × List Char)

namespace WrittenMembers

def valuesOf (members : WrittenMembers) (key : String) : List (List Char) :=
  (members.filter (·.1 == key)).map Prod.snd

/-- Is the key there once, with a value that satisfies a condition? -/
def has (members : WrittenMembers) (accepts : List Char → Bool) (key : String) : Bool :=
  match members.valuesOf key with
  | [v] => accepts v
  | _ => false

/-- Is the key there at most once, with a value that satisfies a condition? -/
def mayHave (members : WrittenMembers) (accepts : List Char → Bool) (key : String) : Bool :=
  (members.valuesOf key).isEmpty || members.has accepts key

end WrittenMembers

def reads {α : Type} (reader : Reader α) (written : List Char) : Bool :=
  match readWhole reader written with
  | .ok _ => true
  | .error _ => false

def namesOneOf (names : List String) (written : List Char) : Bool :=
  match readWhole readName written with
  | .ok name => names.contains name
  | .error _ => false

/-! ### Types of keys -/

/-- The fields that the keys of a type have. -/
structure KeyShape where
  type : String
  /-- Do the keys name a curve? -/
  hasCurve : Bool
  texts : List String

def keyShapes : List KeyShape := [
  ⟨"EC", true, ["x", "y"]⟩,
  ⟨"RSA", false, ["n", "e"]⟩,
  ⟨"oct", false, ["k"]⟩,
  ⟨"OKP", true, ["x"]⟩]

/-- The curves that a key may name. -/
def curves : List String := ["P-256", "P-384", "P-521", "Ed25519"]

def KeyShape.fits (shape : KeyShape) (members : WrittenMembers) : Bool :=
  members.has (namesOneOf [shape.type]) "kty" &&
    (!shape.hasCurve || members.has (namesOneOf curves) "crv") &&
    shape.texts.all (members.has (reads readStringField))

/-! ### Fields of every key -/

def keyTextFields : List String := ["use", "kid", "x5u", "x5t", "x5t#S256"]

/-- The fields of a key that hold a list of texts, if they are there. -/
def keyListFields : List String := ["key_ops", "x5c"]

/-- Is the written value the name of what a key is for, which may be any name? An empty object counts as
null below it. -/
def namesAlgorithm (written : List Char) : Bool :=
  reads readName written ||
    match readWhole (readWrittenMembers 1) written with
    | .ok [(_, below)] =>
      match readWhole (readMemberList 0) below with
      | .ok members => members.isEmpty
      | .error _ => false
    | _ => false

def isNull (written : List Char) : Bool :=
  reads (fun cs => (readWord ['n', 'u', 'l', 'l'] (skipBlanks cs)).map fun cs => ((), cs)) written

def isKey (members : WrittenMembers) : Bool :=
  keyTextFields.all (members.mayHave (reads (readOptional readStringField))) &&
    keyListFields.all (members.mayHave (reads (readOptional readStringsField))) &&
    members.mayHave (fun v => isNull v || namesAlgorithm v) "alg" &&
    keyShapes.any (·.fits members)

/-- Reads an embedded key. Its values may be nested to the given depth. -/
def readKey (depth : Nat) : Reader Unit := fun cs =>
  (readWrittenMembers depth cs).bind fun (members, cs) =>
    if isKey members then .ok ((), cs) else .error (.next .expectedValue cs)

end EventGateway
