import EventGateway.Access.EmbeddedKey
import EventGateway.Json.Printer

/-!
# Headers of tokens

A token begins with a header that names its signature. Other fields of a header are not used, but known
ones have to be of their types, and unknown ones have to be texts.
-/

namespace EventGateway

open Json

/-- The only signature there is. -/
def algorithm : String := "HS256"

def tokenHeader : List Char :=
  (Value.object [("typ", .string "JWT"), ("alg", .string algorithm)]).chars

def headerTextFields : List String :=
  ["typ", "cty", "jku", "kid", "x5u", "x5t", "x5t#S256", "enc", "zip", "url", "nonce"]

/-- The fields of a header that hold a list of texts, if they are there. -/
def headerListFields : List String := ["x5c", "crit"]

def headerKeyField : String := "jwk"

/-- A header some of whose fields have been read. -/
structure HeaderPart where
  hasAlgorithm : Bool := false
  seen : List String := []

/-- Reads the name of the signature. -/
def readAlgorithm : Reader Unit := fun cs => do
  let (name, cs) ← readName cs
  if name = algorithm then .ok ((), cs)
  else .error (.loose (.wrongValue (.string name) "a signature") cs)

/-- Reads the member of a header: a known field once, and a text for any other. -/
def readHeaderMember (s : HeaderPart) (key : String) : Reader HeaderPart := fun cs => do
  let known := key == "alg" || headerTextFields.contains key || headerListFields.contains key ||
    key == headerKeyField
  if known && s.seen.contains key then .error (.loose (.duplicateField key) cs)
  else
    let cs ← readColon cs
    let s := { s with seen := key :: s.seen }
    if key = "alg" then
      (readAlgorithm cs).map fun p => ({ s with hasAlgorithm := true }, p.2)
    else if headerTextFields.contains key then
      (readOptional readStringField cs).map fun p => (s, p.2)
    else if headerListFields.contains key then
      (readOptional readStringsField cs).map fun p => (s, p.2)
    else if key = headerKeyField then
      (readOptional (readKey (nestingLimit - 3)) cs).map fun p => (s, p.2)
    else (readStringField cs).map fun p => (s, p.2)

/-- Is the text a header that names the signature? -/
def isHeader (cs : List Char) : Bool :=
  match readWhole (readObjectBy {} readHeaderMember) cs with
  | .ok header => header.hasAlgorithm
  | .error _ => false

end EventGateway
