import EventGateway.Json.Fault

/-!
# Records from values

Taking texts, lists of texts and small records out of a value that has been read already. There is no
text any more, so a mismatch has no place. An object's members are looked at in the order of their
keys.
-/

namespace EventGateway.Json

def Value.found : Value → Found
  | .null => .null
  | .bool b => .boolean b
  | .number (.natural n) => .integer n.toNat
  | .number (.negative n) => .integer (-(n.toNat : Int))
  | .number (.real x) => .real x
  | .string s => .string s
  | .array _ => .sequence
  | .object _ => .map

/-- Takes a text out of a value. -/
def Value.asString : Value → Except Mismatch String
  | .string s => .ok s
  | v => .error (.wrongType v.found "a string")

/-- Takes an array of texts out of a value. -/
def Value.asStrings : Value → Except Mismatch (List String)
  | .array items => items.mapM Value.asString
  | v => .error (.wrongType v.found "a sequence")

/-- The mismatch of an array that holds more items than a record has fields. -/
def tooLong (length : Nat) : Mismatch :=
  .wrongLength length "fewer elements in array"

end EventGateway.Json
