import EventGateway.Json.Record

/-!
# Values given as texts

A value of any shape may be given as a text, by an object whose first key is reserved for this and has
the text below it. The text is read afresh, and may itself hold values that are given so. What is wrong
with it has its place in that text.
-/

namespace EventGateway.Json

/-- The key of a value that is given as a text. -/
def embeddedKey : String := "$serde_json::private::RawValue"

/-- Reads the end of an object behind its only member. -/
def readObjectEnd (cs : List Char) : Except Fault (List Char) :=
  match skipBlanks cs with
  | [] => .error (.next .endInObject [])
  | c :: rest =>
    if c = '}' then .ok rest
    else if c = ',' then .error (.next .trailingComma (c :: rest))
    else .error (.next .trailingCharacters (c :: rest))

/-- Reads a value that is given as a text, from behind the key to the end of the object. -/
def readBehindKey (parse : String → Except TextFault Value) : Reader Value := fun cs => do
  let cs ← readColon cs
  let (text, cs) ← readTextAs "raw JSON value" cs
  let v ← (parse text).mapError .within
  let cs ← readObjectEnd cs
  .ok (v, cs)

/-- Reads a value that is given as a text, if the first key behind the brace is the one for this. -/
def readEmbedded (parse : String → Except TextFault Value) (cs : List Char) :
    Option (Except Fault (Value × List Char)) :=
  match skipBlanks cs with
  | '"' :: rest =>
    match readString rest with
    | .ok (key, cs) => if key = embeddedKey then some (readBehindKey parse cs) else none
    | .error _ => none
  | _ => none

/-- Reads a text, inside which less than `fuel` others may lie in one another. -/
def parseWithin : (fuel : Nat) → String → Except TextFault Value
  | 0, _ => .error ⟨.grammar .endInValue, 1, 0⟩
  | fuel + 1, text =>
    readText (readValueBy (readEmbedded (parseWithin fuel)) (nestingLimit - 1)) text

/-- Reads a whole text in which values may be given as texts. These are shorter than the text that they
lie in, so that there are not too many in one another. -/
def parseEmbedded (text : String) : Except TextFault Value :=
  parseWithin (text.length + 1) text

/-- Reads a value that may be given as a text, or hold values that are. -/
def readExpanded (depth : Nat) : Reader Value := readValueBy (readEmbedded parseEmbedded) depth

end EventGateway.Json
