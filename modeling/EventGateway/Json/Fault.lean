import EventGateway.Json.Printer
import EventGateway.Text.Quoted

/-!
# What can be wrong with a JSON text

A text is malformed when it breaks the grammar, and mismatched when it is JSON of another shape than
expected. A fault in a text has a place, given by what was left of the text there; it becomes a line
and a column, counted in bytes, once the whole text is at hand.
-/

namespace EventGateway.Json

open Decimal

/-! ### Causes -/

/-- How a text breaks the grammar. -/
inductive GrammarFault where
  | endInValue
  | endInObject
  | endInArray
  | endInString
  | expectedValue
  | expectedWord
  | expectedColon
  | expectedCommaOrBrace
  | expectedCommaOrBracket
  | keyNotString
  | trailingComma
  | trailingCharacters
  | invalidNumber
  | numberOutOfRange
  | invalidEscape
  | endOfHexEscape
  | loneSurrogate
  | controlCharacter
  | tooDeep
  deriving DecidableEq, Repr

/-- What was found where something else was expected. -/
inductive Found where
  | null
  | boolean (b : Bool)
  | integer (i : Int)
  | real (x : Binary64)
  | string (s : String)
  | sequence
  | map
  deriving DecidableEq, Repr

/-- How JSON differs from the expected shape. -/
inductive Mismatch where
  | missingField (name : String)
  | duplicateField (name : String)
  | unknownField (name : String) (known : List String)
  | wrongType (found : Found) (expected : String)
  | wrongValue (found : Found) (expected : String)
  | wrongLength (length : Nat) (expected : String)
  deriving DecidableEq, Repr

/-- What is wrong. -/
inductive Cause where
  | grammar (fault : GrammarFault)
  | mismatch (mismatch : Mismatch)
  deriving DecidableEq, Repr

/-! ### Wording -/

/-- The wording of a broken rule. -/
def GrammarFault.message : GrammarFault → String
  | .endInValue => "EOF while parsing a value"
  | .endInObject => "EOF while parsing an object"
  | .endInArray => "EOF while parsing a list"
  | .endInString => "EOF while parsing a string"
  | .expectedValue => "expected value"
  | .expectedWord => "expected ident"
  | .expectedColon => "expected `:`"
  | .expectedCommaOrBrace => "expected `,` or `\x7d`"
  | .expectedCommaOrBracket => "expected `,` or `]`"
  | .keyNotString => "key must be a string"
  | .trailingComma => "trailing comma"
  | .trailingCharacters => "trailing characters"
  | .invalidNumber => "invalid number"
  | .numberOutOfRange => "number out of range"
  | .invalidEscape => "invalid escape"
  | .endOfHexEscape => "unexpected end of hex escape"
  | .loneSurrogate => "lone leading surrogate in hex escape"
  | .controlCharacter => "control character (\\u0000-\\u001F) found while parsing a string"
  | .tooDeep => "recursion limit exceeded"

/-- The wording of what was found. -/
def Found.message : Found → String
  | .null => "null"
  | .boolean b => "boolean `" ++ (if b then "true" else "false") ++ "`"
  | .integer i => "integer `" ++ String.ofList (Text.signedDecimal i) ++ "`"
  | .real x => "floating point `" ++ String.ofList (binaryChars x) ++ "`"
  | .string s => "string " ++ Text.quoted s
  | .sequence => "sequence"
  | .map => "map"

def knownNames : List String → String
  | [] => "there are no fields"
  | [a] => "expected `" ++ a ++ "`"
  | [a, b] => "expected `" ++ a ++ "` or `" ++ b ++ "`"
  | names => "expected one of " ++ ", ".intercalate (names.map fun n => "`" ++ n ++ "`")

def Mismatch.message : Mismatch → String
  | .missingField name => "missing field `" ++ name ++ "`"
  | .duplicateField name => "duplicate field `" ++ name ++ "`"
  | .unknownField name known => "unknown field `" ++ name ++ "`, " ++ knownNames known
  | .wrongType found expected => "invalid type: " ++ found.message ++ ", expected " ++ expected
  | .wrongValue found expected => "invalid value: " ++ found.message ++ ", expected " ++ expected
  | .wrongLength length expected =>
    "invalid length " ++ String.ofList (Text.decimal length) ++ ", expected " ++ expected

def Cause.message : Cause → String
  | .grammar fault => fault.message
  | .mismatch m => m.message

/-! ### Places -/

/-- A place in a text, given by what is left of it: `beyond` bytes after the start of `rest`. -/
structure Place where
  rest : List Char
  beyond : Nat
  deriving DecidableEq, Repr

/-- A fault with its line, from one, and its column, the bytes since the line began. -/
structure TextFault where
  cause : Cause
  line : Nat
  column : Nat
  deriving DecidableEq, Repr

/-- A fault that ended the reading of a text. A mismatch has no place of its own until the object or
array around it is closed. What is wrong with a text inside the text has its place there. -/
inductive Fault where
  | at (cause : Cause) (place : Place)
  | loose (mismatch : Mismatch) (rest : List Char)
  | within (fault : TextFault)
  deriving DecidableEq, Repr

namespace Fault

/-- A broken rule just before what is left. -/
def here (fault : GrammarFault) (rest : List Char) : Fault :=
  .at (.grammar fault) ⟨rest, 0⟩

/-- A broken rule at the next byte, or at the end if there is none. -/
def next (fault : GrammarFault) (rest : List Char) : Fault :=
  .at (.grammar fault) ⟨rest, if rest.isEmpty then 0 else 1⟩

/-- A broken rule after the next byte, which was consumed. -/
def after (fault : GrammarFault) (rest : List Char) : Fault :=
  .at (.grammar fault) ⟨rest, 1⟩

/-- Gives a loose mismatch the place reached by `settle`. -/
def place (settle : List Char → List Char) : Fault → Fault
  | .at cause place => .at cause place
  | .loose m rest => .at (.mismatch m) ⟨settle rest, 0⟩
  | .within fault => .within fault

end Fault

/-- The number of bytes of a text. -/
def byteLength (cs : List Char) : Nat :=
  cs.foldl (fun n c => n + c.utf8Size) 0

/-- The line and column after `bytes` bytes, both counted on from those given. -/
def lineAndColumn : List Char → (bytes line column : Nat) → Nat × Nat
  | [], _, line, column => (line, column)
  | c :: cs, bytes, line, column =>
    if bytes < c.utf8Size then (line, column + bytes)
    else if c = '\n' then lineAndColumn cs (bytes - 1) (line + 1) 0
    else lineAndColumn cs (bytes - c.utf8Size) line (column + c.utf8Size)

/-- Finds the line and column of a place in a text. -/
def Place.lineAndColumn (text : List Char) (place : Place) : Nat × Nat :=
  Json.lineAndColumn text (byteLength text - byteLength place.rest + place.beyond) 1 0

/-- Finds the line and column of a fault in the text it was met in. -/
def Fault.locate (text : List Char) : Fault → TextFault
  | .at cause place =>
    let (line, column) := place.lineAndColumn text
    ⟨cause, line, column⟩
  | .loose m rest =>
    let (line, column) := Place.lineAndColumn text ⟨rest, 0⟩
    ⟨.mismatch m, line, column⟩
  | .within fault => fault

/-- The wording of a fault with its line and column. -/
def TextFault.message (fault : TextFault) : String :=
  fault.cause.message ++ " at line " ++ String.ofList (Text.decimal fault.line) ++
    " column " ++ String.ofList (Text.decimal fault.column)

end EventGateway.Json
