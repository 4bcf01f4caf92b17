import EventGateway.Json.Reader

/-!
# Reading records

A record is read from an object, its fields by name in any order, or from an array, its fields by
position. Members of other names are passed over. A mismatch inside the record is placed after its
end, as far as that can be read.
-/

namespace EventGateway.Json

/-! ### Fields -/

/-- Gives a mismatch met while reading a single value its place: where the reading stopped. -/
def placed {α : Type} (reader : Reader α) : Reader α := fun cs =>
  (reader cs).mapError (Fault.place id)

/-- The mismatch of a value that is not of the expected type, after reading the value as far as it
takes to name it. -/
def readWrong {α : Type} (expected : String) : Reader α := fun cs =>
  match cs with
  | [] => .error (.next .endInValue [])
  | c :: rest =>
    let wrong (found : Found) (cs : List Char) : Except Fault (α × List Char) :=
      .error (.loose (.wrongType found expected) cs)
    let wrongNumber : Except Fault (Number × List Char) → Except Fault (α × List Char)
      | .ok (.natural n, cs) => wrong (.integer n.toNat) cs
      | .ok (.negative n, cs) => wrong (.integer (-(n.toNat : Int))) cs
      | .ok (.real x, cs) => wrong (.real x) cs
      | .error fault => .error fault
    if c = 'n' then (readWord ['u', 'l', 'l'] rest).bind (wrong .null)
    else if c = 't' then (readWord ['r', 'u', 'e'] rest).bind (wrong (.boolean true))
    else if c = 'f' then (readWord ['a', 'l', 's', 'e'] rest).bind (wrong (.boolean false))
    else if c = '-' then wrongNumber (readNumber false rest)
    else if c.isDigit then wrongNumber (readNumber true cs)
    else if c = '"' then (readString rest).bind fun p => wrong (.string p.1) p.2
    else if c = '[' then wrong .sequence cs
    else if c = '{' then wrong .map cs
    else .error (.next .expectedValue cs)

/-- Reads a text where that is what is expected. -/
def readTextAs (expected : String) : Reader String := placed fun cs =>
  match skipBlanks cs with
  | [] => .error (.next .endInValue [])
  | c :: rest => if c = '"' then readString rest else readWrong expected (c :: rest)

def readStringField : Reader String := readTextAs "a string"

/-- Reads a natural number of sixty-four bits. -/
def readNaturalField : Reader UInt64 := placed fun cs =>
  let expected := "u64"
  let check : Except Fault (Number × List Char) → Except Fault (UInt64 × List Char)
    | .ok (.natural n, cs) => .ok (n, cs)
    | .ok (.negative n, cs) => .error (.loose (.wrongValue (.integer (-(n.toNat : Int))) expected) cs)
    | .ok (.real x, cs) => .error (.loose (.wrongType (.real x) expected) cs)
    | .error fault => .error fault
  match skipBlanks cs with
  | [] => .error (.next .endInValue [])
  | c :: rest =>
    if c = '-' then check (readNumber false rest)
    else if c.isDigit then check (readNumber true (c :: rest))
    else readWrong expected (c :: rest)

/-- Reads null as nothing, and anything else by the given reader. -/
def readOptional {α : Type} (reader : Reader α) : Reader (Option α) := fun cs =>
  match skipBlanks cs with
  | 'n' :: rest => (readWord ['u', 'l', 'l'] rest).map fun cs => (none, cs)
  | cs => (reader cs).map fun p => (some p.1, p.2)

def readArrayEnd (cs : List Char) : Except Fault (List Char) :=
  match skipBlanks cs with
  | [] => .error (.next .endInArray [])
  | c :: rest =>
    if c = ']' then .ok rest
    else if c = ',' then
      match skipBlanks rest with
      | ']' :: after => .error (.next .trailingComma (']' :: after))
      | rest => .error (.next .trailingCharacters rest)
    else .error (.next .trailingCharacters (c :: rest))

/-- How far the end of an array is read to place a mismatch inside it. -/
def settleArray (cs : List Char) : List Char :=
  match skipBlanks cs with
  | ']' :: rest => rest
  | ',' :: rest => skipBlanks rest
  | cs => cs

/-- How far the end of an object is read to place a mismatch inside it. -/
def settleObject (cs : List Char) : List Char :=
  match skipBlanks cs with
  | '}' :: rest => rest
  | cs => cs

/-- Reads an array of texts. -/
def readStringsField : Reader (List String) := placed fun cs =>
  match skipBlanks cs with
  | [] => .error (.next .endInValue [])
  | c :: rest =>
    if c = '[' then readItems readStringField (rest.length + 1) true rest
    else readWrong "a sequence" (c :: rest)

/-- Reads a name that stands alone or as the only key of an object, with null below it. -/
def readName : Reader String := fun cs =>
  match skipBlanks cs with
  | '{' :: rest => do
    let (name, cs) ← readStringField rest
    let cs ← readColon cs
    let cs ← readWord ['n', 'u', 'l', 'l'] (skipBlanks cs)
    match skipBlanks cs with
    | '}' :: rest => .ok (name, rest)
    | cs => .error (.next .expectedValue cs)
  | cs => readStringField cs

/-! ### Members -/

def readObjectBy {σ : Type} (start : σ) (member : σ → String → Reader σ) : Reader σ := fun cs =>
  match skipBlanks cs with
  | '{' :: rest => do
    let (s, cs) ← readMembers member (rest.length + 1) true start rest
    .ok (s, cs.tail)
  | cs => .error (.next .expectedValue cs)

/-- Reads the members of an object in their order, also several of one key. The values may be nested to
the given depth. -/
def readMemberList (depth : Nat) : Reader (List (String × Value)) :=
  readObjectBy [] fun members key cs => do
    let cs ← readColon cs
    let (v, cs) ← readValue depth cs
    .ok (members ++ [(key, v)], cs)

/-- Reads the members of an object in their order, with their values as they are written. -/
def readWrittenMembers (depth : Nat) : Reader (List (String × List Char)) :=
  readObjectBy [] fun members key cs => do
    let cs ← readColon cs
    let (_, rest) ← readValue depth cs
    .ok (members ++ [(key, cs.take (cs.length - rest.length))], rest)

/-! ### Records -/

/-- How one field is read into a partly read record. -/
structure Field (σ : Type) where
  name : String
  isSet : σ → Bool
  read : σ → Reader σ

/-- How a record is read: its fields in order, the record before any of them is read, and the record
they make, or the first field that is missing and has no default. -/
structure Shape (σ α : Type) where
  expected : String
  fields : List (Field σ)
  start : σ
  finish : σ → Except String α

namespace Shape

variable {σ α : Type}

/-- Reads the member of a key: a known field once, anything else not at all. -/
def readMember (shape : Shape σ α) (s : σ) (key : String) : Reader σ := fun cs =>
  match shape.fields.find? (·.name == key) with
  | some field =>
    if field.isSet s then .error (.loose (.duplicateField key) cs)
    else (readColon cs).bind (field.read s)
  | none => do
    let cs ← readColon cs
    let cs ← skipValue cs
    .ok (s, cs)

def tooShort (shape : Shape σ α) (count : Nat) : Mismatch :=
  let total := shape.fields.length
  .wrongLength count <|
    shape.expected ++ " with " ++ String.ofList (Text.decimal total) ++
      (if total = 1 then " element" else " elements")

/-- Reads fields from the items of an array until it ends or all are read. Gives how many it had. -/
def readPositions : List (Field σ) → (count : Nat) → σ → List Char →
    Except Fault ((σ × Nat) × List Char)
  | [], count, s, cs => .ok ((s, count), cs)
  | field :: fields, count, s, cs =>
    match skipBlanks cs with
    | [] => .error (.next .endInArray [])
    | c :: rest =>
      if c = ']' then .ok ((s, count), c :: rest)
      else if count = 0 then do
        let (s, cs) ← field.read s (c :: rest)
        readPositions fields (count + 1) s cs
      else if c = ',' then
        match skipBlanks rest with
        | [] => .error (.next .endInValue [])
        | d :: rest =>
          if d = ']' then .error (.next .trailingComma (d :: rest))
          else do
            let (s, cs) ← field.read s (d :: rest)
            readPositions fields (count + 1) s cs
      else .error (.next .expectedCommaOrBracket (c :: rest))

/-- Reads the record from an array after its opening bracket. -/
def readArray (shape : Shape σ α) (cs : List Char) : Except Fault (α × List Char) := do
  let body : Except Fault (α × List Char) := do
    let ((s, count), cs) ← readPositions shape.fields 0 shape.start cs
    match shape.finish s with
    | .ok x => .ok (x, cs)
    | .error missing =>
      let index := shape.fields.findIdx (·.name == missing)
      .error (.loose (shape.tooShort (max index count)) cs)
  let (x, cs) ← body.mapError (Fault.place settleArray)
  let cs ← readArrayEnd cs
  .ok (x, cs)

/-- Reads the record from an object after its opening brace. -/
def readObject (shape : Shape σ α) (cs : List Char) : Except Fault (α × List Char) := do
  let body : Except Fault (α × List Char) := do
    let (s, cs) ← readMembers shape.readMember (cs.length + 1) true shape.start cs
    match shape.finish s with
    | .ok x => .ok (x, cs)
    | .error missing => .error (.loose (.missingField missing) cs)
  let (x, cs) ← body.mapError (Fault.place settleObject)
  .ok (x, cs.tail)

def read (shape : Shape σ α) : Reader α := fun cs =>
  match skipBlanks cs with
  | [] => .error (.next .endInValue [])
  | c :: rest =>
    if c = '[' then shape.readArray rest
    else if c = '{' then shape.readObject rest
    else (readWrong shape.expected (c :: rest)).mapError (Fault.place id)

end Shape

end EventGateway.Json
