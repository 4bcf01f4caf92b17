import EventGateway.Json.Lexis

/-!
# Reading JSON values

Readers of arrays, objects and whole values, and the passing over of a value that nobody looks at.
Values that are kept nest at most `nestingLimit - 1` deep; values that are passed over nest freely.
-/

namespace EventGateway.Json

/-- A container that would be nested this deep is refused. -/
def nestingLimit : Nat := 128

/-! ### Arrays and objects -/

/-- Reads the items of an array up to and with its end, at most `fuel` of them. -/
def readItems {α : Type} (item : Reader α) : (fuel : Nat) → (first : Bool) → Reader (List α)
  | 0, _, cs => .error (.next .endInArray cs)
  | fuel + 1, first, cs =>
    match skipBlanks cs with
    | [] => .error (.next .endInArray [])
    | c :: rest =>
      if c = ']' then .ok ([], rest)
      else if first then do
        let (x, cs) ← item (c :: rest)
        let (xs, cs) ← readItems item fuel false cs
        .ok (x :: xs, cs)
      else if c = ',' then
        match skipBlanks rest with
        | [] => .error (.next .endInValue [])
        | d :: rest =>
          if d = ']' then .error (.next .trailingComma (d :: rest))
          else do
            let (x, cs) ← item (d :: rest)
            let (xs, cs) ← readItems item fuel false cs
            .ok (x :: xs, cs)
      else .error (.next .expectedCommaOrBracket (c :: rest))

def readColon (cs : List Char) : Except Fault (List Char) :=
  match skipBlanks cs with
  | [] => .error (.next .endInObject [])
  | c :: rest => if c = ':' then .ok rest else .error (.next .expectedColon (c :: rest))

/-- Reads the members of an object up to its end, which stays, at most `fuel` of them. A member is
read from just after its key, into what the earlier ones gave. -/
def readMembers {σ : Type} (member : σ → String → Reader σ) :
    (fuel : Nat) → (first : Bool) → σ → Reader σ
  | 0, _, _, cs => .error (.next .endInObject cs)
  | fuel + 1, first, s, cs =>
    match skipBlanks cs with
    | [] => .error (.next .endInObject [])
    | c :: rest =>
      if c = '}' then .ok (s, c :: rest)
      else if first then
        if c = '"' then do
          let (key, cs) ← readString rest
          let (s, cs) ← member s key cs
          readMembers member fuel false s cs
        else .error (.next .keyNotString (c :: rest))
      else if c = ',' then
        match skipBlanks rest with
        | [] => .error (.next .endInValue [])
        | d :: rest =>
          if d = '"' then do
            let (key, cs) ← readString rest
            let (s, cs) ← member s key cs
            readMembers member fuel false s cs
          else if d = '}' then .error (.next .trailingComma (d :: rest))
          else .error (.next .keyNotString (d :: rest))
      else .error (.next .expectedCommaOrBrace (c :: rest))

/-! ### Values -/

/-- Reads a value that may hold `depth` levels of containers. An object need not be one of members: it is
read by `special` from behind its opening brace where that reads it. -/
def readValueBy (special : List Char → Option (Except Fault (Value × List Char))) :
    (depth : Nat) → Reader Value
  | depth, cs =>
    match skipBlanks cs with
    | [] => .error (.next .endInValue [])
    | c :: rest =>
      if c = 'n' then (readWord ['u', 'l', 'l'] rest).map fun cs => (.null, cs)
      else if c = 't' then (readWord ['r', 'u', 'e'] rest).map fun cs => (.bool true, cs)
      else if c = 'f' then (readWord ['a', 'l', 's', 'e'] rest).map fun cs => (.bool false, cs)
      else if c = '-' then (readNumber false rest).map fun p => (.number p.1, p.2)
      else if c.isDigit then (readNumber true (c :: rest)).map fun p => (.number p.1, p.2)
      else if c = '"' then (readString rest).map fun p => (.string p.1, p.2)
      else if c = '[' then
        match depth with
        | 0 => .error (.next .tooDeep (c :: rest))
        | depth + 1 =>
          (readItems (readValueBy special depth) (rest.length + 1) true rest).map fun p =>
            (.array p.1, p.2)
      else if c = '{' then
        match depth with
        | 0 => .error (.next .tooDeep (c :: rest))
        | depth + 1 =>
          match special rest with
          | some result => result
          | none => do
            let member (members : List (String × Value)) (key : String) : Reader _ := fun cs => do
              let cs ← readColon cs
              let (v, cs) ← readValueBy special depth cs
              .ok (insertMember key v members, cs)
            let (members, cs) ← readMembers member (rest.length + 1) true [] rest
            .ok (.object members, cs.tail)
      else .error (.next .expectedValue (c :: rest))

/-- Reads a value as it is written. -/
def readValue (depth : Nat) : Reader Value := readValueBy (fun _ => none) depth

/-! ### Passing over a value -/

/-- Passes over the items of an array and its end. -/
def skipItems (item : List Char → Except Fault (List Char)) :
    (fuel : Nat) → List Char → Except Fault (List Char)
  | 0, cs => .error (.next .endInArray cs)
  | fuel + 1, cs => do
    let cs ← item cs
    match skipBlanks cs with
    | [] => .error (.next .endInArray [])
    | c :: rest =>
      if c = ',' then skipItems item fuel rest
      else if c = ']' then .ok rest
      else .error (.next .expectedCommaOrBracket (c :: rest))

/-- Passes over the members of an object and its end. -/
def skipMembers (item : List Char → Except Fault (List Char)) :
    (fuel : Nat) → List Char → Except Fault (List Char)
  | 0, cs => .error (.next .endInObject cs)
  | fuel + 1, cs =>
    match skipBlanks cs with
    | [] => .error (.next .endInObject [])
    | c :: rest =>
      if c ≠ '"' then .error (.next .keyNotString (c :: rest))
      else do
        let cs ← skipString rest
        let cs ← readColon cs
        let cs ← item cs
        match skipBlanks cs with
        | [] => .error (.next .endInObject [])
        | c :: rest =>
          if c = ',' then skipMembers item fuel rest
          else if c = '}' then .ok rest
          else .error (.next .expectedCommaOrBrace (c :: rest))

/-- Passes over a value that nests at most `fuel` deep. -/
def skipNested : (fuel : Nat) → List Char → Except Fault (List Char)
  | fuel, cs =>
    match skipBlanks cs with
    | [] => .error (.next .endInValue [])
    | c :: rest =>
      if c = 'n' then readWord ['u', 'l', 'l'] rest
      else if c = 't' then readWord ['r', 'u', 'e'] rest
      else if c = 'f' then readWord ['a', 'l', 's', 'e'] rest
      else if c = '-' then skipNumber rest
      else if c.isDigit then skipNumber (c :: rest)
      else if c = '"' then skipString rest
      else if c = '[' then
        match fuel with
        | 0 => .error (.next .tooDeep (c :: rest))
        | fuel + 1 =>
          match skipBlanks rest with
          | [] => .error (.next .endInArray [])
          | d :: after =>
            if d = ']' then .ok after else skipItems (skipNested fuel) (rest.length + 1) rest
      else if c = '{' then
        match fuel with
        | 0 => .error (.next .tooDeep (c :: rest))
        | fuel + 1 =>
          match skipBlanks rest with
          | [] => .error (.next .endInObject [])
          | d :: after =>
            if d = '}' then .ok after else skipMembers (skipNested fuel) (rest.length + 1) rest
      else .error (.next .expectedValue (c :: rest))

/-- Passes over a value of any depth; a text nests no deeper than it is long. -/
def skipValue (cs : List Char) : Except Fault (List Char) :=
  skipNested cs.length cs

/-- Reads a value as the text it is written in, without the blanks around it. -/
def readVerbatim (cs : List Char) : Except Fault (List Char × List Char) := do
  let cs := skipBlanks cs
  let rest ← skipValue cs
  .ok (cs.take (cs.length - rest.length), rest)

/-! ### Whole texts -/

/-- Nothing but blanks is left. -/
def readEnd (cs : List Char) : Except Fault Unit :=
  match skipBlanks cs with
  | [] => .ok ()
  | c :: rest => .error (.next .trailingCharacters (c :: rest))

def readWhole {α : Type} (reader : Reader α) (cs : List Char) : Except Fault α := do
  let (x, cs) ← reader cs
  readEnd cs
  .ok x

/-- Reads a whole text, giving a fault its line and column. -/
def readText {α : Type} (reader : Reader α) (text : String) : Except TextFault α :=
  (readWhole reader text.toList).mapError (Fault.locate text.toList)

def parse (text : String) : Except TextFault Value :=
  readText (readValue (nestingLimit - 1)) text

end EventGateway.Json
