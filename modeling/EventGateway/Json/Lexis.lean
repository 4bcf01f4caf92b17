import EventGateway.Json.Fault

/-!
# Words, texts and numbers of JSON

The readers of what has no parts. Each takes what is left of a text and gives a result with what is
left after it, or the fault that ended the reading. A text or number that is only passed over obeys
looser rules than one that is kept: its escapes are not joined to characters and it has no range.
-/

namespace EventGateway.Json

open Decimal

abbrev Reader (α : Type) := List Char → Except Fault (α × List Char)

/-! ### Blanks and words -/

/-- Is the character a blank between the parts of a text? -/
def isBlank (c : Char) : Bool :=
  c == ' ' || c == '\n' || c == '\t' || c == '\r'

/-- Drops the blanks at the front. -/
def skipBlanks (cs : List Char) : List Char :=
  cs.dropWhile isBlank

def readWord : List Char → List Char → Except Fault (List Char)
  | [], cs => .ok cs
  | _ :: _, [] => .error (.here .endInValue [])
  | w :: ws, c :: cs => if c = w then readWord ws cs else .error (.after .expectedWord (c :: cs))

/-! ### Texts -/

/-- The fault of an escape whose four bytes are not all there or are not hexadecimal digits. -/
def hexFault (cs : List Char) : Fault :=
  if byteLength cs < 4 then .here .endInString [] else .at (.grammar .invalidEscape) ⟨cs, 4⟩

/-- Reads the four hexadecimal digits of an escape. -/
def readHex (cs : List Char) : Except Fault (Nat × List Char) :=
  match cs with
  | a :: b :: c :: d :: rest =>
    match Text.hexValue? a, Text.hexValue? b, Text.hexValue? c, Text.hexValue? d with
    | some a, some b, some c, some d => .ok (((a * 16 + b) * 16 + c) * 16 + d, rest)
    | _, _, _, _ => .error (hexFault cs)
  | _ => .error (hexFault cs)

/-- Reads one given character inside an escape; at any other the escape ends too early. -/
def expectInEscape (expected : Char) : List Char → Except Fault (List Char)
  | [] => .error (.here .endInString [])
  | c :: cs => if c = expected then .ok cs else .error (.after .endOfHexEscape (c :: cs))

/-- Is the number the first half of a character outside the basic plane? -/
def isLeading (n : Nat) : Bool := 0xd800 ≤ n && n ≤ 0xdbff

/-- Is the number the second half of a character outside the basic plane? -/
def isTrailing (n : Nat) : Bool := 0xdc00 ≤ n && n ≤ 0xdfff

/-- Reads the digits of an escape and, after a first half, the escape of the second one. -/
def readCodePoint (cs : List Char) : Except Fault (Char × List Char) := do
  let (n, cs) ← readHex cs
  if isTrailing n then
    .error (.here .loneSurrogate cs)
  else if isLeading n then
    let cs ← expectInEscape '\\' cs
    let cs ← expectInEscape 'u' cs
    let (m, cs) ← readHex cs
    if isTrailing m then
      .ok (Char.ofNat ((n - 0xd800) * 0x400 + (m - 0xdc00) + 0x10000), cs)
    else .error (.here .loneSurrogate cs)
  else .ok (Char.ofNat n, cs)

/-- The character that a letter after a backslash stands for. -/
def simpleEscape? : Char → Option Char
  | '"' => some '"'
  | '\\' => some '\\'
  | '/' => some '/'
  | 'b' => some '\x08'
  | 'f' => some '\x0c'
  | 'n' => some '\n'
  | 'r' => some '\r'
  | 't' => some '\t'
  | _ => none

/-- Reads what follows a backslash. -/
def readEscape : Reader Char
  | [] => .error (.here .endInString [])
  | c :: cs =>
    match simpleEscape? c with
    | some e => .ok (e, cs)
    | none => if c = 'u' then readCodePoint cs else .error (.after .invalidEscape (c :: cs))

/-- Reads the characters of a text up to the closing quote, at most `fuel` of them. -/
def readChars : Nat → Reader (List Char)
  | 0, cs => .error (.here .endInString cs)
  | _ + 1, [] => .error (.here .endInString [])
  | fuel + 1, c :: cs =>
    if c = '"' then .ok ([], cs)
    else if c = '\\' then do
      let (e, cs) ← readEscape cs
      let (es, cs) ← readChars fuel cs
      .ok (e :: es, cs)
    else if c.toNat < 0x20 then .error (.after .controlCharacter (c :: cs))
    else do
      let (es, cs) ← readChars fuel cs
      .ok (c :: es, cs)

/-- Reads a text after its opening quote. -/
def readString (cs : List Char) : Except Fault (String × List Char) := do
  let (es, cs) ← readChars (cs.length + 1) cs
  .ok (String.ofList es, cs)

/-- Passes over what follows a backslash. -/
def skipEscape : List Char → Except Fault (List Char)
  | [] => .error (.here .endInString [])
  | c :: cs =>
    if (simpleEscape? c).isSome then .ok cs
    else if c = 'u' then (readHex cs).map Prod.snd
    else .error (.after .invalidEscape (c :: cs))

/-- Passes over the characters of a text and its closing quote, at most `fuel` of them. -/
def skipChars : Nat → List Char → Except Fault (List Char)
  | 0, cs => .error (.here .endInString cs)
  | _ + 1, [] => .error (.here .endInString [])
  | fuel + 1, c :: cs =>
    if c = '"' then .ok cs
    else if c = '\\' then (skipEscape cs).bind (skipChars fuel)
    else if c.toNat < 0x20 then .error (.here .controlCharacter (c :: cs))
    else skipChars fuel cs

/-- Passes over a text after its opening quote. -/
def skipString (cs : List Char) : Except Fault (List Char) :=
  skipChars (cs.length + 1) cs

/-! ### Numbers -/

/-- Does the text go on with a digit? -/
def startsWithDigit : List Char → Bool
  | c :: _ => c.isDigit
  | [] => false

/-- Does the text go on with the mark of an exponent? -/
def startsWithExponent : List Char → Bool
  | c :: _ => c == 'e' || c == 'E'
  | [] => false

/-- Adds digits to a significand as long as it stays below `2 ^ 64`: the significand, how many digits
were added, and what is left. -/
def readDigits (significand : Nat) : List Char → Nat × Nat × List Char
  | [] => (significand, 0, [])
  | c :: cs =>
    let n := significand * 10 + Text.digitValue c
    if c.isDigit ∧ n < Nat.pow 2 64 then
      let (m, count, rest) := readDigits n cs
      (m, count + 1, rest)
    else (significand, 0, c :: cs)

/-- Splits off the digits at the front. -/
def spanDigits (cs : List Char) : List Char × List Char :=
  (cs.takeWhile Char.isDigit, cs.dropWhile Char.isDigit)

def finishReal (positive : Bool) (significand : Nat) (exponent : Int) (cs : List Char) :
    Except Fault (Number × List Char) :=
  match Binary64.scaled? significand exponent with
  | some x => .ok (.real (if positive then x else x.negate), cs)
  | none => .error (.here .numberOutOfRange cs)

/-- The greatest exponent that is kept; a greater one makes the number zero or out of range. -/
def greatestExponent : Nat := 2147483647

/-- Reads the digits of an exponent. One above the greatest gives `none`, with what is left after the
digit that made it so. -/
def readExponentDigits (n : Nat) : List Char → Option Nat × List Char
  | [] => (some n, [])
  | c :: cs =>
    if c.isDigit then
      let n := n * 10 + Text.digitValue c
      if n ≤ greatestExponent then readExponentDigits n cs else (none, cs)
    else (some n, c :: cs)

def readExponent (positive : Bool) (significand : Nat) (start : Int) (cs : List Char) :
    Except Fault (Number × List Char) :=
  let (up, cs) := match cs with
    | '+' :: rest => (true, rest)
    | '-' :: rest => (false, rest)
    | _ => (true, cs)
  match cs with
  | [] => .error (.here .endInValue [])
  | c :: rest =>
    if c.isDigit then
      match readExponentDigits (Text.digitValue c) rest with
      | (some n, rest) =>
        finishReal positive significand (if up then start + n else start - n) rest
      | (none, rest) =>
        if up ∧ significand ≠ 0 then .error (.here .numberOutOfRange rest)
        else .ok (.real (.zero !positive), (spanDigits rest).2)
    else .error (.after .invalidNumber cs)

/-- Ends a number at an exponent, if one follows. -/
def readOptionalExponent (positive : Bool) (significand : Nat) (start : Int) (cs : List Char) :
    Except Fault (Number × List Char) :=
  if startsWithExponent cs then readExponent positive significand start cs.tail
  else finishReal positive significand start cs

/-- Reads the digits after a decimal point. Digits beyond sixty-four bits are dropped. -/
def readFraction (positive : Bool) (significand : Nat) (start : Int) (cs : List Char) :
    Except Fault (Number × List Char) :=
  let (n, count, rest) := readDigits significand cs
  if startsWithDigit rest then
    readOptionalExponent positive n (start - count) (spanDigits rest).2
  else if count = 0 then
    match rest with
    | [] => .error (.here .endInValue [])
    | _ :: _ => .error (.next .invalidNumber rest)
  else readOptionalExponent positive n (start - count) rest

/-- Reads a number after its sign. A whole number of sixty-four bits is kept as one, minus zero is
not one, and digits beyond sixty-four bits only scale the number. -/
def readNumber (positive : Bool) (cs : List Char) : Except Fault (Number × List Char) :=
  match cs with
  | [] => .error (.here .endInValue [])
  | c :: rest =>
    if !c.isDigit then .error (.after .invalidNumber cs)
    else if c = '0' ∧ startsWithDigit rest then .error (.next .invalidNumber rest)
    else
      let (n, _, rest) := readDigits (Text.digitValue c) rest
      let (dropped, rest) := spanDigits rest
      let start : Int := dropped.length
      match rest with
      | '.' :: rest => readFraction positive n start rest
      | _ =>
        if startsWithExponent rest then readExponent positive n start rest.tail
        else if !dropped.isEmpty then finishReal positive n start rest
        else if positive then .ok (.natural (UInt64.ofNat n), rest)
        else if n = 0 ∨ Nat.pow 2 63 < n then finishReal false n 0 rest
        else .ok (.negative (UInt64.ofNat n), rest)

/-- Passes over the exponent after its mark. -/
def skipExponent (cs : List Char) : Except Fault (List Char) :=
  let cs := match cs with
    | '+' :: rest => rest
    | '-' :: rest => rest
    | _ => cs
  match cs with
  | [] => .error (.here .invalidNumber [])
  | c :: rest =>
    if c.isDigit then .ok (spanDigits rest).2 else .error (.after .invalidNumber cs)

/-- Passes over an exponent, if one follows. -/
def skipOptionalExponent (cs : List Char) : Except Fault (List Char) :=
  if startsWithExponent cs then skipExponent cs.tail else .ok cs

/-- Passes over a number after its sign. -/
def skipNumber (cs : List Char) : Except Fault (List Char) :=
  match cs with
  | [] => .error (.here .invalidNumber [])
  | c :: rest =>
    if !c.isDigit then .error (.after .invalidNumber cs)
    else if c = '0' ∧ startsWithDigit rest then .error (.next .invalidNumber rest)
    else
      match (spanDigits rest).2 with
      | '.' :: rest =>
        let (digits, rest) := spanDigits rest
        if digits.isEmpty then .error (.next .invalidNumber rest) else skipOptionalExponent rest
      | rest => skipOptionalExponent rest

end EventGateway.Json
