import EventGateway.Text.Numeral

/-!
# Addresses

Addresses of the two families and their written forms: four decimal octets without leading zeros, or
up to eight hexadecimal groups, one run of zero groups left out, the last two groups possibly written
as an address of the first family.
-/

namespace EventGateway.Net

/-- An address of either family. -/
inductive Address where
  | v4 (bits : BitVec 32)
  | v6 (bits : BitVec 128)
  deriving DecidableEq, Repr

/-- Reads a number of at least one and at most `most` digits; one that begins with a zero has no other
digit unless leading zeros are allowed. -/
def readDigitRun (digit? : Char → Option Nat) (base most : Nat) (leadingZeros : Bool)
    (cs : List Char) : Option (Nat × List Char) :=
  let run := cs.takeWhile fun c => (digit? c).isSome
  let value := run.foldl (fun n c => n * base + (digit? c).getD 0) 0
  if run.isEmpty ∨ most < run.length then none
  else if !leadingZeros ∧ run.head? = some '0' ∧ run.length ≠ 1 then none
  else some (value, cs.drop run.length)

def decimalDigit? (c : Char) : Option Nat :=
  if c.isDigit then some (Text.digitValue c) else none

def readOctet (cs : List Char) : Option (Nat × List Char) :=
  (readDigitRun decimalDigit? 10 3 false cs).filter fun p => p.1 < 256

/-- Reads a given character. -/
def readChar (c : Char) : List Char → Option (List Char)
  | d :: cs => if d = c then some cs else none
  | [] => none

/-- Reads the four octets of an address of the first family as one number. -/
def readV4 (cs : List Char) : Option (Nat × List Char) := do
  let (a, cs) ← readOctet cs
  let (b, cs) ← readOctet (← readChar '.' cs)
  let (c, cs) ← readOctet (← readChar '.' cs)
  let (d, cs) ← readOctet (← readChar '.' cs)
  some (((a * 256 + b) * 256 + c) * 256 + d, cs)

/-- Groups read from the front of a text. -/
structure Groups where
  groups : List Nat
  /-- Do the last two groups come from an address of the first family? -/
  embedded : Bool
  rest : List Char

/-- Reads at most `room` groups separated by colons, as many as there are. -/
def readGroups : (room : Nat) → (first : Bool) → List Char → Groups
  | 0, _, cs => ⟨[], false, cs⟩
  | room + 1, first, cs =>
    let start := if first then some cs else readChar ':' cs
    match if room = 0 then none else start.bind readV4 with
    | some (n, rest) => ⟨[n / 65536, n % 65536], true, rest⟩
    | none =>
      match start.bind (readDigitRun Text.hexValue? 16 4 true) with
      | some (n, rest) =>
        let more := readGroups room false rest
        { more with groups := n :: more.groups }
      | none => ⟨[], false, cs⟩

/-- The number of eight groups. -/
def joinGroups (groups : List Nat) : Nat :=
  groups.foldl (fun n g => n * 65536 + g) 0

/-- Reads an address of the second family. -/
def readV6 (cs : List Char) : Option (Nat × List Char) :=
  let head := readGroups 8 true cs
  if head.groups.length = 8 then some (joinGroups head.groups, head.rest)
  else if head.embedded then none
  else do
    let rest ← readChar ':' (← readChar ':' head.rest)
    let tail := readGroups (7 - head.groups.length) true rest
    let zeros := List.replicate (8 - head.groups.length - tail.groups.length) 0
    some (joinGroups (head.groups ++ zeros ++ tail.groups), tail.rest)

namespace Address

def ofText? (cs : List Char) : Option Address :=
  match readV4 cs with
  | some (n, rest) => if rest.isEmpty then some (.v4 (BitVec.ofNat 32 n)) else none
  | none =>
    match readV6 cs with
    | some (n, rest) => if rest.isEmpty then some (.v6 (BitVec.ofNat 128 n)) else none
    | none => none

/-- The number that marks the mapped form of an address of the first family. -/
def mappedMark : BitVec 128 := 0xffff

/-- An address of the first family in its mapped form is that address. -/
def unmap : Address → Address
  | .v4 a => .v4 a
  | .v6 a => if a >>> 32 = mappedMark then .v4 (a.truncate 32) else .v6 a

end Address

end EventGateway.Net
