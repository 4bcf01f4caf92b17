/-!
# Texts as bytes

The bytes of a text, and the text of bytes. Bytes that encode nothing can be refused or replaced: each
longest beginning of a character that is not gone on with, and each byte that begins none, becomes one
replacement character.
-/

namespace EventGateway.Text

/-- The bytes of a text. -/
def utf8 (cs : List Char) : List UInt8 :=
  (String.ofList cs).toUTF8.data.toList

/-- The text of a row of bytes, if it is one. -/
def ofUtf8? (bytes : List UInt8) : Option (List Char) :=
  (String.fromUTF8? ⟨bytes.toArray⟩).map String.toList

/-! ### Replacing what encodes nothing -/

/-- A character whose first bytes have been read. -/
structure PartialChar where
  /-- The bits read so far. -/
  bits : Nat
  /-- How many bytes are missing. -/
  missing : Nat
  /-- The least value of the next byte. -/
  low : UInt8 := 0x80
  /-- The greatest value of the next byte. -/
  high : UInt8 := 0xbf

/-- The character that a byte begins. The ranges of the second byte keep out what a shorter encoding
has, surrogates and what is beyond the last code point. -/
def PartialChar.begin? (b : UInt8) : Option PartialChar :=
  if 0xc2 ≤ b ∧ b ≤ 0xdf then some { bits := b.toNat % 32, missing := 1 }
  else if b = 0xe0 then some { bits := 0, missing := 2, low := 0xa0 }
  else if b = 0xed then some { bits := 13, missing := 2, high := 0x9f }
  else if 0xe1 ≤ b ∧ b ≤ 0xef then some { bits := b.toNat % 16, missing := 2 }
  else if b = 0xf0 then some { bits := 0, missing := 3, low := 0x90 }
  else if 0xf1 ≤ b ∧ b ≤ 0xf3 then some { bits := b.toNat % 8, missing := 3 }
  else if b = 0xf4 then some { bits := 4, missing := 3, high := 0x8f }
  else none

/-- What stands for bytes that encode nothing. -/
def replacement : Char := '\ufffd'

/-- What a byte after a whole character gives: characters, and a character that is begun. -/
def firstByte (b : UInt8) : List Char × Option PartialChar :=
  if b < 0x80 then ([Char.ofNat b.toNat], none)
  else
    match PartialChar.begin? b with
    | some p => ([], some p)
    | none => ([replacement], none)

/-- What a byte after the beginning of a character gives. -/
def PartialChar.nextByte (p : PartialChar) (b : UInt8) : List Char × Option PartialChar :=
  if p.low ≤ b ∧ b ≤ p.high then
    let bits := p.bits * 64 + b.toNat % 64
    if p.missing ≤ 1 then ([Char.ofNat bits], none)
    else ([], some { bits, missing := p.missing - 1 })
  else
    let (cs, begun) := firstByte b
    (replacement :: cs, begun)

/-- Reads bytes, possibly after the beginning of a character. -/
def readBytes : Option PartialChar → List UInt8 → List Char
  | none, [] => []
  | some _, [] => [replacement]
  | begun, b :: rest =>
    let (cs, begun) := begun.elim (firstByte b) fun p => p.nextByte b
    cs ++ readBytes begun rest

/-- The text of a row of bytes, what encodes nothing being replaced. -/
def ofUtf8Replacing (bytes : List UInt8) : List Char := readBytes none bytes

end EventGateway.Text
