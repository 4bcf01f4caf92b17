import EventGateway.Decimal.Shortest
import EventGateway.Json.Value

/-!
# JSON texts

A value is written without blanks. Binary numbers are written with their shortest digits, in place
notation from `10 ^ -5` up to `10 ^ 16` and with an exponent elsewhere. In a text only quotes,
backslashes and control characters are escaped.
-/

namespace EventGateway.Json

open Decimal

/-! ### Numbers -/

def exponentChars (e : Int) : List Char :=
  'e' :: (if e < 0 then '-' else '+') :: Text.decimal e.natAbs

/-- Shortest digits laid out as a number with a fraction or an exponent. -/
def digitsChars (d : Digits) : List Char :=
  let digits := Text.decimal d.digits
  let width : Int := digits.length
  if -5 < d.point ∧ d.point ≤ 16 then
    if d.point ≤ 0 then
      ['0', '.'] ++ List.replicate (-d.point).toNat '0' ++ digits
    else if d.point < width then
      digits.take d.point.toNat ++ '.' :: digits.drop d.point.toNat
    else
      digits ++ List.replicate (d.point - width).toNat '0' ++ ['.', '0']
  else
    match digits with
    | [] => []
    | [c] => c :: exponentChars (d.point - 1)
    | c :: rest => c :: '.' :: rest ++ exponentChars (d.point - 1)

/-- The text of a binary number. -/
def binaryChars (x : Binary64) : List Char :=
  let sign := if x.negative then ['-'] else []
  if x.isZero then sign ++ ['0', '.', '0'] else sign ++ digitsChars x.shortest

def Number.chars : Number → List Char
  | .natural n => Text.decimal n.toNat
  | .negative n => '-' :: Text.decimal n.toNat
  | .real x => binaryChars x

/-! ### Texts -/

/-- One character inside quotes. -/
def escapedChar (c : Char) : List Char :=
  if c = '"' then ['\\', '"']
  else if c = '\\' then ['\\', '\\']
  else if c = '\x08' then ['\\', 'b']
  else if c = '\x0c' then ['\\', 'f']
  else if c = '\n' then ['\\', 'n']
  else if c = '\r' then ['\\', 'r']
  else if c = '\t' then ['\\', 't']
  else if c.toNat < 0x20 then
    ['\\', 'u', '0', '0', Nat.digitChar (c.toNat / 16), Nat.digitChar (c.toNat % 16)]
  else [c]

/-- A text between quotes. -/
def stringChars (s : String) : List Char :=
  '"' :: s.toList.flatMap escapedChar ++ ['"']

/-! ### Values -/

mutual
def Value.chars : Value → List Char
  | .null => ['n', 'u', 'l', 'l']
  | .bool true => ['t', 'r', 'u', 'e']
  | .bool false => ['f', 'a', 'l', 's', 'e']
  | .number n => n.chars
  | .string s => stringChars s
  | .array [] => ['[', ']']
  | .array (v :: vs) => '[' :: v.chars ++ itemsChars vs
  | .object [] => ['{', '}']
  | .object ((k, v) :: ms) => '{' :: stringChars k ++ ':' :: v.chars ++ membersChars ms

/-- The items after the first one and the end of the array. -/
def itemsChars : List Value → List Char
  | [] => [']']
  | v :: vs => ',' :: v.chars ++ itemsChars vs

/-- The members after the first one and the end of the object. -/
def membersChars : List (String × Value) → List Char
  | [] => ['}']
  | (k, v) :: ms => ',' :: stringChars k ++ ':' :: v.chars ++ membersChars ms
end

def Value.render (v : Value) : String := String.ofList v.chars

/-- A text between quotes. -/
def quote (s : String) : String := String.ofList (stringChars s)

end EventGateway.Json
