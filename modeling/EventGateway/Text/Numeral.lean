/-!
# Decimal and hexadecimal numerals

Writing natural numbers, and reading the unsigned and signed decimal numerals of settings.
-/

namespace EventGateway.Text

/-- The decimal numeral of `n`, without leading zeros. -/
def decimal (n : Nat) : List Char :=
  Nat.toDigits 10 n

def signedDecimal : Int → List Char
  | .ofNat n => decimal n
  | .negSucc n => '-' :: decimal (n + 1)

/-- The number that a digit stands for. -/
def digitValue (c : Char) : Nat :=
  c.toNat - '0'.toNat

/-- The number that a row of decimal digits stands for. -/
def ofDigits (digits : List Char) : Nat :=
  digits.foldl (fun n c => 10 * n + digitValue c) 0

/-- Reads a nonempty row of digits below `limit`. -/
def digitsBelow? (limit : Nat) (digits : List Char) : Option Nat :=
  if digits.isEmpty || !digits.all Char.isDigit then none
  else if ofDigits digits < limit then some (ofDigits digits) else none

/-- Reads an unsigned numeral below `limit`; a plus sign and leading zeros are allowed. -/
def unsigned? (limit : Nat) : List Char → Option Nat
  | '+' :: digits => digitsBelow? limit digits
  | digits => digitsBelow? limit digits

/-- Reads a signed numeral from `-limit` up to and without `limit`. -/
def signed? (limit : Nat) : List Char → Option Int
  | '-' :: digits => (digitsBelow? (limit + 1) digits).map fun n => -(n : Int)
  | digits => (unsigned? limit digits).map Int.ofNat

/-- The value of a hexadecimal digit of either case. -/
def hexValue? (c : Char) : Option Nat :=
  if c.isDigit then some (digitValue c)
  else if 'a' ≤ c ∧ c ≤ 'f' then some (c.toNat - 'a'.toNat + 10)
  else if 'A' ≤ c ∧ c ≤ 'F' then some (c.toNat - 'A'.toNat + 10)
  else none

/-- The hexadecimal numeral of `n` in small letters, without leading zeros. -/
def hexadecimal (n : Nat) : List Char :=
  Nat.toDigits 16 n

end EventGateway.Text
