import EventGateway.Text.Numeral
import EventGateway.Text.Utf8

/-!
# Percent escapes

In the parts of a URL a percent sign and two hexadecimal digits stand for a byte. Any other percent
sign stands for itself, as all other characters do.
-/

namespace EventGateway.Text

/-- The byte that a percent sign and two digits stand for. -/
def escapedByte? (mark high low : Char) : Option UInt8 :=
  if mark = '%' then
    match hexValue? high, hexValue? low with
    | some high, some low => some (UInt8.ofNat (high * 16 + low))
    | _, _ => none
  else none

/-- The bytes that a part of a URL stands for. -/
def percentDecode : List Char → List UInt8
  | [] => []
  | [c] => utf8 [c]
  | [c, d] => utf8 [c, d]
  | c :: d :: e :: rest =>
    match escapedByte? c d e with
    | some byte => byte :: percentDecode rest
    | none => utf8 [c] ++ percentDecode (d :: e :: rest)

/-- The text that a name or value in a query stands for: a plus sign is a space, and what encodes
nothing is replaced. -/
def queryDecode (cs : List Char) : List Char :=
  ofUtf8Replacing (percentDecode (cs.map fun c => if c = '+' then ' ' else c))

/-- The names and values of a query, in their order. -/
def queryPairs (query : List Char) : List (List Char × List Char) :=
  ((query.splitOn '&').filter (!·.isEmpty)).map fun pair =>
    (queryDecode (pair.takeWhile (· ≠ '=')), queryDecode ((pair.dropWhile (· ≠ '=')).drop 1))

end EventGateway.Text
