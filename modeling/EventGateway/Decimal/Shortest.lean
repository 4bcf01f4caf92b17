import EventGateway.Decimal.Binary64
import EventGateway.Text.Numeral

/-!
# Shortest decimal digits

The shortest digits of a number are the fewest that read back as it, and of those the nearest to
it. The reals that round to a number form an interval around it, with its ends if the significand
is even; on the grid of each decimal width the two neighbours of the number are tried.
-/

namespace EventGateway.Decimal

/-- The decimal number `0.d₁d₂… * 10 ^ point`, given by its digits `d₁d₂…` as one natural number. -/
structure Digits where
  digits : Nat
  point : Int
  deriving DecidableEq, Repr

namespace Binary64

/-- Four times the half-open distances to the neighbours, in units of the last bit: one quarter
below a power of two, else one half; one half above. -/
def quarterBelow (x : Binary64) : Nat :=
  if x.significand = Nat.pow 2 52 ∧ leastExponent < x.exponent then 1 else 2

/-- Does `c * 10 ^ k` round to the positive number `x`? Both ends count if the significand is even. -/
def roundsTo (x : Binary64) (c : Nat) (k : Int) : Bool :=
  let unit := Nat.pow 2 x.exponent.toNat * Nat.pow 10 (-k).toNat
  let point := 4 * c * Nat.pow 10 k.toNat * Nat.pow 2 (-x.exponent).toNat
  let low := (4 * x.significand - x.quarterBelow) * unit
  let high := (4 * x.significand + 2) * unit
  if x.significand % 2 = 0 then low ≤ point ∧ point ≤ high else low < point ∧ point < high

/-- The greatest `p` with `10 ^ (p - 1) ≤ x`, found from an estimate by the number of bits. -/
def decimalPoint (x : Binary64) : Int :=
  let n := x.significand * Nat.pow 2 x.exponent.toNat
  let d := Nat.pow 2 (-x.exponent).toNat
  let bits : Int := (n.log2 : Int) - (d.log2 : Int)
  let p := (bits - 1) * 30103 / 100000
  let fits (p : Int) : Bool := d * Nat.pow 10 p.toNat ≤ n * Nat.pow 10 (-p).toNat
  if fits (p + 2) then p + 3 else if fits (p + 1) then p + 2 else if fits p then p + 1 else p

/-- The nearer neighbour on the grid of `10 ^ k` that rounds to `x`, if one does; of two equally
near the even one. -/
def onGrid? (x : Binary64) (k : Int) : Option Nat :=
  let n := x.significand * Nat.pow 2 x.exponent.toNat * Nat.pow 10 (-k).toNat
  let d := Nat.pow 2 (-x.exponent).toNat * Nat.pow 10 k.toNat
  let c := n / d
  let nearest := roundQuotient n d
  let other := if nearest = c then c + 1 else c
  if x.roundsTo nearest k then some nearest
  else if x.roundsTo other k then some other
  else none

def searchWidths (x : Binary64) (point : Int) : (fuel width : Nat) → Option (Nat × Int)
  | 0, _ => none
  | fuel + 1, width =>
    match x.onGrid? (point - width) with
    | some c => some (c, point - width)
    | none => x.searchWidths point fuel (width + 1)

def dropZeros : Nat → Nat → Int → Nat × Int
  | 0, c, k => (c, k)
  | fuel + 1, c, k => if c % 10 = 0 ∧ c ≠ 0 then dropZeros fuel (c / 10) (k + 1) else (c, k)

/-- The shortest digits of a positive number; seventeen always suffice. -/
def shortest (x : Binary64) : Digits :=
  let (c, k) := (x.searchWidths x.decimalPoint 17 1).getD (0, 0)
  let (c, k) := dropZeros 17 c k
  ⟨c, k + (Text.decimal c).length⟩

end Binary64

end EventGateway.Decimal
