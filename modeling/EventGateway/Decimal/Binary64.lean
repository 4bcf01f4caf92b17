/-!
# Binary numbers of fifty-three bits

A number is a sign and a significand below `2 ^ 53` scaled by a power of two. Products and
quotients are computed exactly and rounded to the nearest such number, a half to the even one.
-/

namespace EventGateway.Decimal

/-- The number `± significand * 2 ^ exponent`, with the smallest exponent that the width allows. -/
structure Binary64 where
  negative : Bool
  significand : Nat
  exponent : Int
  deriving DecidableEq, Repr, Inhabited

/-- The quotient `n / d` rounded to the nearest number, a half to the even one. -/
def roundQuotient (n d : Nat) : Nat :=
  let q := n / d
  let r := n % d
  if d < 2 * r ∨ (2 * r = d ∧ q % 2 = 1) then q + 1 else q

namespace Binary64

/-- The least exponent; below it numbers lose bits. -/
def leastExponent : Int := -1074

def greatestExponent : Int := 971

def zero (negative : Bool) : Binary64 := ⟨negative, 0, leastExponent⟩

/-- Is it a zero of either sign? -/
def isZero (x : Binary64) : Bool := x.significand == 0

/-- The same number with the other sign. -/
def negate (x : Binary64) : Binary64 := { x with negative := !x.negative }

/-- The exponent at which the positive quotient `n / d` has fifty-three bits, or the least one. -/
def exponentOf (n d : Nat) : Int :=
  let e : Int := (n.log2 : Int) - (d.log2 : Int) - 52
  let e := if n * Nat.pow 2 (-e).toNat < d * Nat.pow 2 e.toNat * Nat.pow 2 52 then e - 1 else e
  max e leastExponent

/-- The number nearest to `n / d`; none if it is too large. -/
def ofQuotient? (n d : Nat) : Option Binary64 :=
  if n = 0 then some (zero false)
  else
    let e := exponentOf n d
    let m := roundQuotient (n * Nat.pow 2 (-e).toNat) (d * Nat.pow 2 e.toNat)
    let (m, e) := if m = Nat.pow 2 53 then (Nat.pow 2 52, e + 1) else (m, e)
    if greatestExponent < e then none else some ⟨false, m, e⟩

/-- The number nearest to a natural number. -/
def ofNat? (n : Nat) : Option Binary64 := ofQuotient? n 1

/-- The product of two magnitudes; none if it is too large. -/
def mul? (x y : Binary64) : Option Binary64 :=
  let e := x.exponent + y.exponent
  ofQuotient? (x.significand * y.significand * Nat.pow 2 e.toNat) (Nat.pow 2 (-e).toNat)

/-- The quotient of two magnitudes; none if it is too large. -/
def div? (x y : Binary64) : Option Binary64 :=
  let e := x.exponent - y.exponent
  ofQuotient? (x.significand * Nat.pow 2 e.toNat) (y.significand * Nat.pow 2 (-e).toNat)

/-- The number nearest to `10 ^ k`; none if it is too large. -/
def powerOfTen? (k : Nat) : Option Binary64 := ofNat? (Nat.pow 10 k)

def greatestPower : Nat := 308

/-- Divides by `10 ^ k` in steps of the greatest power, rounding after each; zero stays zero. -/
def lower? (x : Binary64) (k : Nat) : Option Binary64 :=
  if _h : k ≤ greatestPower then (powerOfTen? k).bind x.div?
  else if x.isZero then some x
  else ((powerOfTen? greatestPower).bind x.div?).bind fun y => y.lower? (k - greatestPower)
termination_by k
decreasing_by simp only [greatestPower] at *; omega

/-- The number read for `n * 10 ^ exponent`: one rounding of `n`, then one for each scaling. A
number out of range gives none. -/
def scaled? (n : Nat) (exponent : Int) : Option Binary64 := do
  let x ← ofNat? n
  if 0 ≤ exponent then
    if exponent.toNat ≤ greatestPower then x.mul? (← powerOfTen? exponent.toNat)
    else if x.isZero then some x else none
  else x.lower? (-exponent).toNat

end Binary64

end EventGateway.Decimal
