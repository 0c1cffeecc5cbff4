import IndexOptions.Number.Decimal

/-!
# Doubles

Binary floating-point numbers of 64 bits as data: a finite one is `± significand * 2 ^ exponent` with a significand
below `2 ^ 53` and the least possible exponent of at least `-1074`.

- `ofRatio` rounds a fraction to the nearest double, a tie to the even significand, and gives an infinity from
  `2 ^ 1024 - 2 ^ 970` on;
- `ofDecimal` and `ofInt` are its instances; `ofDecimal` looks at the exponent first, so that a numeral with a
  huge exponent costs nothing;
- `bits` is the IEEE 754 layout.
-/

namespace IndexOptions

inductive Double where
  | nan
  | infinite (negative : Bool)
  | finite (negative : Bool) (significand : Nat) (exponent : Int)
deriving DecidableEq, Repr

namespace Double

def zero (negative : Bool) : Double := .finite negative 0 (-1074)

/-! ## Rounding -/

/-- The quotient rounded to the nearest integer, a half to the even one. -/
def roundHalfEven (n d : Nat) : Nat :=
  let q := n / d
  let r := n % d
  if 2 * r < d then q else if d < 2 * r then q + 1 else q + q % 2

/-- The greatest `k` with `2 ^ k ≤ n / d`, for positive `n` and `d`. -/
def floorLog2 (n d : Nat) : Int :=
  let k : Int := (n.log2 : Int) - (d.log2 : Int)
  let reaches := if 0 ≤ k then d * Nat.pow 2 k.toNat ≤ n else d ≤ n * Nat.pow 2 (-k).toNat
  if reaches then k else k - 1

/-- The exponent of the doubles around `n / d`. -/
def exponentFor (n d : Nat) : Int := max (floorLog2 n d - 52) (-1074)

/-- The double nearest to `± n / d`, for positive `d`. -/
def ofRatio (negative : Bool) (n d : Nat) : Double :=
  if n = 0 then zero negative
  else
    let e := exponentFor n d
    let m :=
      if 0 ≤ e then roundHalfEven n (d * Nat.pow 2 e.toNat) else roundHalfEven (n * Nat.pow 2 (-e).toNat) d
    let (m, e) := if m = Nat.pow 2 53 then (Nat.pow 2 52, e + 1) else (m, e)
    if 971 < e then .infinite negative else .finite negative m e

def ofDecimal (x : Decimal) : Double :=
  if x.mantissa = 0 then zero x.negative
  else if 309 < x.exponent then .infinite x.negative
  else if (x.mantissa.log2 : Int) + 1 + 3 * x.exponent ≤ -1076 then zero x.negative
  else if 0 ≤ x.exponent then ofRatio x.negative (x.mantissa * Nat.pow 10 x.exponent.toNat) 1
  else ofRatio x.negative x.mantissa (Nat.pow 10 (-x.exponent).toNat)

def ofInt (i : Int) : Double := ofRatio (i < 0) i.natAbs 1

/-! ## Views -/

def isFinite : Double → Bool
  | .finite .. => true
  | _ => false

/-- Greater than zero. -/
def isPositive : Double → Bool
  | .nan => false
  | .infinite negative => !negative
  | .finite negative m _ => !negative && m ≠ 0

/-- The integer that a finite double equals, if it has no fractional part. -/
def toInt? : Double → Option Int
  | .finite negative m e =>
    let signed (n : Nat) : Int := if negative then -(n : Int) else n
    if 0 ≤ e then some (signed (m * Nat.pow 2 e.toNat))
    else if m % Nat.pow 2 (-e).toNat = 0 then some (signed (m / Nat.pow 2 (-e).toNat)) else none
  | _ => none

/-- Equality of numbers: the two zeros are equal and a NaN differs from itself. -/
def sameNumber : Double → Double → Bool
  | .nan, _ => false
  | .finite _ 0 _, .finite _ 0 _ => true
  | x, y => x = y

/-- The IEEE 754 layout: sign, eleven bits of exponent, fifty-two of significand. -/
def bits : Double → Nat
  | .nan => 0x7FF8000000000000
  | .infinite negative => (if negative then Nat.pow 2 63 else 0) + 0x7FF0000000000000
  | .finite negative m e =>
    (if negative then Nat.pow 2 63 else 0) +
      (if m < Nat.pow 2 52 then m else (e + 1075).toNat * Nat.pow 2 52 + (m - Nat.pow 2 52))

end Double

end IndexOptions
