import IndexOptions.Text.Basic

/-!
# Decimal numerals

Numerals with an optional sign, digits with an optional point among or beside them, and an optional exponent:
`parse?` reads exactly these and gives the sign, and the magnitude as `mantissa * 10 ^ exponent`.
-/

namespace IndexOptions

/-- The number `± mantissa * 10 ^ exponent`. -/
structure Decimal where
  negative : Bool
  mantissa : Nat
  exponent : Int
deriving DecidableEq, Repr

namespace Decimal

/-- Take an optional sign off a text; `true` stands for minus. -/
def signed (t : Text) : Bool × Text :=
  match t with
  | [] => (false, [])
  | c :: r => if c = '-' then (true, r) else if c = '+' then (false, r) else (false, c :: r)

/-- An optional exponent, up to the end of the text. -/
def exponent? : Text → Option Int
  | [] => some 0
  | c :: r =>
    if c = 'e' || c = 'E' then
      let (negative, digits) := signed r
      if digits ≠ [] && digits.all CodePoint.isDigit then
        some (if negative then -(Text.digitsValue digits : Int) else Text.digitsValue digits)
      else none
    else none

/-- The digits after an optional point, and what follows them. -/
def fraction : Text → Text × Text
  | [] => ([], [])
  | c :: r => if c = '.' then (r.takeWhile CodePoint.isDigit, r.dropWhile CodePoint.isDigit) else ([], c :: r)

def parse? (t : Text) : Option Decimal :=
  let (negative, r) := signed t
  let whole := r.takeWhile CodePoint.isDigit
  let (part, r) := fraction (r.dropWhile CodePoint.isDigit)
  if whole = [] && part = [] then none
  else (exponent? r).map fun e => ⟨negative, Text.digitsValue (whole ++ part), e - part.length⟩

end Decimal

end IndexOptions
