import IndexOptions.Number.Double

/-!
# The shortest text of a double

Of the decimal numbers that round to a given double, `Double.shortest` takes one with the fewest digits, and of those
the nearest. `Double.toText` writes it: positional from `10 ^ -4` up to below `10 ^ 16`, with an exponent elsewhere.
-/

namespace IndexOptions.Double

/-- Whether `k * 10 ^ p` rounds to `m * 2 ^ e`: it lies between the midpoints to the neighbours, and may be a
midpoint if `m` is even. -/
def roundsTo (m : Nat) (e : Int) (k : Nat) (p : Int) : Bool :=
  -- everything is multiplied by `4 * 2 ^ (-e) * 10 ^ (-p)` where these are positive powers
  let two (i : Int) : Nat := Nat.pow 2 i.toNat
  let ten (i : Int) : Nat := Nat.pow 10 i.toNat
  let point := 4 * k * ten p * two (-e)
  let unit := two e * ten (-p)
  let below := if m = Nat.pow 2 52 && e ≠ -1074 then (4 * m - 1) * unit else (4 * m - 2) * unit
  let above := (4 * m + 2) * unit
  if m % 2 = 0 then below ≤ point && point ≤ above else below < point && point < above

/-- The greatest `p` with `10 ^ p ≤ n / d`, searched downward from a start that is large enough. -/
def floorLog10 (n d : Nat) : (fuel : Nat) → (start : Int) → Int
  | 0, p => p
  | fuel + 1, p => if Nat.pow 10 p.toNat * d ≤ n * Nat.pow 10 (-p).toNat then p else floorLog10 n d fuel (p - 1)

/-- Try one digit after another: the first grid with a neighbour of `n / d = m * 2 ^ e` that rounds to it. -/
def shortestFrom (m : Nat) (e : Int) (n d : Nat) (top : Int) : (fuel digits : Nat) → Nat × Int
  | 0, digits => (0, top - digits)
  | fuel + 1, digits =>
    let p := top + 1 - digits
    let half := d * Nat.pow 10 p.toNat
    let low := n * Nat.pow 10 (-p).toNat / half
    let rest := n * Nat.pow 10 (-p).toNat % half
    let lowFits := roundsTo m e low p && low ≠ 0
    let highFits := roundsTo m e (low + 1) p
    if lowFits && highFits then
      if 2 * rest < half || (2 * rest = half && low % 2 = 0) then (low, p) else (low + 1, p)
    else if lowFits then (low, p)
    else if highFits then (low + 1, p)
    else shortestFrom m e n d top fuel (digits + 1)

/-- Drop zeros at the end of an integer into its exponent. -/
def normalized : (fuel : Nat) → Nat → Int → Nat × Int
  | 0, k, p => (k, p)
  | fuel + 1, k, p => if k ≠ 0 && k % 10 = 0 then normalized fuel (k / 10) (p + 1) else (k, p)

/-- The shortest decimal `k * 10 ^ p` of `m * 2 ^ e`, for positive `m`. -/
def shortest (m : Nat) (e : Int) : Nat × Int :=
  let n := m * Nat.pow 2 e.toNat
  let d := Nat.pow 2 (-e).toNat
  let (k, p) := shortestFrom m e n d (floorLog10 n d 700 310) 17 1
  normalized 20 k p

/-- The text of a positive finite double. -/
def magnitudeText (m : Nat) (e : Int) : Text :=
  let (k, p) := shortest m e
  let digits := Text.ofNat k
  let point : Int := digits.length + p
  if -4 < point && point ≤ 16 then
    if point ≤ 0 then ("0." : Text) ++ List.replicate (-point).toNat (CodePoint.ofChar '0') ++ digits
    else if 0 ≤ p then digits ++ List.replicate p.toNat (CodePoint.ofChar '0') ++ (".0" : Text)
    else digits.take point.toNat ++ ("." : Text) ++ digits.drop point.toNat
  else
    let x := point - 1
    let mantissa := digits.take 1 ++ (if digits.length = 1 then [] else ("." : Text) ++ digits.drop 1)
    let size := Text.ofNat x.natAbs
    mantissa ++ (if x < 0 then ("e-" : Text) else "e+") ++ (if size.length < 2 then ("0" : Text) else []) ++ size

def toText : Double → Text
  | .nan => "nan"
  | .infinite negative => if negative then "-inf" else "inf"
  | .finite negative m e =>
    (if negative then ("-" : Text) else []) ++ (if m = 0 then ("0.0" : Text) else magnitudeText m e)

end IndexOptions.Double
