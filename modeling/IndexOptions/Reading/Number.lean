import IndexOptions.Number.Decimal
import IndexOptions.Problem.Checked
import IndexOptions.Text.Basic
import IndexOptions.Text.Case

/-!
# Reading numbers and flags

A number may be given as a number, as a flag (one and zero) or as a text. Texts of numbers may have white space around
them or single underscores in them, texts of integers both.

- An integer may be a number without fraction, or a text with zeros before it or with a point and zeros after it.
- A flag may be zero or one, or a word in either case; words are not trimmed.
-/

namespace IndexOptions.Reading

open Checked (refuse)

/-! ## Underscores -/

/-- The text without its underscores, unless one stands at an end or two stand together. -/
def withoutUnderscores? (t : Text) : Option Text :=
  let groups := Text.splitOn '_' t
  if groups.all fun g => !g.isEmpty then some groups.flatten else none

/-! ## Integers -/

/-- The greatest number of digits that an integer may be written with. -/
def maxDigits : Nat := 4300

/-- Whether a text begins, after an optional minus sign, with more digits than an integer may have; digits after a
leading zero or white space do not count. -/
def isOversized (t : Text) : Bool :=
  let digits := ((Text.after? "-" t).getD t).takeWhile CodePoint.isDigit
  digits.head? ≠ some (CodePoint.ofChar '0') && maxDigits < digits.length

/-- Drop the zeros and underscores that a text begins with when its first code point is a zero. The last of them stays
before a point and at the end of the text. -/
def withoutLeadingZeros (t : Text) : Text :=
  if t.head? = some (CodePoint.ofChar '0') then
    let isLeading (c : CodePoint) : Bool := c = '0' || c = '_'
    let last := (t.takeWhile isLeading).getLast?.toList
    match t.dropWhile isLeading with
    | [] => last
    | c :: r => if c = '.' then last ++ c :: r else c :: r
  else t

/-- Take a point and zeros off the end of a text, if there is at least one zero. -/
def withoutZeroFraction (t : Text) : Text :=
  let isPoint (c : CodePoint) : Bool := c = '.'
  let isZero (c : CodePoint) : Bool := c = '0'
  match t.dropWhile fun c => !isPoint c with
  | _ :: zeros => if !zeros.isEmpty && zeros.all isZero then t.takeWhile fun c => !isPoint c else t
  | [] => t

/-- The integer of an optional minus sign and digits, which begin with a zero only where it is the one digit. -/
def plainInteger? (t : Text) : Option Int :=
  let (negative, digits) :=
    match Text.after? "-" t with
    | some r => (true, r)
    | none => (false, t)
  let isCanonical := digits = ("0" : Text) || digits.head? ≠ some (CodePoint.ofChar '0')
  if !digits.isEmpty && digits.all CodePoint.isDigit && isCanonical && digits.length ≤ maxDigits then
    let n : Int := Text.digitsValue digits
    some (if negative then -n else n)
  else none

/-- The integer that a trimmed text denotes: an optional sign, then digits, before which zeros are skipped, among which
single underscores may stand and after which a point and zeros may follow. What the skipped zeros leave may begin with
a minus sign of its own if there was none. -/
def integerText? (t : Text) : Option Int :=
  let (negative, r) := Decimal.signed t
  if r.head?.any CodePoint.isDigit then
    (withoutUnderscores? (withoutZeroFraction (withoutLeadingZeros r))).bind fun digits =>
      plainInteger? (if negative then CodePoint.ofChar '-' :: digits else digits)
  else none

/-- Whether a double lies strictly between the bounds of 64-bit integers. -/
def fitsWord (i : Int) : Bool := -0x8000000000000000 < i && i < 0x8000000000000000

def integer : Document → Checked Int
  | .integer i => .ok i
  | .bool b => .ok (if b then 1 else 0)
  | .real x =>
    if !x.isFinite then refuse .notFinite (.real x)
    else
      match x.toInt? with
      | none => refuse .fractional (.real x)
      | some i => if fitsWord i then .ok i else refuse .oversizedInteger (.real x)
  | .text t =>
    if !t.isEncodable then refuse .notUnicode (.text t)
    else if isOversized t then refuse .oversizedInteger (.text t)
    else
      match integerText? t.trimWhiteSpace with
      | some i => .ok i
      | none => refuse .unparsableInteger (.text t)
  | v => refuse .notInteger v

/-- An integer greater than zero. -/
def positiveInteger (v : Document) : Checked Int := do
  let i ← integer v
  if 0 < i then .ok i else refuse (.notGreater 0) v

/-- An integer from `low` to `high`. -/
def integerBetween (low high : Nat) (v : Document) : Checked Int := do
  let i ← integer v
  if i < low then refuse (.below low) v
  else if high < i then refuse (.above high) v
  else .ok i

/-! ## Numbers -/

/-- A word for infinity or for no number, in any case. -/
def numberWord? (negative : Bool) (t : Text) : Option Double :=
  let word := t.map fun c => if 65 ≤ c.val && c.val ≤ 90 then CodePoint.ofNat (c.val + 32) else c
  if word = ("inf" : Text) || word = ("infinity" : Text) then some (.infinite negative)
  else if word = ("nan" : Text) then some .nan
  else none

/-- A numeral or a word, with an optional sign. -/
def plainNumber? (t : Text) : Option Double :=
  match Decimal.parse? t with
  | some d => some (Double.ofDecimal d)
  | none =>
    let (negative, word) := Decimal.signed t
    numberWord? negative word

/-- The number that a text denotes. White space may stand around it only if no underscore stands in it. -/
def numberText? (t : Text) : Option Double :=
  match plainNumber? t.trimWhiteSpace with
  | some x => some x
  | none => (withoutUnderscores? t).bind plainNumber?

def number : Document → Checked Double
  | .real x => .ok x
  | .bool b => .ok (Double.ofInt (if b then 1 else 0))
  | .integer i => if (Double.ofInt i).isFinite then .ok (Double.ofInt i) else refuse .notNumber (.integer i)
  | .text t =>
    if !t.isEncodable then refuse .notUnicode (.text t)
    else
      match numberText? t with
      | some x => .ok x
      | none => refuse .unparsableNumber (.text t)
  | v => refuse .notNumber v

/-- A finite number greater than zero. -/
def positiveNumber (v : Document) : Checked Double := do
  let x ← number v
  if !x.isFinite then refuse .notFinite v
  else if x.isPositive then .ok x
  else refuse (.notGreater 0) v

/-! ## Flags -/

/-- The flag that an integer stands for. -/
def flagOfInt? (i : Int) : Option Bool := if i = 0 then some false else if i = 1 then some true else none

def flagWords (b : Bool) : List Text :=
  if b then ["1", "on", "t", "true", "y", "yes"] else ["0", "off", "f", "false", "n", "no"]

/-- The flag that a word stands for. -/
def flagOfText? (t : Text) : Option Bool :=
  if (flagWords true).contains t.lower then some true
  else if (flagWords false).contains t.lower then some false
  else none

def flag : Document → Checked Bool
  | .bool b => .ok b
  | .text t =>
    if !t.isEncodable then refuse .notUnicode (.text t)
    else
      match flagOfText? t with
      | some b => .ok b
      | none => refuse .unparsableFlag (.text t)
  | .integer i =>
    match flagOfInt? i with
    | some b => .ok b
    | none =>
      refuse (if -0x8000000000000000 ≤ i && i < 0x8000000000000000 then .unparsableFlag else .notFlag) (.integer i)
  | .real x =>
    match x.toInt? with
    | some i =>
      match flagOfInt? i with
      | some b => .ok b
      | none => refuse (if fitsWord i then .unparsableFlag else .notFlag) (.real x)
    | none => refuse .notFlag (.real x)
  | v => refuse .notFlag v

end IndexOptions.Reading
