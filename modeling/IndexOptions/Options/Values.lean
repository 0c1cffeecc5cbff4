import IndexOptions.Document.Reader
import IndexOptions.Options.Rejection

/-!
# The values of options

What each option means by itself. An option that is left out has its default; one that is given has to be of the right
form.

- `Numeral.word?` reads an integer of 32 bits: an optional sign and decimal digits with nothing around them. A text of
  the right form with too many digits is an error of its own.
- `Numeral.finite?` reads a decimal number that rounds to a finite double, with blanks allowed around it.
-/

namespace IndexOptions

/-! ## Numerals -/

namespace Numeral

/-- Whether an integer has 32 bits. -/
def isWord (i : Int) : Bool := -0x80000000 ≤ i && i ≤ 0x7FFFFFFF

/-- The integer of an optional sign and digits, without a bound; the error is the number of digits if there are too
many. -/
def integer? (t : Text) : Except Nat (Option Int) :=
  let (negative, digits) := Decimal.signed t
  if digits.isEmpty || !digits.all CodePoint.isDigit then .ok none
  else if Document.maxDigits < digits.length then .error digits.length
  else
    let n : Int := Text.digitsValue digits
    .ok (some (if negative then -n else n))

def word? (t : Text) : Except Nat (Option Int) := (integer? t).map fun i => i.filter isWord

def finite? (t : Text) : Option Double := ((Decimal.parse? t.trim).map Double.ofDecimal).filter Double.isFinite

end Numeral

namespace OptionMap

/-! ## Defaults -/

/-- One minute. -/
def defaultRefreshSeconds : Double := Double.ofInt 60

def defaultRamBufferMb : Int := 64

def defaultMaxMergeMb : Int := 5

def defaultMaxCachedMb : Int := 30

/-- Zero leaves the number of threads to the engine. -/
def defaultIndexingThreads : Int := 0

def defaultIndexingQueuesSize : Int := 50

def defaultExcludedDataCenters : List Text := []

/-! ## Numbers -/

/-- Reject the text of an option. -/
def reject {α : Type} (o : OptionName) (reason : Reason) : Except ResolveError α := .error (.rejected ⟨o, reason⟩)

/-- The integer of 32 bits that an option is given, or the rejection for another text. -/
def integer (o : OptionName) (otherwise : Reason) (raw : Text) : Except ResolveError Int :=
  match Numeral.word? raw with
  | .ok (some i) => .ok i
  | .ok none => reject o otherwise
  | .error count => .error (.tooManyDigits count)

/-- An option whose value is a positive integer. -/
def positiveInteger (options : OptionMap) (o : OptionName) (default : Int) : Except ResolveError Int :=
  match options.raw o with
  | none => .ok default
  | some raw => do
    let i ← integer o .notPositiveInteger raw
    if 0 < i then .ok i else reject o .notPositive

def refreshSeconds (options : OptionMap) : Except ResolveError Double :=
  match options.raw .refreshSeconds with
  | none => .ok defaultRefreshSeconds
  | some raw =>
    match Numeral.finite? raw with
    | none => reject .refreshSeconds .notPositiveNumber
    | some x => if x.isPositive then .ok x else reject .refreshSeconds .notPositive

def ramBufferMb (options : OptionMap) : Except ResolveError Int :=
  options.positiveInteger .ramBufferMb defaultRamBufferMb

def maxMergeMb (options : OptionMap) : Except ResolveError Int :=
  options.positiveInteger .maxMergeMb defaultMaxMergeMb

def maxCachedMb (options : OptionMap) : Except ResolveError Int :=
  options.positiveInteger .maxCachedMb defaultMaxCachedMb

/-- Any integer; zero and negative numbers are left to the engine. -/
def indexingThreads (options : OptionMap) : Except ResolveError Int :=
  match options.raw .indexingThreads with
  | none => .ok defaultIndexingThreads
  | some raw => integer .indexingThreads .notInteger raw

def indexingQueuesSize (options : OptionMap) : Except ResolveError Int :=
  options.positiveInteger .indexingQueuesSize defaultIndexingQueuesSize

/-! ## Data centers -/

/-- The names between the commas of a text without blanks around it; nothing else is changed or dropped. -/
def dataCenters (raw : Text) : List Text := Text.splitOn ',' raw.trim

def excludedDataCenters (options : OptionMap) : List Text :=
  match options.raw .excludedDataCenters with
  | none => defaultExcludedDataCenters
  | some raw => dataCenters raw

end OptionMap

end IndexOptions
