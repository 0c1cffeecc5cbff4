/-!
# Texts

A text is a list of code points. A code point is a Unicode scalar value or one half of a surrogate pair: a decoded
document may hold such a half alone, so texts are wider than `String`.

- decimal texts of numbers (`Text.ofNat`, `Text.ofInt`);
- `Text.isEncodable` holds of the texts that have a UTF-8 form;
- two classes of blank code points: `CodePoint.isBlank`, the separators that users may leave around an option value or
  inside a column type, which count the four information separators U+001C to U+001F, and `CodePoint.isWhiteSpace`, the
  Unicode property of that name, which does not;
- `Text.trim`, `Text.trimWhiteSpace`, `Text.withoutBlanks`: texts without blanks at their ends, or without any;
- `Text.sortedSet`: the members of a list in the order of texts, each once.
-/

namespace IndexOptions

/-! ## Code points -/

/-- A Unicode code point, surrogate halves included. -/
structure CodePoint where
  val : Nat
  lt : val < 0x110000
deriving DecidableEq, Repr

namespace CodePoint

/-- The code point of a number; numbers past the last code point give U+FFFD. -/
def ofNat (n : Nat) : CodePoint :=
  if h : n < 0x110000 then ⟨n, h⟩ else ⟨0xFFFD, by decide⟩

def ofChar (c : Char) : CodePoint := ofNat c.toNat

instance : Coe Char CodePoint := ⟨ofChar⟩

/-- One half of a surrogate pair. -/
def isSurrogate (c : CodePoint) : Bool := 0xD800 ≤ c.val && c.val ≤ 0xDFFF

/-- The first half of a surrogate pair. -/
def isHighHalf (c : CodePoint) : Bool := 0xD800 ≤ c.val && c.val < 0xDC00

/-- The second half of a surrogate pair. -/
def isLowHalf (c : CodePoint) : Bool := 0xDC00 ≤ c.val && c.val < 0xE000

/-- The code point that two halves of a surrogate pair make. -/
def ofHalves (high low : CodePoint) : CodePoint := ofNat (0x10000 + (high.val - 0xD800) * 0x400 + (low.val - 0xDC00))

/-- The ASCII digits. -/
def isDigit (c : CodePoint) : Bool := 48 ≤ c.val && c.val ≤ 57

/-- The value of an ASCII digit. -/
def digitValue (c : CodePoint) : Nat := c.val - 48

/-- The ASCII digit of a number below ten. -/
def ofDigit (n : Nat) : CodePoint := ofNat (48 + n)

/-- The value of a hexadecimal digit of either case. -/
def hexValue? (c : CodePoint) : Option Nat :=
  if 48 ≤ c.val && c.val ≤ 57 then some (c.val - 48)
  else if 97 ≤ c.val && c.val ≤ 102 then some (c.val - 87)
  else if 65 ≤ c.val && c.val ≤ 70 then some (c.val - 55)
  else none

/-- The lower-case hexadecimal digit of a number below sixteen. -/
def ofHexDigit (n : Nat) : CodePoint := ofNat (if n < 10 then 48 + n else 87 + n)

/-- Code points are ordered by number. -/
instance : LT CodePoint := ⟨fun a b => a.val < b.val⟩

instance (a b : CodePoint) : Decidable (a < b) := inferInstanceAs (Decidable (a.val < b.val))

theorem ext {c d : CodePoint} (h : c.val = d.val) : c = d := by
  cases c; cases d; cases h; rfl

theorem val_ofNat {n : Nat} (h : n < 0x110000) : (ofNat n).val = n := by
  simp [ofNat, h]

theorem val_ofChar (c : Char) : (ofChar c).val = c.toNat := by
  have h : c.val.toNat < 0x110000 := by
    rcases c.valid with h | h
    · exact Nat.lt_trans h (by decide)
    · exact h.2
  exact val_ofNat h

end CodePoint

/-! ## Texts -/

abbrev Text := List CodePoint

namespace Text

def ofString (s : String) : Text := s.toList.map CodePoint.ofChar

instance : Coe String Text := ⟨ofString⟩

/-- Whether the text has a UTF-8 form, that is, no lone surrogate half. -/
def isEncodable (t : Text) : Bool := t.all fun c => !c.isSurrogate

/-- The number as decimal digits without leading zeros. -/
def ofNat (n : Nat) : Text :=
  if n < 10 then [CodePoint.ofDigit n] else ofNat (n / 10) ++ [CodePoint.ofDigit (n % 10)]

/-- The number as decimal digits, with a minus sign if it is negative. -/
def ofInt : Int → Text
  | .ofNat n => ofNat n
  | .negSucc n => CodePoint.ofChar '-' :: ofNat (n + 1)

/-- The number as exactly `width` lower-case hexadecimal digits; higher digits are dropped. -/
def hex : (width : Nat) → Nat → Text
  | 0, _ => []
  | width + 1, n => hex width (n / 16) ++ [CodePoint.ofHexDigit (n % 16)]

theorem length_hex (width n : Nat) : (hex width n).length = width := by
  induction width generalizing n with
  | zero => rfl
  | succ width ih => simp [hex, ih]

/-- The number that a list of digits denotes. -/
def digitsValue (digits : Text) : Nat := digits.foldl (fun n c => 10 * n + c.digitValue) 0

/-- The text as a `String`; a lone surrogate half becomes U+FFFD. -/
def toString (t : Text) : String := String.ofList (t.map fun c => if c.isSurrogate then '\uFFFD' else Char.ofNat c.val)

end Text

/-! ## Blanks -/

/-- The code points with the Unicode property White_Space. -/
def CodePoint.isWhiteSpace (c : CodePoint) : Bool :=
  (0x09 ≤ c.val && c.val ≤ 0x0D) || c.val == 0x20 || c.val == 0x85 || c.val == 0xA0 || c.val == 0x1680 ||
  (0x2000 ≤ c.val && c.val ≤ 0x200A) || c.val == 0x2028 || c.val == 0x2029 || c.val == 0x202F ||
  c.val == 0x205F || c.val == 0x3000

/-- White space and the information separators. -/
def CodePoint.isBlank (c : CodePoint) : Bool := (0x1C ≤ c.val && c.val ≤ 0x1F) || c.isWhiteSpace

namespace Text

/-- Drop the code points of a class from the end. -/
def dropEndWhile (p : CodePoint → Bool) (t : Text) : Text := (t.reverse.dropWhile p).reverse

/-- Drop the code points of a class from both ends. -/
def trimWhile (p : CodePoint → Bool) (t : Text) : Text := dropEndWhile p (t.dropWhile p)

def trim (t : Text) : Text := t.trimWhile CodePoint.isBlank

def trimWhiteSpace (t : Text) : Text := t.trimWhile CodePoint.isWhiteSpace

def withoutBlanks (t : Text) : Text := t.filter fun c => !c.isBlank

end Text

/-! ## Order -/

namespace Text

/-- Strictly before in the order by code points; a text is before its extensions. -/
def before : Text → Text → Bool
  | _, [] => false
  | [], _ :: _ => true
  | a :: s, b :: t => a.val < b.val || (a.val == b.val && before s t)

/-- Put a text into an increasing list, once. -/
def insertSorted (t : Text) : List Text → List Text
  | [] => [t]
  | u :: r => if t = u then u :: r else if before t u then t :: u :: r else u :: insertSorted t r

/-- The members of a list, increasing and without repetition. -/
def sortedSet (ts : List Text) : List Text := ts.foldr insertSorted []

end Text

end IndexOptions
