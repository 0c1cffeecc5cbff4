import IndexOptions.Text.Utf8

/-!
# Guessed encodings

Bytes that hold a document may be in UTF-8, UTF-16 or UTF-32. A document begins with an ASCII code point, so the zero
bytes among the first four tell the encoding and the order of its bytes (`Encoding.guess`).

`Text.reread?` takes the bytes of a text for what they look like. A text without a zero byte at its beginning is read
as it stands, less a byte order mark.
-/

namespace IndexOptions

/-- Which byte of a number comes first: the most or the least significant one. -/
inductive ByteOrder where
  | big
  | little
deriving DecidableEq, Repr

/-- The number that bytes stand for. -/
def ByteOrder.number : ByteOrder → List Nat → Nat
  | big, bytes => bytes.foldl (fun n b => 256 * n + b) 0
  | little, bytes => bytes.foldr (fun b n => 256 * n + b) 0

inductive Encoding where
  | utf8
  | utf16 (order : ByteOrder)
  | utf32 (order : ByteOrder)
deriving DecidableEq, Repr

namespace Encoding

/-- The encoding of a document, by its first bytes. -/
def guess : List Nat → Encoding
  | [a, b] => if a = 0 then utf16 .big else if b = 0 then utf16 .little else utf8
  | a :: b :: c :: d :: _ =>
    if a = 0 then (if b = 0 then utf32 .big else utf16 .big)
    else if b = 0 then (if c = 0 && d = 0 then utf32 .little else utf16 .little)
    else utf8
  | _ => utf8

/-- The numbers of two bytes each that bytes stand for, unless a byte is left over. -/
def doubles? (order : ByteOrder) : List Nat → Option (List Nat)
  | [] => some []
  | a :: b :: r => (doubles? order r).map (order.number [a, b] :: ·)
  | _ => none

/-- The numbers of four bytes each that bytes stand for, unless bytes are left over. -/
def quadruples? (order : ByteOrder) : List Nat → Option (List Nat)
  | [] => some []
  | a :: b :: c :: d :: r => (quadruples? order r).map (order.number [a, b, c, d] :: ·)
  | _ => none

/-- Two halves of a surrogate pair in a row make one code point; a half alone stays as it is. -/
def joinHalves : Text → Text
  | [] => []
  | [c] => [c]
  | c :: d :: r =>
    if c.isHighHalf && d.isLowHalf then CodePoint.ofHalves c d :: joinHalves r else c :: joinHalves (d :: r)

end Encoding

namespace Text

/-- A text without the byte order mark at its beginning. -/
def withoutMark : Text → Text
  | [] => []
  | c :: r => if c.val = 0xFEFF then r else c :: r

/-- The text that the bytes of a text stand for in the encoding that they seem to have. There is none if bytes are left
over or a number is no code point. -/
def reread? (t : Text) : Option Text :=
  match Encoding.guess t.utf8 with
  | .utf8 => some t.withoutMark
  | .utf16 order => (Encoding.doubles? order t.utf8).map fun units => Encoding.joinHalves (units.map CodePoint.ofNat)
  | .utf32 order =>
    (Encoding.quadruples? order t.utf8).bind fun numbers =>
      if numbers.all fun n => n < 0x110000 then some (numbers.map CodePoint.ofNat) else none

end Text

end IndexOptions
