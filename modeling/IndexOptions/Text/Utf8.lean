import IndexOptions.Text.Basic

/-!
# UTF-8

The bytes of a text, and why a text has none: the first run of lone surrogate halves, with its place. A text that has to
be ASCII is refused in the same way.
-/

namespace IndexOptions

/-- The UTF-8 form of a code point, of one to four bytes. -/
def CodePoint.utf8 (c : CodePoint) : List Nat :=
  if c.val < 0x80 then [c.val]
  else if c.val < 0x800 then [0xC0 + c.val / 0x40, 0x80 + c.val % 0x40]
  else if c.val < 0x10000 then [0xE0 + c.val / 0x1000, 0x80 + c.val / 0x40 % 0x40, 0x80 + c.val % 0x40]
  else [0xF0 + c.val / 0x40000, 0x80 + c.val / 0x1000 % 0x40, 0x80 + c.val / 0x40 % 0x40, 0x80 + c.val % 0x40]

namespace Text

def utf8 (t : Text) : List Nat := t.flatMap CodePoint.utf8

def utf8Length (t : Text) : Nat := t.utf8.length

/-- The first run of code points in a text that an encoding does not have: how it begins, the number of code points
before it, and its length. -/
structure UnencodableRun where
  first : CodePoint
  start : Nat
  length : Nat
deriving DecidableEq, Repr

/-- The first run of code points that begins in one class and goes on in another. -/
def firstRun? (begins goesOn : CodePoint → Bool) (t : Text) : Option UnencodableRun :=
  match t.dropWhile (fun c => !begins c) with
  | [] => none
  | c :: r => some ⟨c, (t.takeWhile fun c => !begins c).length, (c :: r.takeWhile goesOn).length⟩

/-- The first run of surrogate halves. -/
def unencodableRun? (t : Text) : Option UnencodableRun := t.firstRun? CodePoint.isSurrogate CodePoint.isSurrogate

/-- The message for a run that an encoding refuses for a reason. -/
def UnencodableRun.refusal (run : UnencodableRun) (encoding reason : Text) : Text :=
  let place : Text :=
    if run.length = 1 then
      let escape : Text :=
        if run.first.val < 0x100 then "\\x" ++ Text.hex 2 run.first.val
        else if run.first.val < 0x10000 then "\\u" ++ Text.hex 4 run.first.val
        else "\\U" ++ Text.hex 8 run.first.val
      " '" ++ escape ++ "' in position " ++ Text.ofNat run.start
    else "s in position " ++ Text.ofNat run.start ++ "-" ++ Text.ofNat (run.start + run.length - 1)
  "'" ++ encoding ++ "' codec can't encode character" ++ place ++ ": " ++ reason

/-- The message for a text that has no UTF-8 form. -/
def UnencodableRun.message (run : UnencodableRun) : Text := run.refusal "utf-8" "surrogates not allowed"

/-- The message for a text that is not ASCII. -/
def UnencodableRun.messageForAscii (run : UnencodableRun) : Text := run.refusal "ascii" "ordinal not in range(128)"

/-- The bytes of a text, or its first run of surrogate halves. -/
def encode (t : Text) : Except UnencodableRun (List Nat) :=
  match t.unencodableRun? with
  | some run => .error run
  | none => .ok t.utf8

/-- A surrogate half among code points that have a UTF-8 form is shown as three replacement characters, one for
each byte that it would have had. -/
def replaced (t : Text) : Text :=
  t.flatMap fun c => if c.isSurrogate then List.replicate 3 (CodePoint.ofNat 0xFFFD) else [c]

end Text

end IndexOptions
