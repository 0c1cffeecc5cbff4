import IndexOptions.Document.Basic
import IndexOptions.Text.Split

/-!
# Reading a document

`Document.read` reads a JSON text. It also takes the words `NaN`, `Infinity` and `-Infinity`; of a repeated member
name the last value counts, at the place of the first.

- A malformed text is reported with what was expected and where (`Malformed`). A reader hands on the text that it has
  not read yet, so the place of a fault is known from the part that was left.
- Two limits guard the reader: containers nest at most as deep as the caller allows, which is what its stack has left,
  and an integer has at most `maxDigits` digits.

The containers are read by loops over a reader for their items (`items`, `members`), and `value` ties the knot by
recursion on the depth that is left.
-/

namespace IndexOptions.Document

/-! ## Faults -/

/-- What is wrong at a place of a malformed text. -/
inductive Fault where
  | noValue
  | noName
  | noColon
  | noComma
  | extraData
  | unterminated
  | controlCharacter
  | unknownEscape
  | unicodeEscape
  | byteOrderMark
deriving DecidableEq, Repr

def Fault.message : Fault → Text
  | noValue => "Expecting value"
  | noName => "Expecting property name enclosed in double quotes"
  | noColon => "Expecting ':' delimiter"
  | noComma => "Expecting ',' delimiter"
  | extraData => "Extra data"
  | unterminated => "Unterminated string starting at"
  | controlCharacter => "Invalid control character at"
  | unknownEscape => "Invalid \\escape"
  | unicodeEscape => "Invalid \\uXXXX escape"
  | byteOrderMark => "Unexpected UTF-8 BOM (decode using utf-8-sig)"

inductive Container where
  | array
  | object
deriving DecidableEq, Repr

/-- A fault and its place: the number of code points before it, and the line and column counted from one. -/
structure Malformed where
  fault : Fault
  offset : Nat
  line : Nat
  column : Nat
deriving DecidableEq, Repr

/-- Why a text gives no document. -/
inductive ReadError where
  | malformed (place : Malformed)
  | tooDeep (container : Container)
  | tooManyDigits (count : Nat)
deriving DecidableEq, Repr

/-- A reader stops with a fault and the text that begins at the fault, or at a limit. -/
inductive Stop where
  | fault (fault : Fault) (rest : Text)
  | tooDeep (container : Container)
  | tooManyDigits (count : Nat)
deriving DecidableEq, Repr

abbrev Reader (α : Type) := Text → Except Stop (α × Text)

/-- The most digits that the text of an integer may have. -/
def maxDigits : Nat := 4300

/-! ## Separators -/

/-- The four blanks that may stand between the parts of a document. -/
def isSeparator (c : CodePoint) : Bool := c = ' ' || c = '\t' || c = '\n' || c = '\r'

def skip (t : Text) : Text := t.dropWhile isSeparator

/-! ## Texts -/

/-- A code point of a quoted text, written as itself or by an escape of four hexadecimal digits. -/
structure Written where
  point : CodePoint
  escaped : Bool
deriving DecidableEq, Repr

/-- The code point that stands for itself, or for a control character, after a backslash. -/
def simpleEscape? (c : CodePoint) : Option CodePoint :=
  if c = '"' || c = '\\' || c = '/' then some c
  else if c = 'b' then some '\x08'
  else if c = 'f' then some '\x0c'
  else if c = 'n' then some '\n'
  else if c = 'r' then some '\r'
  else if c = 't' then some '\t'
  else none

/-- The number of four hexadecimal digits. -/
def fourHex? (a b c d : CodePoint) : Option Nat := do
  let a ← a.hexValue?
  let b ← b.hexValue?
  let c ← c.hexValue?
  let d ← d.hexValue?
  return ((a * 16 + b) * 16 + c) * 16 + d

/-- Read on inside a quoted text up to its closing quote; `start` begins at the opening quote. -/
def quotedFrom (start : Text) : Reader (List Written)
  | [] => .error (.fault .unterminated start)
  | c :: r =>
    if c = '"' then .ok ([], r)
    else if c = '\\' then
      match r with
      | [] => .error (.fault .unterminated start)
      | e :: r' =>
        if e = 'u' then
          match r' with
          | h₁ :: h₂ :: h₃ :: h₄ :: next :: r'' =>
            match fourHex? h₁ h₂ h₃ h₄ with
            | some n => do
              let (ws, rest) ← quotedFrom start (next :: r'')
              return (⟨CodePoint.ofNat n, true⟩ :: ws, rest)
            | none => .error (.fault .unicodeEscape (e :: r'))
          | _ => .error (.fault .unicodeEscape (e :: r'))
        else
          match simpleEscape? e with
          | some p => do
            let (ws, rest) ← quotedFrom start r'
            return (⟨p, false⟩ :: ws, rest)
          | none => .error (.fault .unknownEscape (c :: r))
    else if c.val < 0x20 then .error (.fault .controlCharacter (c :: r))
    else do
      let (ws, rest) ← quotedFrom start r
      return (⟨c, false⟩ :: ws, rest)

/-- Two escaped halves of a surrogate pair in a row make one code point; a half alone stays as it is. -/
def joinHalves : List Written → Text
  | [] => []
  | [w] => [w.point]
  | v :: w :: r =>
    if v.escaped && w.escaped && v.point.isHighHalf && w.point.isLowHalf then
      CodePoint.ofHalves v.point w.point :: joinHalves r
    else v.point :: joinHalves (w :: r)

/-- The text whose opening quote is the first code point of `start`. -/
def quotedText (start : Text) : Reader Text := fun r => do
  let (ws, rest) ← quotedFrom start r
  return (joinHalves ws, rest)

/-! ## Numbers -/

/-- The digits of a whole part: a zero, or digits that begin with another one. -/
def wholePart? (t : Text) : Option (Text × Text) :=
  match t with
  | [] => none
  | c :: r =>
    if c = '0' then some ([c], r)
    else if c.isDigit then some (c :: r.takeWhile CodePoint.isDigit, r.dropWhile CodePoint.isDigit)
    else none

/-- A point and digits after it, if there is at least one digit. -/
def fractionPart (t : Text) : Text × Text :=
  match t with
  | [] => ([], [])
  | c :: r =>
    let digits := r.takeWhile CodePoint.isDigit
    if c = '.' && !digits.isEmpty then (c :: digits, r.dropWhile CodePoint.isDigit) else ([], c :: r)

/-- A mark, an optional sign and digits, if there is at least one digit. -/
def exponentPart (t : Text) : Text × Text :=
  match t with
  | [] => ([], [])
  | c :: r =>
    let sign := (r.take 1).filter fun (s : CodePoint) => s = '+' || s = '-'
    let digits := (r.drop sign.length).takeWhile CodePoint.isDigit
    if (c = 'e' || c = 'E') && !digits.isEmpty then
      (c :: sign ++ digits, (r.drop sign.length).dropWhile CodePoint.isDigit)
    else ([], c :: r)

/-- The number of a numeral given in parts; without fraction and exponent it is an integer. -/
def number (negative : Bool) (whole fraction exponent : Text) : Except Stop Document :=
  if fraction.isEmpty && exponent.isEmpty then
    if maxDigits < whole.length then .error (.tooManyDigits whole.length)
    else
      let n : Int := Text.digitsValue whole
      .ok (.integer (if negative then -n else n))
  else
    match Decimal.parse? (whole ++ fraction ++ exponent) with
    | some d => .ok (.real (Double.ofDecimal { d with negative := negative }))
    | none => .error (.fault .noValue whole)

/-- A numeral, whose optional minus sign has been taken off; `start` begins at the sign. -/
def numeral (negative : Bool) (start : Text) : Reader Document := fun t =>
  match wholePart? t with
  | none => .error (.fault .noValue start)
  | some (whole, r) => do
    let (fraction, r) := fractionPart r
    let (exponent, r) := exponentPart r
    let n ← number negative whole fraction exponent
    return (n, r)

/-! ## Values -/

/-- The words that stand for a value. -/
def words : List (Text × Document) :=
  [("null", .null), ("true", .bool true), ("false", .bool false), ("NaN", .real .nan),
    ("Infinity", .real (.infinite false)), ("-Infinity", .real (.infinite true))]

/-- A word or a numeral. -/
def plain : Reader Document := fun t =>
  match words.findSome? fun (word, value) => (Text.after? word t).map fun r => (value, r) with
  | some found => .ok found
  | none =>
    match t with
    | [] => .error (.fault .noValue t)
    | c :: r => if c = '-' then numeral true t r else numeral false t t

/-- The items of an array up to its closing bracket, at least one; each round takes a comma off the text, so its
length is fuel enough. -/
def items (item : Reader Document) : (fuel : Nat) → Reader (List Document)
  | 0, t => .error (.fault .noValue t)
  | fuel + 1, t => do
    let (v, r) ← item t
    match skip r with
    | [] => .error (.fault .noComma [])
    | c :: r =>
      if c = ']' then return ([v], r)
      else if c = ',' then
        let (vs, rest) ← items item fuel (skip r)
        return (v :: vs, rest)
      else .error (.fault .noComma (c :: r))

/-- The name of a member, and the colon after it. -/
def memberName : Reader Text := fun t =>
  match t with
  | [] => .error (.fault .noName [])
  | c :: r =>
    if c = '"' then do
      let (name, r) ← quotedText (c :: r) r
      match skip r with
      | [] => .error (.fault .noColon [])
      | d :: r => if d = ':' then return (name, skip r) else .error (.fault .noColon (d :: r))
    else .error (.fault .noName (c :: r))

/-- The members of an object up to its closing brace, at least one. -/
def members (item : Reader Document) : (fuel : Nat) → Reader (List (Text × Document))
  | 0, t => .error (.fault .noName t)
  | fuel + 1, t => do
    let (name, r) ← memberName t
    let (v, r) ← item r
    match skip r with
    | [] => .error (.fault .noComma [])
    | c :: r =>
      if c = '\x7d' then return ([(name, v)], r)
      else if c = ',' then
        let (vs, rest) ← members item fuel (skip r)
        return ((name, v) :: vs, rest)
      else .error (.fault .noComma (c :: r))

/-- What stands behind an opening bracket. -/
def arrayRest (item : Reader Document) : Reader Document := fun t =>
  match skip t with
  | [] => .error (.fault .noValue [])
  | c :: r =>
    if c = ']' then .ok (.array [], r)
    else do
      let (vs, rest) ← items item (c :: r).length (c :: r)
      return (.array vs, rest)

/-- What stands behind an opening brace. -/
def objectRest (item : Reader Document) : Reader Document := fun t =>
  match skip t with
  | [] => .error (.fault .noName [])
  | c :: r =>
    if c = '\x7d' then .ok (.object [], r)
    else do
      let (es, rest) ← members item (c :: r).length (c :: r)
      return (.object (Entries.ofList es), rest)

/-- A value whose containers nest at most `depth` deep. -/
def value : (depth : Nat) → Reader Document
  | depth, t =>
    match t with
    | [] => .error (.fault .noValue [])
    | c :: r =>
      if c = '"' then do
        let (s, rest) ← quotedText (c :: r) r
        return (.text s, rest)
      else if c = '[' then
        match depth with
        | 0 => .error (.tooDeep .array)
        | depth + 1 => arrayRest (value depth) r
      else if c = '\x7b' then
        match depth with
        | 0 => .error (.tooDeep .object)
        | depth + 1 => objectRest (value depth) r
      else plain (c :: r)

/-! ## Whole texts -/

/-- A value with nothing but separators around it. -/
def whole (depth : Nat) (t : Text) : Except Stop Document := do
  let (v, r) ← value depth (skip t)
  match skip r with
  | [] => .ok v
  | c :: r => .error (.fault .extraData (c :: r))

/-- A value in a text that does not begin with a byte order mark. -/
def unmarked (depth : Nat) (t : Text) : Except Stop Document :=
  if t.head? = some (CodePoint.ofNat 0xFEFF) then .error (.fault .byteOrderMark t) else whole depth t

/-- The place of a fault after the code points before it. -/
def Malformed.after (before : Text) (fault : Fault) : Malformed where
  fault := fault
  offset := before.length
  line := before.count (CodePoint.ofChar '\n') + 1
  column := (before.reverse.takeWhile fun (c : CodePoint) => c ≠ '\n').length + 1

def ReadError.ofStop (t : Text) : Stop → ReadError
  | .fault fault rest => .malformed (Malformed.after (t.take (t.length - rest.length)) fault)
  | .tooDeep container => .tooDeep container
  | .tooManyDigits count => .tooManyDigits count

/-- Read a text that was decoded from bytes, in which a byte order mark is a code point like any other. -/
def readDecoded (depth : Nat) (t : Text) : Except ReadError Document :=
  (whole depth t).mapError (ReadError.ofStop t)

def read (depth : Nat) (t : Text) : Except ReadError Document := (unmarked depth t).mapError (ReadError.ofStop t)

/-! ## Messages -/

/-- The fault with its place. -/
def Malformed.message (m : Malformed) : Text :=
  m.fault.message ++ ": line " ++ Text.ofNat m.line ++ " column " ++ Text.ofNat m.column ++
    " (char " ++ Text.ofNat m.offset ++ ")"

/-- The limit on the digits of an integer, with the number of digits that were found. -/
def tooManyDigitsMessage (count : Nat) : Text :=
  "Exceeds the limit (4300 digits) for integer string conversion: value has " ++ Text.ofNat count ++
    " digits; use sys.set_int_max_str_digits() to increase the limit"

def tooDeepMessage (container : Container) : Text :=
  "maximum recursion depth exceeded while decoding a JSON " ++
    (match container with | .array => ("array" : Text) | .object => "object") ++ " from a unicode string"

def ReadError.message : ReadError → Text
  | malformed m => m.message
  | tooDeep container => tooDeepMessage container
  | tooManyDigits count => tooManyDigitsMessage count

end IndexOptions.Document
