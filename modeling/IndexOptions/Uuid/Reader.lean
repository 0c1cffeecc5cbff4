import IndexOptions.Text.Split
import IndexOptions.Uuid.Basic

/-!
# Reading an identifier

An identifier is read from 32 hexadecimal digits, or from 36 code points with dashes after the groups; the dashed form
may stand in braces or after `urn:uuid:`. A text of another form is refused with the first fault of it: its length, if
no form is that long, then a code point that does not belong, then the number of groups, then the length of a group.
-/

namespace IndexOptions

/-- Why a text is no identifier. Places and lengths count bytes, groups count from zero. -/
inductive UuidFault where
  | length (found : Nat)
  | character (c : CodePoint) (place : Nat)
  | groupCount (found : Nat)
  | groupLength (group expected found : Nat)
deriving DecidableEq, Repr

def UuidFault.message : UuidFault → Text
  | length found => "invalid length: found " ++ Text.ofNat found
  | character c place => "invalid character: found `" ++ [c] ++ "` at " ++ Text.ofNat place
  | groupCount found => "invalid group count: expected 5, found " ++ Text.ofNat found
  | groupLength group expected found =>
    "invalid group length in group " ++ Text.ofNat group ++ ": expected " ++ Text.ofNat expected ++ ", found " ++
      Text.ofNat found

namespace Uuid

/-- The number of hexadecimal digits, if all are. -/
def hexNumber? (t : Text) : Option Nat :=
  t.foldl (fun n c => n.bind fun n => c.hexValue?.map fun d => 16 * n + d) (some 0)

/-- What stands between braces, or after the name of the namespace; the number tells how much was dropped before it. -/
def unwrapped? (t : Text) : Option (Nat × Text) :=
  match t with
  | [] => none
  | c :: r =>
    if c = '\x7b' && r.getLast? = some (CodePoint.ofChar '\x7d') then some (1, r.dropLast)
    else (Text.after? "urn:uuid:" t).map fun r => (9, r)

/-- The groups of a text have the lengths of the dashed form. -/
def isDashed (t : Text) : Bool := (Text.splitOn '-' t).map List.length = groupLengths

/-- The dashed form, or the digits alone where `bare` allows it. -/
def digits? (bare : Bool) (t : Text) : Option Text :=
  if isDashed t then some (t.filter fun (c : CodePoint) => c ≠ '-')
  else if bare && t.length = 32 then some t
  else none

def parse? (t : Text) : Option Uuid :=
  ((match unwrapped? t with
    | some (_, inner) => digits? false inner
    | none => digits? true t).bind hexNumber?).map ofNat

/-! ## Faults -/

/-- The code point of the lowest byte of a code point. Faults are told by it, so that a code point past the first 256
may pass for a digit or for a dash. -/
def lowByte (c : CodePoint) : CodePoint := CodePoint.ofNat (c.val % 256)

def looksLikeDash (c : CodePoint) : Bool := lowByte c = '-'

def looksLikeDigit (c : CodePoint) : Bool := (lowByte c).hexValue?.isSome

/-- The first code point that looks neither like a hexadecimal digit nor like a dash, with the number of bytes before
it. -/
def strangeFrom : (place : Nat) → Text → Option (CodePoint × Nat)
  | _, [] => none
  | place, c :: r =>
    if looksLikeDash c || looksLikeDigit c then strangeFrom (place + c.utf8.length) r else some (c, place)

/-- The numbers of bytes before what looks like a dash. -/
def dashesFrom : (place : Nat) → Text → List Nat
  | _, [] => []
  | place, c :: r =>
    let later := dashesFrom (place + c.utf8.length) r
    if looksLikeDash c then place :: later else later

/-- The length of the longest form, in bytes. -/
def longest : Nat := 45

/-- The length of the dashed form, in bytes. -/
def dashedLength : Nat := 36

/-- What faults are looked for in: a part of a text, the bytes that count as standing before it, the bytes that count as
its length, and whether it may lack the dashes. -/
structure Examined where
  inner : Text
  before : Nat
  total : Nat
  bare : Bool

/-- The part of a text to examine. A text or an inner part as long as the dashed form is taken for it, without anything
around it. -/
def Examined.ofText (t : Text) : Examined :=
  if t.utf8Length = dashedLength then ⟨t, 0, dashedLength, false⟩
  else
    match unwrapped? t with
    | some (dropped, inner) =>
      if inner.utf8Length = dashedLength then ⟨inner, 0, dashedLength, false⟩
      else ⟨inner, dropped, t.utf8Length, false⟩
    | none => ⟨t, 0, t.utf8Length, true⟩

/-- The places at which the groups of the dashed form begin. -/
def groupStarts : List Nat := [0, 9, 14, 19, 24]

/-- The fault in the lengths of five groups, by the places of the four dashes and the length of all: the first group
whose dash is out of place, otherwise the last group. -/
def oddGroup (total : Nat) (dashes : List Nat) : UuidFault :=
  let misplaced := ((groupStarts.zip groupLengths).zip dashes).zipIdx.find? fun (((start, expected), dash), _) =>
    dash ≠ start + expected
  match misplaced with
  | some (((start, expected), dash), i) => .groupLength i expected (dash - start)
  | none => .groupLength 4 12 (total - 24)

/-- What is wrong with a text that is no identifier. -/
def fault (t : Text) : UuidFault :=
  if longest < t.utf8Length then .length t.utf8Length
  else
    let x := Examined.ofText t
    match strangeFrom x.before x.inner with
    | some (c, place) => .character c place
    | none =>
      let dashes := dashesFrom 0 x.inner
      if dashes.isEmpty && x.bare then .length x.total
      else if dashes.length ≠ 4 then .groupCount (dashes.length + 1)
      else oddGroup x.total dashes

def parse (t : Text) : Except UuidFault Uuid :=
  match parse? t with
  | some u => .ok u
  | none => .error (fault t)

end Uuid

end IndexOptions
