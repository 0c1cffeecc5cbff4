import IndexOptions.Text.Basic
import IndexOptions.Text.CaseTable

/-!
# Lower case and capitals

The full lower-case form of a text (`Text.lower`). Each code point is lowered by itself, with one exception: a capital
sigma at the end of a word becomes the final sigma. U+0130 is the one code point whose lower-case form has two code
points.

Of the capitals of a text (`Text.capitals`) only the ASCII letters are formed. This is all that the comparison with a
word in capitals needs: a code point that stays is no ASCII capital, so a text with such a code point in it is no such
word.
-/

namespace IndexOptions

/-! ## Lower case -/

namespace CodePoint

/-- The lower-case form given by a run of the case table, if the run covers the code point. -/
def lowerIn? (c : Nat) (run : Nat × Nat × Nat × Nat) : Option Nat :=
  let (first, last, step, target) := run
  if first ≤ c && c ≤ last && (c - first) % step == 0 then some (target + (c - first)) else none

/-- The lower-case form of a code point outside of any word. -/
def lower (c : CodePoint) : Text :=
  if c.val = 0x130 then [ofNat 0x69, ofNat 0x307]
  else
    match CaseTable.lowerRuns.findSome? (lowerIn? c.val) with
    | some n => [ofNat n]
    | none => [c]

def isCased (c : CodePoint) : Bool := CaseTable.casedRanges.any fun (a, b) => a ≤ c.val && c.val ≤ b

def isCaseIgnorable (c : CodePoint) : Bool := CaseTable.caseIgnorableRanges.any fun (a, b) => a ≤ c.val && c.val ≤ b

def capitalSigma : CodePoint := ⟨0x3A3, by decide⟩

def finalSigma : CodePoint := ⟨0x3C2, by decide⟩

end CodePoint

namespace Text

/-- Whether a text goes on with a cased code point, ignorable ones skipped. -/
def continuesWord (t : Text) : Bool :=
  match t.dropWhile CodePoint.isCaseIgnorable with
  | [] => false
  | c :: _ => c.isCased

/-- Lower a text; `inWord` tells whether the last code point before it that is not ignorable is cased. -/
def lowerFrom : (inWord : Bool) → Text → Text
  | _, [] => []
  | inWord, c :: r =>
    if c = CodePoint.capitalSigma then
      (if inWord && !continuesWord r then [CodePoint.finalSigma] else c.lower) ++ lowerFrom true r
    else c.lower ++ lowerFrom (if c.isCaseIgnorable then inWord else c.isCased) r

def lower (t : Text) : Text := lowerFrom false t

end Text

/-! ## Capitals -/

namespace CodePoint

/-- The ligatures and letters other than `a` to `z` whose capitals are letters `A` to `Z`. -/
def otherCapitals : List (Nat × Text) :=
  [(0xDF, "SS"), (0x131, "I"), (0x17F, "S"), (0xFB00, "FF"), (0xFB01, "FI"), (0xFB02, "FL"), (0xFB03, "FFI"),
    (0xFB04, "FFL"), (0xFB05, "ST"), (0xFB06, "ST")]

/-- The capitals of a code point, if they are ASCII letters; other code points stay. -/
def capitals (c : CodePoint) : Text :=
  if 97 ≤ c.val && c.val ≤ 122 then [ofNat (c.val - 32)] else (otherCapitals.lookup c.val).getD [c]

end CodePoint

def Text.capitals (t : Text) : Text := t.flatMap CodePoint.capitals

end IndexOptions
