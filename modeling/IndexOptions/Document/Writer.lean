import IndexOptions.Document.Basic
import IndexOptions.Number.Shortest
import IndexOptions.Text.Quoted
import IndexOptions.Text.Split

/-!
# Documents as texts

`Document.write` gives the JSON text of a document in ASCII: every other code point is escaped, those beyond four
hexadecimal digits as a surrogate pair.

`Document.shown` is how a message names a value: a text as it is, and any other value in the notation of literals, in
which texts inside containers are quoted.
-/

namespace IndexOptions.Document

/-! ## JSON texts -/

def unicodeEscape (n : Nat) : Text := "\\u" ++ Text.hex 4 n

/-- A code point inside a quoted text. -/
def escapedPoint (c : CodePoint) : Text :=
  if c = '"' then "\\\""
  else if c = '\\' then "\\\\"
  else if c = '\n' then "\\n"
  else if c = '\r' then "\\r"
  else if c = '\t' then "\\t"
  else if c = '\x08' then "\\b"
  else if c = '\x0c' then "\\f"
  else if 0x20 ≤ c.val && c.val < 0x7F then [c]
  else if c.val < 0x10000 then unicodeEscape c.val
  else unicodeEscape (0xD800 + (c.val - 0x10000) / 0x400) ++ unicodeEscape (0xDC00 + (c.val - 0x10000) % 0x400)

def quotedJson (t : Text) : Text := "\"" ++ t.flatMap escapedPoint ++ "\""

/-- The text of a number; infinities and NaN are the words that the reader takes. -/
def realText : Double → Text
  | .nan => "NaN"
  | .infinite negative => if negative then "-Infinity" else "Infinity"
  | x => x.toText

mutual

def write : Document → Text
  | null => "null"
  | bool b => if b then "true" else "false"
  | integer i => Text.ofInt i
  | real x => realText x
  | text t => quotedJson t
  | array vs => "[" ++ Text.join ", " (writeItems vs) ++ "]"
  | object es => "\x7b" ++ Text.join ", " (writeMembers es) ++ "\x7d"

def writeItems : List Document → List Text
  | [] => []
  | v :: vs => v.write :: writeItems vs

def writeMembers : List (Text × Document) → List Text
  | [] => []
  | (name, v) :: es => (quotedJson name ++ ": " ++ v.write) :: writeMembers es

end

/-! ## Values in messages -/

mutual

/-- The literal of a value. -/
def literal : Document → Text
  | null => "None"
  | bool b => if b then "True" else "False"
  | integer i => Text.ofInt i
  | real x => x.toText
  | text t => t.quoted
  | array vs => "[" ++ Text.join ", " (literals vs) ++ "]"
  | object es => "\x7b" ++ Text.join ", " (memberLiterals es) ++ "\x7d"

def literals : List Document → List Text
  | [] => []
  | v :: vs => v.literal :: literals vs

def memberLiterals : List (Text × Document) → List Text
  | [] => []
  | (name, v) :: es => (name.quoted ++ ": " ++ v.literal) :: memberLiterals es

end

def shown : Document → Text
  | text t => t
  | v => v.literal

end IndexOptions.Document
