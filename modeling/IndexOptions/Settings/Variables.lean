import IndexOptions.Entries
import IndexOptions.Text.Split
import IndexOptions.Text.Utf8

/-!
# Environment variables

Names and values of environment variables are bytes that end before the first zero byte. They have a form in bytes if
they have no surrogate half but U+DC80 to U+DCFF, which stand for single bytes. `VariableFault.ofSetting?` tells what
keeps a value from being given to a name.

A file gives variables line by line as `NAME=value`, with an optional `export` before the name.

- A value in quotes may go over several lines and hold escapes; a bare value ends before a comment that follows a
  blank.
- A name without a value is a variable without a value.
- A line of another form is skipped.
- `${NAME}` and `${NAME:-default}` inside a value stand for another variable, of the file above or
  of the environment.

The parts of a line are read from the beginning of a text and hand on the rest; `none` stands for a line of another
form. Line ends are single line feeds here (`withLineFeeds`).
-/

namespace IndexOptions

/-! ## Names and values -/

/-- Why a variable cannot be set. -/
inductive VariableFault where
  | unencodable (run : Text.UnencodableRun)
  | zeroByte
  | equalsSign
  | emptyName
deriving DecidableEq, Repr

namespace VariableFault

def message : VariableFault → Text
  | unencodable run => run.message
  | zeroByte => "embedded null byte"
  | equalsSign => "illegal environment variable name"
  | emptyName => "[Errno 22] Invalid argument"

/-- A surrogate half that stands for no byte. -/
def isStray (c : CodePoint) : Bool := c.isSurrogate && !(0xDC80 ≤ c.val && c.val ≤ 0xDCFF)

/-- A text without a form in bytes, from its first stray half to the end of the surrogate halves there. -/
def ofText? (t : Text) : Option VariableFault := (t.firstRun? isStray CodePoint.isSurrogate).map unencodable

/-- What is wrong with a name and a value, if anything is: first how they are written, then what the name is. -/
def ofSetting? (name value : Text) : Option VariableFault :=
  (ofText? name).or <| (ofText? value).or <|
    if name.contains '\x00' || value.contains '\x00' then some zeroByte
    else if name.contains '=' then some equalsSign
    else if name.isEmpty then some emptyName
    else none

end VariableFault

namespace EnvFile

/-- A variable of the file; it may have no value. -/
abbrev Binding := Text × Option Text

/-! ## Line ends and blanks -/

/-- Write every line end as one line feed. -/
def withLineFeeds : Text → Text
  | [] => []
  | [c] => [if c = '\r' then '\n' else c]
  | c :: d :: r =>
    if c = '\r' then
      if d = '\n' then withLineFeeds (d :: r) else '\n' :: withLineFeeds (d :: r)
    else c :: withLineFeeds (d :: r)

/-- A blank within a line. -/
def isSpace (c : CodePoint) : Bool := c.isBlank && c ≠ '\n'

def skipSpaces (t : Text) : Text := t.dropWhile isSpace

def untilLineEnd (t : Text) : Text := t.takeWhile fun (c : CodePoint) => c ≠ '\n'

/-- What follows the line. -/
def afterLine (t : Text) : Text := (t.dropWhile fun (c : CodePoint) => c ≠ '\n').drop 1

/-! ## Quoted texts -/

/-- The value that an opening quote begins, and what follows the quote that closes it: the first one that no backslash
takes along. A backslash takes the next code point along, whatever it is. -/
def quoted? (quote : CodePoint) : Text → Option (Text × Text)
  | [] => none
  | [c] => if c = quote then some ([], []) else none
  | c :: d :: r =>
    if c = quote then some ([], d :: r)
    else if c = '\\' then (quoted? quote r).map fun (value, rest) => (c :: d :: value, rest)
    else (quoted? quote (d :: r)).map fun (value, rest) => (c :: value, rest)

/-- The control character that a letter stands for after a backslash. -/
def controlEscape? (c : CodePoint) : Option CodePoint :=
  if c = 'a' then some '\x07'
  else if c = 'b' then some '\x08'
  else if c = 'f' then some '\x0c'
  else if c = 'n' then some '\n'
  else if c = 'r' then some '\r'
  else if c = 't' then some '\t'
  else if c = 'v' then some '\x0b'
  else none

/-- What a code point stands for after a backslash, between the given quotes. -/
def escape? (quote c : CodePoint) : Option CodePoint :=
  if c = '\\' || c = '\'' then some c
  else if quote = '"' then (if c = '"' then some c else controlEscape? c)
  else none

/-- Replace the escapes of a quoted value; other backslashes stay. -/
def unescape (quote : CodePoint) : Text → Text
  | [] => []
  | [c] => [c]
  | c :: d :: r =>
    if c = '\\' then
      match escape? quote d with
      | some e => e :: unescape quote r
      | none => c :: unescape quote (d :: r)
    else c :: unescape quote (d :: r)

/-! ## Lines -/

/-- Drop a comment that follows a blank. -/
def withoutComment : Text → Text
  | [] => []
  | c :: r =>
    if c.isBlank && (r.dropWhile CodePoint.isBlank).head? = some (CodePoint.ofChar '#') then []
    else c :: withoutComment r

/-- A value without quotes, up to the end of the line. The blanks before it may begin a comment. -/
def bare (t : Text) : Text × Text :=
  let line := untilLineEnd t
  ((withoutComment line).trim, t.drop line.length)

/-- The value of a variable, from the sign of equality on. -/
def value? (t : Text) : Option (Text × Text) :=
  match skipSpaces t with
  | c :: r =>
    if c = '\'' || c = '"' then (quoted? c r).map fun (value, rest) => (unescape c value, rest) else some (bare t)
  | [] => some (bare t)

def isKeyPoint (c : CodePoint) : Bool := c ≠ '=' && c ≠ '#' && !c.isBlank

/-- The name of a variable; a comment has none. -/
def key? (t : Text) : Option (Option Text × Text) :=
  match t with
  | [] => none
  | c :: r =>
    if c = '#' then some (none, c :: r)
    else if c = '\'' then
      let name := r.takeWhile fun (d : CodePoint) => d ≠ '\''
      match r.drop name.length with
      | [] => none
      | _ :: rest => if name.isEmpty then none else some (some name, rest)
    else
      let name := (c :: r).takeWhile isKeyPoint
      if name.isEmpty then none else some (some name, (c :: r).drop name.length)

/-- Drop the word `export` with the blanks after it. -/
def withoutExport (t : Text) : Text :=
  match Text.after? "export" t with
  | some r => if (r.head?.map isSpace) = some true then skipSpaces r else t
  | none => t

/-- Behind a comment and the end of the line. -/
def lineEnd? (t : Text) : Option Text :=
  let r := skipSpaces t
  match r with
  | [] => some []
  | c :: r => if c = '#' then some (afterLine (c :: r)) else if c = '\n' then some r else none

/-- A value, if a sign of equality says so. -/
def assigned? (t : Text) : Option (Option Text × Text) :=
  match t with
  | [] => some (none, [])
  | c :: r =>
    if c = '=' then (value? r).map fun (value, rest) => (some value, rest) else some (none, c :: r)

/-- Read one variable or comment. A line of another form is skipped from the place on where it goes wrong. -/
def line (t : Text) : Option Binding × Text :=
  let t := withoutExport (t.dropWhile CodePoint.isBlank)
  match key? t with
  | none => (none, afterLine t)
  | some (key, r) =>
    let r := skipSpaces r
    match assigned? r with
    | none => (none, afterLine (skipSpaces (r.drop 1)))
    | some (value, r) =>
      match lineEnd? r with
      | none => (none, afterLine r)
      | some r => (key.map fun key => (key, value), r)

/-- The variables of a file, in order; every line takes something off the text, so its length is fuel enough. -/
def bindingsFrom : (fuel : Nat) → Text → List Binding
  | 0, _ => []
  | fuel + 1, t =>
    if t.all CodePoint.isBlank then []
    else
      let (binding, rest) := line t
      binding.toList ++ bindingsFrom fuel rest

def bindings (t : Text) : List Binding :=
  let t := withLineFeeds t
  bindingsFrom t.length t

/-! ## References to variables -/

/-- The name and the default of a reference, behind its opening brace. -/
def reference? (t : Text) : Option ((Text × Text) × Text) :=
  let isNamePoint (c : CodePoint) : Bool := c ≠ '\x7d' && c ≠ ':'
  let name := t.takeWhile isNamePoint
  let r := t.drop name.length
  match Text.after? ":-" r with
  | some r =>
    let default := r.takeWhile fun (c : CodePoint) => c ≠ '\x7d'
    match r.drop default.length with
    | [] => none
    | _ :: rest => some ((name, default), rest)
  | none => (Text.after? "\x7d" r).map fun rest => ((name, []), rest)

/-- Put the values of variables in the place of references to them. -/
def substitute (look : Text → Option Text) : (fuel : Nat) → Text → Text
  | 0, t => t
  | _, [] => []
  | fuel + 1, c :: r =>
    match (Text.after? "$\x7b" (c :: r)).bind reference? with
    | some ((name, default), rest) => (look name).getD default ++ substitute look fuel rest
    | none => c :: substitute look fuel r

/-- The value that a reference finds: the last one of the file above, where a variable without a value is empty, or
the one of the environment. -/
def look (environment : Entries Text) (above : Entries (Option Text)) (name : Text) : Option Text :=
  match above.get? name with
  | some value => some (value.getD [])
  | none => environment.get? name

/-- Take the variables one by one into those above. -/
def resolveFrom (environment : Entries Text) : (above : Entries (Option Text)) → List Binding → Entries (Option Text)
  | above, [] => above
  | above, (key, value) :: r =>
    resolveFrom environment
      (above.put key (value.map fun v => substitute (look environment above) (v.length + 1) v)) r

/-- The variables of a file with their values. -/
def read (environment : Entries Text) (t : Text) : Entries (Option Text) := resolveFrom environment [] (bindings t)

end EnvFile

end IndexOptions
