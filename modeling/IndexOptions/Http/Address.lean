import IndexOptions.Text.Basic
import IndexOptions.Text.Case
import IndexOptions.Text.Quoted
import IndexOptions.Text.Split
import IndexOptions.Text.Utf8

/-!
# Addresses

The address of a request has an optional scheme and an optional authority, then a path, a query and a fragment. A
complete address has a scheme and a host; any other one counts from the root of the service. Only the path matters to
the service (`servedPath`): query and fragment are dropped, the segments `.` and `..` are worked off, and escapes
`%XX` are decoded, once on the way to the service and once more by it.

An address that cannot be asked for has a fault.
-/

namespace IndexOptions.Http

/-- Why an address cannot be asked for. -/
inductive AddressFault where
  | tooLong
  | unprintable (c : CodePoint) (place : Nat)
  | doubleSlash
  | colon
  | port (written : Text)
  | unknownScheme (word : Text)
  | unencodable (c : CodePoint)
deriving DecidableEq, Repr

def AddressFault.message : AddressFault → Text
  | tooLong => "URL too long"
  | unprintable c place =>
    "Invalid non-printable ASCII character in URL, " ++ Text.quoted [c] ++ " at position " ++ Text.ofNat place ++ "."
  | doubleSlash => "Relative URLs cannot have a path starting with '//'"
  | colon => "Relative URLs cannot have a path starting with ':'"
  | port written => "Invalid port: " ++ written.quoted
  | unknownScheme word => word.quoted
  | unencodable c => Text.UnencodableRun.message ⟨c, 0, 1⟩

/-- The parts of an address that tell where a request goes. -/
structure Address where
  scheme : Text
  userInfo : Text
  host : Text
  port : Text
  path : Text
deriving DecidableEq, Repr

namespace Address

/-! ## Parts -/

def isLetter (c : CodePoint) : Bool := (65 ≤ c.val && c.val ≤ 90) || (97 ≤ c.val && c.val ≤ 122)

def isSchemePoint (c : CodePoint) : Bool := isLetter c || c.isDigit || c = '+' || c = '.' || c = '-'

/-- A scheme, which is empty or begins with a letter, and what follows the colon after it. -/
def splitScheme (t : Text) : Text × Text :=
  let word := t.takeWhile isSchemePoint
  match t.drop word.length with
  | c :: r => if c = ':' && (word.head?.all isLetter) then (word, r) else ([], t)
  | [] => ([], t)

/-- An authority behind two slashes, and what follows it. -/
def splitAuthority (t : Text) : Text × Text :=
  let isInside (c : CodePoint) : Bool := c ≠ '/' && c ≠ '?' && c ≠ '#'
  match Text.after? "//" t with
  | some r => (r.takeWhile isInside, r.dropWhile isInside)
  | none => ([], t)

/-- What stands before the first sign `@` of an authority, and what follows it. -/
def splitUserInfo (t : Text) : Text × Text :=
  let isBefore (c : CodePoint) : Bool := c ≠ '@'
  match t.dropWhile isBefore with
  | _ :: r => (t.takeWhile isBefore, r)
  | [] => ([], t)

/-- The host, which may stand in brackets, and the port. -/
def splitHost (t : Text) : Text × Text :=
  let isPlain (c : CodePoint) : Bool := c ≠ ':' && c ≠ '@'
  let bracketed := Text.dropEndWhile (fun (c : CodePoint) => c ≠ ']') t
  let host := if t.head? = some (CodePoint.ofChar '[') && !bracketed.isEmpty then bracketed else t.takeWhile isPlain
  let r := t.drop host.length
  (host, (Text.after? ":" r).getD r)

def ofText (t : Text) : Address :=
  let (scheme, r) := splitScheme t
  let (authority, r) := splitAuthority r
  let (userInfo, rest) := splitUserInfo authority
  let (host, port) := splitHost rest
  { scheme, userInfo, host, port, path := r.takeWhile fun (c : CodePoint) => c ≠ '?' && c ≠ '#' }

/-! ## Paths -/

/-- Put a segment after others, the last one first: a single dot says nothing, and two dots take the last segment
away. The empty segment before the root stays. -/
def putSegment (above : List Text) (segment : Text) : List Text :=
  if segment = ("." : Text) then above
  else if segment = (".." : Text) then (if above = [[]] then above else above.drop 1)
  else segment :: above

/-- Work off the segments `.` and `..` of a path. -/
def withoutDots (path : Text) : Text :=
  Text.join "/" ((Text.splitOn '/' path).foldl putSegment []).reverse

/-- The ASCII code point of two hexadecimal digits. -/
def escaped? (d e : CodePoint) : Option CodePoint :=
  match d.hexValue?, e.hexValue? with
  | some high, some low => if high < 8 then some (CodePoint.ofNat (16 * high + low)) else none
  | _, _ => none

/-- Decode the escapes `%XX` of ASCII code points. Other escapes stay, since no path of the service has what they stand
for. -/
def decoded : Text → Text
  | [] => []
  | [c] => [c]
  | [c, d] => [c, d]
  | c :: d :: e :: r =>
    match if c = '%' then escaped? d e else none with
    | some p => p :: decoded r
    | none => c :: decoded (d :: e :: r)

/-- Whether an address has a scheme or an authority. -/
def hasStart (a : Address) : Bool := [a.scheme, a.userInfo, a.host, a.port].any fun part => !part.isEmpty

/-- Whether an address names its host with a scheme. -/
def isComplete (a : Address) : Bool := !a.scheme.isEmpty && !a.host.isEmpty

/-- The path of an address at the service, before its escapes are decoded. -/
def target (a : Address) : Text :=
  let path := if a.hasStart then withoutDots a.path else a.path
  if a.isComplete then (if path.isEmpty then "/" else path)
  else withoutDots ("/" ++ path.dropWhile fun (c : CodePoint) => c = '/')

/-! ## Faults -/

/-- The longest address. -/
def maxLength : Nat := 65536

def isUnprintable (c : CodePoint) : Bool := c.val < 0x20 || c.val = 0x7F

/-- The schemes of addresses that are served. -/
def schemes : List Text := ["http", "https"]

/-- What keeps an address of these parts from being asked for. -/
def fault? (a : Address) : Option AddressFault :=
  if !a.port.all CodePoint.isDigit then some (.port a.port)
  else if a.isComplete && !schemes.contains a.scheme.lower then some (.unknownScheme a.scheme.lower)
  else if a.hasStart then none
  else if (Text.after? "//" a.path).isSome then some .doubleSlash
  else if (Text.after? ":" a.path).isSome then some .colon
  else none

/-- The path that the service finds in a request to an address. -/
def servedPath (t : Text) : Except AddressFault Text :=
  if maxLength < t.length then .error .tooLong
  else
    match t.firstRun? isUnprintable isUnprintable with
    | some run => .error (.unprintable run.first run.start)
    | none =>
      let address := ofText t
      match address.fault?, t.find? CodePoint.isSurrogate with
      | some fault, _ => .error fault
      | none, some c => .error (.unencodable c)
      | none, none => .ok (decoded (decoded address.target))

end Address

end IndexOptions.Http
