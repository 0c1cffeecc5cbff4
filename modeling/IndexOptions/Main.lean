import IndexOptions.Document.Writer
import IndexOptions.Service.Basic

/-!
# The command line

Reads the environment and the file `.env` of the current directory, and prints where the service is to listen. Settings
that do not load are reported line by line, and the program then ends with status 1.
-/

namespace IndexOptions.CommandLine

/-! ## The environment as bytes -/

/-- The code point whose UTF-8 form the bytes begin with. -/
def leading? : List Nat → Option CodePoint
  | [] => none
  | first :: rest =>
    let more := if first < 0x80 then 0 else if first < 0xE0 then 1 else if first < 0xF0 then 2 else 3
    let high := if first < 0x80 then first else first % (0x40 / Nat.pow 2 more)
    let c := CodePoint.ofNat ((rest.take more).foldl (fun n b => 0x40 * n + b % 0x40) high)
    -- Forms that are too long, cut short or past the last code point are not those of the code point found.
    if c.utf8 = first :: rest.take more && !c.isSurrogate then some c else none

/-- The text of some bytes. A byte that belongs to no code point becomes one of the surrogate halves U+DC80 to
U+DCFF. Each round takes at least one byte, so the number of bytes is fuel enough. -/
def textOf : (fuel : Nat) → List Nat → Text
  | 0, _ | _, [] => []
  | fuel + 1, b :: r =>
    match leading? (b :: r) with
    | some c => c :: textOf fuel ((b :: r).drop c.utf8.length)
    | none => CodePoint.ofNat (0xDC00 + b) :: textOf fuel r

/-- The variables of a block in which each name and its value end with a zero byte; of a repeated name the first counts.
What holds no equals sign is no variable. -/
def bindings (block : List Nat) : Entries Text :=
  (Text.splitOn '\x00' (textOf block.length block)).foldl (fun (known : Entries Text) piece =>
    let name := piece.takeWhile fun c => c ≠ '='
    if name = piece || known.has name then known else known.put name (piece.drop (name.length + 1))) []

/-- All variables of the process, under whatever spelling of their names. -/
def environment : IO (Entries Text) := do
  return bindings ((← IO.FS.readBinFile "/proc/self/environ").toList.map UInt8.toNat)

/-- The text of the file of variables, if it can be read. -/
def envFileText : IO (Option Text) := do
  try
    return some (Text.ofString (← IO.FS.readFile ".env"))
  catch _ => return none

end IndexOptions.CommandLine

open IndexOptions CommandLine in
/-- Print where the service listens, or what is wrong with its settings. -/
def main : IO UInt32 := do
  let service := { Service.initial with environment := ← environment, envFile := ← envFileText }
  match service.launch.1 with
  | .ok launch =>
    IO.println launch.toDocument.write.toString
    return 0
  | .error problems =>
    IO.eprintln (Problem.headline "Settings" problems).toString
    for problem in problems do
      IO.eprintln problem.line.toString
    return 1
