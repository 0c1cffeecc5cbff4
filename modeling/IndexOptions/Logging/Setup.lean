import IndexOptions.Logging.Level
import IndexOptions.Logging.Loggers

/-!
# The setup of the log

A record of a level passes its logger if the level is at least the effective one of the logger; then it goes to every
handler of the root whose level it reaches. A handler writes the record to the standard output as a line, or takes it in
silence. A line that the output cannot encode is lost.

`LogSetup.configure` gives the root one handler, in the place of all others, and one level to both; chatty loggers get
a level of their own. `LogSetup.emit` is what becomes of a record.
-/

namespace IndexOptions

/-- What a logger hands its records to; the level is the lowest that gets through. -/
structure LogHandler where
  level : Nat
  writes : Bool
deriving DecidableEq, Repr

/-- The ranges of code points that the standard output cannot encode. ASCII can always be encoded. -/
structure LogOutput where
  unencodable : List (Nat × Nat)
  encodes_ascii : ∀ range ∈ unencodable, 0x80 ≤ range.1
deriving DecidableEq, Repr

namespace LogOutput

/-- Whether the output takes a text. -/
def takes (output : LogOutput) (t : Text) : Bool :=
  t.all fun c => output.unencodable.all fun range => c.val < range.1 || range.2 < c.val

/-- UTF-8 has no form for surrogate halves. -/
def utf8 : LogOutput := ⟨[(0xD800, 0xDFFF)], by decide⟩

/-- An output that keeps the lines as they are. -/
def memory : LogOutput := ⟨[], by simp⟩

end LogOutput

/-- The level of the root logger, its handlers, the other loggers there are and the standard output. -/
structure LogSetup where
  root : Nat
  handlers : List LogHandler
  loggers : Loggers
  output : LogOutput
deriving DecidableEq, Repr

namespace LogSetup

open Logger (rootName)

/-- Before anything is configured. -/
def initial : LogSetup := ⟨LogLevel.warning, [], [], LogOutput.utf8⟩

/-- Give a logger a level of its own. -/
def setLevel (setup : LogSetup) (logger : Text) (level : Nat) : LogSetup :=
  { setup with loggers := setup.loggers.setLevel logger level }

/-- Give the root one more handler. -/
def withHandler (setup : LogSetup) (handler : LogHandler) : LogSetup :=
  { setup with handlers := setup.handlers ++ [handler] }

/-- The loggers that only pass warnings on. -/
def quiet : List Text := ["uvicorn.access", "httpx"]

/-- One writing handler for the root, at the given level. -/
def configured (setup : LogSetup) (level : Nat) : LogSetup where
  root := level
  handlers := [⟨level, true⟩]
  loggers := quiet.foldl (fun loggers logger => loggers.setLevel logger LogLevel.warning) setup.loggers
  output := setup.output

def configure (setup : LogSetup) (levelName : Text) : Except LogLevel.Misnamed LogSetup :=
  (LogLevel.ofName levelName).map setup.configured

/-! ## Loggers -/

/-- The setup after a logger was asked for. -/
def obtain (setup : LogSetup) (logger : Text) : LogSetup := { setup with loggers := setup.loggers.obtain logger }

/-- The effective level of a logger, which comes to be if it is not there. -/
def levelOf (setup : LogSetup) (logger : Text) : Nat := (setup.loggers.obtain logger).effectiveLevel setup.root logger

/-- Whether a logger lets records of a level through. It decides when it is first asked, and no record is let through at
level zero. -/
def passes (setup : LogSetup) (logger : Text) (level : Nat) : Bool :=
  (setup.loggers.decision? logger level).getD (level ≠ 0 && setup.levelOf logger ≤ level)

/-! ## Lines -/

/-- The line for a record, after its time. -/
def lineText (level : Nat) (logger message : Text) : Text :=
  LogLevel.shown level ++ " | " ++ (if logger.isEmpty then rootName else logger) ++ " | " ++ message

/-- The lines for a record that passed its logger: one for each writing handler that it reaches. -/
def written (setup : LogSetup) (level : Nat) (logger message : Text) : List Text :=
  let line := lineText level logger message
  let reached := setup.handlers.filter fun handler =>
    handler.writes && handler.level ≤ level && setup.output.takes line
  reached.map fun _ => line

/-- What becomes of a record: the lines that it makes, or nothing where its level cannot be shown, and the setup
afterwards. -/
def emit (setup : LogSetup) (level : Nat) (logger message : Text) : Option (List Text) × LogSetup :=
  let passes := setup.passes logger level
  let lines :=
    if !passes then some []
    else if LogLevel.isShowable level then some (setup.written level logger message)
    else none
  (lines, { setup with loggers := (setup.loggers.obtain logger).remember logger level passes })

/-- The lines that records make one after the other, and the setup afterwards. -/
def emitAll (setup : LogSetup) : List LogRecord → List Text × LogSetup
  | [] => ([], setup)
  | r :: rs =>
    let (lines, setup) := setup.emit r.level r.logger r.message
    let (rest, setup) := setup.emitAll rs
    (lines.getD [] ++ rest, setup)

end LogSetup

end IndexOptions
