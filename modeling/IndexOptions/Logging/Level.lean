import IndexOptions.Document.Basic
import IndexOptions.Text.Case

/-!
# Log levels and records

A level is a number, and some numbers have names. A setting names a level in any case; a name that is unknown means
`INFO`. Two words are neither known nor unknown: they name other things of the logging system and are refused.
-/

namespace IndexOptions

namespace LogLevel

def debug : Nat := 10

def info : Nat := 20

def warning : Nat := 30

def error : Nat := 40

/-- The names of levels and their numbers. -/
def named : List (Text × Nat) :=
  [("CRITICAL", 50), ("FATAL", 50), ("ERROR", 40), ("WARNING", 30), ("WARN", 30), ("INFO", 20), ("DEBUG", 10),
    ("NOTSET", 0)]

/-- The name that a line shows for a level. -/
def shown (level : Nat) : Text :=
  if level = 50 then "CRITICAL"
  else if level = 40 then "ERROR"
  else if level = 30 then "WARNING"
  else if level = 20 then "INFO"
  else if level = 10 then "DEBUG"
  else if level = 0 then "NOTSET"
  else "Level " ++ Text.ofNat level

/-- Whether a level can be shown: numbers of more than 4300 digits are not written out. -/
def isShowable (level : Nat) : Bool := (Text.ofNat level).length ≤ 4300

/-- Why the name of a level cannot be used: two words name things that are no levels. -/
inductive Misnamed where
  | format
  | styles
deriving DecidableEq, Repr

def Misnamed.message : Misnamed → Text
  | format => "Unknown level: '%(levelname)s:%(name)s:%(message)s'"
  | styles =>
    "Level not an integer or a valid string: \x7b'%': (<class 'logging.PercentStyle'>, " ++
      "'%(levelname)s:%(name)s:%(message)s'), '\x7b': (<class 'logging.StrFormatStyle'>, " ++
      "'\x7blevelname\x7d:\x7bname\x7d:\x7bmessage\x7d'), '$': (<class 'logging.StringTemplateStyle'>, " ++
      "'$\x7blevelname\x7d:$\x7bname\x7d:$\x7bmessage\x7d')\x7d"

/-- The level of a name in any case. -/
def ofName (name : Text) : Except Misnamed Nat :=
  let word := name.capitals
  match named.lookup word with
  | some level => .ok level
  | none =>
    if word = ("BASIC_FORMAT" : Text) then .error .format
    else if word = ("_STYLES" : Text) then .error .styles
    else .ok info

end LogLevel

/-! ## Records -/

/-- A line for the log, with its structured fields. -/
structure LogRecord where
  level : Nat
  logger : Text
  message : Text
  extra : Entries Document
deriving Repr

end IndexOptions
