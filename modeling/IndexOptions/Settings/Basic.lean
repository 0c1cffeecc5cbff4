import IndexOptions.Reading.Basic
import IndexOptions.Reading.Number
import IndexOptions.Settings.Variables

/-!
# Settings

The settings of the service come from environment variables whose names match the fields up to case, else from a file
of variables, else from defaults. `Settings.load` reads them; a variable that does not fit is a problem of its field.
-/

namespace IndexOptions

inductive Stage where
  | development
  | staging
  | production
deriving DecidableEq, Repr

def Stage.text : Stage → Text
  | development => "development"
  | staging => "staging"
  | production => "production"

structure Settings where
  appName : Text
  stage : Stage
  debug : Bool
  logLevel : Text
  host : Text
  port : Int
  dataDirectory : Text
deriving DecidableEq, Repr

namespace Settings

def defaults : Settings where
  appName := "index-options-service"
  stage := .development
  debug := false
  logLevel := "INFO"
  host := "0.0.0.0"
  port := 8000
  dataDirectory := "/var/lib/cassandra/data"

/-- The stage of a text. -/
def readStage : Document → Checked Stage
  | .text t =>
    if !t.isEncodable then Checked.refuse .notUnicode (.text t)
    else
      match [Stage.development, .staging, .production].find? fun s => s.text = t with
      | some s => .ok s
      | none => Checked.refuse (.notOneOf Stage.development.text Stage.staging.text Stage.production.text) (.text t)
  | v => Checked.refuse (.notOneOf Stage.development.text Stage.staging.text Stage.production.text) v

/-! ## Variables -/

/-- The last value of a variable whose name matches a field up to case. -/
def lastMatch {α : Type} (field : Text) (named : Entries α) : Option α :=
  (named.reverse.find? fun e => e.1.lower = field).map Prod.snd

/-- The text for a field: of the environment, or else of the file. -/
def textFor (environment : Entries Text) (file : Entries (Option Text)) (field : Text) : Option Text :=
  match lastMatch field environment with
  | some t => some t
  | none => (lastMatch field file).join

/-- The value of a field whose text is looked up, or its default. -/
def fieldOr {α : Type} (look : Text → Option Text) (field : Text) (default : α) (read : Document → Checked α) :
    Checked α :=
  match look field with
  | some t => Checked.under (.key field) (read (.text t))
  | none => .ok default

/-- The settings whose texts are looked up by field. -/
def ofLookup (look : Text → Option Text) : Checked Settings :=
  ((fieldOr look "app_name" defaults.appName Reading.text).and
    ((fieldOr look "environment" defaults.stage readStage).and
      ((fieldOr look "debug" defaults.debug Reading.flag).and
        ((fieldOr look "log_level" defaults.logLevel Reading.text).and
          ((fieldOr look "host" defaults.host Reading.text).and
            ((fieldOr look "port" defaults.port (Reading.integerBetween 1 65535)).and
              (fieldOr look "data_directory" defaults.dataDirectory Reading.name))))))).map
    fun (appName, stage, debug, logLevel, host, port, dataDirectory) =>
      { appName, stage, debug, logLevel, host, port, dataDirectory }

/-- The variables of a file, if there is one. -/
def fileVariables (environment : Entries Text) : Option Text → Entries (Option Text)
  | some t => EnvFile.read environment t
  | none => []

def load (environment : Entries Text) (envFile : Option Text) : Checked Settings :=
  ofLookup (textFor environment (fileVariables environment envFile))

/-- All settings, by name. -/
def toDocument (s : Settings) : Document :=
  .object [("app_name", .text s.appName), ("environment", .text s.stage.text), ("debug", .bool s.debug),
    ("log_level", .text s.logLevel), ("host", .text s.host), ("port", .integer s.port),
    ("data_directory", .text s.dataDirectory)]

end Settings

/-! ## Launch -/

/-- Where the service listens, and at which level its server logs. -/
structure Launch where
  app : Text
  host : Text
  port : Int
  logLevel : Text
deriving DecidableEq, Repr

def Settings.launch (s : Settings) : Launch where
  app := "indexconf.main:app"
  host := s.host
  port := s.port
  logLevel := s.logLevel.lower

def Launch.toDocument (l : Launch) : Document :=
  .object [("app", .text l.app), ("host", .text l.host), ("port", .integer l.port), ("log_level", .text l.logLevel)]

end IndexOptions
