import IndexOptions.Directories.Basic
import IndexOptions.Logging.Setup
import IndexOptions.Resolve.Basic
import IndexOptions.Settings.Basic
import IndexOptions.Settings.Variables

/-!
# The running service

A service keeps two things once it has made them: the settings it has loaded, and the data directories that all
requests share. It makes each on first use. A change of the environment shows in new settings only after the settings
are cleared, and in new directories only after these are dropped too.

- Where the service runs, and how much of the stack is left for reading documents, stays as it is.
- Loading that fails leaves the service as it was.
- Each shared object has a serial number of its own, so that one object can be told from an equal one.
-/

namespace IndexOptions

/-- Data directories as they are shared; the serial number counts the objects that were made before. -/
structure SharedDirectories where
  serial : Nat
  directories : Directories
deriving DecidableEq, Repr

structure Service where
  environment : Entries Text
  envFile : Option Text
  settings? : Option Settings
  shared? : Option SharedDirectories
  /-- How many shared directories were made so far. -/
  made : Nat
  logging : LogSetup
  workingDirectory : WorkingDirectory
  /-- How deep the containers of a text may nest that is read as a document. -/
  depth : Nat
deriving DecidableEq, Repr

namespace Service

/-- A service in the root directory that has done nothing yet. -/
def initial : Service := ⟨[], none, none, none, 0, LogSetup.initial, WorkingDirectory.root, 990⟩

/-! ## Environment -/

/-- Set a variable, or take it away. A variable that is set again moves to the end, so that of names that differ in
case alone the one set last counts. -/
def setVariable (s : Service) (name : Text) : Option Text → Service
  | some value => { s with environment := s.environment.erase name ++ [(name, value)] }
  | none => { s with environment := s.environment.erase name }

/-- Set variables one after the other, up to the first one that cannot be set, which is taken away. -/
def setVariables (s : Service) : List (Text × Option Text) → Except VariableFault Unit × Service
  | [] => (.ok (), s)
  | (name, value) :: changes =>
    match value.bind (VariableFault.ofSetting? name) with
    | some fault => (.error fault, s.setVariable name none)
    | none => (s.setVariable name value).setVariables changes

/-! ## Settings -/

def clearSettings (s : Service) : Service := { s with settings? := none }

/-- The settings, loaded on first use. -/
def obtainSettings (s : Service) : Checked Settings × Service :=
  match s.settings? with
  | some settings => (.ok settings, s)
  | none =>
    match Settings.load s.environment s.envFile with
    | .ok settings => (.ok settings, { s with settings? := some settings })
    | .error ps => (.error ps, s)

/-! ## Shared directories -/

def dropDirectories (s : Service) : Service := { s with shared? := none }

/-- The record of new data directories. -/
def initializedRecord (d : Directories) : LogRecord :=
  ⟨LogLevel.info, "indexconf.resources.storage.directories", "Data directories initialized",
    [("data_directory", .text d.data.text)]⟩

/-- What came out of a step of the service: a result, the records that were logged, and the service afterwards. -/
structure Outcome (α : Type) where
  result : α
  records : List LogRecord
  service : Service

/-- The shared directories, made on first use. -/
def obtainDirectories (s : Service) : Outcome (Checked SharedDirectories) :=
  match s.shared? with
  | some shared => ⟨.ok shared, [], s⟩
  | none =>
    match s.obtainSettings with
    | (.ok settings, s) =>
      let shared : SharedDirectories := ⟨s.made, Directories.ofText s.workingDirectory.path settings.dataDirectory⟩
      ⟨.ok shared, [initializedRecord shared.directories], { s with shared? := some shared, made := s.made + 1 }⟩
    | (.error ps, s) => ⟨.error ps, [], s⟩

/-! ## Options -/

/-- The directory service that a resolution uses. -/
inductive Source where
  /-- The directories that are shared. -/
  | shared
  /-- A service of the caller's own. -/
  | own (naming : Naming)

/-- The base directories that the shared object gives, or why there is none. -/
def sharedNaming (s : Service) : Naming := fun t =>
  match s.obtainDirectories.result with
  | .ok shared => .ok (shared.directories.baseFor t)
  | .error ps => .error (.settings ps)

def naming (s : Service) : Source → Naming
  | .shared => s.sharedNaming
  | .own naming => naming

/-- The records of the events of a computation and the service after them. The shared directories are obtained when
they are asked. -/
def replay (source : Source) : List Event → Service → List LogRecord × Service
  | [], s => ([], s)
  | .logged record :: es, s =>
    let (records, s) := replay source es s
    (record :: records, s)
  | .asked _ :: es, s =>
    match source with
    | .shared =>
      let obtained := s.obtainDirectories
      let (records, s) := replay source es obtained.service
      (obtained.records ++ records, s)
    | .own _ => replay source es s
  | _ :: es, s => replay source es s

/-- Run a computation that asks for directories from a source. -/
def run {α : Type} (s : Service) (source : Source) (x : Traced α) : Outcome (Except ResolveError α) :=
  let (records, service) := replay source x.events s
  ⟨x.result, records, service⟩

/-- Resolve options with the directories of a source. -/
def resolve {σ : Type} (s : Service) (source : Source) (builder : Builder σ) (options : OptionMap)
    (table : Given Table) (index : Given Index) : Outcome (Except ResolveError (Config σ)) :=
  s.run source (options.resolve table index (s.naming source) builder)

/-- Resolve the options stored with an index, with the shared directories. -/
def resolveStored (s : Service) (table : Given Table) (index : Index) :
    Outcome (Except ResolveError (Config Schema)) :=
  s.run .shared (OptionMap.resolveStored table index s.sharedNaming (Schema.builder s.depth))

/-! ## Start and end -/

/-- Why the service does not start. -/
inductive StartError where
  | settings (problems : List Problem)
  | logLevel (misnamed : LogLevel.Misnamed)

def loggerName : Text := "indexconf.main"

def record (level : Nat) (message : Text) (extra : Entries Document) : LogRecord :=
  ⟨level, loggerName, message, extra⟩

/-- Configure the log by the settings. -/
def configureLogging (s : Service) : Except StartError Unit × Service :=
  match s.obtainSettings with
  | (.error ps, s) => (.error (.settings ps), s)
  | (.ok settings, s) =>
    match s.logging.configure settings.logLevel with
    | .error misnamed => (.error (.logLevel misnamed), s)
    | .ok logging => (.ok (), { s with logging := logging })

/-- Configure the log a number of times, up to the first failure. -/
def configureLoggingTimes : (times : Nat) → Service → Except StartError Unit × Service
  | 0, s => (.ok (), s)
  | n + 1, s =>
    match s.configureLogging with
    | (.ok (), s) => configureLoggingTimes n s
    | failed => failed

/-- The record of a start. -/
def startingRecord (settings : Settings) : LogRecord :=
  record LogLevel.info "Application starting"
    [("app_name", .text settings.appName), ("environment", .text settings.stage.text)]

/-- Start: load the settings, configure the log and make the shared directories. -/
def start (s : Service) : Outcome (Except StartError Unit) :=
  match s.obtainSettings with
  | (.error ps, s) => ⟨.error (.settings ps), [], s⟩
  | (.ok settings, s) =>
    match s.configureLogging with
    | (.error e, s) => ⟨.error e, [], s⟩
    | (.ok (), s) =>
      let obtained := s.obtainDirectories
      ⟨(obtained.result.map fun _ => ()).mapError .settings, startingRecord settings :: obtained.records,
        obtained.service⟩

/-- End: drop the shared directories. -/
def stop (s : Service) : Outcome Unit :=
  ⟨(), [record LogLevel.info "Application shutting down" [], record LogLevel.info "Shutdown complete" []],
    s.dropDirectories⟩

/-- Where the service would listen. -/
def launch (s : Service) : Checked Launch × Service :=
  let (settings, s) := s.obtainSettings
  (settings.map Settings.launch, s)

/-- The lines that records make on the output. -/
def lines (s : Service) (records : List LogRecord) : List Text := (s.logging.emitAll records).1

end Service

end IndexOptions
