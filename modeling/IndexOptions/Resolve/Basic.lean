import IndexOptions.Resolve.Checks

/-!
# Resolving options

Three ways to look at the options of an index:

- `resolve` gives the configuration of an existing index, and fails at the first rejected option;
- `validate` runs the same checks before there is an index;
- `collectErrors` runs them all and gives every rejection.

Each begins with one line in the log for every option that was given. The options are only read.
-/

namespace IndexOptions.OptionMap

variable {σ : Type}

/-! ## The log -/

def loggerName : Text := "indexconf.config.indexing.resolver"

/-- A record of the resolver. -/
def record (message : Text) (extra : Entries Document) : LogRecord := ⟨LogLevel.debug, loggerName, message, extra⟩

/-- The record of one option; `message` is for those that are recognized. -/
def optionRecord (message key value : Text) : LogRecord :=
  record (if OptionName.isRecognized key then message else "Ignoring unrecognized option")
    [("option", .text key), ("value", .text value)]

/-- One record for every option, in order. -/
def logOptions (options : OptionMap) (message : Text) : Traced Unit :=
  ⟨options.map fun (key, value) => .logged (optionRecord message key value), .ok ()⟩

/-- The record of a configuration. -/
def resolvedRecord (index : Index) (c : Config σ) : LogRecord :=
  record "Index options resolved" (("index", .text index.name) :: c.describe)

/-! ## Entry points -/

/-- The configuration of an index, whose table has to be known too. -/
def resolve (options : OptionMap) (table : Given Table) (index : Given Index) (naming : Naming) (builder : Builder σ) :
    Traced (Config σ) :=
  match table.identity, index.identity with
  | .known t, .known i => do
    options.logOptions "Building with option"
    let values ← options.values (.known t) (.known i) naming builder
    let c ← Traced.of (values.checked.mapError .config)
    Traced.emit (.logged (resolvedRecord i c))
    return c
  | _, _ => Traced.of (.error .unknownIdentity)

/-- The directory service of a check without an index, which is never asked. -/
def noNaming : Naming := fun _ => .error .unknownIdentity

/-- Check options without an index; the columns are checked if the table is known. -/
def validate (options : OptionMap) (table : Given Table) (builder : Builder σ) : Traced Unit := do
  options.logOptions "Validating option"
  (options.values table.identity .unknown noNaming builder).discard

/-- Run checks one after the other and keep the rejections; anything else ends the run. -/
def collectFrom : List (Traced Unit) → Traced (List Rejection)
  | [] => pure []
  | x :: xs =>
    match x.result with
    | .ok () => ⟨x.events ++ (collectFrom xs).events, (collectFrom xs).result⟩
    | .error (.rejected r) => ⟨x.events ++ (collectFrom xs).events, (collectFrom xs).result.map (r :: ·)⟩
    | .error e => ⟨x.events, .error e⟩

/-- Every rejection, in the order of the checks. -/
def collectErrors (options : OptionMap) (table : Given Table) (builder : Builder σ) : Traced (List Rejection) := do
  options.logOptions "Validating option"
  collectFrom (options.attempts table.identity .unknown noNaming builder)

/-- The configuration of an index from the options stored with it. -/
def resolveStored (table : Given Table) (index : Index) (naming : Naming) (builder : Builder σ) : Traced (Config σ) :=
  resolve index.options table (.bare index) naming builder

end IndexOptions.OptionMap
