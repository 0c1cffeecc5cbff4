import IndexOptions.Http.Message
import IndexOptions.Identity
import IndexOptions.Service.Basic

/-!
# Answering requests

Three routes: one tells that the service is up, one validates options without an index and reports every rejection,
and one resolves the options of an index on a table and stops at the first rejection.

The steps of an answer come in a fixed order: the body is read as a document, the shared directories are obtained for
a route that needs them, the parts of the body are checked, and then the options are looked at. Whatever fails in
another way is answered with status 500 and a record of the class of the failure.
-/

namespace IndexOptions.Http

open Reading (requiredField optionalField)

/-! ## Bodies of the routes -/

structure ValidateBody where
  options : OptionMap
  table : Option Table
deriving DecidableEq, Repr

structure ResolveBody where
  options : OptionMap
  table : Table
  indexName : Text
deriving DecidableEq, Repr

/-- The longest name of an index. -/
def maxIndexName : Nat := 255

def ValidateBody.read : Document → Checked ValidateBody
  | .object members =>
    ((requiredField members "options" Reading.textMap).and
      (optionalField members "table" none (Reading.nullable (Table.read .noFields)))).map
      fun (options, table) => ⟨options, table⟩
  | v => Checked.refuse .noFields v

def ResolveBody.read : Document → Checked ResolveBody
  | .object members =>
    ((requiredField members "options" Reading.textMap).and
      ((requiredField members "table" (Table.read .noFields)).and
        (requiredField members "index_name" (Reading.boundedText 1 (some maxIndexName))))).map
      fun (options, table, indexName) => ⟨options, table, indexName⟩
  | v => Checked.refuse .noFields v

/-- The index that a request is about. -/
def ResolveBody.index (b : ResolveBody) : Index := ⟨b.indexName, b.options⟩

/-! ## Answers of the routes -/

/-- A rejected option. -/
def rejectionDocument (r : Rejection) : Document :=
  .object [("option", .text r.option.text), ("message", .text r.message)]

/-- The answer to a validation. -/
def validity (rejections : List Rejection) : Response :=
  ⟨200, .object [("valid", .bool rejections.isEmpty), ("errors", .array (rejections.map rejectionDocument))]⟩

/-- The answer to a resolution. -/
def resolution (indexName : Text) (c : Config Schema) : Response :=
  let named : Entries Document := [("index_name", .text indexName)]
  let mapped : Entries Document := [("mapped_columns", Document.texts c.schema.mappedColumns)]
  ⟨200, .object (named ++ c.describe ++ mapped)⟩

/-- The words of the rejected options, in order. -/
def rejectedWords (rejections : List Rejection) : List Text :=
  (rejections.map fun r => r.option.text).mergeSort fun s t => !Text.before t s

/-- The record of a validation that found rejections. -/
def rejectedRecord (rejections : List Rejection) : LogRecord :=
  ⟨LogLevel.info, "indexconf.controllers.routes.index", "Index options rejected",
    [("options", Document.texts (rejectedWords rejections))]⟩

/-! ## Failures -/

/-- The answer to a request that fails inside. -/
def internalError : Response := detail 500 (.text "An internal error occurred.")

/-- The record of an inside failure. -/
def failureRecord (kind : Text) : LogRecord :=
  Service.record LogLevel.error "Unhandled error" [("error_type", .text kind)]

/-- The class of the failure to send a response, if it cannot be sent. -/
def unsendable? (r : Response) : Option Text :=
  if !r.body.isFinite then some "ValueError"
  else if !r.body.isEncodable then
    some (if r.status = 200 then ("PydanticSerializationError" : Text) else "UnicodeEncodeError")
  else none

/-- The response if it can be sent, or else the answer to an inside failure, and the records so far. -/
def sent (r : Response) (records : List LogRecord) : Response × List LogRecord :=
  match unsendable? r with
  | none => (r, records)
  | some kind => (internalError, records ++ [failureRecord kind])

/-- The class of a failure other than a rejection. -/
def failureKind : ResolveError → Text
  | .settings _ | .config _ => "ValidationError"
  | _ => "ValueError"

/-- The answer to a request and the service after it. -/
abbrev Answer := Service.Outcome Response

/-- Answer with a response. -/
def reply (s : Service) (r : Response) (records : List LogRecord) : Answer :=
  let (response, records) := sent r records
  ⟨response, records, s⟩

/-- Answer that the service failed inside. -/
def fail (s : Service) (kind : Text) (records : List LogRecord) : Answer :=
  ⟨internalError, records ++ [failureRecord kind], s⟩

/-! ## Routes -/

/-- Report every rejected option of a body. -/
def validate (s : Service) (b : ValidateBody) : Answer :=
  let table : Given Table := match b.table with | some t => .bare t | none => .absent
  let x := b.options.collectErrors table (Schema.builder s.depth)
  let records := Traced.records x.events
  match x.result with
  | .ok [] => reply s (validity []) records
  | .ok rejections => reply s (validity rejections) (records ++ [rejectedRecord rejections])
  | .error e => fail s (failureKind e) records

/-- Resolve the options of a body with the given directories. -/
def resolve (s : Service) (d : Directories) (b : ResolveBody) (earlier : List LogRecord) : Answer :=
  let x := b.options.resolve (.bare b.table) (.bare b.index) d.naming (Schema.builder s.depth)
  let records := earlier ++ Traced.records x.events
  match x.result with
  | .ok c => reply s (resolution b.indexName c) records
  | .error (.rejected r) => reply s (detail 400 (rejectionDocument r)) records
  | .error e => fail s (failureKind e) records

/-- Answer a request to a route by the right method. -/
def answerRoute (s : Service) (request : Request) : Route → Answer
  | .health => reply s ⟨200, .object [("status", .text "ok")]⟩ []
  | .validate =>
    match (request.content s.depth).bind (Body.read ValidateBody.read) with
    | .ok b => validate s b
    | .error refusal => reply s refusal []
  | .resolve =>
    match request.content s.depth with
    | .error refusal => reply s refusal []
    | .ok content =>
      let obtained := s.obtainDirectories
      match obtained.result with
      | .error _ => fail obtained.service "ValidationError" obtained.records
      | .ok shared =>
        match content.read ResolveBody.read with
        | .error refusal => reply obtained.service refusal obtained.records
        | .ok b => resolve obtained.service shared.directories b obtained.records

/-- The response as it is sent to a method: a request for the head alone gets no body. -/
def Response.toMethod (r : Response) (method : Text) : Response :=
  if method = ("HEAD" : Text) then { r with body := .null } else r

def answer (s : Service) (request : Request) : Answer :=
  match Route.ofPath? request.path with
  | none => reply s ((detail 404 (.text "Not Found")).toMethod request.method) []
  | some route =>
    if request.method = route.method then answerRoute s request route
    else reply s ((detail 405 (.text "Method Not Allowed")).toMethod request.method) []

end IndexOptions.Http
