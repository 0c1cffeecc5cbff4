import IndexOptions.Document.Reader
import IndexOptions.Http.Address
import IndexOptions.Problem.Checked
import IndexOptions.Text.Basic
import IndexOptions.Text.Case
import IndexOptions.Text.Encoding

/-!
# Requests and responses

A request names a route and may carry a body. The body counts as a document if its content type says so; its bytes
may be in another encoding than UTF-8, and a body that is no document is answered at once. A response is a status and a
document, which has to be fit to be sent: a number that is not finite and a text without a UTF-8 form are not.
-/

namespace IndexOptions.Http

structure Request where
  method : Text
  path : Text
  contentType : Text
  /-- An empty body is the same as none. -/
  body : Text
deriving DecidableEq, Repr

/-- Why a request cannot be sent. -/
inductive RequestFault where
  | address (fault : AddressFault)
  /-- A content type is ASCII. -/
  | contentType (run : Text.UnencodableRun)
  /-- A body has a UTF-8 form. -/
  | body (run : Text.UnencodableRun)
deriving DecidableEq, Repr

def RequestFault.message : RequestFault → Text
  | address fault => fault.message
  | contentType run => run.messageForAscii
  | body run => run.message

/-- The request of a method, in any case, to an address. A content type is sent only with a body. -/
def Request.ofAddress (method address contentType body : Text) : Except RequestFault Request :=
  let isForeign (c : CodePoint) : Bool := 0x80 ≤ c.val
  match Address.servedPath address, contentType.firstRun? isForeign isForeign, body.unencodableRun? with
  | .error fault, _, _ => .error (.address fault)
  | .ok _, _, some run => .error (.body run)
  | .ok path, some run, none =>
    if body.isEmpty then .ok { method := method.capitals, path, contentType := [], body } else .error (.contentType run)
  | .ok path, none, none => .ok { method := method.capitals, path, contentType, body }

structure Response where
  status : Nat
  body : Document
deriving Repr

/-- A response with an explanation. -/
def detail (status : Nat) (explanation : Document) : Response := ⟨status, .object [("detail", explanation)]⟩

/-! ## Routes -/

inductive Route where
  | health
  | validate
  | resolve
deriving DecidableEq, Repr

namespace Route

def all : List Route := [health, validate, resolve]

def path : Route → Text
  | health => "/health"
  | validate => "/index-options/validate"
  | resolve => "/index-options/resolve"

def method : Route → Text
  | health => "GET"
  | validate | resolve => "POST"

/-- The route of a path; slashes at its end do not matter, nor does a line feed before them. -/
def ofPath? (path : Text) : Option Route :=
  let bare := Text.dropEndWhile (fun (c : CodePoint) => c = '/') path
  all.find? fun r => r.path = bare || r.path ++ "\n" = bare

end Route

end IndexOptions.Http

/-! ## Documents in a refusal -/

namespace IndexOptions.Document

/-- Whether a member is left out where a document is shown: names that begin with `_sa` are internal. -/
def isInternal (name : Text) : Bool := (Text.after? "_sa" name).isSome

mutual

/-- A document without its internal members, at any depth. -/
def withoutInternal : Document → Document
  | array vs => array (itemsWithoutInternal vs)
  | object es => object (membersWithoutInternal es)
  | v => v

def itemsWithoutInternal : List Document → List Document
  | [] => []
  | v :: vs => v.withoutInternal :: itemsWithoutInternal vs

def membersWithoutInternal : List (Text × Document) → List (Text × Document)
  | [] => []
  | (name, v) :: es =>
    if isInternal name then membersWithoutInternal es else (name, v.withoutInternal) :: membersWithoutInternal es

end

end IndexOptions.Document

namespace IndexOptions.Http

/-! ## Bodies -/

/-- Whether a content type is that of a JSON document, whatever its parameters and its case. -/
def isJsonType (contentType : Text) : Bool :=
  let type := Text.lower (Text.trim (contentType.takeWhile fun (c : CodePoint) => c ≠ ';'))
  match Text.splitOn '/' type with
  | [main, sub] =>
    main = ("application" : Text) &&
      (sub = ("json" : Text) || (Text.after? (Text.ofString "+json").reverse sub.reverse).isSome)
  | _ => false

/-- One item of the explanation of a refused body; internal members of the input are left out. -/
def problemItem (p : Problem) : Document :=
  let item : Entries Document :=
    [("type", .text p.cause.code), ("loc", .array (.text "body" :: p.location.map Step.toDocument)),
      ("msg", .text p.cause.message), ("input", p.input.withoutInternal)]
  .object (if p.cause.context.isEmpty then item else item ++ [(Text.ofString "ctx", .object p.cause.context)])

/-- The refusal of a body. -/
def unprocessable (problems : List Problem) : Response := detail 422 (.array (problems.map problemItem))

/-- The refusal of a text that is no document. -/
def notDocument (place : Document.Malformed) : Response :=
  detail 422 <| .array [.object
    [("type", .text "json_invalid"), ("loc", .array [.text "body", .integer place.offset]),
      ("msg", .text "JSON decode error"), ("input", .object []),
      ("ctx", .object [("error", .text place.fault.message)])]]

/-- What a request carries. -/
inductive Body where
  | empty
  | document (v : Document)
deriving Repr

/-- The refusal of a body that cannot be read at all. -/
def unreadable : Response := detail 400 (.text "There was an error parsing the body")

/-- The body of a request, or the response to one that cannot be read. -/
def Request.content (r : Request) (depth : Nat) : Except Response Body :=
  if r.body.isEmpty then .ok .empty
  else if !isJsonType r.contentType then .ok (.document (.text r.body))
  else
    match r.body.reread?.map (Document.readDecoded depth) with
    | some (.ok v) => .ok (.document v)
    | some (.error (.malformed place)) => .error (notDocument place)
    | _ => .error unreadable

/-- Read the body of a request. -/
def Body.read {α : Type} (read : Document → Checked α) : Body → Except Response α
  | empty => .error (unprocessable [⟨.missing, [], .null⟩])
  | document v => (read v).mapError unprocessable

end IndexOptions.Http

/-! ## Fitness to be sent -/

namespace IndexOptions.Document

mutual

/-- Whether all numbers in a document are finite. -/
def isFinite : Document → Bool
  | real x => x.isFinite
  | array vs => areFinite vs
  | object es => membersAreFinite es
  | _ => true

def areFinite : List Document → Bool
  | [] => true
  | v :: vs => v.isFinite && areFinite vs

def membersAreFinite : List (Text × Document) → Bool
  | [] => true
  | (_, v) :: es => v.isFinite && membersAreFinite es

end

mutual

/-- Whether all texts in a document, names included, have a UTF-8 form. -/
def isEncodable : Document → Bool
  | text t => t.isEncodable
  | array vs => areEncodable vs
  | object es => membersAreEncodable es
  | _ => true

def areEncodable : List Document → Bool
  | [] => true
  | v :: vs => v.isEncodable && areEncodable vs

def membersAreEncodable : List (Text × Document) → Bool
  | [] => true
  | (name, v) :: es => name.isEncodable && v.isEncodable && membersAreEncodable es

end

end IndexOptions.Document
