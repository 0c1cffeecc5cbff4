import IndexOptions.Document.Basic
import IndexOptions.Text.Split
import IndexOptions.Text.Utf8
import IndexOptions.Uuid.Reader

/-!
# Problems of a document

A problem says what is wrong with a value (`Cause`), where the value stands (`Location`) and what the value is. Each
cause has a short code, a message, and the parameters that its message is made of.
-/

namespace IndexOptions

/-- A step into a document: to a member of an object or to an item of an array. -/
inductive Step where
  | key (name : Text)
  | index (i : Nat)
deriving DecidableEq, Repr

abbrev Location := List Step

/-- The steps as they are shown; a name without UTF-8 form shows replacement characters. -/
def Step.shown : Step → Text
  | .key name => name.replaced
  | .index i => Text.ofNat i

/-- The step as a document, with the same replacements. -/
def Step.toDocument : Step → Document
  | .key name => .text name.replaced
  | .index i => .integer i

inductive Cause where
  | missing
  | undeclared
  | notText
  | notUnicode
  | tooShort (least : Nat)
  | tooLong (most : Nat)
  | notObject
  | noMembers
  /-- A record of the named type was expected. -/
  | notRecord (name : Text)
  /-- An object was expected to take the fields of a record from. -/
  | noFields
  | tagMissing
  | tagUnknown (found : Text) (expected : List Text)
  | notInteger
  | unparsableInteger
  | fractional
  | notFinite
  | oversizedInteger
  | notNumber
  | unparsableNumber
  | notGreater (bound : Nat)
  | below (bound : Nat)
  | above (bound : Nat)
  | notFlag
  | unparsableFlag
  | notOneOf (first second third : Text)
  | notArray
  | notPath
  | notSchema
  | notUuid
  | malformedUuid (fault : UuidFault)
  /-- A rule over the whole value refuses it. -/
  | refused (message : Text)
  | malformedJson (message : Text)
  | frozen
deriving DecidableEq, Repr

namespace Cause

def code : Cause → Text
  | missing => "missing"
  | undeclared => "extra_forbidden"
  | notText => "string_type"
  | notUnicode => "string_unicode"
  | tooShort _ => "string_too_short"
  | tooLong _ => "string_too_long"
  | notObject => "dict_type"
  | noMembers => "too_short"
  | notRecord _ => "model_type"
  | noFields => "model_attributes_type"
  | tagMissing => "union_tag_not_found"
  | tagUnknown _ _ => "union_tag_invalid"
  | notInteger => "int_type"
  | unparsableInteger => "int_parsing"
  | fractional => "int_from_float"
  | notFinite => "finite_number"
  | oversizedInteger => "int_parsing_size"
  | notNumber => "float_type"
  | unparsableNumber => "float_parsing"
  | notGreater _ => "greater_than"
  | below _ => "greater_than_equal"
  | above _ => "less_than_equal"
  | notFlag => "bool_type"
  | unparsableFlag => "bool_parsing"
  | notOneOf _ _ _ => "literal_error"
  | notArray => "tuple_type"
  | notPath => "path_type"
  | notSchema => "is_instance_of"
  | notUuid => "uuid_type"
  | malformedUuid _ => "uuid_parsing"
  | refused _ => "value_error"
  | malformedJson _ => "json_invalid"
  | frozen => "frozen_instance"

/-- A count of characters, in the singular for one. -/
def characters (n : Nat) : Text := Text.ofNat n ++ (if n = 1 then (" character" : Text) else " characters")

def message : Cause → Text
  | missing => "Field required"
  | undeclared => "Extra inputs are not permitted"
  | notText => "Input should be a valid string"
  | notUnicode => "Input should be a valid string, unable to parse raw data as a unicode string"
  | tooShort least => "String should have at least " ++ characters least
  | tooLong most => "String should have at most " ++ characters most
  | notObject => "Input should be a valid dictionary"
  | noMembers => "Dictionary should have at least 1 item after validation, not 0"
  | notRecord name => "Input should be a valid dictionary or instance of " ++ name
  | noFields => "Input should be a valid dictionary or object to extract fields from"
  | tagMissing => "Unable to extract tag using discriminator 'type'"
  | tagUnknown found expected =>
    "Input tag '" ++ found ++ "' found using 'type' does not match any of the expected tags: " ++
      Text.join ", " (expected.map fun t => "'" ++ t ++ "'")
  | notInteger => "Input should be a valid integer"
  | unparsableInteger => "Input should be a valid integer, unable to parse string as an integer"
  | fractional => "Input should be a valid integer, got a number with a fractional part"
  | notFinite => "Input should be a finite number"
  | oversizedInteger => "Unable to parse input string as an integer, exceeded maximum size"
  | notNumber => "Input should be a valid number"
  | unparsableNumber => "Input should be a valid number, unable to parse string as a number"
  | notGreater bound => "Input should be greater than " ++ Text.ofNat bound
  | below bound => "Input should be greater than or equal to " ++ Text.ofNat bound
  | above bound => "Input should be less than or equal to " ++ Text.ofNat bound
  | notFlag => "Input should be a valid boolean"
  | unparsableFlag => "Input should be a valid boolean, unable to interpret input"
  | notOneOf first second third =>
    "Input should be '" ++ first ++ "', '" ++ second ++ "' or '" ++ third ++ "'"
  | notArray => "Input should be a valid tuple"
  | notPath => "Input is not a valid path for <class 'pathlib.Path'>"
  | notSchema => "Input should be an instance of CompiledSchema"
  | notUuid => "UUID input should be a string, bytes or UUID object"
  | malformedUuid fault => "Input should be a valid UUID, " ++ fault.message
  | refused reason => "Value error, " ++ reason
  | malformedJson _ => "JSON decode error"
  | frozen => "Instance is frozen"

/-- The parameters of the message, by name. -/
def context : Cause → List (Text × Document)
  | tooShort least => [("min_length", .integer least)]
  | tooLong most => [("max_length", .integer most)]
  | malformedUuid fault => [("error", .text fault.message)]
  | malformedJson fault => [("error", .text fault)]
  | refused _ => [("error", .object [])]
  | _ => []

end Cause

structure Problem where
  cause : Cause
  location : Location
  input : Document
deriving Repr

namespace Problem

/-- The problem seen from outside of the value that a step leads to. -/
def under (step : Step) (p : Problem) : Problem := { p with location := step :: p.location }

/-- The problem in one line: its location, if there is one, and its message. -/
def line (p : Problem) : Text :=
  let place := Text.join "." (p.location.map Step.shown)
  if place.isEmpty then p.cause.message else place ++ ": " ++ p.cause.message

/-- A headline over the problems with a value of a named type. -/
def headline (name : Text) (ps : List Problem) : Text :=
  let errors : Text := if ps.length = 1 then " validation error for " else " validation errors for "
  Text.ofNat ps.length ++ errors ++ name

end Problem

end IndexOptions
