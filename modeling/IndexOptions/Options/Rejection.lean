import IndexOptions.Options.Name
import IndexOptions.Schema.Build

/-!
# Rejected options

An option is rejected for one of a few reasons. A schema that cannot be built, or does not fit the table, is rejected
with the failure behind it. Other things may stop the resolution of options; `ResolveError` lists them all.
-/

namespace IndexOptions

inductive Reason where
  | notPositiveInteger
  | notInteger
  | notPositive
  | notPositiveNumber
  | required
  | invalid (failure : Failure)
deriving Repr

structure Rejection where
  option : OptionName
  reason : Reason
deriving Repr

namespace Rejection

def message (r : Rejection) : Text :=
  let named : Text := "'" ++ r.option.text ++ "'"
  match r.reason with
  | .notPositiveInteger => named ++ " must be a strictly positive integer"
  | .notInteger => named ++ " must be a positive integer"
  | .notPositive => named ++ " must be strictly positive"
  | .notPositiveNumber => named ++ " must be a strictly positive double"
  | .required => named ++ " required"
  | .invalid failure => named ++ " is invalid : " ++ failure.message

/-- The failure behind a rejection. -/
def cause? (r : Rejection) : Option Failure :=
  match r.reason with
  | .invalid failure => some failure
  | _ => none

end Rejection

/-- Why options are not resolved. -/
inductive ResolveError where
  | rejected (rejection : Rejection)
  /-- The text of an integer option has more digits than are read. -/
  | tooManyDigits (count : Nat)
  /-- The table or the index is not known. -/
  | unknownIdentity
  /-- The settings that name the data directory do not load. -/
  | settings (problems : List Problem)
  /-- The values of the options make no configuration. -/
  | config (problems : List Problem)
deriving Repr

/-- The message for a resolution without a table or an index. -/
def ResolveError.unknownIdentityMessage : Text :=
  "resolve() needs both the table and the index; use validate() before the index exists"

end IndexOptions
