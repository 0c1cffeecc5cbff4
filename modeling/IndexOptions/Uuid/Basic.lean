import IndexOptions.Text.Utf8
import IndexOptions.Digest.Sha1

/-!
# Identifiers

An identifier is a number of 128 bits. It is written with 32 hexadecimal digits, alone (`hex`) or with dashes (`text`),
and it can be derived from a name within a namespace (`ofName`), so that a name always has the same identifier.
-/

namespace IndexOptions

structure Uuid where
  val : Nat
  lt : val < Nat.pow 2 128
deriving DecidableEq, Repr

namespace Uuid

/-- The identifier of a number; higher bits are dropped. -/
def ofNat (n : Nat) : Uuid := ⟨n % Nat.pow 2 128, Nat.mod_lt _ (by decide)⟩

/-- The 32 hexadecimal digits. -/
def hex (u : Uuid) : Text := Text.hex 32 u.val

/-- The number of digits in each of the five groups. -/
def groupLengths : List Nat := [8, 4, 4, 4, 12]

/-- The hexadecimal digits in groups with dashes between them. -/
def text (u : Uuid) : Text :=
  let h := u.hex
  h.take 8 ++ "-" ++ (h.drop 8).take 4 ++ "-" ++ (h.drop 12).take 4 ++ "-" ++ (h.drop 16).take 4 ++ "-" ++ h.drop 20

/-- The number with the given digits in base 256. -/
def ofBytes (bytes : List Nat) : Nat := bytes.foldl (fun n b => 256 * n + b) 0

/-- Set the version to 5 and the variant bits to the standard's. -/
def stamped (n : Nat) : Nat :=
  let high := n / Nat.pow 2 80 * Nat.pow 2 80
  let version := n / Nat.pow 2 64 % Nat.pow 2 12 * Nat.pow 2 64 + 5 * Nat.pow 2 76
  let low := n % Nat.pow 2 62 + Nat.pow 2 63
  high + version + low

/-- The identifier of the bytes of a name in a namespace. -/
def ofName (space : Uuid) (name : List Nat) : Uuid :=
  ofNat (stamped (ofBytes ((Sha1.digest (Sha1.bytesOf 16 space.val ++ name)).take 16)))

end Uuid

end IndexOptions
