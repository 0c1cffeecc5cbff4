/-!
# SHA-1

The digest of a list of bytes as FIPS 180-4 defines it, on 32-bit words.
-/

namespace IndexOptions.Sha1

/-- The chaining value: five words. -/
structure State where
  a : UInt32
  b : UInt32
  c : UInt32
  d : UInt32
  e : UInt32
deriving DecidableEq, Repr

def initial : State := ⟨0x67452301, 0xEFCDAB89, 0x98BADCFE, 0x10325476, 0xC3D2E1F0⟩

def rotateLeft (x : UInt32) (n : UInt32) : UInt32 := (x <<< n) ||| (x >>> (32 - n))

/-- The `width` bytes of a number, highest first. -/
def bytesOf : (width : Nat) → Nat → List Nat
  | 0, _ => []
  | width + 1, n => n / Nat.pow 256 width % 256 :: bytesOf width n

/-- The message with a one bit, zeros and its length in bits, a multiple of 64 bytes long. -/
def padded (message : List Nat) : List Nat :=
  message ++ 0x80 :: List.replicate ((119 - message.length % 64) % 64) 0 ++ bytesOf 8 (8 * message.length)

/-- The words of four bytes each, highest byte first. -/
def words : List Nat → List UInt32
  | a :: b :: c :: d :: r => UInt32.ofNat (((a * 256 + b) * 256 + c) * 256 + d) :: words r
  | _ => []

/-- Extend the message schedule, latest word first, by `n` words. -/
def extend : (n : Nat) → List UInt32 → List UInt32
  | 0, ws => ws
  | n + 1, ws =>
    let word (i : Nat) : UInt32 := ws.getD i 0
    extend n (rotateLeft (word 2 ^^^ word 7 ^^^ word 13 ^^^ word 15) 1 :: ws)

/-- The function and the constant of a round. -/
def roundPart (t : Nat) (b c d : UInt32) : UInt32 × UInt32 :=
  if t < 20 then ((b &&& c) ||| (~~~b &&& d), 0x5A827999)
  else if t < 40 then (b ^^^ c ^^^ d, 0x6ED9EBA1)
  else if t < 60 then ((b &&& c) ||| (b &&& d) ||| (c &&& d), 0x8F1BBCDC)
  else (b ^^^ c ^^^ d, 0xCA62C1D6)

/-- Run the rounds from round `t` on, one for each word of the schedule. -/
def rounds : (t : Nat) → List UInt32 → State → State
  | _, [], s => s
  | t, w :: ws, s =>
    let (f, k) := roundPart t s.b s.c s.d
    rounds (t + 1) ws ⟨rotateLeft s.a 5 + f + s.e + k + w, s.a, rotateLeft s.b 30, s.c, s.d⟩

/-- Take a block of sixteen words into the state. -/
def compress (s : State) (block : List UInt32) : State :=
  let r := rounds 0 (extend 64 block.reverse).reverse s
  ⟨s.a + r.a, s.b + r.b, s.c + r.c, s.d + r.d, s.e + r.e⟩

/-- Take `n` blocks into the state. -/
def absorb : (n : Nat) → List UInt32 → State → State
  | 0, _, s => s
  | n + 1, ws, s => absorb n (ws.drop 16) (compress s (ws.take 16))

/-- The twenty bytes of the digest. -/
def digest (message : List Nat) : List Nat :=
  let ws := words (padded message)
  let s := absorb (ws.length / 16) ws initial
  [s.a, s.b, s.c, s.d, s.e].flatMap fun w => bytesOf 4 w.toNat

end IndexOptions.Sha1
