/-!
# SHA-256

The digest of a byte sequence as FIPS 180-4 defines it: the message is filled up to blocks of sixteen words,
each block is stretched to a schedule of sixty-four, and the schedule stirs eight chaining words.
-/

set_option autoImplicit false

namespace DynamicBlocks.Digest

/-- The constants of the sixty-four rounds. -/
def roundConstants : List UInt32 := [
  0x428a2f98, 0x71374491, 0xb5c0fbcf, 0xe9b5dba5, 0x3956c25b, 0x59f111f1, 0x923f82a4, 0xab1c5ed5,
  0xd807aa98, 0x12835b01, 0x243185be, 0x550c7dc3, 0x72be5d74, 0x80deb1fe, 0x9bdc06a7, 0xc19bf174,
  0xe49b69c1, 0xefbe4786, 0x0fc19dc6, 0x240ca1cc, 0x2de92c6f, 0x4a7484aa, 0x5cb0a9dc, 0x76f988da,
  0x983e5152, 0xa831c66d, 0xb00327c8, 0xbf597fc7, 0xc6e00bf3, 0xd5a79147, 0x06ca6351, 0x14292967,
  0x27b70a85, 0x2e1b2138, 0x4d2c6dfc, 0x53380d13, 0x650a7354, 0x766a0abb, 0x81c2c92e, 0x92722c85,
  0xa2bfe8a1, 0xa81a664b, 0xc24b8b70, 0xc76c51a3, 0xd192e819, 0xd6990624, 0xf40e3585, 0x106aa070,
  0x19a4c116, 0x1e376c08, 0x2748774c, 0x34b0bcb5, 0x391c0cb3, 0x4ed8aa4a, 0x5b9cca4f, 0x682e6ff3,
  0x748f82ee, 0x78a5636f, 0x84c87814, 0x8cc70208, 0x90befffa, 0xa4506ceb, 0xbef9a3f7, 0xc67178f2]

/-- The eight chaining words. -/
structure Chain where
  a : UInt32
  b : UInt32
  c : UInt32
  d : UInt32
  e : UInt32
  f : UInt32
  g : UInt32
  h : UInt32
  deriving DecidableEq

/-- The chaining words before the first block. -/
def Chain.start : Chain :=
  ⟨0x6a09e667, 0xbb67ae85, 0x3c6ef372, 0xa54ff53a, 0x510e527f, 0x9b05688c, 0x1f83d9ab, 0x5be0cd19⟩

/-- A word turned to the right. -/
def turn (x : UInt32) (n : UInt32) : UInt32 :=
  (x >>> n) ||| (x <<< (32 - n))

/-- Four bytes as a word, the greatest first. -/
def wordOf (bytes : List UInt8) : UInt32 :=
  bytes.foldl (fun word byte => (word <<< 8) ||| byte.toUInt32) 0

/-- A list in groups of `size`; `count` bounds their number. -/
def groups {α : Type} (size : Nat) : (count : Nat) → List α → List (List α)
  | 0, _ => []
  | _, [] => []
  | count + 1, items => items.take size :: groups size count (items.drop size)

/-- The message with its end mark, zeros and its length in bits, a multiple of 64 bytes in all. -/
def filled (message : List UInt8) : List UInt8 :=
  let length := message.length
  let zeros := (119 - length % 64) % 64
  let bits := 8 * length
  message ++ 0x80 :: List.replicate zeros 0 ++
    ((List.range 8).reverse.map fun i => (bits / Nat.pow 256 i % 256).toUInt8)

/-- The schedule with further words; `words` holds those before, latest first. -/
def stretch : (more : Nat) → (words : List UInt32) → List UInt32
  | 0, words => words
  | more + 1, words =>
    let back (i : Nat) := words.getD (i - 1) 0
    let small (x a b c : UInt32) := turn x a ^^^ turn x b ^^^ (x >>> c)
    stretch more
      ((back 16 + small (back 15) 7 18 3 + back 7 + small (back 2) 17 19 10) :: words)

def schedule (block : List UInt8) : List UInt32 :=
  (stretch 48 ((groups 4 16 block).map wordOf).reverse).reverse

/-- One round. -/
def stir (s : Chain) (round : UInt32 × UInt32) : Chain :=
  let big (x a b c : UInt32) := turn x a ^^^ turn x b ^^^ turn x c
  let choice := (s.e &&& s.f) ^^^ (~~~ s.e &&& s.g)
  let majority := (s.a &&& s.b) ^^^ (s.a &&& s.c) ^^^ (s.b &&& s.c)
  let first := s.h + big s.e 6 11 25 + choice + round.1 + round.2
  ⟨first + (big s.a 2 13 22 + majority), s.a, s.b, s.c, s.d + first, s.e, s.f, s.g⟩

/-- The chaining words after a block. -/
def absorb (s : Chain) (block : List UInt8) : Chain :=
  let t := (roundConstants.zip (schedule block)).foldl stir s
  ⟨s.a + t.a, s.b + t.b, s.c + t.c, s.d + t.d, s.e + t.e, s.f + t.f, s.g + t.g, s.h + t.h⟩

def wordText (x : UInt32) : List Char :=
  let digits := Nat.toDigits 16 x.toNat
  List.replicate (8 - digits.length) '0' ++ digits

/-- The digest of a text's UTF-8 bytes in hexadecimal. -/
def sha256 (s : String) : String :=
  let bytes := filled s.toUTF8.toList
  let t := (groups 64 bytes.length bytes).foldl absorb Chain.start
  String.ofList ([t.a, t.b, t.c, t.d, t.e, t.f, t.g, t.h].flatMap wordText)

end DynamicBlocks.Digest
