/-!
SHA-256 over byte lists. The message is padded with a one bit, zeros and its length in bits to
whole blocks of 64 bytes, and the blocks are folded into a chaining state of eight words. The
state after the last block is the digest.
-/

namespace EntityQuery

/-- Eight words: the chaining state of the hash, and its result. -/
structure Digest where
  a : UInt32
  b : UInt32
  c : UInt32
  d : UInt32
  e : UInt32
  f : UInt32
  g : UInt32
  h : UInt32
deriving DecidableEq

/-- The `width` low bytes of a number, most significant first. -/
def bigEndian (width n : Nat) : List UInt8 :=
  match width with
  | 0 => []
  | width + 1 => bigEndian width (n / 256) ++ [UInt8.ofNat n]

namespace Digest

/-! ### Padding -/

/-- The zeros between the closing bit and the length of a message of `n` bytes. -/
def paddingZeros (n : Nat) : Nat := (119 - n % 64) % 64

/-- A message filled up to whole blocks. -/
def pad (message : List UInt8) : List UInt8 :=
  message ++ 0x80 :: List.replicate (paddingZeros message.length) 0 ++
    bigEndian 8 (8 * message.length)

/-- Padding completes the last block. -/
theorem paddingZeros_block (n : Nat) : (n + 1 + paddingZeros n + 8) % 64 = 0 := by
  unfold paddingZeros
  omega

/-! ### Compression -/

/-- The first 32 bits of the fractional parts of the cube roots of the first 64 primes. -/
def roundConstants : List UInt32 := [
  0x428a2f98, 0x71374491, 0xb5c0fbcf, 0xe9b5dba5, 0x3956c25b, 0x59f111f1, 0x923f82a4, 0xab1c5ed5,
  0xd807aa98, 0x12835b01, 0x243185be, 0x550c7dc3, 0x72be5d74, 0x80deb1fe, 0x9bdc06a7, 0xc19bf174,
  0xe49b69c1, 0xefbe4786, 0x0fc19dc6, 0x240ca1cc, 0x2de92c6f, 0x4a7484aa, 0x5cb0a9dc, 0x76f988da,
  0x983e5152, 0xa831c66d, 0xb00327c8, 0xbf597fc7, 0xc6e00bf3, 0xd5a79147, 0x06ca6351, 0x14292967,
  0x27b70a85, 0x2e1b2138, 0x4d2c6dfc, 0x53380d13, 0x650a7354, 0x766a0abb, 0x81c2c92e, 0x92722c85,
  0xa2bfe8a1, 0xa81a664b, 0xc24b8b70, 0xc76c51a3, 0xd192e819, 0xd6990624, 0xf40e3585, 0x106aa070,
  0x19a4c116, 0x1e376c08, 0x2748774c, 0x34b0bcb5, 0x391c0cb3, 0x4ed8aa4a, 0x5b9cca4f, 0x682e6ff3,
  0x748f82ee, 0x78a5636f, 0x84c87814, 0x8cc70208, 0x90befffa, 0xa4506ceb, 0xbef9a3f7, 0xc67178f2]

/-- The first 32 bits of the fractional parts of the square roots of the first 8 primes. -/
def initial : Digest :=
  ⟨0x6a09e667, 0xbb67ae85, 0x3c6ef372, 0xa54ff53a,
    0x510e527f, 0x9b05688c, 0x1f83d9ab, 0x5be0cd19⟩

/-- Rotation of a word to the right. -/
def rotate (x : UInt32) (n : UInt32) : UInt32 := x >>> n ||| x <<< (32 - n)

/-- The words of a byte list, four bytes each. -/
def wordsOf : List UInt8 → List UInt32
  | a :: b :: c :: d :: rest =>
    (a.toUInt32 <<< 24 ||| b.toUInt32 <<< 16 ||| c.toUInt32 <<< 8 ||| d.toUInt32) :: wordsOf rest
  | _ => []

/-- The word sixteen places after the head of a window of the schedule. -/
def nextWord (window : List UInt32) : UInt32 :=
  let early := window.getD 1 0
  let late := window.getD 14 0
  (rotate late 17 ^^^ rotate late 19 ^^^ late >>> 10) + window.getD 9 0 +
    (rotate early 7 ^^^ rotate early 18 ^^^ early >>> 3) + window.getD 0 0

/-- The first `n` words of the schedule that opens with a window of sixteen words. -/
def schedule : Nat → List UInt32 → List UInt32
  | 0, _ => []
  | n + 1, window => window.getD 0 0 :: schedule n (window.drop 1 ++ [nextWord window])

/-- One round, with its constant and its word of the schedule. -/
def round (s : Digest) (k w : UInt32) : Digest :=
  let t := s.h + (rotate s.e 6 ^^^ rotate s.e 11 ^^^ rotate s.e 25) +
    ((s.e &&& s.f) ^^^ (~~~s.e &&& s.g)) + k + w
  let u := (rotate s.a 2 ^^^ rotate s.a 13 ^^^ rotate s.a 22) +
    ((s.a &&& s.b) ^^^ (s.a &&& s.c) ^^^ (s.b &&& s.c))
  ⟨t + u, s.a, s.b, s.c, s.d + t, s.e, s.f, s.g⟩

/-- Word by word sum of two states. -/
def add (s t : Digest) : Digest :=
  ⟨s.a + t.a, s.b + t.b, s.c + t.c, s.d + t.d, s.e + t.e, s.f + t.f, s.g + t.g, s.h + t.h⟩

/-- The state after one block. -/
def compress (s : Digest) (block : List UInt8) : Digest :=
  s.add ((roundConstants.zip (schedule 64 (wordsOf block))).foldl (fun s r => s.round r.1 r.2) s)

/-- The state after the first `n` blocks of a message. -/
def absorb : Nat → List UInt8 → Digest → Digest
  | 0, _, s => s
  | n + 1, message, s => absorb n (message.drop 64) (s.compress (message.take 64))

/-- The digest of a message. -/
def ofBytes (message : List UInt8) : Digest :=
  absorb ((pad message).length / 64) (pad message) initial

/-! ### Text form -/

/-- The words of a digest in order. -/
def words (s : Digest) : List UInt32 := [s.a, s.b, s.c, s.d, s.e, s.f, s.g, s.h]

/-- The 32 bytes of a digest. -/
def bytes (s : Digest) : List UInt8 := s.words.flatMap fun w => bigEndian 4 w.toNat

/-- The lowercase hexadecimal digit of a number below 16. -/
def hexDigit (n : Nat) : Char := if n < 10 then Char.ofNat (48 + n) else Char.ofNat (87 + n)

/-- The two hexadecimal digits of a byte. -/
def hexByte (b : UInt8) : List Char := [hexDigit (b.toNat / 16), hexDigit (b.toNat % 16)]

/-- The 64 hexadecimal digits of a digest. -/
def hexDigits (s : Digest) : List Char := s.bytes.flatMap hexByte

/-- The hexadecimal form of a digest. -/
def hex (s : Digest) : String := String.ofList s.hexDigits

/-- The first eight hexadecimal digits of a digest, for messages. -/
def shortHex (s : Digest) : String := String.ofList (s.hexDigits.take 8)

end Digest

end EntityQuery
