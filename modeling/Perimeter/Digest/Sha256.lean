/-!
The digest SHA-256 of a byte string. The message is padded to whole blocks of 64 bytes
(`pad_length`), and each block stirs a state of eight words of 32 bits.
-/

namespace Perimeter.Sha256

/-- The round constants: the first 32 bits after the point in the cube roots of the first
sixty-four primes. -/
def roundConstants : List UInt32 := [
  0x428a2f98, 0x71374491, 0xb5c0fbcf, 0xe9b5dba5, 0x3956c25b, 0x59f111f1,
  0x923f82a4, 0xab1c5ed5, 0xd807aa98, 0x12835b01, 0x243185be, 0x550c7dc3,
  0x72be5d74, 0x80deb1fe, 0x9bdc06a7, 0xc19bf174, 0xe49b69c1, 0xefbe4786,
  0x0fc19dc6, 0x240ca1cc, 0x2de92c6f, 0x4a7484aa, 0x5cb0a9dc, 0x76f988da,
  0x983e5152, 0xa831c66d, 0xb00327c8, 0xbf597fc7, 0xc6e00bf3, 0xd5a79147,
  0x06ca6351, 0x14292967, 0x27b70a85, 0x2e1b2138, 0x4d2c6dfc, 0x53380d13,
  0x650a7354, 0x766a0abb, 0x81c2c92e, 0x92722c85, 0xa2bfe8a1, 0xa81a664b,
  0xc24b8b70, 0xc76c51a3, 0xd192e819, 0xd6990624, 0xf40e3585, 0x106aa070,
  0x19a4c116, 0x1e376c08, 0x2748774c, 0x34b0bcb5, 0x391c0cb3, 0x4ed8aa4a,
  0x5b9cca4f, 0x682e6ff3, 0x748f82ee, 0x78a5636f, 0x84c87814, 0x8cc70208,
  0x90befffa, 0xa4506ceb, 0xbef9a3f7, 0xc67178f2]

/-- The state of the computation. -/
structure State where
  a : UInt32
  b : UInt32
  c : UInt32
  d : UInt32
  e : UInt32
  f : UInt32
  g : UInt32
  h : UInt32
deriving DecidableEq, Repr

/-- The state at the start: the first 32 bits after the point in the square roots of the first
eight primes. -/
def State.initial : State :=
  ⟨0x6a09e667, 0xbb67ae85, 0x3c6ef372, 0xa54ff53a,
    0x510e527f, 0x9b05688c, 0x1f83d9ab, 0x5be0cd19⟩

/-- A word turned right by a number of bits between 1 and 31. -/
def rotateRight (x : UInt32) (n : UInt32) : UInt32 :=
  (x >>> n) ||| (x <<< (32 - n))

/-- The number of zero bytes between the end mark and the length. -/
def paddingZeros (length : Nat) : Nat :=
  (119 - length % 64) % 64

/-- The length of a message in bits, as eight bytes with the highest one first. -/
def lengthBytes (length : Nat) : List UInt8 :=
  (List.range 8).map fun i => ((length * 8) >>> (56 - 8 * i)).toUInt8

/-- A message with its end mark, zeros up to the next block but eight bytes, and its length. -/
def pad (message : List UInt8) : List UInt8 :=
  message ++ 0x80 :: (List.replicate (paddingZeros message.length) 0 ++ lengthBytes message.length)

/-- A padded message is made of whole blocks. -/
theorem pad_length (message : List UInt8) : (pad message).length % 64 = 0 := by
  simp only [pad, paddingZeros, lengthBytes, List.length_append, List.length_cons,
    List.length_replicate, List.length_map, List.length_range]
  omega

/-- The word made of four bytes, the highest one first. -/
def word : List UInt8 → UInt32
  | [a, b, c, d] => a.toUInt32 <<< 24 ||| b.toUInt32 <<< 16 ||| c.toUInt32 <<< 8 ||| d.toUInt32
  | _ => 0

/-- The words of a list of bytes. -/
def words (bytes : List UInt8) : List UInt32 :=
  (List.range (bytes.length / 4)).map fun i => word ((bytes.drop (4 * i)).take 4)

/-- The word that follows sixteen words of the message schedule. -/
def nextWord (window : List UInt32) : UInt32 :=
  let at16 := window.getD 0 0
  let at15 := window.getD 1 0
  let at7 := window.getD 9 0
  let at2 := window.getD 14 0
  let s0 := rotateRight at15 7 ^^^ rotateRight at15 18 ^^^ (at15 >>> 3)
  let s1 := rotateRight at2 17 ^^^ rotateRight at2 19 ^^^ (at2 >>> 10)
  at16 + s0 + at7 + s1

/-- The message schedule from sixteen words on: as many words as asked for. -/
def schedule : Nat → List UInt32 → List UInt32
  | 0, _ => []
  | n + 1, window => window.getD 0 0 :: schedule n (window.drop 1 ++ [nextWord window])

/-- One round: stirs the state with a round constant and a word of the schedule. -/
def round (s : State) (constant w : UInt32) : State :=
  let s1 := rotateRight s.e 6 ^^^ rotateRight s.e 11 ^^^ rotateRight s.e 25
  let choice := (s.e &&& s.f) ^^^ (~~~s.e &&& s.g)
  let t1 := s.h + s1 + choice + constant + w
  let s0 := rotateRight s.a 2 ^^^ rotateRight s.a 13 ^^^ rotateRight s.a 22
  let majority := (s.a &&& s.b) ^^^ (s.a &&& s.c) ^^^ (s.b &&& s.c)
  ⟨t1 + (s0 + majority), s.a, s.b, s.c, s.d + t1, s.e, s.f, s.g⟩

/-- Stirs the state with one block of the padded message. -/
def compress (s : State) (block : List UInt8) : State :=
  let r := (roundConstants.zip (schedule 64 (words block))).foldl (fun s kw => round s kw.1 kw.2) s
  ⟨s.a + r.a, s.b + r.b, s.c + r.c, s.d + r.d, s.e + r.e, s.f + r.f, s.g + r.g, s.h + r.h⟩

/-- The state after all blocks of a message. -/
def digest (message : List UInt8) : State :=
  let padded := pad message
  (List.range (padded.length / 64)).foldl
    (fun s i => compress s ((padded.drop (64 * i)).take 64)) .initial

/-- A hexadecimal digit in lower case. -/
def hexDigit (n : Fin 16) : Char :=
  if n.val < 10 then Char.ofNat ('0'.toNat + n.val) else Char.ofNat ('a'.toNat + (n.val - 10))

/-- The eight hexadecimal digits of a word, the highest one first. -/
def wordHex (w : UInt32) : List Char :=
  (List.range 8).map fun i =>
    hexDigit ⟨w.toNat >>> (28 - 4 * i) % 16, Nat.mod_lt _ (by decide)⟩

/-- The sixty-four hexadecimal digits of a digest. -/
def State.hex (s : State) : List Char :=
  wordHex s.a ++ wordHex s.b ++ wordHex s.c ++ wordHex s.d ++ wordHex s.e ++ wordHex s.f ++
    wordHex s.g ++ wordHex s.h

/-- The digest of a message in hexadecimal. -/
def hex (message : List UInt8) : List Char := (digest message).hex

end Perimeter.Sha256
