/-!
The digest SHA-256. A message is padded to blocks of sixteen words; each block changes the state of
eight words in sixty-four rounds, and the state at the end is the digest.
-/

namespace SessionKeeper.Digest.Sha256

/-- The first 32 bits of the fractional parts of the cube roots of the first 64 primes. -/
def roundConstants : List UInt32 :=
  [0x428a2f98, 0x71374491, 0xb5c0fbcf, 0xe9b5dba5, 0x3956c25b, 0x59f111f1, 0x923f82a4, 0xab1c5ed5,
   0xd807aa98, 0x12835b01, 0x243185be, 0x550c7dc3, 0x72be5d74, 0x80deb1fe, 0x9bdc06a7, 0xc19bf174,
   0xe49b69c1, 0xefbe4786, 0x0fc19dc6, 0x240ca1cc, 0x2de92c6f, 0x4a7484aa, 0x5cb0a9dc, 0x76f988da,
   0x983e5152, 0xa831c66d, 0xb00327c8, 0xbf597fc7, 0xc6e00bf3, 0xd5a79147, 0x06ca6351, 0x14292967,
   0x27b70a85, 0x2e1b2138, 0x4d2c6dfc, 0x53380d13, 0x650a7354, 0x766a0abb, 0x81c2c92e, 0x92722c85,
   0xa2bfe8a1, 0xa81a664b, 0xc24b8b70, 0xc76c51a3, 0xd192e819, 0xd6990624, 0xf40e3585, 0x106aa070,
   0x19a4c116, 0x1e376c08, 0x2748774c, 0x34b0bcb5, 0x391c0cb3, 0x4ed8aa4a, 0x5b9cca4f, 0x682e6ff3,
   0x748f82ee, 0x78a5636f, 0x84c87814, 0x8cc70208, 0x90befffa, 0xa4506ceb, 0xbef9a3f7, 0xc67178f2]

/-- The eight words that a digest consists of, and is computed on. -/
structure Words where
  a : UInt32
  b : UInt32
  c : UInt32
  d : UInt32
  e : UInt32
  f : UInt32
  g : UInt32
  h : UInt32
  deriving DecidableEq, Repr

/-- The first 32 bits of the fractional parts of the square roots of the first 8 primes. -/
def start : Words :=
  ⟨0x6a09e667, 0xbb67ae85, 0x3c6ef372, 0xa54ff53a, 0x510e527f, 0x9b05688c, 0x1f83d9ab, 0x5be0cd19⟩

namespace Words

def toList (w : Words) : List UInt32 := [w.a, w.b, w.c, w.d, w.e, w.f, w.g, w.h]

def add (v w : Words) : Words :=
  ⟨v.a + w.a, v.b + w.b, v.c + w.c, v.d + w.d, v.e + w.e, v.f + w.f, v.g + w.g, v.h + w.h⟩

end Words

/-- Turns a word to the right; `n` is between 1 and 31. -/
def rotate (w : UInt32) (n : UInt32) : UInt32 := (w >>> n) ||| (w <<< (32 - n))

/-- The next word of the schedule, given those before it, the latest first. -/
def extend (latest : List UInt32) : UInt32 :=
  let x := latest.getD 14 0
  let y := latest.getD 1 0
  let sx := rotate x 7 ^^^ rotate x 18 ^^^ (x >>> 3)
  let sy := rotate y 17 ^^^ rotate y 19 ^^^ (y >>> 10)
  latest.getD 15 0 + sx + latest.getD 6 0 + sy

/-- `n` words more of a schedule, the latest first. -/
def extendBy : Nat → List UInt32 → List UInt32
  | 0, latest => latest
  | n + 1, latest => extendBy n (extend latest :: latest)

/-- The sixty-four words that a block of sixteen brings into the rounds. -/
def schedule (block : List UInt32) : List UInt32 := (extendBy 48 block.reverse).reverse

/-- One round, with its constant and its word of the schedule. -/
def round (w : Words) (input : UInt32 × UInt32) : Words :=
  let s1 := rotate w.e 6 ^^^ rotate w.e 11 ^^^ rotate w.e 25
  let choice := (w.e &&& w.f) ^^^ ((~~~w.e) &&& w.g)
  let t1 := w.h + s1 + choice + input.1 + input.2
  let s0 := rotate w.a 2 ^^^ rotate w.a 13 ^^^ rotate w.a 22
  let majority := (w.a &&& w.b) ^^^ (w.a &&& w.c) ^^^ (w.b &&& w.c)
  ⟨t1 + (s0 + majority), w.a, w.b, w.c, w.d + t1, w.e, w.f, w.g⟩

/-- The state after one more block. -/
def compress (state : Words) (block : List UInt32) : Words :=
  state.add ((roundConstants.zip (schedule block)).foldl round state)

/-- The four bytes of a word, the highest first. -/
def wordBytes (w : UInt32) : List UInt8 :=
  [(w >>> 24).toUInt8, (w >>> 16).toUInt8, (w >>> 8).toUInt8, w.toUInt8]

/-- The words that groups of four bytes denote. -/
def words : List UInt8 → List UInt32
  | a :: b :: c :: d :: rest =>
    ((a.toUInt32 <<< 24) ||| (b.toUInt32 <<< 16) ||| (c.toUInt32 <<< 8) ||| d.toUInt32)
      :: words rest
  | _ => []

/-- The message, a one bit, as few zeros as fill the last block, and the length in bits. -/
def pad (message : List UInt8) : List UInt8 :=
  let length := message.length
  -- The one bit takes a byte with seven zeros, and the length the last eight bytes of a block.
  let zeros := (119 - length % 64) % 64
  let bits := length * 8
  message ++ 0x80 :: List.replicate zeros 0
    ++ wordBytes (bits / 4294967296).toUInt32 ++ wordBytes bits.toUInt32

/-- The first `n` blocks of sixteen words. -/
def blocks : Nat → List UInt32 → List (List UInt32)
  | 0, _ => []
  | n + 1, ws => ws.take 16 :: blocks n (ws.drop 16)

/-- The digest of a message: thirty-two bytes. -/
def digest (message : List UInt8) : List UInt8 :=
  let ws := words (pad message)
  ((blocks (ws.length / 16) ws).foldl compress start).toList.flatMap wordBytes

theorem length_digest (message : List UInt8) : (digest message).length = 32 := rfl

end SessionKeeper.Digest.Sha256
