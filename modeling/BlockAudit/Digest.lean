import BlockAudit.Text.Basic

/-!
# Digests

SHA-256 of a text's UTF-8 bytes, written as 64 hexadecimal digits. A message is padded to whole
blocks of sixteen 32-bit words; each block turns the eight words of the state by sixty-four rounds.
-/

namespace BlockAudit

namespace Digest

/-- The first 32 bits of the fractional parts of the cube roots of the first 64 primes. -/
def roundConstants : Array UInt32 := #[
  0x428a2f98, 0x71374491, 0xb5c0fbcf, 0xe9b5dba5, 0x3956c25b, 0x59f111f1, 0x923f82a4, 0xab1c5ed5,
  0xd807aa98, 0x12835b01, 0x243185be, 0x550c7dc3, 0x72be5d74, 0x80deb1fe, 0x9bdc06a7, 0xc19bf174,
  0xe49b69c1, 0xefbe4786, 0x0fc19dc6, 0x240ca1cc, 0x2de92c6f, 0x4a7484aa, 0x5cb0a9dc, 0x76f988da,
  0x983e5152, 0xa831c66d, 0xb00327c8, 0xbf597fc7, 0xc6e00bf3, 0xd5a79147, 0x06ca6351, 0x14292967,
  0x27b70a85, 0x2e1b2138, 0x4d2c6dfc, 0x53380d13, 0x650a7354, 0x766a0abb, 0x81c2c92e, 0x92722c85,
  0xa2bfe8a1, 0xa81a664b, 0xc24b8b70, 0xc76c51a3, 0xd192e819, 0xd6990624, 0xf40e3585, 0x106aa070,
  0x19a4c116, 0x1e376c08, 0x2748774c, 0x34b0bcb5, 0x391c0cb3, 0x4ed8aa4a, 0x5b9cca4f, 0x682e6ff3,
  0x748f82ee, 0x78a5636f, 0x84c87814, 0x8cc70208, 0x90befffa, 0xa4506ceb, 0xbef9a3f7, 0xc67178f2]

/-- The eight words that a message is mixed into. -/
structure State where
  a : UInt32
  b : UInt32
  c : UInt32
  d : UInt32
  e : UInt32
  f : UInt32
  g : UInt32
  h : UInt32

/-- The first 32 bits of the fractional parts of the square roots of the first eight primes. -/
def State.initial : State :=
  ⟨0x6a09e667, 0xbb67ae85, 0x3c6ef372, 0xa54ff53a, 0x510e527f, 0x9b05688c, 0x1f83d9ab, 0x5be0cd19⟩

def State.add (s t : State) : State :=
  ⟨s.a + t.a, s.b + t.b, s.c + t.c, s.d + t.d, s.e + t.e, s.f + t.f, s.g + t.g, s.h + t.h⟩

def State.words (s : State) : List UInt32 := [s.a, s.b, s.c, s.d, s.e, s.f, s.g, s.h]

def rotateRight (x : UInt32) (n : UInt32) : UInt32 := (x >>> n) ||| (x <<< (32 - n))

/-- One round with the round's constant and message word added into `word`. -/
def State.round (s : State) (word : UInt32) : State :=
  let mixE := rotateRight s.e 6 ^^^ rotateRight s.e 11 ^^^ rotateRight s.e 25
  let choice := (s.e &&& s.f) ^^^ ((s.e ^^^ 0xffffffff) &&& s.g)
  let first := s.h + mixE + choice + word
  let mixA := rotateRight s.a 2 ^^^ rotateRight s.a 13 ^^^ rotateRight s.a 22
  let majority := (s.a &&& s.b) ^^^ (s.a &&& s.c) ^^^ (s.b &&& s.c)
  ⟨first + (mixA + majority), s.a, s.b, s.c, s.d + first, s.e, s.f, s.g⟩

/-- The message schedule with one more word, computed from four earlier ones. -/
def extendSchedule (w : Array UInt32) (t : Nat) : Array UInt32 :=
  let back (k : Nat) : UInt32 := w.getD (t - k) 0
  let low := rotateRight (back 15) 7 ^^^ rotateRight (back 15) 18 ^^^ (back 15 >>> 3)
  let high := rotateRight (back 2) 17 ^^^ rotateRight (back 2) 19 ^^^ (back 2 >>> 10)
  w.push (back 16 + low + back 7 + high)

/-- The big-endian word made of the four bytes from `start` on. -/
def wordAt (bytes : ByteArray) (start : Nat) : UInt32 :=
  (List.range 4).foldl (fun word i => (word <<< 8) ||| (bytes.data.getD (start + i) 0).toUInt32) 0

/-- The state after the block of 64 bytes from `start` on. -/
def State.absorb (s : State) (bytes : ByteArray) (start : Nat) : State :=
  let input := ((List.range 16).map fun i => wordAt bytes (start + 4 * i)).toArray
  let schedule := (List.range 48).foldl (fun w i => extendSchedule w (i + 16)) input
  let rounds := (List.range 64).foldl
    (fun s i => s.round (roundConstants.getD i 0 + schedule.getD i 0)) s
  s.add rounds

/-- The message, a single one bit, zeros up to a whole block, and the message's length in bits. -/
def padded (bytes : ByteArray) : ByteArray :=
  let zeros := (119 - bytes.size % 64) % 64
  let bits := 8 * bytes.size
  let tail := (0x80 : UInt8) :: List.replicate zeros 0 ++
    (List.range 8).map fun i => UInt8.ofNat (bits / Nat.pow 256 (7 - i))
  tail.foldl ByteArray.push bytes

/-- The eight words of the digest of a message. -/
def sha256 (bytes : ByteArray) : List UInt32 :=
  let message := padded bytes
  ((List.range (message.size / 64)).foldl (fun s i => s.absorb message (64 * i))
    State.initial).words

end Digest

/-- The SHA-256 digest of a text in lower-case hexadecimal digits. -/
def digest (s : Text) : Text :=
  (Digest.sha256 s.toUtf8).flatMap fun word => Text.ofNatPadded 16 8 word.toNat

end BlockAudit
