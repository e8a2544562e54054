import AppBundle.Text.Bytes

/-!
# SHA-256

The digest of 256 bits of a byte string, after the secure hash standard: the message is padded to
whole blocks of 64 bytes, and every block stirs the eight words of the state in 64 rounds.
-/

namespace AppBundle.Digest

/-- The constants of the rounds. -/
def roundConstants : List UInt32 := [
  0x428a2f98, 0x71374491, 0xb5c0fbcf, 0xe9b5dba5, 0x3956c25b, 0x59f111f1, 0x923f82a4, 0xab1c5ed5,
  0xd807aa98, 0x12835b01, 0x243185be, 0x550c7dc3, 0x72be5d74, 0x80deb1fe, 0x9bdc06a7, 0xc19bf174,
  0xe49b69c1, 0xefbe4786, 0x0fc19dc6, 0x240ca1cc, 0x2de92c6f, 0x4a7484aa, 0x5cb0a9dc, 0x76f988da,
  0x983e5152, 0xa831c66d, 0xb00327c8, 0xbf597fc7, 0xc6e00bf3, 0xd5a79147, 0x06ca6351, 0x14292967,
  0x27b70a85, 0x2e1b2138, 0x4d2c6dfc, 0x53380d13, 0x650a7354, 0x766a0abb, 0x81c2c92e, 0x92722c85,
  0xa2bfe8a1, 0xa81a664b, 0xc24b8b70, 0xc76c51a3, 0xd192e819, 0xd6990624, 0xf40e3585, 0x106aa070,
  0x19a4c116, 0x1e376c08, 0x2748774c, 0x34b0bcb5, 0x391c0cb3, 0x4ed8aa4a, 0x5b9cca4f, 0x682e6ff3,
  0x748f82ee, 0x78a5636f, 0x84c87814, 0x8cc70208, 0x90befffa, 0xa4506ceb, 0xbef9a3f7, 0xc67178f2]

/-- The eight words of the state. -/
structure State where
  /-- The first word. -/
  a : UInt32
  /-- The second word. -/
  b : UInt32
  /-- The third word. -/
  c : UInt32
  /-- The fourth word. -/
  d : UInt32
  /-- The fifth word. -/
  e : UInt32
  /-- The sixth word. -/
  f : UInt32
  /-- The seventh word. -/
  g : UInt32
  /-- The eighth word. -/
  h : UInt32

/-- The state before the first block. -/
def State.start : State :=
  ⟨0x6a09e667, 0xbb67ae85, 0x3c6ef372, 0xa54ff53a, 0x510e527f, 0x9b05688c, 0x1f83d9ab, 0x5be0cd19⟩

/-- A word rotated to the right. -/
def rotate (x n : UInt32) : UInt32 :=
  (x >>> n) ||| (x <<< (32 - n))

/-- One round with its message word and constant. -/
def State.round (s : State) (w k : UInt32) : State :=
  let high := rotate s.e 6 ^^^ rotate s.e 11 ^^^ rotate s.e 25
  let choose := (s.e &&& s.f) ^^^ ((~~~ s.e) &&& s.g)
  let t1 := s.h + high + choose + k + w
  let low := rotate s.a 2 ^^^ rotate s.a 13 ^^^ rotate s.a 22
  let most := (s.a &&& s.b) ^^^ (s.a &&& s.c) ^^^ (s.b &&& s.c)
  ⟨t1 + (low + most), s.a, s.b, s.c, s.d + t1, s.e, s.f, s.g⟩

/-- The sum of two states, word by word. -/
def State.add (s t : State) : State :=
  ⟨s.a + t.a, s.b + t.b, s.c + t.c, s.d + t.d, s.e + t.e, s.f + t.f, s.g + t.g, s.h + t.h⟩

/-- The message words of the rounds to come, given the window of the last sixteen words, oldest
first. Each word leaves the window as its round begins, and the word sixteen rounds later enters
it. -/
def rounds : List UInt32 → List UInt32 → State → State
  | [], _, s => s
  | k :: ks, window, s =>
    match window with
    | [] => s
    | w :: rest =>
      let w1 := rest[0]?.getD 0
      let w9 := rest[8]?.getD 0
      let w14 := rest[13]?.getD 0
      let small := rotate w1 7 ^^^ rotate w1 18 ^^^ (w1 >>> 3)
      let large := rotate w14 17 ^^^ rotate w14 19 ^^^ (w14 >>> 10)
      rounds ks (rest ++ [w + small + w9 + large]) (s.round w k)

/-- The words of a byte string, four bytes each, the first byte highest. -/
def words : List UInt8 → List UInt32
  | a :: b :: c :: d :: rest =>
    ((a.toUInt32 <<< 24) ||| (b.toUInt32 <<< 16) ||| (c.toUInt32 <<< 8) ||| d.toUInt32)
      :: words rest
  | _ => []

/-- The state after the blocks of a padded message, `n` of them. -/
def blocks : Nat → List UInt8 → State → State
  | 0, _, s => s
  | n + 1, bytes, s =>
    blocks n (bytes.drop 64) (s.add (rounds roundConstants (words (bytes.take 64)) s))

/-- The eight bytes of a number, highest first. -/
def lengthBytes (n : Nat) : List UInt8 :=
  [56, 48, 40, 32, 24, 16, 8, 0].map fun shift => UInt8.ofNat (n >>> shift)

/-- The message with a one bit, zeros and its length in bits behind it, a multiple of 64 bytes. -/
def pad (bytes : List UInt8) : List UInt8 :=
  bytes ++ 0x80 :: List.replicate ((119 - bytes.length % 64) % 64) 0
    ++ lengthBytes (8 * bytes.length)

/-- The hexadecimal digits of a word, eight of them. -/
def wordHex (w : UInt32) : List Char :=
  [28, 24, 20, 16, 12, 8, 4, 0].map fun shift => Nat.digitChar (w.toNat >>> shift % 16)

/-- The words of a state. -/
def State.words (s : State) : List UInt32 :=
  [s.a, s.b, s.c, s.d, s.e, s.f, s.g, s.h]

/-- The digest of a byte string in hexadecimal digits. -/
def sha256Bytes (bytes : List UInt8) : String :=
  let padded := pad bytes
  String.ofList ((blocks (padded.length / 64) padded .start).words.flatMap wordHex)

end AppBundle.Digest

namespace AppBundle

/-- The digest of a text in hexadecimal digits. -/
def sha256 (s : String) : String :=
  Digest.sha256Bytes (Text.encode s.toList)

end AppBundle
