/-
The SHA-256 digest of a byte sequence, written as 64 lower-case hexadecimal digits.

The message is padded to whole blocks of 64 bytes.  Each block is expanded to 64 words and folded
into the running state of eight words by 64 rounds.
-/

namespace Minipack

namespace Digest

/-- The running state: eight words. -/
structure State where
  a : UInt32
  b : UInt32
  c : UInt32
  d : UInt32
  e : UInt32
  f : UInt32
  g : UInt32
  h : UInt32
deriving DecidableEq, Repr

/-- The state before the first block. -/
def start : State where
  a := 0x6a09e667
  b := 0xbb67ae85
  c := 0x3c6ef372
  d := 0xa54ff53a
  e := 0x510e527f
  f := 0x9b05688c
  g := 0x1f83d9ab
  h := 0x5be0cd19

/-- The constant of each round. -/
def roundConstants : List UInt32 := [
  0x428a2f98, 0x71374491, 0xb5c0fbcf, 0xe9b5dba5, 0x3956c25b, 0x59f111f1, 0x923f82a4, 0xab1c5ed5,
  0xd807aa98, 0x12835b01, 0x243185be, 0x550c7dc3, 0x72be5d74, 0x80deb1fe, 0x9bdc06a7, 0xc19bf174,
  0xe49b69c1, 0xefbe4786, 0x0fc19dc6, 0x240ca1cc, 0x2de92c6f, 0x4a7484aa, 0x5cb0a9dc, 0x76f988da,
  0x983e5152, 0xa831c66d, 0xb00327c8, 0xbf597fc7, 0xc6e00bf3, 0xd5a79147, 0x06ca6351, 0x14292967,
  0x27b70a85, 0x2e1b2138, 0x4d2c6dfc, 0x53380d13, 0x650a7354, 0x766a0abb, 0x81c2c92e, 0x92722c85,
  0xa2bfe8a1, 0xa81a664b, 0xc24b8b70, 0xc76c51a3, 0xd192e819, 0xd6990624, 0xf40e3585, 0x106aa070,
  0x19a4c116, 0x1e376c08, 0x2748774c, 0x34b0bcb5, 0x391c0cb3, 0x4ed8aa4a, 0x5b9cca4f, 0x682e6ff3,
  0x748f82ee, 0x78a5636f, 0x84c87814, 0x8cc70208, 0x90befffa, 0xa4506ceb, 0xbef9a3f7, 0xc67178f2]

/-- Turns a word to the right. -/
def rotate (x : UInt32) (n : UInt32) : UInt32 :=
  (x >>> n) ||| (x <<< (32 - n))

/-- One round with the block's word `w` and the round's constant `k`. -/
def round (s : State) (k w : UInt32) : State :=
  let big1 := rotate s.e 6 ^^^ rotate s.e 11 ^^^ rotate s.e 25
  let choice := (s.e &&& s.f) ^^^ (~~~s.e &&& s.g)
  let t1 := s.h + big1 + choice + k + w
  let big0 := rotate s.a 2 ^^^ rotate s.a 13 ^^^ rotate s.a 22
  let majority := (s.a &&& s.b) ^^^ (s.a &&& s.c) ^^^ (s.b &&& s.c)
  { a := t1 + (big0 + majority), b := s.a, c := s.b, d := s.c,
    e := s.d + t1, f := s.e, g := s.f, h := s.g }

/-- The word of a block that starts at byte `i`, most significant byte first. -/
def wordAt (bytes : ByteArray) (i : Nat) : UInt32 :=
  let byte (j : Nat) : UInt32 := if h : i + j < bytes.size then bytes[i + j].toUInt32 else 0
  (byte 0 <<< 24) ||| (byte 1 <<< 16) ||| (byte 2 <<< 8) ||| byte 3

/-- Adds the next word to a growing schedule. -/
def extendSchedule (w : Array UInt32) : Array UInt32 :=
  let n := w.size
  let x := w.getD (n - 15) 0
  let y := w.getD (n - 2) 0
  let small0 := rotate x 7 ^^^ rotate x 18 ^^^ (x >>> 3)
  let small1 := rotate y 17 ^^^ rotate y 19 ^^^ (y >>> 10)
  w.push (w.getD (n - 16) 0 + small0 + w.getD (n - 7) 0 + small1)

/-- The 64 words of the block that starts at byte `i`. -/
def schedule (bytes : ByteArray) (i : Nat) : Array UInt32 :=
  let first := ((List.range 16).map fun j => wordAt bytes (i + 4 * j)).toArray
  (List.range 48).foldl (fun w _ => extendSchedule w) first

/-- Folds the block that starts at byte `i` into the state. -/
def absorb (bytes : ByteArray) (s : State) (i : Nat) : State :=
  let t := (roundConstants.zip (schedule bytes i).toList).foldl (fun t kw => round t kw.1 kw.2) s
  { a := s.a + t.a, b := s.b + t.b, c := s.c + t.c, d := s.d + t.d,
    e := s.e + t.e, f := s.f + t.f, g := s.g + t.g, h := s.h + t.h }

/-- Appends a one bit, zeros, and the length in bits, up to a whole number of blocks. -/
def pad (bytes : ByteArray) : ByteArray :=
  -- one byte for the mark and eight for the length fill up the last block
  let zeros := (119 - bytes.size % 64) % 64
  let bits := bytes.size * 8
  let length := (List.range 8).map fun j => (bits >>> (8 * (7 - j))).toUInt8
  bytes ++ ((0x80 : UInt8) :: (List.replicate zeros 0 ++ length)).toByteArray

/-- The eight words of the digest. -/
def words (bytes : ByteArray) : List UInt32 :=
  let padded := pad bytes
  let s := (List.range (padded.size / 64)).foldl (fun s i => absorb padded s (64 * i)) start
  [s.a, s.b, s.c, s.d, s.e, s.f, s.g, s.h]

/-- A word as eight hexadecimal digits. -/
def hexWord (w : UInt32) : List Char :=
  let digits := Nat.toDigits 16 w.toNat
  List.replicate (8 - digits.length) '0' ++ digits

end Digest

/-- The SHA-256 digest of `bytes` in hexadecimal digits. -/
def digest (bytes : ByteArray) : String :=
  String.ofList ((Digest.words bytes).flatMap Digest.hexWord)

end Minipack
