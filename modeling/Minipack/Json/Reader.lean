/-
Reading JSON from bytes.

`Document.read?` accepts exactly one value with blanks around it.  The readers of the parts take the
bytes that are left and return what follows.  Arrays and objects call each other, and each call has
fewer bytes left, so the number of bytes bounds the depth of the calls.

Numbers follow one rule: digits are collected into 64 bits as long as they fit, what does not fit
only counts as a power of ten, and the collected digits are then scaled by that power in floating
point.
-/
import Minipack.Json.Document

namespace Minipack

namespace JsonReader

/-- Space, tab, line feed and carriage return. -/
def isGap (b : UInt8) : Bool :=
  b == 0x20 || b == 0x09 || b == 0x0a || b == 0x0d

/-- Drops the blanks at the front. -/
def skipGaps (bytes : List UInt8) : List UInt8 :=
  bytes.dropWhile isGap

/-- ASCII digits. -/
def isDigit (b : UInt8) : Bool :=
  0x30 ≤ b && b ≤ 0x39

/-- The value of an ASCII digit. -/
def digitValue (b : UInt8) : Nat :=
  b.toNat - 0x30

/-- The value of a hexadecimal digit. -/
def hexValue? (b : UInt8) : Option Nat :=
  if isDigit b then some (b.toNat - 0x30)
  else if 0x61 ≤ b && b ≤ 0x66 then some (b.toNat - 0x57)
  else if 0x41 ≤ b && b ≤ 0x46 then some (b.toNat - 0x37)
  else none

/-- Drops `word` at the front. -/
def expect? (word : List UInt8) (bytes : List UInt8) : Option (List UInt8) :=
  if word.isPrefixOf bytes then some (bytes.drop word.length) else none

/-! ### Numbers -/

/-- The greatest number of 64 bits. -/
def maxWord : Nat := 0xFFFFFFFFFFFFFFFF

/-- The digits of a number that fit in 64 bits, and the power of ten of the last one. -/
structure Significand where
  value : Nat
  power : Int
deriving DecidableEq, Repr

/-- Collects digits before the point; digits that do not fit raise the power. -/
def collectWhole (s : Significand) : List UInt8 → Significand
  | [] => s
  | d :: rest =>
    let grown := s.value * 10 + digitValue d
    -- once a digit has not fitted, the ones after it only raise the power
    if s.power = 0 ∧ grown ≤ maxWord then collectWhole { s with value := grown } rest
    else collectWhole { s with power := s.power + 1 } rest

/-- Collects digits after the point until one does not fit. -/
def collectFraction (s : Significand) : List UInt8 → Significand
  | [] => s
  | d :: rest =>
    let grown := s.value * 10 + digitValue d
    if grown ≤ maxWord then collectFraction ⟨grown, s.power - 1⟩ rest else s

/-- Divides by `10^308` while the power is too small, at most `rounds` times. -/
def scaleDown (x : Float) (power : Int) : Nat → Float
  | 0 => x
  | rounds + 1 =>
    if power < -308 then
      if x == 0 then x else scaleDown (x / Float.ofScientific 1 false 308) (power + 308) rounds
    else x / Float.ofScientific 1 false (-power).toNat

/-- The significand scaled by its power; none when the result is too large. -/
def scale? (s : Significand) : Option Float :=
  let x := s.value.toUInt64.toFloat
  if 308 < s.power then if x == 0 then some x else none
  else if 0 ≤ s.power then
    let y := x * Float.ofScientific 1 false s.power.toNat
    if y.isInf then none else some y
  else some (scaleDown x s.power 4)

/-- A number by the parts of its literal. -/
structure Literal where
  negative : Bool
  whole : List UInt8
  fraction : Option (List UInt8)
  /-- The sign and the digits of the exponent. -/
  exponent : Option (Bool × List UInt8)
deriving DecidableEq, Repr

/-- The value of digits. -/
def natOf (digits : List UInt8) : Nat :=
  digits.foldl (fun n d => n * 10 + digitValue d) 0

/-- The exponent's effect on a significand; none when the number gets too large. -/
def Significand.shift? (s : Significand) : Option (Bool × List UInt8) → Option Significand
  | none => some s
  | some (down, digits) =>
    let e := natOf digits
    if e ≤ 2147483647 then some { s with power := if down then s.power - e else s.power + e }
    else if s.value ≠ 0 ∧ !down then none else some ⟨0, 0⟩

/-- The value of a literal; none when it is out of range. -/
def Literal.value? (l : Literal) : Option JsonNumber :=
  let whole := collectWhole ⟨0, 0⟩ l.whole
  let sign (x : Float) : Float := if l.negative then -x else x
  if l.fraction.isNone ∧ l.exponent.isNone ∧ whole.power = 0 then
    if !l.negative then some (.natural whole.value)
    else if whole.value ≠ 0 ∧ whole.value ≤ 0x8000000000000000 then some (.negative whole.value)
    else some (.float (sign whole.value.toUInt64.toFloat))
  else do
    let s := collectFraction whole (l.fraction.getD [])
    let x ← scale? (← s.shift? l.exponent)
    return .float (sign x)

/-- Digits at the front, at least one. -/
def digits? (bytes : List UInt8) : Option (List UInt8 × List UInt8) :=
  let digits := bytes.takeWhile isDigit
  if digits.isEmpty then none else some (digits, bytes.dropWhile isDigit)

/-- The digits before the point: a zero stands alone. -/
def whole? (bytes : List UInt8) : Option (List UInt8 × List UInt8) := do
  let (digits, rest) ← digits? bytes
  if digits.head? = some 0x30 ∧ 1 < digits.length then none else return (digits, rest)

/-- A point and the digits after it. -/
def fraction? : List UInt8 → Option (Option (List UInt8) × List UInt8)
  | 0x2e :: rest => do
    let (digits, rest) ← digits? rest
    return (some digits, rest)
  | bytes => some (none, bytes)

/-- The digits of an exponent after its sign. -/
def exponentDigits? (down : Bool) (bytes : List UInt8) :
    Option (Option (Bool × List UInt8) × List UInt8) := do
  let (digits, rest) ← digits? bytes
  return (some (down, digits), rest)

/-- An `e` and what follows it up to the end of the number. -/
def exponent? : List UInt8 → Option (Option (Bool × List UInt8) × List UInt8)
  | b :: rest =>
    if b = 0x65 ∨ b = 0x45 then
      match rest with
      | 0x2b :: rest => exponentDigits? false rest
      | 0x2d :: rest => exponentDigits? true rest
      | rest => exponentDigits? false rest
    else some (none, b :: rest)
  | [] => some (none, [])

/-- A number literal at the front. -/
def literal? (bytes : List UInt8) : Option (Literal × List UInt8) := do
  let (negative, rest) := match bytes with
    | 0x2d :: rest => (true, rest)
    | bytes => (false, bytes)
  let (whole, rest) ← whole? rest
  let (fraction, rest) ← fraction? rest
  let (exponent, rest) ← exponent? rest
  return (⟨negative, whole, fraction, exponent⟩, rest)

/-! ### Strings -/

/-- Four hexadecimal digits at the front. -/
def fourHex? : List UInt8 → Option (Nat × List UInt8)
  | a :: b :: c :: d :: rest => do
    let high := (← hexValue? a) * 16 + (← hexValue? b)
    let n := (high * 16 + (← hexValue? c)) * 16 + (← hexValue? d)
    return (n, rest)
  | _ => none

/-- The bytes of the character of a code point. -/
def bytesOf (code : Nat) : List UInt8 :=
  String.utf8EncodeChar (Char.ofNat code)

/-- The first halves of pairs. -/
def isLeading (code : Nat) : Bool :=
  0xd800 ≤ code && code ≤ 0xdbff

/-- The second halves of pairs. -/
def isTrailing (code : Nat) : Bool :=
  0xdc00 ≤ code && code ≤ 0xdfff

/-- The byte of a short escape. -/
def shortEscape? (b : UInt8) : Option UInt8 :=
  if b = 0x22 ∨ b = 0x5c ∨ b = 0x2f then some b
  else if b = 0x62 then some 0x08
  else if b = 0x66 then some 0x0c
  else if b = 0x6e then some 0x0a
  else if b = 0x72 then some 0x0d
  else if b = 0x74 then some 0x09
  else none

/-- The bytes and soundness of the escape after a backslash, and what follows it. -/
def escape? : List UInt8 → Option (RawText × List UInt8)
  | 0x75 :: rest => do
    let (code, rest) ← fourHex? rest
    if isTrailing code then return (⟨[], false⟩, rest)
    else if isLeading code then
      match rest with
      | 0x5c :: 0x75 :: low =>
        let (second, after) ← fourHex? low
        if isTrailing second then
          let code := (code - 0xd800) * 0x400 + (second - 0xdc00) + 0x10000
          return (⟨bytesOf code, true⟩, after)
        else return (⟨[], false⟩, after)
      | rest => return (⟨[], false⟩, rest)
    else return (⟨bytesOf code, true⟩, rest)
  | b :: rest => (shortEscape? b).map fun e => (⟨[e], true⟩, rest)
  | [] => none

/-- The rest of a string after `done`, which holds the reversed bytes before it. -/
def stringFrom? (fuel : Nat) (done : List UInt8) (sound : Bool) (bytes : List UInt8) :
    Option (RawText × List UInt8) :=
  match fuel, bytes with
  | 0, _ => none
  | _, [] => none
  | fuel + 1, b :: rest =>
    if b = 0x22 then some (⟨done.reverse, sound⟩, rest)
    else if b = 0x5c then do
      let (piece, rest) ← escape? rest
      stringFrom? fuel (piece.bytes.reverse ++ done) (sound && piece.sound) rest
    else if b < 0x20 then none
    else stringFrom? fuel (b :: done) sound rest

/-- The rest of a string after its opening quote. -/
def string? (bytes : List UInt8) : Option (RawText × List UInt8) :=
  stringFrom? (bytes.length + 1) [] true bytes

/-! ### Values -/

mutual

/-- A value at the front, after blanks. -/
def value? (fuel : Nat) (bytes : List UInt8) : Option (Document × List UInt8) :=
  match fuel with
  | 0 => none
  | fuel + 1 =>
    match skipGaps bytes with
    | [] => none
    | b :: rest =>
      if b = 0x7b then
        match skipGaps rest with
        | 0x7d :: rest => some (.object [], rest)
        | rest => members? fuel [] rest
      else if b = 0x5b then
        match skipGaps rest with
        | 0x5d :: rest => some (.array [], rest)
        | rest => items? fuel [] rest
      else if b = 0x22 then (string? rest).map fun r => (.string r.1, r.2)
      else if b = 0x6e then (expect? "ull".toUTF8.toList rest).map (Document.null, ·)
      else if b = 0x74 then (expect? "rue".toUTF8.toList rest).map (Document.bool true, ·)
      else if b = 0x66 then (expect? "alse".toUTF8.toList rest).map (Document.bool false, ·)
      else (literal? (b :: rest)).map fun r => (.number r.1.value?, r.2)

/-- The items of an array up to its end, after those in `done`. -/
def items? (fuel : Nat) (done : List Document) (bytes : List UInt8) :
    Option (Document × List UInt8) :=
  match fuel with
  | 0 => none
  | fuel + 1 => do
    let (item, rest) ← value? fuel bytes
    match skipGaps rest with
    | 0x2c :: rest => items? fuel (item :: done) rest
    | 0x5d :: rest => return (.array (item :: done).reverse, rest)
    | _ => none

/-- The members of an object up to its end, after those in `done`. -/
def members? (fuel : Nat) (done : List (RawText × Document)) (bytes : List UInt8) :
    Option (Document × List UInt8) :=
  match fuel with
  | 0 => none
  | fuel + 1 =>
    match skipGaps bytes with
    | 0x22 :: rest => do
      let (name, rest) ← string? rest
      match skipGaps rest with
      | 0x3a :: rest =>
        let (item, rest) ← value? fuel rest
        match skipGaps rest with
        | 0x2c :: rest => members? fuel ((name, item) :: done) rest
        | 0x7d :: rest => return (.object ((name, item) :: done).reverse, rest)
        | _ => none
      | _ => none
    | _ => none

end

end JsonReader

/-- The document that `bytes` hold; none when they hold no single value. -/
def Document.read? (bytes : List UInt8) : Option Document := do
  let (document, rest) ← JsonReader.value? (2 * bytes.length + 2) bytes
  if (JsonReader.skipGaps rest).isEmpty then return document else none

/-- The value that `bytes` hold; none when they are no valid document. -/
def Json.read? (bytes : List UInt8) : Option Json := do
  (← Document.read? bytes).json?

end Minipack
