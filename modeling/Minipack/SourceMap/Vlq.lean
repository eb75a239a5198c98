/-
Numbers of variable length in base 64, as source maps write them.

A number is doubled, with the sign in the lowest bit, and written in digits of five bits from the
lowest on; the sixth bit of a digit says that more digits follow.  A character that is no digit
counts as one with all bits set.
-/
import Minipack.Base64

namespace Minipack.Vlq

/-- The number with its sign in the lowest bit. -/
def fold (n : Int) : Nat :=
  if n < 0 then 2 * n.natAbs + 1 else 2 * n.natAbs

/-- The number whose sign is in the lowest bit. -/
def unfold (n : Nat) : Int :=
  if n % 2 = 1 then -((n / 2 : Nat) : Int) else (n / 2 : Nat)

/-- The digits of a folded number. -/
def digits (n : Nat) : List Char :=
  if n < 32 then [Base64.digit n] else Base64.digit (n % 32 + 32) :: digits (n / 32)
termination_by n

/-- The digits of a number. -/
def encode (n : Int) : List Char :=
  digits (fold n)

/-- The bits of a character. -/
def bits (c : Char) : Nat :=
  (Base64.value? c).getD 63

/-- The bits above which a number has no digits. -/
def maxShift : Nat := 63

/--
Reads numbers, where `current` holds the bits read of the current number and `shift` counts them.  A
number must not be cut off, and must not have too many digits.
-/
def decodeFrom (current shift : Nat) : List Char → Option (List Int)
  | [] => if current = 0 ∧ shift = 0 then some [] else none
  | c :: rest =>
    if maxShift < shift then none
    else
      let current := current + bits c % 32 * Nat.pow 2 shift
      if 32 ≤ bits c then decodeFrom current (shift + 5) rest
      else (decodeFrom 0 0 rest).map (unfold current :: ·)

/-- The numbers of a text that is not empty. -/
def decode? (text : List Char) : Option (List Int) :=
  if text.isEmpty then none else decodeFrom 0 0 text

end Minipack.Vlq
