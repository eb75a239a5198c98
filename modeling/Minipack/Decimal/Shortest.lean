/-
The shortest decimal that reads back as a given binary floating point number.

A finite number is `m * 2^q` with natural `m`.  The reals that round to it form an interval around
it, whose ends belong to it exactly when `m` is even.  For one, two, up to seventeen digits the two
neighbours of the number on that decimal grid are tested for membership; the first grid with a hit
wins, of two hits the nearer, and of two equally near the one with the even last digit.

`Digits.scientific` writes them as numbers in documents are written, `Digits.positional` without an
exponent.
-/

namespace Minipack.Decimal

/-- A positive decimal `0.d₁d₂… * 10^point`. -/
structure Digits where
  digits : List Nat
  point : Int
deriving DecidableEq, Repr

/-- A positive number `centre / scale` with the interval of what rounds to it. -/
structure Interval where
  low : Nat
  centre : Nat
  high : Nat
  scale : Nat
  /-- Whether the ends belong to the interval. -/
  closed : Bool
deriving DecidableEq, Repr

/-- The interval of `m * 2^q`; `narrow` says that the gap below is half of the gap above. -/
def Interval.of (m : Nat) (q : Int) (narrow : Bool) : Interval :=
  let up := Nat.pow 2 (q - 2).toNat
  { low := (4 * m - if narrow then 1 else 2) * up
    centre := 4 * m * up
    high := (4 * m + 2) * up
    scale := Nat.pow 2 (2 - q).toNat
    closed := m % 2 == 0 }

/-- The place of the first digit of `centre / scale`, by at most `rounds` steps below one. -/
def firstPlace (centre scale : Nat) : Nat → Int
  | 0 => 0
  | rounds + 1 =>
    if scale ≤ centre then (Nat.toDigits 10 (centre / scale)).length
    else firstPlace (centre * 10) scale rounds - 1

/-- Whether `c` grid steps lie in the interval, where a step is `unit` and the rest is scaled. -/
def Interval.holds (i : Interval) (c unit factor : Nat) : Bool :=
  let x := c * unit
  if i.closed then i.low * factor ≤ x && x ≤ i.high * factor
  else i.low * factor < x && x < i.high * factor

/-- The neighbour of the centre on the grid of `k` digits that lies in the interval. -/
def Interval.onGrid (i : Interval) (place : Int) (k : Nat) : Option Nat :=
  let step := place - k
  let factor := Nat.pow 10 (-step).toNat
  let unit := i.scale * Nat.pow 10 step.toNat
  let below := i.centre * factor / unit
  let above := below + 1
  let gapBelow := i.centre * factor - below * unit
  let gapAbove := above * unit - i.centre * factor
  match i.holds below unit factor, i.holds above unit factor with
  | true, true =>
    -- of two hits the nearer, and of equally near ones the even
    if gapBelow < gapAbove then some below
    else if gapAbove < gapBelow then some above
    else if below % 2 = 0 then some below else some above
  | true, false => some below
  | false, true => some above
  | false, false => none

/-- The decimal digits of a natural number. -/
def digitsOf (n : Nat) : List Nat :=
  (Nat.toDigits 10 n).map fun c => c.toNat - 48

/-- The first grid of at most seventeen digits with a hit. -/
def Interval.shortest (i : Interval) : Digits :=
  let place := firstPlace i.centre i.scale 400
  let hit := (List.range 17).findSome? fun j => (i.onGrid place (j + 1)).map (j + 1, ·)
  match hit with
  | none => ⟨[], 0⟩
  | some (k, n) =>
    let all := digitsOf n
    let kept := (all.reverse.dropWhile (· == 0)).reverse
    ⟨kept, place + (all.length : Int) - k⟩

/-- The shortest digits of the absolute value of a finite number that is not zero. -/
def Digits.ofFloat (x : Float) : Digits :=
  let bits : Nat := x.toBits.toNat
  let exponent : Nat := bits / 0x10000000000000 % 0x800
  let fraction : Nat := bits % 0x10000000000000
  if exponent = 0 then (Interval.of fraction (-1074) false).shortest
  else
    let narrow := fraction == 0 && exponent > 1
    (Interval.of (0x10000000000000 + fraction) ((exponent : Int) - 1075) narrow).shortest

/-- Whether the sign bit is set. -/
def isNegative (x : Float) : Bool :=
  x.toBits.toNat / 0x8000000000000000 == 1

/-- Digits as characters. -/
def Digits.chars (d : Digits) : List Char :=
  d.digits.map Nat.digitChar

/-- The digits without an exponent and with at least one digit after the point. -/
def Digits.positional (d : Digits) : List Char :=
  let cs := d.chars
  if d.point ≤ 0 then '0' :: '.' :: (List.replicate (-d.point).toNat '0' ++ cs)
  else
    let whole := d.point.toNat
    if cs.length ≤ whole then cs ++ List.replicate (whole - cs.length) '0' ++ ['.', '0']
    else cs.take whole ++ '.' :: cs.drop whole

/-- An exponent with its sign and at least two digits. -/
def exponentChars (e : Int) : List Char :=
  let digits := Nat.toDigits 10 e.natAbs
  (if e < 0 then '-' else '+') :: (List.replicate (2 - digits.length) '0' ++ digits)

/-- The digits with one of them before the point and an exponent. -/
def Digits.exponential (d : Digits) : List Char :=
  let e := exponentChars (d.point - 1)
  match d.chars with
  | [] => ['0']
  | [c] => c :: 'e' :: e
  | c :: rest => c :: '.' :: (rest ++ 'e' :: e)

/-- Positional between `10^-5` and `10^16`, with an exponent outside. -/
def Digits.scientific (d : Digits) : List Char :=
  if -5 < d.point ∧ d.point ≤ 16 then d.positional else d.exponential

/-- A finite number by its shortest digits in the given form. -/
def write (form : Digits → List Char) (x : Float) : String :=
  let body := if x == 0 then ['0', '.', '0'] else form (Digits.ofFloat x)
  String.ofList (if isNegative x then '-' :: body else body)

/-- A finite number as documents write it. -/
def document (x : Float) : String :=
  write Digits.scientific x

/-- A finite number written without an exponent. -/
def plain (x : Float) : String :=
  write Digits.positional x

end Minipack.Decimal
