/-
Values that are written as one word: numbers, truth values, dates and times.

Digits may be grouped by single underscores.  A number does not begin with a needless zero.  Whole
numbers fit in 64 bits.
-/
import Minipack.Toml.Basic

namespace Minipack.Toml

/-! ### Digits -/

/-- A digit of a base, in the letters of either case. -/
def digitIn (base : Nat) (c : Char) : Option Nat :=
  let value :=
    if c.isDigit then c.toNat - 48
    else if 'a' ≤ c ∧ c ≤ 'f' then c.toNat - 87
    else if 'A' ≤ c ∧ c ≤ 'F' then c.toNat - 55
    else base
  if value < base then some value else none

/-- The digits of a text whose groups are set apart by single underscores. -/
def digits? (base : Nat) (text : List Char) : Option (List Nat) :=
  let groups := text.splitOn '_'
  if groups.any List.isEmpty then none else groups.flatten.mapM (digitIn base)

/-- The number of a list of digits. -/
def ofDigits (base : Nat) (digits : List Nat) : Nat :=
  digits.foldl (fun n d => n * base + d) 0

/-- The digits of a decimal number, where a zero at the front stands alone. -/
def whole? (text : List Char) : Option (List Nat) := do
  let digits ← digits? 10 text
  if digits.head? = some 0 ∧ 1 < digits.length then none else return digits

/-- A sign at the front, whether it is a minus, and what follows. -/
def signed : List Char → Bool × List Char
  | '+' :: rest => (false, rest)
  | '-' :: rest => (true, rest)
  | text => (false, text)

/-! ### Numbers -/

/-- A whole number, decimal or after the mark of another base. -/
def integer? (word : List Char) : Option Toml := do
  let n : Int ← match word with
    | '0' :: 'x' :: rest => (digits? 16 rest).map fun d => (ofDigits 16 d : Int)
    | '0' :: 'o' :: rest => (digits? 8 rest).map fun d => (ofDigits 8 d : Int)
    | '0' :: 'b' :: rest => (digits? 2 rest).map fun d => (ofDigits 2 d : Int)
    | word =>
      let (negative, rest) := signed word
      (whole? rest).map fun d => if negative then -(ofDigits 10 d : Int) else ofDigits 10 d
  if -0x8000000000000000 ≤ n ∧ n < 0x10000000000000000 then some (integer n) else none

/-- The number nearest to `m · 10^e`; none when it is too large. -/
def scaled? (digits : List Nat) (e : Int) : Option Float :=
  let m := ofDigits 10 digits
  let top := (Nat.toDigits 10 m).length + e
  if m = 0 ∨ top < -400 then some 0
  else if 400 < top then none
  else
    let x := Float.ofScientific m (e < 0) e.natAbs
    if x.isInf then none else some x

/-- The exponent of a number, with its sign. -/
def exponent? (text : List Char) : Option Int := do
  let (negative, rest) := signed text
  let n := ofDigits 10 (← digits? 10 rest)
  return if negative then -(n : Int) else n

/-- A number without its sign, with a fraction or an exponent. -/
def magnitude? (text : List Char) : Option Float := do
  let isMark (c : Char) : Bool := c == 'e' || c == 'E'
  let front := text.takeWhile fun c => !isMark c
  let power ← match text.dropWhile fun c => !isMark c with
    | [] => some 0
    | _ :: rest => exponent? rest
  let whole ← whole? (front.takeWhile (· != '.'))
  match front.dropWhile (· != '.') with
  | [] => if text.any isMark then scaled? whole power else none
  | _ :: fraction =>
    let fraction ← digits? 10 fraction
    scaled? (whole ++ fraction) (power - fraction.length)

/-- A number in floating point. -/
def float? (word : List Char) : Option Toml := do
  let (negative, rest) := signed word
  let x ← match rest with
    | ['i', 'n', 'f'] => some (1 / 0)
    | ['n', 'a', 'n'] => some (0 / 0)
    | rest => magnitude? rest
  return float (if negative then -x else x)

/-! ### Dates and times -/

/-- A number of so many digits at the front, and what follows. -/
def fixed? (count : Nat) (text : List Char) : Option (Nat × List Char) := do
  let front := text.take count
  if front.length < count then none
  let digits ← front.mapM (digitIn 10)
  return (ofDigits 10 digits, text.drop count)

/-- Drops a character at the front. -/
def expect? (c : Char) : List Char → Option (List Char)
  | d :: rest => if d = c then some rest else none
  | [] => none

/-- The number of days of a month. -/
def daysOf (year month : Nat) : Nat :=
  if month = 2 then
    if year % 4 = 0 ∧ (year % 100 ≠ 0 ∨ year % 400 = 0) then 29 else 28
  else if month = 4 ∨ month = 6 ∨ month = 9 ∨ month = 11 then 30
  else 31

/-- What follows a date at the front. -/
def afterDate? (text : List Char) : Option (List Char) := do
  let (year, rest) ← fixed? 4 text
  let (month, rest) ← fixed? 2 (← expect? '-' rest)
  let (day, rest) ← fixed? 2 (← expect? '-' rest)
  if 1 ≤ month ∧ month ≤ 12 ∧ 1 ≤ day ∧ day ≤ daysOf year month then some rest else none

/-- A fraction of a second with up to nine digits and no needless zeros at the end. -/
def shortFraction (digits : List Char) : List Char :=
  match ((digits.take 9).reverse.dropWhile (· == '0')).reverse with
  | [] => ['.', '0']
  | kept => '.' :: kept

/-- The fraction of a second at the front, if there is one, and what follows. -/
def fraction? : List Char → Option (List Char × List Char)
  | '.' :: rest =>
    let digits := rest.takeWhile Char.isDigit
    if digits.isEmpty then none else some (shortFraction digits, rest.dropWhile Char.isDigit)
  | rest => some ([], rest)

/-- A time at the front in its usual form, and what follows; the seconds may be left out. -/
def time? (text : List Char) : Option (List Char × List Char) := do
  let (hour, rest) ← fixed? 2 text
  let (minute, rest) ← fixed? 2 (← expect? ':' rest)
  if 23 < hour ∨ 59 < minute then none
  match rest with
  | ':' :: rest =>
    let (second, rest) ← fixed? 2 rest
    if 60 < second then none
    let (fraction, rest) ← fraction? rest
    return (text.take 8 ++ fraction, rest)
  | rest => return (text.take 5, rest)

/-- The way from the time of a place to universal time, in its usual form. -/
def offset? (text : List Char) : Option (List Char) :=
  match text with
  | [] => some []
  | ['Z'] => some ['Z']
  | ['z'] => some ['Z']
  | mark :: body => do
    if mark ≠ '+' ∧ mark ≠ '-' then none
    let (hours, rest) ← fixed? 2 body
    let (minutes, rest) ← fixed? 2 (← expect? ':' rest)
    if !rest.isEmpty ∨ 23 < hours ∨ 59 < minutes then none
    return (if hours = 0 ∧ minutes = 0 then '+' else mark) :: body

/-- A date, a time or both. -/
def datetime? (word : List Char) : Option Toml :=
  match afterDate? word with
  | some [] => some (datetime (String.ofList word))
  | some (mark :: rest) => do
    if mark ≠ 'T' ∧ mark ≠ 't' ∧ mark ≠ ' ' then none
    let (time, rest) ← time? rest
    let offset ← offset? rest
    return datetime (String.ofList (word.take 10 ++ 'T' :: time ++ offset))
  | none => do
    let (time, rest) ← time? word
    if rest.isEmpty then some (datetime (String.ofList time)) else none

/-- A value that is written as one word. -/
def ofWord? (word : List Char) : Option Toml :=
  match word with
  | ['t', 'r', 'u', 'e'] => some (bool true)
  | ['f', 'a', 'l', 's', 'e'] => some (bool false)
  | word => ((integer? word).or (float? word)).or (datetime? word)

end Minipack.Toml
