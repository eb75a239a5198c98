/-
A quotient of natural numbers with two decimal places; a half goes to the even neighbour.
-/

namespace Minipack.Decimal

/-- The natural number nearest to `a / b`, the even one of two equally near. -/
def roundDiv (a b : Nat) : Nat :=
  let below := a / b
  let twice := 2 * (a % b)
  if twice < b then below
  else if b < twice then below + 1
  else below + below % 2

/-- The quotient `a / b` with two places after the point. -/
def twoPlaces (a b : Nat) : String :=
  let hundredths := roundDiv (a * 100) b
  let places := toString (hundredths % 100)
  toString (hundredths / 100) ++ "." ++ (if places.length < 2 then "0" ++ places else places)

end Minipack.Decimal
