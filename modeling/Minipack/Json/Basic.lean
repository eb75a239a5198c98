/-
JSON values.  An object keeps its members in the order in which they were first written, each name
once.  Whole numbers that fit in 64 bits are kept exactly, all others as binary floating point.
-/
import Minipack.Decimal.Shortest

namespace Minipack

/-- A number of a document. -/
inductive JsonNumber where
  /-- A whole number that is not negative. -/
  | natural (n : Nat)
  /-- The negative of a positive whole number. -/
  | negative (n : Nat)
  /-- A number with a fraction, an exponent or too many digits. -/
  | float (x : Float)
deriving Repr

/-- The number as it is written. -/
def JsonNumber.text : JsonNumber → String
  | natural n => toString n
  | negative n => "-" ++ toString n
  | float x => Decimal.document x

/-- A value of a document. -/
inductive Json where
  | null
  | bool (b : Bool)
  | number (n : JsonNumber)
  | string (s : String)
  | array (items : List Json)
  | object (members : List (String × Json))

namespace Json

/-- Nothing is known of it. -/
instance : Inhabited Json := ⟨null⟩

/-- Sets a member: a known name keeps its place and gets the new value. -/
def setMember (name : String) (value : Json) : List (String × Json) → List (String × Json)
  | [] => [(name, value)]
  | (n, v) :: rest => if n = name then (n, value) :: rest else (n, v) :: setMember name value rest

/-- The member of that name, when the value is an object that has it. -/
def get? (name : String) : Json → Option Json
  | object members => (members.find? fun m => m.1 == name).map Prod.snd
  | _ => none

/-- The text of a string. -/
def string? : Json → Option String
  | string s => some s
  | _ => none

/-- An object of the given members. -/
def ofMembers (members : List (String × Json)) : Json :=
  object (members.foldl (fun acc m => setMember m.1 m.2 acc) [])

/-- The texts of an array's strings, or of an object's values that are strings. -/
def strings : Json → List String
  | array items => items.filterMap string?
  | object members => members.filterMap fun m => m.2.string?
  | _ => []

end Json

end Minipack
