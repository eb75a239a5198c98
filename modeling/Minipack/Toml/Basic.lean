/-
TOML values.  The members of a table stand in the order of their names.
-/
import Minipack.Json.Basic
import Minipack.Keyed

namespace Minipack

/-- A value of a TOML document. -/
inductive Toml where
  | string (s : String)
  | integer (n : Int)
  | float (x : Float)
  | bool (b : Bool)
  /-- A date, a time or both, in the usual form. -/
  | datetime (text : String)
  | array (items : List Toml)
  | table (members : List (String × Toml))

namespace Toml

/-- The member of a table. -/
def get? (name : String) : Toml → Option Toml
  | table members => (Keyed.find? Prod.fst name members).map Prod.snd
  | _ => none

/-- A whole number as a JSON number. -/
def jsonNumber (n : Int) : JsonNumber :=
  if n < 0 then .negative n.natAbs else .natural n.natAbs

/-- The name under which a date or a time stands in a JSON object. -/
def datetimeName : String := "$__toml_private_datetime"

mutual

/-- The value as JSON.  Numbers that JSON cannot write become null. -/
def json : Toml → Json
  | string s => .string s
  | integer n => .number (jsonNumber n)
  | float x => if x.isFinite then .number (.float x) else .null
  | bool b => .bool b
  | datetime text => .object [(datetimeName, .string text)]
  | array items => .array (jsonItems items)
  | table members => .object (jsonMembers members)

/-- Several values as JSON. -/
def jsonItems : List Toml → List Json
  | [] => []
  | item :: rest => item.json :: jsonItems rest

/-- Members of a table as JSON. -/
def jsonMembers : List (String × Toml) → List (String × Json)
  | [] => []
  | (name, value) :: rest => (name, value.json) :: jsonMembers rest

end

end Toml

end Minipack
