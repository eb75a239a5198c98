/-
Writing JSON, compactly or with one member to a line.

Strings escape quotes, backslashes and controls, with short escapes where there are any.  In the
long form each level indents by two spaces, and empty arrays and objects stay closed.

`Json.inspect` shows a value with the kind of each part, as messages about options do.
-/
import Minipack.Json.Basic
import Minipack.Text.Quoted

namespace Minipack.Json

/-- Four hexadecimal digits. -/
def fourDigits (n : Nat) : List Char :=
  let digits := Nat.toDigits 16 n
  List.replicate (4 - digits.length) '0' ++ digits

/-- A character as it stands in a string. -/
def escapeChar (c : Char) : List Char :=
  if c = '\x22' then ['\\', '\x22']
  else if c = '\\' then ['\\', '\\']
  else if c = '\x08' then ['\\', 'b']
  else if c = '\x0c' then ['\\', 'f']
  else if c = '\n' then ['\\', 'n']
  else if c = '\r' then ['\\', 'r']
  else if c = '\t' then ['\\', 't']
  else if c.val < 0x20 then '\\' :: 'u' :: fourDigits c.toNat
  else [c]

/-- A text as a string literal. -/
def stringLiteral (s : String) : String :=
  String.ofList ('\x22' :: s.toList.flatMap escapeChar ++ ['\x22'])

mutual

/-- A value without spaces. -/
def compact : Json → String
  | null => "null"
  | bool b => if b then "true" else "false"
  | number n => n.text
  | string s => stringLiteral s
  | array items => "[" ++ ",".intercalate (compactItems items) ++ "]"
  | object members => "\x7b" ++ ",".intercalate (compactMembers members) ++ "\x7d"

/-- The items of an array without spaces. -/
def compactItems : List Json → List String
  | [] => []
  | item :: rest => compact item :: compactItems rest

/-- The members of an object without spaces. -/
def compactMembers : List (String × Json) → List String
  | [] => []
  | (name, value) :: rest => (stringLiteral name ++ ":" ++ compact value) :: compactMembers rest

end

/-- A new line at the given level. -/
def newLine (level : Nat) : String :=
  "\n" ++ String.ofList (List.replicate (2 * level) ' ')

/-- Lines between two brackets, one level deeper than the brackets. -/
def enclose (level : Nat) (first last : String) (entries : List String) : String :=
  if entries.isEmpty then first ++ last
  else first ++ newLine (level + 1) ++ ("," ++ newLine (level + 1)).intercalate entries ++
    newLine level ++ last

mutual

/-- A value with one member to a line, at a level of indentation. -/
def prettyAt (level : Nat) : Json → String
  | null => "null"
  | bool b => if b then "true" else "false"
  | number n => n.text
  | string s => stringLiteral s
  | array items => enclose level "[" "]" (prettyItems (level + 1) items)
  | object members => enclose level "\x7b" "\x7d" (prettyMembers (level + 1) members)

/-- The items of an array, each at the given level. -/
def prettyItems (level : Nat) : List Json → List String
  | [] => []
  | item :: rest => prettyAt level item :: prettyItems level rest

/-- The members of an object, each at the given level. -/
def prettyMembers (level : Nat) : List (String × Json) → List String
  | [] => []
  | (name, value) :: rest =>
    (stringLiteral name ++ ": " ++ prettyAt level value) :: prettyMembers level rest

end

/-- A value with one member to a line. -/
def pretty (value : Json) : String :=
  prettyAt 0 value

mutual

/-- A value with the kind of each part. -/
def inspect : Json → String
  | null => "Null"
  | bool b => if b then "Bool(true)" else "Bool(false)"
  | number n => "Number(" ++ n.text ++ ")"
  | string s => "String(" ++ Text.quote s ++ ")"
  | array items => "Array [" ++ ", ".intercalate (inspectItems items) ++ "]"
  | object members => "Object \x7b" ++ ", ".intercalate (inspectMembers members) ++ "\x7d"

/-- The items of an array with their kinds. -/
def inspectItems : List Json → List String
  | [] => []
  | item :: rest => inspect item :: inspectItems rest

/-- The members of an object with their kinds. -/
def inspectMembers : List (String × Json) → List String
  | [] => []
  | (name, value) :: rest => (Text.quote name ++ ": " ++ inspect value) :: inspectMembers rest

end

end Minipack.Json
