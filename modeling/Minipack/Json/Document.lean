/-
JSON documents as they are read.

Reading a document settles its shape only.  Whether a string is valid text, whether a number is
small enough and whether arrays and objects are nested too deeply is left to the reader of the part
in question, because a part that nobody asks for may break these rules.  `Document.json?` asks for
everything; a typed reader asks for what it needs.
-/
import Minipack.Json.Basic
import Minipack.Text.Utf8

namespace Minipack

/-- The bytes of a string with its escapes replaced. -/
structure RawText where
  bytes : List UInt8
  /-- Whether every escape stands for a character. -/
  sound : Bool
deriving DecidableEq, Repr

namespace RawText

/-- The text, when escapes and bytes are valid. -/
def text? (raw : RawText) : Option String :=
  if raw.sound then String.fromUTF8? raw.bytes.toByteArray else none

/-- The string literal of a valid text. -/
def ofString (s : String) : RawText :=
  ⟨s.toUTF8.toList, true⟩

end RawText

/-- A document of settled shape. -/
inductive Document where
  | null
  | bool (b : Bool)
  /-- A number, or none when it is out of range. -/
  | number (value : Option JsonNumber)
  | string (raw : RawText)
  | array (items : List Document)
  | object (members : List (RawText × Document))

namespace Document

mutual

/-- The document that writes a value. -/
def ofJson : Json → Document
  | .null => null
  | .bool b => bool b
  | .number n => number (some n)
  | .string s => string (RawText.ofString s)
  | .array items => array (ofItems items)
  | .object members => object (ofMembers members)

/-- The documents of an array's items. -/
def ofItems : List Json → List Document
  | [] => []
  | item :: rest => ofJson item :: ofItems rest

/-- The documents of an object's members. -/
def ofMembers : List (String × Json) → List (RawText × Document)
  | [] => []
  | (name, value) :: rest => (RawText.ofString name, ofJson value) :: ofMembers rest

end

/-- The number of levels that arrays and objects may be nested. -/
def maxDepth : Nat := 127

mutual

/-- The value of a document that may nest `depth` more levels. -/
def jsonAt (depth : Nat) : Document → Option Json
  | null => some .null
  | bool b => some (.bool b)
  | number value => value.map .number
  | string raw => raw.text?.map .string
  | array items => if depth = 0 then none else (jsonItems (depth - 1) items).map .array
  | object members =>
    if depth = 0 then none else (jsonMembers (depth - 1) members).map .ofMembers

/-- The values of an array's items. -/
def jsonItems (depth : Nat) : List Document → Option (List Json)
  | [] => some []
  | item :: rest => do
    let value ← jsonAt depth item
    return value :: (← jsonItems depth rest)

/-- The members of an object. -/
def jsonMembers (depth : Nat) : List (RawText × Document) → Option (List (String × Json))
  | [] => some []
  | (name, item) :: rest => do
    let key ← name.text?
    let value ← jsonAt depth item
    return (key, value) :: (← jsonMembers depth rest)

end

/-- The value of a document, when all its parts are valid. -/
def json? (document : Document) : Option Json :=
  jsonAt maxDepth document

end Document

end Minipack
