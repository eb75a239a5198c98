/-
Reading documents of an expected shape.

A part that has another shape than expected is a fault, which says what was found and what was
expected.  A record may be written as an object, whose unknown members are ignored, or as an array
of its fields in order, of which those at the end may be missing.
-/
import Minipack.Json.Document
import Minipack.Text.Quoted

namespace Minipack

/-- What stands where something else was expected. -/
inductive Found where
  | nothing
  | boolean (b : Bool)
  | number (n : JsonNumber)
  | string (s : String)
  | sequence
  | map

/-- What was found, in words. -/
def Found.describe : Found → String
  | nothing => "null"
  | boolean b => s!"boolean \x60{b}\x60"
  | number (.natural n) => s!"integer \x60{n}\x60"
  | number (.negative n) => s!"integer \x60-{n}\x60"
  | number (.float x) => "floating point \x60" ++ Decimal.plain x ++ "\x60"
  | string s => "string " ++ Text.quote s
  | sequence => "sequence"
  | map => "map"

/-- Why a document does not have the expected shape. -/
inductive ShapeFault where
  | wrongType (found : Found) (expected : String)
  | wrongValue (found : Found) (expected : String)
  /-- An array of so many items for a record of fewer fields. -/
  | tooMany (length : Nat)
  | unknownVariant (name : String) (known : List String)
  | repeatedField (name : String)
  /-- A text or a number that is not valid. -/
  | invalidPart
  /-- No document at all. -/
  | noDocument

/-- The fault in words. -/
def ShapeFault.message : ShapeFault → String
  | wrongType found expected => s!"invalid type: {found.describe}, expected {expected}"
  | wrongValue found expected => s!"invalid value: {found.describe}, expected {expected}"
  | tooMany length => s!"invalid length {length}, expected fewer elements in array"
  | unknownVariant name known =>
    let list := ", ".intercalate (known.map fun k => "\x60" ++ k ++ "\x60")
    s!"unknown variant \x60{name}\x60, expected one of {list}"
  | repeatedField name => s!"duplicate field \x60{name}\x60"
  | invalidPart => "invalid text or number"
  | noDocument => "no document"

namespace Document

/-- What a document is, seen from outside. -/
def found : Document → Except ShapeFault Found
  | null => .ok .nothing
  | bool b => .ok (.boolean b)
  | number (some n) => .ok (.number n)
  | number none => .error .invalidPart
  | string raw =>
    match raw.text? with
    | some s => .ok (.string s)
    | none => .error .invalidPart
  | array _ => .ok .sequence
  | object _ => .ok .map

/-- The fault of a document where `expected` should stand. -/
def mismatch {α : Type} (document : Document) (expected : String) : Except ShapeFault α :=
  match document.found with
  | .ok found => .error (.wrongType found expected)
  | .error fault => .error fault

/-- The text of a part of a document. -/
def validText (raw : RawText) : Except ShapeFault String :=
  match raw.text? with
  | some s => .ok s
  | none => .error .invalidPart

/-- A text. -/
def toText : Document → Except ShapeFault String
  | string raw => validText raw
  | document => document.mismatch "a string"

/-- What `read` reads, or nothing. -/
def toOption {α : Type} (read : Document → Except ShapeFault α) :
    Document → Except ShapeFault (Option α)
  | null => .ok none
  | document => (read document).map some

/-- A list of what `read` reads. -/
def toListOf {α : Type} (read : Document → Except ShapeFault α) :
    Document → Except ShapeFault (List α)
  | array items => items.mapM read
  | document => document.mismatch "a sequence"

/-- Names with texts, each name once: a repeated name keeps its place and takes the later text. -/
def toTable : Document → Except ShapeFault (List (String × String))
  | object members => members.foldlM (fun table (name, value) => do
      let name ← validText name
      let value ← value.toText
      return if table.any (·.1 == name) then
          table.map fun entry => if entry.1 == name then (name, value) else entry
        else table ++ [(name, value)]) []
  | document => document.mismatch "a map"

/-- A record whose fields are read one by one into a draft. -/
def toRecord {α : Type} (expected : String) (names : List String)
    (set : α → String → Document → Except ShapeFault α) (draft : α) : Document → Except ShapeFault α
  | object members => do
    let (draft, _) ← members.foldlM (fun (draft, seen) (name, value) => do
      let name ← validText name
      if !names.contains name then return (draft, seen)
      if seen.contains name then .error (.repeatedField name)
      return (← set draft name value, name :: seen)) (draft, [])
    return draft
  | array items => do
    -- items in excess are found only when those that have a field could be read
    let draft ← (names.zip items).foldlM (fun draft (name, value) => set draft name value) draft
    if names.length < items.length then .error (.tooMany items.length) else .ok draft
  | document => document.mismatch expected

/-- One of the given variants, as a text or as an object with the name of the variant alone. -/
def toVariant {α : Type} (variants : List (String × α)) (document : Document) :
    Except ShapeFault α :=
  let named (name : String) : Except ShapeFault α :=
    match variants.find? (·.1 == name) with
    | some v => .ok v.2
    | none => .error (.unknownVariant name (variants.map Prod.fst))
  match document with
  | string raw => validText raw >>= named
  | object [(name, value)] => do
    let variant ← validText name >>= named
    match value with
    | null => return variant
    | value => value.mismatch "unit"
  | object _ => .error (.wrongValue .map "map with a single key")
  | document => document.mismatch "string or map"

end Document

end Minipack
