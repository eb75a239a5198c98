/-
Source maps: which place of which source each place of a generated file comes from.

A map is read from JSON.  Its mappings are lines of segments; the numbers of a segment are distances
from the segment before, except that columns start anew on each generated line.  Lines and columns
are words of 32 bits and wrap around.
-/
import Minipack.Json.Reader
import Minipack.Json.Shape
import Minipack.SourceMap.Vlq

namespace Minipack

/-- A place of the generated file and where it comes from. -/
structure SourceToken where
  line : Nat
  column : Nat
  sourceLine : Nat
  sourceColumn : Nat
  source : Option Nat
  name : Option Nat
deriving DecidableEq, Repr

/-- A source map. -/
structure SourceMap where
  sources : List String
  /-- The contents of the sources, as far as they are known. -/
  contents : List (Option String)
  names : List String
  tokens : List SourceToken

namespace SourceMap

/-- A number as a word of 32 bits. -/
def word (n : Int) : Nat :=
  (n % 0x100000000).toNat

/-! ### Mappings -/

/-- What the distances of the next segment are taken from. -/
structure Cursor where
  column : Nat := 0
  source : Nat := 0
  sourceLine : Nat := 0
  sourceColumn : Nat := 0
  name : Nat := 0

/-- The word at a distance from another. -/
def move (from' : Nat) (distance : Int) : Nat :=
  word (from' + distance)

/-- The token of a segment on a line, with the cursor behind it. -/
def segment? (sources names line : Nat) (cursor : Cursor) (numbers : List Int) :
    Option (Cursor × SourceToken) :=
  match numbers with
  | [column] =>
    let cursor := { cursor with column := move cursor.column column }
    some (cursor, ⟨line, cursor.column, cursor.sourceLine, cursor.sourceColumn, none, none⟩)
  | column :: source :: sourceLine :: sourceColumn :: name =>
    let cursor := { cursor with
      column := move cursor.column column
      source := move cursor.source source
      sourceLine := move cursor.sourceLine sourceLine
      sourceColumn := move cursor.sourceColumn sourceColumn }
    if sources ≤ cursor.source then none
    else
      let token (name : Option Nat) : SourceToken :=
        ⟨line, cursor.column, cursor.sourceLine, cursor.sourceColumn, some cursor.source, name⟩
      match name with
      | [] => some (cursor, token none)
      | [name] =>
        let cursor := { cursor with name := move cursor.name name }
        if names ≤ cursor.name then none else some (cursor, token (some cursor.name))
      | _ => none
  | _ => none

/-- The tokens of the segments of a line, with the cursor behind them. -/
def lineTokens? (sources names line : Nat) (cursor : Cursor) :
    List (List Char) → Option (Cursor × List SourceToken)
  | [] => some (cursor, [])
  | [] :: rest => lineTokens? sources names line cursor rest
  | text :: rest => do
    let numbers ← Vlq.decode? text
    let (cursor, token) ← segment? sources names line cursor numbers
    let (cursor, tokens) ← lineTokens? sources names line cursor rest
    return (cursor, token :: tokens)

/-- Whether a line of range marks has digits only. -/
def isRangeLine (text : List Char) : Bool :=
  text.all fun c => (Base64.value? c).isSome

/-- The tokens of lines from the given one on; the range marks of a line with segments must be
sound. -/
def tokensFrom? (sources names line : Nat) (cursor : Cursor) (ranges : List (List Char)) :
    List (List Char) → Option (List SourceToken)
  | [] => some []
  | [] :: rest => tokensFrom? sources names (line + 1) { cursor with column := 0 } ranges.tail rest
  | text :: rest => do
    if !isRangeLine (ranges.head?.getD []) then none
    let start := { cursor with column := 0 }
    let (cursor, tokens) ← lineTokens? sources names line start (text.splitOn ',')
    return tokens ++
      (← tokensFrom? sources names (line + 1) { cursor with column := 0 } ranges.tail rest)

/-! ### Documents -/

/-- The parts of a document that make a map. -/
structure Raw where
  sources : List (Option String) := []
  sourceRoot : String := ""
  contents : List (Option String) := []
  names : List String := []
  ranges : String := ""
  mappings : String := ""
  /-- The map is made of others, or has scopes, and cannot be read as one. -/
  foreign : Bool := false

/-- A word of 32 bits. -/
def toWord : Document → Except ShapeFault Nat
  | .number (some (.natural n)) => if n < 0x100000000 then .ok n else .error .invalidPart
  | document => document.mismatch "u32"

/-- Any valid value. -/
def toValue (document : Document) : Except ShapeFault Json :=
  match document.json? with
  | some value => .ok value
  | none => .error .invalidPart

/-- A name, which may be given as a number. -/
def nameOf : Json → String
  | .string s => s
  | .number n => n.text
  | _ => ""

/-- The identifier of a debug file: 32 to 40 hexadecimal digits, with hyphens between. -/
def toIdentifier (document : Document) : Except ShapeFault String := do
  let text ← document.toText
  let digits := text.toList.filter (· != '-')
  let isHex (c : Char) : Bool := c.isDigit || ('a' ≤ c && c ≤ 'f') || ('A' ≤ c && c ≤ 'F')
  if digits.all isHex && 32 ≤ digits.length && digits.length ≤ 40 then return text
  else .error .invalidPart

/-- Reads one field. -/
def Raw.set (raw : Raw) (name : String) (value : Document) : Except ShapeFault Raw := do
  match name with
  | "sources" =>
    let sources ← value.toOption (Document.toListOf (Document.toOption Document.toText))
    return { raw with sources := sources.getD [] }
  | "sourceRoot" => return { raw with sourceRoot := (← value.toOption Document.toText).getD "" }
  | "sourcesContent" =>
    let contents ← value.toOption (Document.toListOf (Document.toOption Document.toText))
    return { raw with contents := contents.getD [] }
  | "names" =>
    let names ← value.toOption (Document.toListOf toValue)
    return { raw with names := (names.getD []).map nameOf }
  | "rangeMappings" => return { raw with ranges := (← value.toOption Document.toText).getD "" }
  | "mappings" => return { raw with mappings := (← value.toOption Document.toText).getD "" }
  | "sections" => return { raw with foreign := (← value.toOption toValue).isSome }
  | "x_facebook_sources" => return { raw with foreign := (← value.toOption toValue).isSome }
  | "version" => let _ ← value.toOption toWord; return raw
  | "ignoreList" => let _ ← value.toOption (Document.toListOf toWord); return raw
  | "x_facebook_offsets" =>
    let _ ← value.toOption (Document.toListOf (Document.toOption toWord)); return raw
  | "x_metro_module_paths" => let _ ← value.toOption (Document.toListOf Document.toText); return raw
  | "file" => let _ ← value.toOption toValue; return raw
  | _ => let _ ← value.toOption toIdentifier; return raw

/-- The fields that are read. -/
def fields : List String :=
  ["version", "file", "sources", "sourceRoot", "sourcesContent", "sections", "names",
    "rangeMappings", "mappings", "ignoreList", "x_facebook_offsets", "x_metro_module_paths",
    "x_facebook_sources", "debug_id", "debugId"]

/-- Whether a byte begins a line that keeps a map from being run as a script. -/
def isGuard (b : UInt8) : Bool :=
  b == 0x29 || b == 0x5d || b == 0x7d || b == 0x27

/-- What follows a guard line; a carriage return in it must be followed by a line feed. -/
def afterGuard? (returned : Bool) : List UInt8 → Option (List UInt8)
  | [] => some []
  | b :: rest =>
    if b = 0x0a then some (b :: rest)
    else if returned then none
    else afterGuard? (b == 0x0d) rest

/-- The document of a map without a guard line. -/
def withoutGuard? (bytes : List UInt8) : Option (List UInt8) :=
  if bytes.head?.any isGuard then afterGuard? false bytes else some bytes

/-- A source seen from the root of all sources. -/
def rooted (root source : String) : String :=
  let startsWith (start : String) : Bool := start.toList.isPrefixOf source.toList
  if root.isEmpty || startsWith "/" || startsWith "http:" || startsWith "https:" then source
  else String.ofList ((root.toList.reverse.dropWhile (· == '/')).reverse ++ '/' :: source.toList)

/-- Whether a document is an object. -/
def isObject : Document → Bool
  | .object _ => true
  | _ => false

/-- Reads a map. -/
def read? (text : String) : Option SourceMap := do
  let document ← Document.read? (← withoutGuard? text.toUTF8.toList)
  if !isObject document then none
  let raw ← (Document.toRecord "struct RawSourceMap" fields Raw.set {} document).toOption
  if raw.foreign then none
  let tokens ← tokensFrom? raw.sources.length raw.names.length 0 {}
    (raw.ranges.toList.splitOn ';') (raw.mappings.toList.splitOn ';')
  return {
    sources := raw.sources.map fun source => rooted raw.sourceRoot (source.getD "")
    contents := raw.contents
    names := raw.names
    tokens := tokens }

end SourceMap

end Minipack
