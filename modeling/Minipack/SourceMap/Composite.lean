/-
The source map of a file that is put together from modules, each placed at a line of its own.

Sources and names are numbered in the order in which they first come up.  Tokens are written in the
order of their places; tokens of one place stay in the order in which they were added, and a token
that equals the one before it on its line is left out.
-/
import Minipack.Json.Writer
import Minipack.SourceMap.Basic
import Minipack.Text.Lines

namespace Minipack

/-- A map under construction. -/
structure CompositeMap where
  file : String
  sources : List (String × Option String) := []
  names : List String := []
  tokens : List SourceToken := []

namespace CompositeMap

/-- Adds a text to a list unless it is there, and gives its number. -/
def number {α : Type} (key : α → String) (thing : α) (things : List α) : List α × Nat :=
  match things.findIdx? fun t => key t == key thing with
  | some i => (things, i)
  | none => (things ++ [thing], things.length)

/-- Adds a source, and its content when that is given. -/
def addSource (map : CompositeMap) (source : String) (content : Option String) :
    CompositeMap × Nat :=
  let (sources, i) := number Prod.fst (source, none) map.sources
  let sources := match content with
    | some content => sources.modify i fun entry => (entry.1, some content)
    | none => sources
  ({ map with sources := sources }, i)

/-- Adds a name. -/
def addName (map : CompositeMap) (name : String) : CompositeMap × Nat :=
  let (names, i) := number id name map.names
  ({ map with names := names }, i)

/-- Adds things one by one and collects their numbers. -/
def addEach {α : Type} (add : CompositeMap → α → CompositeMap × Nat) (map : CompositeMap)
    (things : List α) : CompositeMap × List Nat :=
  things.foldl (fun (map, numbers) thing =>
    let (map, i) := add map thing
    (map, numbers ++ [i])) (map, [])

/-- Adds the tokens of a map, so many lines further down. -/
def addMap (map : CompositeMap) (other : SourceMap) (offset : Nat) : CompositeMap :=
  let contents := other.contents ++ List.replicate other.sources.length none
  let (map, sources) := addEach (fun map entry => map.addSource entry.1 entry.2) map
    (other.sources.zip contents)
  let (map, names) := addEach addName map other.names
  let tokens := other.tokens.map fun token => { token with
    line := SourceMap.word (token.line + offset)
    source := token.source.bind fun i => sources[i]?
    name := token.name.bind fun i => names[i]? }
  { map with tokens := map.tokens ++ tokens }

/-- Maps every line of a content to itself, so many lines further down. -/
def addIdentity (map : CompositeMap) (source content : String) (offset : Nat) : CompositeMap :=
  let (map, i) := map.addSource source (some content)
  let lines := (Text.lines content.toList).length
  let tokens := (List.range lines).map fun line =>
    ⟨SourceMap.word (offset + line), 0, line, 0, some i, none⟩
  { map with tokens := map.tokens ++ tokens }

/-! ### Writing -/

/-- What the distances of the next token are taken from. -/
structure Position where
  line : Nat := 0
  column : Nat := 0
  source : Nat := 0
  sourceLine : Nat := 0
  sourceColumn : Nat := 0
  name : Nat := 0

/-- A number by its distance from another. -/
def distance (n from' : Nat) : List Char :=
  Vlq.encode ((n : Int) - from')

/-- The segment of a token, with the position behind it. -/
def segment (position : Position) (token : SourceToken) : List Char × Position :=
  let text := distance token.column position.column
  let position := { position with column := token.column }
  match token.source with
  | none => (text, position)
  | some source =>
    let text := text ++ distance source position.source ++
      distance token.sourceLine position.sourceLine ++
      distance token.sourceColumn position.sourceColumn
    let position := { position with
      source := source, sourceLine := token.sourceLine, sourceColumn := token.sourceColumn }
    match token.name with
    | none => (text, position)
    | some name => (text ++ distance name position.name, { position with name := name })

/-- The segments of tokens behind a position, where `before` is the token before. -/
def mappingsFrom (position : Position) (before : Option SourceToken) : List SourceToken → List Char
  | [] => []
  | token :: rest =>
    if token.line ≠ position.line then
      let (text, next) := segment { position with line := token.line, column := 0 } token
      List.replicate (token.line - position.line) ';' ++ text ++ mappingsFrom next (some token) rest
    else if before = some token then mappingsFrom position (some token) rest
    else
      let (text, next) := segment position token
      (if before.isSome then [','] else []) ++ text ++ mappingsFrom next (some token) rest

/-- Whether a token does not come after another. -/
def precedes (a b : SourceToken) : Bool :=
  a.line < b.line || (a.line == b.line && a.column ≤ b.column)

/-- The mappings of all tokens in order. -/
def mappings (map : CompositeMap) : String :=
  String.ofList (mappingsFrom {} none (map.tokens.mergeSort precedes))

/-- A content, or null. -/
def contentValue : Option String → Json
  | some content => .string content
  | none => .null

/-- The map as a document. -/
def toJson (map : CompositeMap) : Json :=
  let contents :=
    if map.sources.any fun source => source.2.isSome then
      [("sourcesContent", Json.array (map.sources.map fun source => contentValue source.2))]
    else []
  .object ([
    ("version", .number (.natural 3)),
    ("file", .string map.file),
    ("sources", .array (map.sources.map fun source => .string source.1))] ++ contents ++ [
    ("names", .array (map.names.map .string)),
    ("mappings", .string map.mappings)])

/-- The text of the map. -/
def text (map : CompositeMap) : String :=
  map.toJson.compact

end CompositeMap

end Minipack
