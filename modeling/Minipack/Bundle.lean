/-
Packing scripts into one module table.

Every script that takes part gets an entry of the table, in the order of the paths.  An entry is
keyed by the number of its primary destination among all primary destinations, in base 32, and tells
for each specifier of its code which key that means.  A script that is reached from the manifest
leaves a stub, which asks the table for its key.
-/
import Minipack.Loader.Chain
import Minipack.SourceMap.Composite

namespace Minipack.Bundle

/-- The name of the packed file. -/
def fileName : String := "bundler.js"

/-- The code before the table, line by line. -/
def preludeLines : List String := [
  "module.exports = (function (modules, cache) \x7b",
  "  function load(id) \x7b",
  "    if (cache[id]) \x7b",
  "      return cache[id].exports;",
  "    \x7d",
  "    var definition = modules[id];",
  "    if (!definition) \x7b",
  "      throw new Error(\x27Cannot find module \x22\x27 + id + \x27\x22 in bundler.js\x27);",
  "    \x7d",
  "    var module = (cache[id] = \x7b exports: \x7b\x7d \x7d);",
  "    var dependencies = definition[1];",
  "    definition[0].call(",
  "      module.exports,",
  "      function (specifier) \x7b",
  "        var target = dependencies[specifier];",
  "        return target === undefined ? require(specifier) : load(target);",
  "      \x7d,",
  "      module,",
  "      module.exports",
  "    );",
  "    return module.exports;",
  "  \x7d",
  "  return load;",
  "\x7d)"]

/-- The code before the table. -/
def prelude : String := "\n".intercalate preludeLines

/-- Whether a chunk is packed. -/
def participates (chunk : Chunk) : Bool :=
  chunk.isScript && chunk.kind != .scatter && chunk.kind != .bundler

/-! ### Keys -/

/-- A digit below 32. -/
def digit (n : Nat) : Char :=
  if n < 10 then Char.ofNat (48 + n) else Char.ofNat (87 + n)

/-- The digits of a number in base 32. -/
def digits (n : Nat) : List Char :=
  if n < 32 then [digit n] else digits (n / 32) ++ [digit (n % 32)]
termination_by n

/-- The primary destinations of modules, each once, in order. -/
def primaries (modules : List Chunk) : List Path :=
  (modules.filterMap Chunk.destination?).foldl
    (fun known place => if known.contains place then known else known ++ [place]) []

/-- The key of a destination, when it is one of the given ones. -/
def key? (destinations : List Path) (destination : Path) : Option String :=
  (destinations.findIdx? (· == destination)).map fun n => String.ofList (digits n)

/-- The keys that a module's specifiers stand for, each specifier once, the later reference
first. -/
def requires (destinations : List Path) (dependencies : List Dependency) : List (String × String) :=
  Keyed.ofList Prod.fst (dependencies.flatMap fun dependency =>
    match key? destinations dependency.destination with
    | some key => dependency.specifiers.map fun specifier => (specifier, key)
    | none => [])

/-! ### The table -/

/-- A module of the table. -/
structure Module where
  chunk : Chunk
  destination : Path
  key : String
  requires : List (String × String)

/-- The modules of chunks in the order of their paths. -/
def modules (chunks : List Chunk) : List Module :=
  let destinations := primaries chunks
  chunks.filterMap fun chunk =>
    match chunk.destination? with
    | none => none
    | some destination =>
      (key? destinations destination).map fun key =>
        { chunk, destination, key, requires := requires destinations chunk.dependencies }

/-- The text before a module's content. -/
def Module.head (m : Module) : String :=
  "\x22" ++ m.key ++ "\x22: [function(require, module, exports) \x7b\n"

/-- The text behind a module's content. -/
def Module.tail (m : Module) : String :=
  let table := Json.object (m.requires.map fun entry => (entry.1, .string entry.2))
  "\n\x7d, " ++ table.compact ++ "],\n"

/-- The entry of a module. -/
def Module.text (m : Module) : String :=
  m.head ++ m.chunk.contentText ++ m.tail

/-- The text before the entries. -/
def opening : String := prelude ++ "(\x7b\n"

/-- The text behind the entries. -/
def closing : String := "\x7d, \x7b\x7d);\n"

/-- The code of the table. -/
def code (modules : List Module) : String :=
  opening ++ String.join (modules.map Module.text) ++ closing

/-! ### The source map -/

/-- The name of a module's source. -/
def sourceName (settings : Settings) (file : Path) : String :=
  ((file.strip? settings.root).getD file).text

/-- Adds a module that begins on a line to a map. -/
def addModule (settings : Settings) (map : CompositeMap) (m : Module) (line : Nat) :
    Except Error CompositeMap :=
  match m.chunk.sourceMap with
  | none => .ok (map.addIdentity (sourceName settings m.chunk.file) m.chunk.contentText line)
  | some text =>
    match SourceMap.read? text with
    | some other => .ok (map.addMap other line)
    | none => .error (.sourceMap "not a source map")

/-- Adds modules whose first entry begins on a line. -/
def addModules (settings : Settings) (map : CompositeMap) (line : Nat) :
    List Module → Except Error CompositeMap
  | [] => .ok map
  | m :: rest => do
    -- the content begins behind the head, and the next entry behind the whole text
    let start := line + Text.lineFeeds m.head.toList
    let map ← addModule settings map m start
    addModules settings map (line + Text.lineFeeds m.text.toList) rest

/-- The map of the table. -/
def sourceMap (settings : Settings) (modules : List Module) : Except Error CompositeMap :=
  addModules settings { file := fileName } (Text.lineFeeds opening.toList) modules

/-! ### Chunks -/

/-- The place of the packed file. -/
def place (settings : Settings) : Path :=
  settings.out.child fileName

/-- The chunk of the packed file. -/
def bundlerChunk (config : Config) (modules : List Module) : Except Error Chunk := do
  let map ←
    if config.sourceMap then (sourceMap config.toSettings modules).map fun map => some map.text
    else .ok none
  let file := place config.toSettings
  let bindings := ((config.rule? file).map Rule.loaders).getD []
  let transformed ← runLoaders config .explicit bindings file .bundler (code modules).toUTF8 map
  return {
    file := file
    kind := .bundler
    content := transformed.content
    sourceMap := transformed.sourceMap
    destinations := [file] }

/-- The code that a packed script leaves at its destination. -/
def stubText (settings : Settings) (m : Module) : String :=
  let folder := m.destination.parent?.getD settings.out
  let specifier := folder.relativeSpecifier ((place settings).withExtension "")
  "require(\x22" ++ specifier ++ "\x22)(\x22" ++ m.key ++ "\x22)\n"

/-- What a packed script leaves at its destination. -/
def stub (settings : Settings) (m : Module) : Chunk :=
  { m.chunk with
    kind := .entry
    content := (stubText settings m).toUTF8
    sourceMap := none }

/-- Whether a path comes before another or is the same. -/
def inOrder (a b : Chunk) : Bool :=
  compare a.file b.file != .gt

/-- What is written instead of the given chunks. -/
def pack (config : Config) (chunks : List Chunk) : Except Error (List Chunk) :=
  let (packed, others) := chunks.partition participates
  if packed.isEmpty then .ok others
  else do
    let modules := modules (packed.mergeSort inOrder)
    let bundler ← bundlerChunk config modules
    let stubs := (modules.filter fun m => m.chunk.kind != .bundle).map (stub config.toSettings)
    return others ++ bundler :: stubs

end Minipack.Bundle
