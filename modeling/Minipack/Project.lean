/-
Project files: the configuration of a project as it is written down.

A project file is a TOML document.  Every name in it is optional, but a name that is not known is a
mistake, and so is a value of the wrong kind.  Records may also be given as arrays of their fields
in order.
-/
import Minipack.Config.Basic
import Minipack.Loader.Envify
import Minipack.Plugin.Serve
import Minipack.Toml.Reader

namespace Minipack

/-! ### Reading values -/

namespace Toml

/-- The text of a string. -/
def text? : Toml → Option String
  | string s => some s
  | _ => none

/-- A truth value. -/
def flag? : Toml → Option Bool
  | bool b => some b
  | _ => none

/-- The number of a socket, which is below `2^16`. -/
def socket? : Toml → Option Nat
  | integer n => if 0 ≤ n ∧ n < 0x10000 then some n.toNat else none
  | _ => none

/-- A list of what `read` reads. -/
def listOf? {α : Type} (read : Toml → Option α) : Toml → Option (List α)
  | array items => items.mapM read
  | _ => none

/-- The fields of a record by name: a table with none but these names, or an array in their
order. -/
def fields? (names : List String) : Toml → Option (List (String × Toml))
  | table members => if members.all fun m => names.contains m.1 then some members else none
  | array items => some (names.zip items)
  | _ => none

/-- The field of a name, read when it is there. -/
def field? {α : Type} (fields : List (String × Toml)) (name : String) (read : Toml → Option α) :
    Option (Option α) :=
  match fields.find? fun field => field.1 == name with
  | some field => (read field.2).map some
  | none => some none

end Toml

/-- A loader of a rule. -/
structure LoaderEntry where
  name : String
  options : Option Json := none
  kinds : Option (List ChunkKind) := none

namespace LoaderEntry

/-- The kinds that a loader is for, one or several. -/
def kindsOfToml? : Toml → Option (List ChunkKind)
  | .string name => (ChunkKind.ofName? name).map fun kind => [kind]
  | value => value.listOf? fun item => item.text?.bind ChunkKind.ofName?

/-- Reads a loader of a rule. -/
def ofToml? (value : Toml) : Option LoaderEntry := do
  let fields ← value.fields? ["use", "options", "for"]
  return {
    name := ← (← Toml.field? fields "use" Toml.text?)
    options := ← Toml.field? fields "options" fun options => some options.json
    kinds := ← Toml.field? fields "for" kindsOfToml? }

/-- The loader with what is bound to it. -/
def binding (environment : Envify.Environment) (test : String) (entry : LoaderEntry) :
    Except Error LoaderBinding :=
  match Envify.named? environment entry.name with
  | none => .error (.config (.unknownLoaderIn entry.name test))
  | some loader =>
    .ok { loader := loader, options := entry.options.getD (.object []), kinds := entry.kinds }

end LoaderEntry

/-- A rule. -/
structure RuleEntry where
  test : String
  extname : Option String := none
  exclude : List String := []
  loaders : List LoaderEntry := []

namespace RuleEntry

/-- Reads a rule; as an array it must go on to its second field. -/
def ofToml? (value : Toml) : Option RuleEntry := do
  let fields ← value.fields? ["test", "extname", "exclude", "loaders"]
  -- the extension may be left out of a table, but not of an array
  if let .array items := value then
    if items.length < 2 then none
  return {
    test := ← (← Toml.field? fields "test" Toml.text?)
    extname := ← Toml.field? fields "extname" Toml.text?
    exclude := (← Toml.field? fields "exclude" (Toml.listOf? Toml.text?)).getD []
    loaders := (← Toml.field? fields "loaders" (Toml.listOf? LoaderEntry.ofToml?)).getD [] }

/-- The rule with its patterns read and its loaders found. -/
def rule (environment : Envify.Environment) (entry : RuleEntry) : Except Error Rule := do
  let test ← Pattern.read entry.test
  let exclude ← entry.exclude.mapM Pattern.read
  let loaders ← entry.loaders.mapM (LoaderEntry.binding environment entry.test)
  return { test, extname := entry.extname, exclude, loaders }

end RuleEntry

/-- A plugin with its options. -/
structure PluginEntry where
  name : String
  options : Json := .null

namespace PluginEntry

/-- Reads a plugin. -/
def ofToml? (value : Toml) : Option PluginEntry := do
  let fields ← value.fields? ["name", "options"]
  return {
    name := ← (← Toml.field? fields "name" Toml.text?)
    options := (← Toml.field? fields "options" fun options => some options.json).getD .null }

end PluginEntry

/-- The configuration of a project as it is written down. -/
structure ProjectFile where
  src : Option String := none
  out : Option String := none
  static : Option String := none
  temp : Option String := none
  npm : Option String := none
  publicPath : Option String := none
  host : Option String := none
  socket : Option Nat := none
  bundle : Option Bool := none
  sourceMap : Option Bool := none
  ignore : List String := []
  aliases : List (String × List String) := []
  rules : List RuleEntry := []
  plugins : List PluginEntry := []

namespace ProjectFile

/-- The names that a project file may hold. -/
def names : List String :=
  ["src", "out", "static", "temp", "npm", "public_path", "host", "port", "bundle", "source_map",
    "ignore", "alias", "rules", "plugins"]

/-- Reads patterns with the paths to try for each. -/
def aliasOfToml? : Toml → Option (List (String × List String))
  | .table members => members.mapM fun (pattern, candidates) =>
    (candidates.listOf? Toml.text?).map fun candidates => (pattern, candidates)
  | _ => none

/-- Reads a project file. -/
def ofToml? (value : Toml) : Option ProjectFile := do
  let fields ← value.fields? names
  return {
    src := ← Toml.field? fields "src" Toml.text?
    out := ← Toml.field? fields "out" Toml.text?
    static := ← Toml.field? fields "static" Toml.text?
    temp := ← Toml.field? fields "temp" Toml.text?
    npm := ← Toml.field? fields "npm" Toml.text?
    publicPath := ← Toml.field? fields "public_path" Toml.text?
    host := ← Toml.field? fields "host" Toml.text?
    socket := ← Toml.field? fields "port" Toml.socket?
    bundle := ← Toml.field? fields "bundle" Toml.flag?
    sourceMap := ← Toml.field? fields "source_map" Toml.flag?
    ignore := (← Toml.field? fields "ignore" (Toml.listOf? Toml.text?)).getD []
    aliases := (← Toml.field? fields "alias" aliasOfToml?).getD []
    rules := (← Toml.field? fields "rules" (Toml.listOf? RuleEntry.ofToml?)).getD []
    plugins := (← Toml.field? fields "plugins" (Toml.listOf? PluginEntry.ofToml?)).getD [] }

/-- Reads a project file from its text. -/
def parse (source : String) : Except ConfigCause ProjectFile :=
  match (Toml.read? source).bind ofToml? with
  | some project => .ok project
  | none => .error .invalidProject

/-- The name of the project file below the root. -/
def fileName : String := "tessera.toml"

/-- Reads the project file at a path. -/
def readAt (disk : Disk) (path : Path) : Except Error ProjectFile :=
  match disk.read path with
  | .error fault => .error (.system (.disk fault))
  | .ok content =>
    match Text.decode content with
    | .error _ => .error (.system .invalidText)
    | .ok source =>
      match parse source with
      | .ok project => .ok project
      | .error cause => .error (.config (.inProject path cause))

/-- Reads the named file, or the one below the root when it is there. -/
def load (disk : Disk) (root : Path) (file : Option Path) : Except Error ProjectFile :=
  match file with
  | some file => readAt disk (root.join file)
  | none =>
    let path := root.child fileName
    if disk.isFile path then readAt disk path else .ok {}

/-- The settings that a project file makes. -/
def settings (project : ProjectFile) (root : Path) : Settings :=
  let default := Settings.of root
  let folder (name : Option String) (standard : Path) : Path :=
    (name.map root.child).getD standard
  { default with
    src := folder project.src default.src
    out := folder project.out default.out
    static := folder project.static default.static
    temp := folder project.temp default.temp
    npm := project.npm.getD default.npm
    publicPath := project.publicPath
    host := project.host.getD default.host
    socket := project.socket
    bundle := project.bundle.getD default.bundle
    sourceMap := project.sourceMap.getD default.sourceMap }

/-- The configuration that a project file makes, with the loaders of an environment. -/
def config (environment : Envify.Environment) (project : ProjectFile) (root : Path) :
    Except Error Config := do
  let config : Config := { project.settings root with }
  let config ← project.ignore.foldlM Config.addIgnore config
  let config := project.aliases.foldl (fun config entry => config.addAlias entry.1 entry.2) config
  let rules ← project.rules.mapM (RuleEntry.rule environment)
  let plugins ← project.plugins.mapM fun entry => Plugin.named entry.name entry.options
  return { config with rules, plugins }

end ProjectFile

end Minipack
