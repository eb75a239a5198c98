/-
Configurations: settings, rules, plugins, aliases and ignored files, and the manifest of the
project.

A configuration is put together from its parts and then settled by `Config.resolve`, which checks
the rules, settles the public address and reads the manifest.  Afterwards only the manifest and the
watching switch change.
-/
import Minipack.Manifest
import Minipack.Plugin.Basic

namespace Minipack

/-- All that a build is told. -/
structure Config extends Settings where
  rules : List Rule := []
  plugins : List Plugin := []
  /-- Patterns of specifiers with the paths to try for each. -/
  aliases : List (String × List String) := []
  ignore : List Glob := []
  manifest : Manifest := {}
  /-- The folder of the plugin that the project declares. -/
  pluginRoot : Option Path := none

namespace Config

/-- The default configuration of a project. -/
def of (root : Path) : Config :=
  { Settings.of root with }

/-- Adds a pattern of specifiers; a known pattern keeps its place and gets the new paths. -/
def addAlias (config : Config) (pattern : String) (candidates : List String) : Config :=
  { config with aliases :=
      if config.aliases.any (·.1 == pattern) then
        config.aliases.map fun entry => if entry.1 == pattern then (pattern, candidates) else entry
      else config.aliases ++ [(pattern, candidates)] }

/-- Adds a pattern of files to ignore. -/
def addIgnore (config : Config) (pattern : String) : Except Error Config :=
  match Glob.read pattern with
  | .ok glob => .ok { config with ignore := config.ignore ++ [glob] }
  | .error fault => .error (.config (.invalidIgnore pattern fault))

/-- The rule for a file. -/
def rule? (config : Config) (file : Path) : Option Rule :=
  Rule.first? config.rules file

/-- Whether changes of a file are ignored, by its way below the source folder or by its name. -/
def isIgnored (config : Config) (file : Path) : Bool :=
  let way := (file.strip? config.src).getD file
  let name := file.fileName?.getD ""
  config.ignore.any fun glob => glob.isMatch way.text || glob.isMatch name

/-- Where a compiled file is written. -/
def destination (config : Config) (file : Path) : Path :=
  match (config.rule? file).bind Rule.extname with
  | some extname => (config.outputFor file).withExtname extname
  | none => config.outputFor file

/-- What loaders are told. -/
def loaderContext (config : Config) (options : Json) : LoaderContext where
  root := config.root
  src := config.src
  out := config.out
  sourceMap := config.sourceMap
  options := options

/-! ### Settling -/

/-- Reads the manifest of a project. -/
def loadManifest (disk : Disk) (file : Path) : Except Error Manifest :=
  if !disk.isFile file then .error (.config (.missingManifest file))
  else
    match disk.read file with
    | .error fault => .error (.system (.disk fault))
    | .ok content =>
      match Manifest.read content with
      | .ok manifest => .ok manifest
      | .error _ => .error (.config (.invalidManifest file))

/-- Whether an address is one that a mini program can load. -/
def isRemoteAddress (address : String) : Bool :=
  "http://".toList.isPrefixOf address.toList || "https://".toList.isPrefixOf address.toList

/-- The number of the first socket that is tried when none is given. -/
def firstIdleSocket : Nat := 50000

/-- The configuration with a public address, which is taken from the host and the socket when none
is given. -/
def settleAddress (config : Config) : Config :=
  match config.publicPath with
  | some _ => config
  | none =>
    let number := config.socket.getD firstIdleSocket
    { config with publicPath := some s!"http://{config.host}:{number}", socket := some number }

/-- The folder of the plugin that the project descriptor declares. -/
def readPluginRoot (config : Config) (disk : Disk) : Option Path := do
  let content ← disk.read? config.projectFile
  let project ← Json.read? content.toList
  let root ← (← project.get? "pluginRoot").string?
  return config.src.child root

/-- Checks the rules, settles the public address and reads the manifest, which must list a page. -/
def resolve (config : Config) (disk : Disk) : Except Error Config := do
  config.rules.forM Rule.validate
  let config := config.settleAddress
  if !isRemoteAddress config.publicAddress then
    .error (.config (.localPublicPath config.publicAddress))
  let manifest ← loadManifest disk config.manifestFile
  if manifest.pages.isEmpty then .error (.config (.noPages config.manifestFile))
  return { config with manifest := manifest, pluginRoot := config.readPluginRoot disk }

/-- Reads the manifest again; when that fails the old one stays. -/
def reloadManifest (config : Config) (disk : Disk) : Config × Option Error :=
  match loadManifest disk config.manifestFile with
  | .ok manifest => ({ config with manifest := manifest }, none)
  | .error error => (config, some error)

/-- Switches watching on or off. -/
def setWatching (config : Config) (watching : Bool) : Config :=
  { config with watching := watching }

/-- The configuration with the names of its parts. -/
def inspect (config : Config) : String :=
  let publicPath := LoaderFailure.inspectOption (config.publicPath.map Text.quote)
  let plugins := ", ".intercalate (config.plugins.map fun plugin => Text.quote plugin.name)
  let parts := [
    s!"root_dir: {config.root.quoted}",
    s!"src_dir: {config.src.quoted}",
    s!"out_dir: {config.out.quoted}",
    s!"static_dir: {config.static.quoted}",
    s!"public_path: {publicPath}",
    s!"npm_dir: {Text.quote config.npm}",
    s!"rules: {config.rules.length}",
    s!"plugins: [{plugins}]",
    s!"bundle: {config.bundle}",
    s!"source_map: {config.sourceMap}",
    s!"watching: {config.watching}"]
  "BuildConfig \x7b " ++ ", ".intercalate parts ++ " \x7d"

end Config

end Minipack
