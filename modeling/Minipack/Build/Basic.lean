/-
A build: hooks, compiling, packing and writing, one after the other.

The state of a build is its configuration, the disk, the chunks and what there is to tell.
Background hooks are started when a build begins and get their turn when the build first waits for
the system: when a folder is removed, when files are compiled, written or read again.  Until then
they are pending.
-/
import Minipack.Bundle
import Minipack.Compile.Pass
import Minipack.Flush

namespace Minipack

/-- The state of a build. -/
structure Build where
  config : Config
  disk : Disk
  registry : Registry := {}
  /-- Plugins whose background hooks have not had their turn. -/
  pending : List Plugin := []
  log : List LogLine := []

namespace Build

/-- Tells something. -/
def tell (build : Build) (lines : List LogLine) : Build :=
  { build with log := build.log ++ lines }

/-- Runs a background hook; its failure is only told. -/
def runBackground (build : Build) (plugin : Plugin) : Build :=
  let result := plugin.background build.config.toSettings build.disk
  let failure := match result.error with
    | some error => [⟨.warn, "build", s!"{plugin.name} failed: {error.message}"⟩]
    | none => []
  { build with disk := result.disk }.tell (result.log ++ failure)

/-- Gives the pending background hooks their turn. -/
def wait (build : Build) : Build :=
  build.pending.foldl runBackground { build with pending := [] }

/-- Waits only if there is something to wait for. -/
def waitIf (build : Build) (waiting : Bool) : Build :=
  if waiting then build.wait else build

/-! ### Hooks -/

/-- Takes the steps before a build until one fails. -/
def runBefore (build : Build) : List HookStep → Build × Except Error Unit
  | [] => (build, .ok ())
  | step :: rest =>
    let result := step build.disk
    let build := ({ build with disk := result.disk }.tell result.log).waitIf result.waited
    match result.error with
    | some error => (build, .error error)
    | none => build.runBefore rest

/-- Takes the steps of all plugins before a build. -/
def runAllBefore (build : Build) : Build × Except Error Unit :=
  build.runBefore (build.config.plugins.flatMap fun plugin => plugin.before build.config.toSettings)

/-- Adds the chunks of plugins until one fails. -/
def addPluginChunks (build : Build) : List Plugin → Build × Except Error Unit
  | [] => (build, .ok ())
  | plugin :: rest =>
    let (result, log) := plugin.beforeCompile build.config.toSettings
    let build := build.tell log
    match result with
    | .error error => (build, .error error)
    | .ok chunks =>
      { build with registry := chunks.foldl Registry.add build.registry }.addPluginChunks rest

/-- Adds the chunks of all plugins. -/
def addAllPluginChunks (build : Build) : Build × Except Error Unit :=
  build.addPluginChunks build.config.plugins

/-! ### Stages -/

/-- Drops repeated paths. -/
def distinct (paths : List Path) : List Path :=
  paths.foldl (fun known path => if known.contains path then known else known ++ [path]) []

/-- The files of the app: descriptor, script and style sheet, whether or not the first exists. -/
def appFiles (config : Config) (disk : Disk) : List Path :=
  let files := (Resolve.findModule config disk "app" config.src).getD []
  if files.contains config.manifestFile then files else config.manifestFile :: files

/-- The files of a page. -/
def pageFiles (config : Config) (disk : Disk) (page : String) : Except Error (List Path) :=
  match Resolve.findModule config disk page config.src with
  | some files => .ok files
  | none => .error (.resolve config.manifestFile (.missingPageFolder page))

/-- The descriptor of the plugin that the project declares, if there is one. -/
def pluginFiles (config : Config) (disk : Disk) : List Path :=
  match config.pluginRoot with
  | some root => [root.child "plugin.json"].filter disk.isFile
  | none => []

/-- The files with which a build begins, each once: app, pages, plugin. -/
def findEntries (config : Config) (disk : Disk) : Except Error (List Path) := do
  let pages ← config.manifest.allPages.mapM (pageFiles config disk)
  return distinct (appFiles config disk ++ pages.flatten ++ pluginFiles config disk)

/-- Compiles files and all that they refer to. -/
def compile (build : Build) (tasks : List Task) : Build × Except Error (List Chunk) :=
  let build := build.waitIf !tasks.isEmpty
  let outcome := Compile.compileAll build.config build.disk build.registry tasks
  ({ build with registry := outcome.registry }.tell outcome.log, outcome.result)

/-- What was written, in the order of the paths. -/
abbrev Stats := List Written

/-- The number of bytes written. -/
def totalSize (stats : Stats) : Nat :=
  stats.foldl (fun total file => total + file.size) 0

/-- Writes chunks. -/
def write (build : Build) (chunks : List Chunk) : Build × Except Error Stats :=
  let build := build.waitIf (chunks.any fun chunk => !chunk.destinations.isEmpty)
  let (disk, result, log) := flush build.config.toSettings build.disk chunks
  ({ build with disk := disk }.tell log, result)

/-- What is written for the chunks of the registry. -/
def output (build : Build) : Except Error (List Chunk) :=
  if build.config.bundle then Bundle.pack build.config build.registry.chunks
  else .ok build.registry.chunks

/-- Starts a build: forgets all chunks and starts the background hooks. -/
def start (build : Build) : Build :=
  { build with registry := {}, pending := build.pending ++ build.config.plugins }

/-- Compiles the entries and writes the result. -/
def finish (build : Build) : Build × Except Error Stats :=
  let project := build.config.projectFile
  if !build.disk.isFile project then (build, .error (.precondition project.display))
  else
    match findEntries build.config build.disk with
    | .error error => (build, .error error)
    | .ok entries =>
      match build.compile ((project :: entries).map fun file => { file }) with
      | (build, .error error) => (build, .error error)
      | (build, .ok _) =>
        match build.output with
        | .error error => (build, .error error)
        | .ok chunks => build.write chunks

/-- Runs a whole build. -/
def run (build : Build) : Build × Except Error Stats :=
  match build.start.runAllBefore with
  | (build, .error error) => (build, .error error)
  | (build, .ok _) =>
    match build.addAllPluginChunks with
    | (build, .error error) => (build, .error error)
    | (build, .ok _) => build.finish

end Build

end Minipack
