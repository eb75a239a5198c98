/-
What the command does with its options.

A run settles the configuration, builds once, and then either ends or follows changes.  While
changes are followed a failed build is told and does not end the run.
-/
import Minipack.Command.Arguments
import Minipack.Command.Report
import Minipack.Project
import Minipack.Watch.Session

namespace Minipack.Command

/-- The configuration that options make of a project file. -/
def override (options : Options) (config : Config) : Config :=
  let plugins :=
    if options.verb = .dev && !config.plugins.any (fun plugin => plugin.name == "dev-server") then
      config.plugins ++ [Plugin.devServer]
    else config.plugins
  { config with
    bundle := options.bundle || config.bundle
    sourceMap := !options.noSourceMap && config.sourceMap
    publicPath := options.publicPath.or config.publicPath
    plugins := plugins
    silence := options.silence
    watching := options.watch }

/-- The settled configuration of a run. -/
def configure (environment : Envify.Environment) (disk : Disk) (options : Options) :
    Except Error Config := do
  let root ← match disk.canonical ⟨options.root⟩ with
    | .ok root => .ok root
    | .error fault => .error (.system (.disk fault))
  let project ← ProjectFile.load disk root (options.config.map Path.mk)
  let config ← project.config environment root
  (override options config).resolve disk

/-- A build that is about to begin. -/
def prepare (config : Config) (disk : Disk) : Build :=
  ({ config, disk } : Build).tell [⟨.info, topic, s!"building {config.root.display}"⟩]

/-- Where a run stands after its build. -/
inductive Progress where
  | finished (build : Build)
  | failed (build : Build) (error : Error)
  /-- Changes are followed. -/
  | watching (session : Watch.Session)

namespace Progress

/-- The build of a run. -/
def build : Progress → Build
  | finished build => build
  | failed build _ => build
  | watching session => session.build

end Progress

/-- Goes on to follow changes. -/
def follow (build : Build) : Progress :=
  match Watch.Session.start build with
  | .error error => .failed build error
  | .ok session =>
    let text := "watching for file changes, press ctrl-c to stop"
    .watching { session with build := session.build.tell [⟨.info, topic, text⟩] }

/-- Goes on after the build; `elapsed` says how long it took. -/
def conclude (elapsed : String) (build : Build) (result : Except Error Build.Stats) : Progress :=
  match result with
  | .ok stats =>
    let build := build.tell (report build.config.toSettings stats elapsed)
    if build.config.watching then follow build else .finished build
  | .error error =>
    if build.config.watching then follow (build.tell [⟨.error, topic, error.message⟩])
    else .failed build error

/-- A whole run up to the point where it ends or follows changes. -/
def run (config : Config) (disk : Disk) (elapsed : String) : Progress :=
  let (build, result) := (prepare config disk).run
  conclude elapsed build result

/-- Tells what came of a batch of edits; `elapsed` says how long it took. -/
def tellEvents (session : Watch.Session) (events : List WatchEvent) (elapsed : String) :
    Watch.Session :=
  { session with build := session.build.tell (events.flatMap (Watch.Session.logOf elapsed)) }

/-- Takes a batch of edits and tells what came of it. -/
def takeEdits (session : Watch.Session) (edits : List Watch.Edit) (elapsed : String) :
    Watch.Session :=
  let (session, events) := session.take edits
  tellEvents session events elapsed

/-- The lines that a terminal shows, those for the stream of errors apart. -/
def shown (config : Config) (log : List LogLine) : List String × List String :=
  let (warnings, others) := log.partition LogLine.isWarning
  (if config.silence then [] else others.map LogLine.render, warnings.map LogLine.render)

/-- The line with which a failed run ends. -/
def failureLine (error : Error) : String :=
  "Error: " ++ error.inspect

end Minipack.Command
