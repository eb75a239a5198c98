/-
Rebuilding after changes.

A batch of changes is taken path by path, in order, the last change of a path alone.  Chunks of
removed files are dropped.  A file whose content has changed is compiled again together with the
chunks that refer to it, and what this affects is written.
-/
import Minipack.Build.Basic

namespace Minipack

/-- What happened to a file. -/
inductive ChangeKind where
  | created
  | modified
  | removed
deriving DecidableEq, Repr

/-- A change of a file. -/
structure Change where
  path : Path
  kind : ChangeKind

/-- What is told about a batch of changes. -/
inductive WatchEvent where
  | changed (file : Path) (affected : List Path)
  /-- The change affects nothing. -/
  | notRequired (file : Path)
  | unlinked (file : Path)
  | completed (stats : Build.Stats)
  | failed (error : Error)

namespace Build

/-- The last change of each path, in order; a path keeps the text of its first change. -/
def latest (changes : List Change) : List Change :=
  changes.foldl (fun known change =>
    let path := match Keyed.find? Change.path change.path known with
      | some old => old.path
      | none => change.path
    Keyed.insert Change.path ⟨path, change.kind⟩ known) []

/-- The chunks to compile again after a file has changed: its own, unless its content is as it was,
and those that refer to it. -/
def affectedBy (build : Build) (file : Path) : Build × Except Error (List Task) :=
  let (build, failure) :=
    if file == build.config.manifestFile then
      let (config, failure) := build.config.reloadManifest build.disk
      ({ build with config := config }, failure)
    else (build, none)
  match failure with
  | some error => (build, .error error)
  | none =>
    let dependents := (build.registry.dependents file).map Task.ofChunk
    match build.registry.get? file with
    | none => (build, .ok dependents)
    | some chunk =>
      let build := build.wait
      match build.disk.read file with
      | .error fault => (build, .error (.system (.disk fault)))
      | .ok source =>
        -- with its content as it was, not even the referring chunks are compiled again
        if digest source = chunk.hash then (build, .ok [])
        else (build, .ok (Task.ofChunk chunk :: dependents))

/-- Whether a change means that the file is gone. -/
def isRemoval (build : Build) (change : Change) : Bool :=
  change.kind == .removed || !build.disk.has change.path

/-- Adds a task unless there is one for its file. -/
def addTask (tasks : List Task) (task : Task) : List Task :=
  match Keyed.find? Task.file task.file tasks with
  | some _ => tasks
  | none => Keyed.insert Task.file task tasks

/-- Takes one change: drops a removed file, or collects what is to be compiled again. -/
def takeChange (state : Build × List Task × List WatchEvent) (change : Change) :
    Build × List Task × List WatchEvent :=
  let (build, tasks, events) := state
  let file := change.path
  if build.config.isIgnored file then state
  else if build.isRemoval change then
    if build.registry.has file then
      ({ build with registry := build.registry.delete file }, tasks, events ++ [.unlinked file])
    else state
  else
    match build.affectedBy file with
    | (build, .error error) => (build, tasks, events ++ [.failed error])
    | (build, .ok []) => (build, tasks, events ++ [.notRequired file])
    | (build, .ok affected) =>
      (build, affected.foldl addTask tasks,
        events ++ [.changed file (affected.map Task.file)])

/-- What of a packed output has to be written again. -/
def isStale (compiled : List Chunk) (chunk : Chunk) : Bool :=
  chunk.kind == .bundler || (chunk.kind == .entry && chunk.isScript) ||
    compiled.any fun c => c.file == chunk.file

/-- What is written after chunks were compiled again. -/
def reoutput (build : Build) (compiled : List Chunk) : Except Error (List Chunk) :=
  if build.config.bundle && compiled.any Bundle.participates then
    (Bundle.pack build.config build.registry.chunks).map (List.filter (isStale compiled))
  else .ok compiled

/-- Compiles files again and writes what this affects. -/
def recompile (build : Build) (tasks : List Task) : Build × Except Error Stats :=
  match build.addAllPluginChunks with
  | (build, .error error) => (build, .error error)
  | (build, .ok _) =>
    match build.compile tasks with
    | (build, .error error) => (build, .error error)
    | (build, .ok compiled) =>
      match build.reoutput compiled with
      | .error error => (build, .error error)
      | .ok chunks => build.write chunks

/-- Takes a batch of changes. -/
def handleChanges (build : Build) (changes : List Change) : Build × List WatchEvent :=
  let (build, tasks, events) := (latest changes).foldl takeChange (build, [], [])
  if tasks.isEmpty then (build, events)
  else
    match build.recompile tasks with
    | (build, .ok stats) => (build, events ++ [.completed stats])
    | (build, .error error) => (build, events ++ [.failed error])

end Build

end Minipack
