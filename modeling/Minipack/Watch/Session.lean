/-
Watch sessions: a build that follows the edits of its source folder.

Edits that are made at once form a batch.  The paths that a batch has touched are handed to the
build together, after all its edits, so that a path is taken as the batch leaves it.
-/
import Minipack.Watch.Filter

namespace Minipack.Watch

/-! ### Edits -/

/-- A change that somebody makes to the disk. -/
inductive Edit where
  /-- Writes a file, and makes the folders that it needs. -/
  | write (path : Path) (content : ByteArray)
  /-- Removes a file, or a folder with all that it holds. -/
  | remove (path : Path)
  | rename (path target : Path)

namespace Edit

/-- The disk after an edit; an edit that is refused changes as much as it can. -/
def apply (disk : Disk) : Edit → Disk
  | write path content =>
    let disk := match path.parent? with
      | some folder => (disk.makeFolders folder).1
      | none => disk
    (disk.write path content).1
  | remove path =>
    match disk.removeFile path with
    | (disk, none) => disk
    | (disk, some _) => (disk.removeTree path).1
  | rename path target => (disk.rename path target).1

/-- A path and the paths of all that lies below it. -/
def below (disk : Disk) (path : Path) : List Path :=
  match disk.find false path with
  | .error _ => [path]
  | .ok place =>
    let inside := disk.entries.filter fun (there, _) => place.isPrefixOf there
    inside.map fun (there, _) => (there.drop place.length).foldl Path.child path

/-- The paths that an edit of this disk touches. -/
def touched (disk : Disk) : Edit → List Path
  | write path _ => [path]
  | remove path => below disk path
  | rename path target => [path, target]

end Edit

/-- Makes edits one after the other, and collects the paths that they touch. -/
def applyAll (disk : Disk) : List Edit → Disk × List Path
  | [] => (disk, [])
  | edit :: rest =>
    let (after, paths) := applyAll (edit.apply disk) rest
    (after, edit.touched disk ++ paths)

/-! ### Sessions -/

/-- A build with the filter of its session. -/
structure Session where
  build : Build
  filter : Filter

namespace Session

/-- Begins to watch the source folder, which must be there. -/
def start (build : Build) : Except Error Session :=
  let folder := build.config.src
  if !build.disk.has folder then .error (.notify "no such folder")
  else
    let filter := Filter.of build.config.toSettings build.disk
    let build := { build with config := build.config.setWatching true }.tell
      [⟨.info, "watch", s!"watching {folder.display}"⟩]
    .ok ⟨build, filter⟩

/-- What there is to tell of an event; `elapsed` says how long the writing took. -/
def logOf (elapsed : String) : WatchEvent → List LogLine
  | .changed file affected =>
    [⟨.info, "watch", s!"{file.display} changed, recompiling {affected.length} file(s)"⟩]
  | .notRequired _ => []
  | .unlinked file => [⟨.info, "watch", s!"{file.display} removed"⟩]
  | .completed stats => [⟨.info, "watch", s!"wrote {stats.length} file(s) in {elapsed}"⟩]
  | .failed error => [⟨.error, "watch", error.message⟩]

/-- Takes a batch of edits. -/
def take (session : Session) (edits : List Edit) : Session × List WatchEvent :=
  let build := session.build.wait
  -- the filter looks at the disk as the whole batch leaves it
  let (disk, paths) := applyAll build.disk edits
  let watched := paths.filter fun path => path.startsWith build.config.src
  let changes := session.filter.changes disk .modified watched
  let (build, events) := { build with disk := disk }.handleChanges changes
  ({ session with build := build }, events)

/-- Ends a session. -/
def close (session : Session) : Build :=
  let build := session.build.wait
  { build with config := build.config.setWatching false }

end Session

end Minipack.Watch
