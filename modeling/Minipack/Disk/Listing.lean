/-
Listings: all files below a folder with their contents, links followed, and the empty folders.
-/
import Minipack.Disk.Basic

namespace Minipack.Disk

/-- A file below a folder, or an empty folder, by path. -/
structure Listed where
  path : Path
  /-- The content of a file; none for an empty folder. -/
  content : Option ByteArray

/-- What lies at a path and below it, at most `depth` levels deep. -/
def listFrom (disk : Disk) : Nat → Path → List Listed
  | 0, _ => []
  | depth + 1, path =>
    match disk.entry? path with
    | some (.file content) => [⟨path, some content⟩]
    | some .folder =>
      match disk.names path with
      | .ok [] => [⟨path, none⟩]
      | .ok names => names.flatMap fun name => disk.listFrom depth (path.child name)
      | .error _ => []
    | _ => []

/-- The files and empty folders below a folder; none when there is no such folder. -/
def list (disk : Disk) (path : Path) : List Listed :=
  disk.listFrom (disk.entries.length + maxLinks + 1) path

end Minipack.Disk
