/-
Changes of a disk.

Every change gives the disk afterwards and the fault that ended it, if one did: a change that is
made of several steps keeps the steps before the fault.

Main definitions:

* `Disk.write` puts a content into a file, new or old;
* `Disk.makeFolders` makes a folder and all folders above it;
* `Disk.removeTree` empties and removes a folder, and removes a link but not what it leads to;
* `Disk.rename` moves a file or a folder with all that it holds.
-/
import Minipack.Disk.Basic

namespace Minipack.Disk

/-- The disk after a change, and what ended the change early. -/
abbrev Changed := Disk × Option DiskFault

/-- Puts an entry at a place. -/
def set (disk : Disk) (place : Place) (entry : Entry) : Disk :=
  { disk with entries := Keyed.insert Prod.fst (place, entry) disk.entries }

/-- Drops what stands at a place. -/
def eraseAt (disk : Disk) (place : Place) : Disk :=
  { disk with entries := Keyed.erase Prod.fst place disk.entries }

/-- Drops all that lies strictly below a place. -/
def eraseBelow (disk : Disk) (place : Place) : Disk :=
  { disk with entries :=
      disk.entries.filter fun (there, _) => !(place.isPrefixOf there && there != place) }

/-- Writes a file; a link to a file is followed. -/
def write (disk : Disk) (path : Path) (content : ByteArray) : Changed :=
  match disk.spot true path with
  | .error fault => (disk, some fault)
  | .ok (.free place slashed) =>
    if slashed then (disk, some .isFolder) else (disk.set place (.file content), none)
  | .ok (.taken place) =>
    match disk.entryAt? place with
    | some (.file _) => (disk.set place (.file content), none)
    | _ => (disk, some .isFolder)

/-- Makes a folder in an existing folder. -/
def makeFolder (disk : Disk) (path : Path) : Changed :=
  match disk.spot false path with
  | .error fault => (disk, some fault)
  | .ok (.free place _) => (disk.set place .folder, none)
  | .ok (.taken _) => (disk, some .occupied)

/-- Makes the folders of a list, where each may be there already. -/
def makeEach (disk : Disk) : List Path → Changed
  | [] => (disk, none)
  | path :: rest =>
    match disk.makeFolder path with
    | (disk, none) => disk.makeEach rest
    | (disk, some .occupied) =>
      if disk.isFolder path then disk.makeEach rest else (disk, some .occupied)
    | (disk, some fault) => (disk, some fault)

/-- Makes a folder and the folders above it; nothing is to be done for the empty path. -/
def makeFolders (disk : Disk) (path : Path) : Changed :=
  disk.makeEach (path.ancestors.filter fun p => !p.text.isEmpty).reverse

/-- Removes an empty folder; a path that ends in a `.` or `..` step names none that can go. -/
def removeFolder (disk : Disk) (path : Path) : Changed :=
  match disk.find false path with
  | .error fault => (disk, some fault)
  | .ok place =>
    match (Path.pieces path.text.toList).filter (fun piece => !piece.isEmpty) |>.getLast? with
    | some ['.'] => (disk, some .invalidPath)
    | some ['.', '.'] => (disk, some .notEmpty)
    | _ =>
      if !disk.hasFolderAt place then (disk, some .notFolder)
      else if place.isEmpty || !(disk.namesAt place).isEmpty then (disk, some .notEmpty)
      else (disk.eraseAt place, none)

/-- Removes a folder with all that it holds, or a link. -/
def removeTree (disk : Disk) (path : Path) : Changed :=
  match disk.find false path with
  | .error fault => (disk, some fault)
  | .ok place =>
    match disk.entryAt? place with
    | some (.link _) => (disk.eraseAt place, none)
    | some .folder =>
      -- the way itself may have led through the folder and be gone with it
      match (disk.eraseBelow place).removeFolder path with
      | (disk, some .notFound) => (disk, none)
      | changed => changed
    | _ => (disk, some .notFolder)

/-- Removes a file or a link. -/
def removeFile (disk : Disk) (path : Path) : Changed :=
  match disk.find false path with
  | .error fault => (disk, some fault)
  | .ok place =>
    if disk.hasFolderAt place then (disk, some .isFolder) else (disk.eraseAt place, none)

/-- Moves what lies at or below `source` to `target`. -/
def move (disk : Disk) (source target : Place) : Disk :=
  let (moved, kept) := disk.entries.partition fun (place, _) => source.isPrefixOf place
  let moved := moved.map fun (place, entry) => (target ++ place.drop source.length, entry)
  { disk with entries := moved.foldl (fun entries e => Keyed.insert Prod.fst e entries) kept }

/-- Gives a file or folder another path; a file in the way is replaced, and so is an empty
folder. -/
def rename (disk : Disk) (path target : Path) : Changed :=
  match disk.find false path, disk.spot false target with
  | .error fault, _ => (disk, some fault)
  | _, .error fault => (disk, some fault)
  | .ok source, .ok spot =>
    let isFolder := disk.hasFolderAt source
    match spot with
    | .free place slashed =>
      if slashed && !isFolder then (disk, some .notFolder)
      else if source.isPrefixOf place then (disk, some .invalidPath)
      else (disk.move source place, none)
    | .taken place =>
      if place = source then (disk, none)
      else if source.isPrefixOf place then (disk, some .invalidPath)
      else if isFolder && !disk.hasFolderAt place then (disk, some .notFolder)
      else if !isFolder && disk.hasFolderAt place then (disk, some .isFolder)
      else if !(disk.namesAt place).isEmpty then (disk, some .notEmpty)
      else ((disk.eraseAt place).move source place, none)

end Minipack.Disk
