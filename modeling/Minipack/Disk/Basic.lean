/-
Disks.  A disk is a value: files, folders and symbolic links, each at its place.

A place is the list of names that lead to it from the root.  The root is always a folder.  A path is
followed step by step from the root or from the current folder: every step but the last must start
in a folder, `..` goes to the folder above, and a link is replaced by the path it holds.  Only so
many links are followed, and neither a path nor a name may be too long, so a walk always ends and
reading a path of more than `maxPathSize` bytes always fails.

Main definitions:

* `Disk.walk` follows the pieces of a path and ends at a place that is taken, or at one that is free
  in an existing folder;
* `Disk.isFile`, `Disk.isFolder`, `Disk.read`, `Disk.names`, `Disk.canonical` are the questions a
  build asks.
-/
import Minipack.Keyed
import Minipack.Path.Basic

namespace Minipack

/-- The names that lead from the root to a place. -/
abbrev Place := List String

/-- What stands at a place. -/
inductive Entry where
  | file (content : ByteArray)
  | folder
  | link (target : String)

/-- Files are compared by their bytes, and links by their targets. -/
instance : DecidableEq Entry
  | .file x, .file y =>
    match decEq x.data y.data with
    | isTrue h => isTrue (congrArg Entry.file (ByteArray.ext h))
    | isFalse h => isFalse fun e => h (congrArg ByteArray.data (Entry.file.inj e))
  | .folder, .folder => isTrue rfl
  | .link s, .link t =>
    match decEq s t with
    | isTrue h => isTrue (congrArg Entry.link h)
    | isFalse h => isFalse fun e => h (Entry.link.inj e)
  | .file _, .folder => isFalse Entry.noConfusion
  | .file _, .link _ => isFalse Entry.noConfusion
  | .folder, .file _ => isFalse Entry.noConfusion
  | .folder, .link _ => isFalse Entry.noConfusion
  | .link _, .file _ => isFalse Entry.noConfusion
  | .link _, .folder => isFalse Entry.noConfusion

/-- Why a disk refuses. -/
inductive DiskFault where
  | notFound
  | notFolder
  | isFolder
  | occupied
  | notEmpty
  | invalidPath
  | tooLong
  | tooManyLinks
deriving DecidableEq, Repr

/-- The refusal in words. -/
def DiskFault.message : DiskFault → String
  | notFound => "no such file or folder"
  | notFolder => "not a folder"
  | isFolder => "is a folder"
  | occupied => "already exists"
  | notEmpty => "folder is not empty"
  | invalidPath => "invalid path"
  | tooLong => "path is too long"
  | tooManyLinks => "too many symbolic links"

/-- Files, folders and links by place, and the folder from which relative paths are followed. -/
structure Disk where
  entries : List (Place × Entry)
  current : Place

namespace Disk

/-- A disk with nothing but its root. -/
def empty : Disk := ⟨[], []⟩

/-- What stands at a place. -/
def entryAt? (disk : Disk) (place : Place) : Option Entry :=
  if place.isEmpty then some .folder
  else (Keyed.find? Prod.fst place disk.entries).map Prod.snd

/-- Whether a folder stands at a place. -/
def hasFolderAt (disk : Disk) (place : Place) : Bool :=
  match disk.entryAt? place with
  | some .folder => true
  | _ => false

/-- Where a walk ends. -/
inductive Spot where
  /-- At something. -/
  | taken (place : Place)
  /-- At nothing, in an existing folder; `slashed` says that the path ends in a slash. -/
  | free (place : Place) (slashed : Bool)
deriving DecidableEq, Repr

/-- The most links that one walk follows. -/
def maxLinks : Nat := 40

/-- The most bytes of a path. -/
def maxPathSize : Nat := 4095

/-- The most bytes of a name. -/
def maxNameSize : Nat := 255

/-- The number of bytes of a text. -/
def size (text : List Char) : Nat :=
  (String.ofList text).utf8ByteSize

/-- The folder from which a path is followed that is met at `place`. -/
def startOf (place : Place) (text : List Char) : Place :=
  if text.head? = some '/' then [] else place

/--
Follows `pieces` from `place`, and goes on with `jump` where a link leads.  A link at the very end
is replaced only when `follow` is set.
-/
def walkWith (disk : Disk) (follow : Bool)
    (jump : Place → List (List Char) → Except DiskFault Spot) (place : Place) :
    List (List Char) → Except DiskFault Spot
  | [] => .ok (.taken place)
  | piece :: rest =>
    if !disk.hasFolderAt place then .error .notFolder
    else if Path.isIdle piece then disk.walkWith follow jump place rest
    else if piece = ['.', '.'] then disk.walkWith follow jump place.dropLast rest
    else if maxNameSize < size piece then .error .tooLong
    else
      let there := place ++ [String.ofList piece]
      match disk.entryAt? there with
      | none =>
        -- only the last name may be missing, though slashes may follow it
        if rest.all List.isEmpty then .ok (.free there !rest.isEmpty) else .error .notFound
      | some (.link target) =>
        if rest.isEmpty && !follow then .ok (.taken there)
        else
          -- the target is read from the folder that the link stands in
          jump (startOf place target.toList) (Path.pieces target.toList ++ rest)
      | some _ => disk.walkWith follow jump there rest

/-- Follows `pieces` from `place` while so many links may still be replaced. -/
def walk (disk : Disk) (follow : Bool) : Nat → Place → List (List Char) → Except DiskFault Spot
  | 0 => disk.walkWith follow fun _ _ => .error .tooManyLinks
  | links + 1 => disk.walkWith follow (disk.walk follow links)

/-- Where a path ends. -/
def spot (disk : Disk) (follow : Bool) (path : Path) : Except DiskFault Spot :=
  let text := path.text.toList
  if text.isEmpty then .error .notFound
  else if text.contains '\x00' then .error .invalidPath
  else if maxPathSize < size text then .error .tooLong
  else disk.walk follow maxLinks (startOf disk.current text) (Path.pieces text)

/-- The place of what a path names. -/
def find (disk : Disk) (follow : Bool) (path : Path) : Except DiskFault Place :=
  match disk.spot follow path with
  | .error fault => .error fault
  | .ok (.taken place) => .ok place
  | .ok (.free _ _) => .error .notFound

/-- What a path names, with links followed. -/
def entry? (disk : Disk) (path : Path) : Option Entry :=
  match disk.find true path with
  | .ok place => disk.entryAt? place
  | .error _ => none

/-- Whether a path names a file. -/
def isFile (disk : Disk) (path : Path) : Bool :=
  match disk.entry? path with
  | some (.file _) => true
  | _ => false

/-- Whether a path names a folder. -/
def isFolder (disk : Disk) (path : Path) : Bool :=
  match disk.entry? path with
  | some .folder => true
  | _ => false

/-- Whether a path names anything. -/
def has (disk : Disk) (path : Path) : Bool :=
  (disk.entry? path).isSome

/-- The content of the file that a path names. -/
def read (disk : Disk) (path : Path) : Except DiskFault ByteArray :=
  match disk.find true path with
  | .error fault => .error fault
  | .ok place =>
    match disk.entryAt? place with
    | some (.file content) => .ok content
    | _ => .error .isFolder

/-- The content of the file that a path names, if it can be read. -/
def read? (disk : Disk) (path : Path) : Option ByteArray :=
  (disk.read path).toOption

/-- The names in the folder at a place, in order. -/
def namesAt (disk : Disk) (place : Place) : List String :=
  disk.entries.filterMap fun (there, _) => if there.dropLast = place then there.getLast? else none

/-- The names in the folder that a path names, in order. -/
def names (disk : Disk) (path : Path) : Except DiskFault (List String) :=
  match disk.find true path with
  | .error fault => .error fault
  | .ok place => if disk.hasFolderAt place then .ok (disk.namesAt place) else .error .notFolder

/-- The path of a place. -/
def pathOf (place : Place) : Path :=
  ⟨"/" ++ "/".intercalate place⟩

/-- The path without links and steps of what a path names. -/
def canonical (disk : Disk) (path : Path) : Except DiskFault Path :=
  match disk.find true path with
  | .error fault => .error fault
  | .ok place => .ok (pathOf place)

end Disk

end Minipack
