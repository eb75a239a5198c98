/-
Searching a disk by a glob pattern.

The pattern is split at its slashes, and each part is matched against one name.  A part of plain
characters is looked up, other parts are tried on every name of the folder in order, and a run of
folders is tried on everything below.  The search stops at the first file.
-/
import Minipack.Disk.Basic
import Minipack.Glob.Basic

namespace Minipack.Disk

/-- A step of a plain name; below the current folder names stand alone. -/
def stepTo (path : Path) (name : String) : Path :=
  if path == ⟨"."⟩ then ⟨name⟩ else path.child name

/-- A path that is a file. -/
def onlyFile? (disk : Disk) (path : Path) : Option Path :=
  if disk.isFile path then some path else none

/-- What the first of two searches finds, or else the second. -/
def orTry (found : Option Path) (other : Unit → Option Path) : Option Path :=
  match found with
  | some path => some path
  | none => other ()

mutual

/-- The first file that the parts lead to from a folder. -/
def searchIn (disk : Disk) (fuel : Nat) (parts : List Glob) (folder : Path) : Option Path :=
  match fuel, parts with
  | 0, _ => none
  | _, [] => disk.onlyFile? folder
  | fuel + 1, part :: rest =>
    match part.plain? with
    | some name =>
      let special := name = ['.'] || name = ['.', '.']
      let next := stepTo folder (String.ofList name)
      if if special then disk.isFolder folder else disk.has next then
        disk.searchIn fuel rest next
      else none
    | none =>
      if disk.isFolder folder then
        let special (name : String) : Option Path :=
          if part.head? = some (.char '.') && part.isMatch name then
            disk.searchIn fuel rest (folder.child name)
          else none
        -- a part that begins with a dot may also mean the folder itself or the one above
        orTry (special "..") fun _ => orTry (special ".") fun _ =>
          match disk.names folder with
          | .ok names =>
            names.findSome? fun name => disk.searchAt fuel part rest (stepTo folder name)
          | .error _ => none
      else none

/-- The first file that a part matched at a path, and then the other parts, lead to. -/
def searchAt (disk : Disk) (fuel : Nat) (part : Glob) (rest : List Glob) (path : Path) :
    Option Path :=
  match fuel with
  | 0 => none
  | fuel + 1 =>
    if part.isRecursive then
      let rest := rest.dropWhile Glob.isRecursive
      match rest with
      | [] => if disk.isFolder path then disk.searchIn fuel [part] path else none
      | next :: rest =>
        orTry (disk.searchAt fuel next rest path) fun _ =>
          if disk.isFolder path then disk.searchIn fuel (part :: next :: rest) path else none
    else
      match path.fileName? with
      | some name => if part.isMatch name then disk.searchIn fuel rest path else none
      | none => none

end

/-- The parts of a pattern between its slashes. -/
def globParts (text : List Char) : Except GlobFault (List Glob) :=
  let parts := Path.pieces text
  let parts := if parts.getLast? = some [] then parts.dropLast else parts
  parts.mapM fun part => Glob.read (String.ofList part)

/-- The first file that a pattern leads to; none either when the pattern is wrong. -/
def search (disk : Disk) (pattern : String) : Option Path :=
  match Glob.read pattern with
  | .error _ => none
  | .ok _ =>
    let text := pattern.toList
    let (scope, text) := match text with
      | '/' :: rest => (Path.mk "/", rest)
      | text => (Path.mk ".", text)
    match globParts text with
    | .error _ => none
    | .ok parts =>
      if pattern.toList.getLast? = some '/' then none
      else disk.searchIn (2 * (maxLinks + 1) * (disk.entries.length + parts.length + 2)) parts scope

end Minipack.Disk
