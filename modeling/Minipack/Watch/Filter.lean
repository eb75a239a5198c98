/-
Which events of the file system count as changes.

An event tells what happened to some paths.  Files that editors keep for themselves, folders, and
what lies in an ignored folder are passed over.  An ignored folder is known by the path it was given
with and by its path without links.
-/
import Minipack.Build.Changes

namespace Minipack.Watch

/-! ### Names of temporary files -/

/-- Endings of names of swap files, backups and files that are written for safety. -/
def temporaryEndings : List String :=
  ["~", ".swp", ".swo", ".swx", ".tmp", ".temp", ".bak", ".backup", "___jb_tmp___", "___jb_old___",
    ".crswap"]

/-- Whether a text stands anywhere in another. -/
def occursIn (part : List Char) : List Char → Bool
  | [] => part.isEmpty
  | c :: rest => part.isPrefixOf (c :: rest) || occursIn part rest

/-- Whether a name is one that an editor gives to a file of its own. -/
def isTemporaryName (name : String) : Bool :=
  let text := name.toList
  let begins (front : String) : Bool := front.toList.isPrefixOf text
  let ends (ending : String) : Bool := ending.toList.isSuffixOf text
  let holds (part : String) : Bool := occursIn part.toList text
  temporaryEndings.any ends || (begins "#" && ends "#") || begins ".~" || begins "___" ||
    (begins "." && (holds ".swp" || holds ".tmp"))

/-! ### Events -/

/-- What an event tells of its paths. -/
inductive Happening where
  | created
  /-- The content changed, or the paths have both names of a file that was renamed. -/
  | modified
  /-- Only times or permissions changed. -/
  | touched
  /-- The old name of a file that was renamed. -/
  | renamedFrom
  /-- The new name of a file that was renamed. -/
  | renamedTo
  | removed
  | other
deriving DecidableEq, Repr

/-- The change that an event means, if it means one. -/
def Happening.change? : Happening → Option ChangeKind
  | created => some .created
  | modified => some .modified
  | touched => none
  | renamedFrom => some .removed
  | renamedTo => some .created
  | removed => some .removed
  | other => none

/-- The folders whose files are passed over. -/
structure Filter where
  ignored : List Path := []

namespace Filter

/-- A path without links, or as it is when nothing is there. -/
def settled (disk : Disk) (path : Path) : Path :=
  (disk.canonical path).toOption.getD path

/-- Passes over a folder more. -/
def ignore (filter : Filter) (disk : Disk) (folder : Path) : Filter :=
  let folder := settled disk folder
  if filter.ignored.contains folder then filter else ⟨filter.ignored ++ [folder]⟩

/-- The filter of a build, which passes over what the build writes. -/
def of (settings : Settings) (disk : Disk) : Filter :=
  [settings.out, settings.static, settings.temp].foldl
    (fun filter folder => filter.ignore disk folder) {}

/-- Whether a path is passed over. -/
def isIgnored (filter : Filter) (disk : Disk) (path : Path) : Bool :=
  path.fileName?.any isTemporaryName ||
    filter.ignored.any fun folder =>
      (settled disk path).startsWith folder || path.startsWith folder

/-- The changes that an event means. -/
def changes (filter : Filter) (disk : Disk) (happening : Happening) (paths : List Path) :
    List Change :=
  match happening.change? with
  | none => []
  | some kind =>
    (paths.filter fun path => !filter.isIgnored disk path && !disk.isFolder path).map
      fun path => ⟨path, kind⟩

end Filter

end Minipack.Watch
