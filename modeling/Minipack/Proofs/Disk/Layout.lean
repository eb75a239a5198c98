/-
What the contents of files do not matter for.

The layout of a disk is the disk with all files empty (`Disk.layout`).  Following a path, telling
files from folders, listing names and searching for a pattern give the same on a disk and on its
layout (`Disk.find_layout`, `Disk.isFile_layout`, `Disk.names_layout`, `Disk.search_layout`), so two
disks of one layout differ only in what reading a file gives.
-/
import Minipack.Glob.Search
import Minipack.Proofs.Disk.Growth

namespace Minipack

namespace Disk

/-- The disk with all files empty. -/
def layout (disk : Disk) : Disk where
  entries := disk.entries.map fun e => (e.1, e.2.shape)
  current := disk.current

variable {disk old new : Disk}

/-! ### What stands at a place -/

theorem entryAt?_layout (disk : Disk) (place : Place) :
    disk.layout.entryAt? place = (disk.entryAt? place).map Entry.shape := by
  unfold entryAt?
  split
  · rfl
  · show (Keyed.find? Prod.fst place (disk.entries.map fun e => (e.1, e.2.shape))).map Prod.snd = _
    rw [Keyed.find?_map (f := fun e : Place × Entry => (e.1, e.2.shape)) fun _ => rfl,
      Option.map_map, Option.map_map]
    rfl

theorem hasFolderAt_layout (disk : Disk) (place : Place) :
    disk.layout.hasFolderAt place = disk.hasFolderAt place := by
  unfold hasFolderAt
  rw [entryAt?_layout]
  cases disk.entryAt? place with
  | none => rfl
  | some entry => cases entry <;> rfl

theorem namesAt_layout (disk : Disk) (place : Place) :
    disk.layout.namesAt place = disk.namesAt place := by
  unfold namesAt
  show (disk.entries.map fun e => (e.1, e.2.shape)).filterMap _ = _
  rw [List.filterMap_map]
  rfl

/-! ### Following a path -/

theorem walkWith_layout (disk : Disk) (follow : Bool)
    (jump : Place → List (List Char) → Except DiskFault Spot) (place : Place)
    (pieces : List (List Char)) :
    disk.layout.walkWith follow jump place pieces = disk.walkWith follow jump place pieces := by
  induction pieces generalizing place with
  | nil => rfl
  | cons piece rest ih =>
    rw [walkWith, walkWith, hasFolderAt_layout, ih, ih]
    dsimp only
    rw [entryAt?_layout, ih]
    cases disk.entryAt? (place ++ [String.ofList piece]) with
    | none => rfl
    | some entry => cases entry <;> rfl

theorem walk_layout (disk : Disk) (follow : Bool) (links : Nat) :
    disk.layout.walk follow links = disk.walk follow links := by
  induction links with
  | zero =>
    funext place pieces
    exact walkWith_layout disk follow _ place pieces
  | succ links ih =>
    funext place pieces
    rw [walk, walk, ih]
    exact walkWith_layout disk follow _ place pieces

theorem find_layout (disk : Disk) (follow : Bool) (path : Path) :
    disk.layout.find follow path = disk.find follow path := by
  unfold find spot
  rw [walk_layout]
  rfl

theorem entry?_layout (disk : Disk) (path : Path) :
    disk.layout.entry? path = (disk.entry? path).map Entry.shape := by
  unfold entry?
  rw [find_layout]
  cases disk.find true path with
  | error fault => rfl
  | ok place => exact entryAt?_layout disk place

/-! ### The questions of a build -/

theorem isFile_layout (disk : Disk) : disk.layout.isFile = disk.isFile := by
  funext path
  unfold isFile
  rw [entry?_layout]
  cases disk.entry? path with
  | none => rfl
  | some entry => cases entry <;> rfl

theorem isFolder_layout (disk : Disk) : disk.layout.isFolder = disk.isFolder := by
  funext path
  unfold isFolder
  rw [entry?_layout]
  cases disk.entry? path with
  | none => rfl
  | some entry => cases entry <;> rfl

theorem has_layout (disk : Disk) : disk.layout.has = disk.has := by
  funext path
  unfold has
  rw [entry?_layout, Option.isSome_map]

theorem names_layout (disk : Disk) : disk.layout.names = disk.names := by
  funext path
  unfold names
  rw [find_layout]
  cases disk.find true path with
  | error fault => rfl
  | ok place =>
    dsimp only
    rw [hasFolderAt_layout, namesAt_layout]

/-! ### Searching -/

theorem searchIn_layout (disk : Disk) (fuel : Nat) :
    disk.layout.searchIn fuel = disk.searchIn fuel ∧
      disk.layout.searchAt fuel = disk.searchAt fuel := by
  induction fuel with
  | zero =>
    constructor
    · funext parts folder
      rw [searchIn, searchIn]
    · funext part rest path
      rw [searchAt, searchAt]
  | succ fuel ih =>
    obtain ⟨hin, hat⟩ := ih
    constructor
    · funext parts folder
      cases parts with
      | nil => simp only [searchIn, onlyFile?, isFile_layout]
      | cons part rest =>
        rw [searchIn, searchIn, isFolder_layout, has_layout, names_layout, hin, hat]
    · funext part rest path
      rw [searchAt, searchAt, isFolder_layout, hin, hat]

theorem search_layout (disk : Disk) : disk.layout.search = disk.search := by
  funext pattern
  unfold search
  have hlength : disk.layout.entries.length = disk.entries.length := List.length_map _
  rw [hlength]
  simp only [(searchIn_layout disk _).1]

/-! ### Disks of one layout -/

theorem isFile_of_layout (h : new.layout = old.layout) : new.isFile = old.isFile := by
  rw [← isFile_layout new, h, isFile_layout]

theorem names_of_layout (h : new.layout = old.layout) : new.names = old.names := by
  rw [← names_layout new, h, names_layout]

theorem search_of_layout (h : new.layout = old.layout) : new.search = old.search := by
  rw [← search_layout new, h, search_layout]

end Disk

end Minipack
