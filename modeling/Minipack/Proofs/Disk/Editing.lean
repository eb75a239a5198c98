/-
Writing over a file.

A write over a file puts another content in its place (`Disk.write_of_isFile`), which leaves the
layout of the disk (`Disk.layout_set`) and what stands elsewhere.  Where there are no links, a path
to a name of a folder leads to a place of that name, whatever the folder
(`Disk.getLast?_of_find_child`).  So an edit of a file that does not describe a package leaves all
such descriptions (`Resolve.alike_of_write`).
-/
import Minipack.Proofs.Disk.Linkless
import Minipack.Proofs.Resolve.Layout

namespace Minipack

/-- Putting a thing in place of another changes nothing in which the two agree. -/
theorem Keyed.map_insert {α β κ : Type} [Ord κ] {key : α → κ} {f : α → β} {a b : α} {l : List α}
    (hfind : find? key (key a) l = some b) (hf : f a = f b) : (insert key a l).map f = l.map f := by
  induction l with
  | nil => cases hfind
  | cons c rest ih =>
    rw [find?] at hfind
    rw [insert]
    split at hfind
    · cases hfind
    · obtain rfl := Option.some.inj hfind
      rw [List.map_cons, List.map_cons, hf]
    · rw [List.map_cons, List.map_cons, ih hfind]

namespace Disk

variable {disk old new : Disk} {folder path : Path} {place : Place} {name : String}

/-! ### Places of names -/

/-- Without links a walk whose last step is a name ends at that name. -/
theorem getLast?_of_walkWith (h : disk.Linkless) {follow : Bool}
    {jump : Place → List (List Char) → Except DiskFault Spot} {init : List (List Char)}
    {last : List Char} (hidle : Path.isIdle last = false) (hparent : last ≠ ['.', '.'])
    {start : Place} (hw : disk.walkWith follow jump start (init ++ [last]) = .ok (.taken place)) :
    place.getLast? = some (String.ofList last) := by
  rw [place_of_walkWith h hw, Path.lead_append, Path.lead, hidle, if_neg Bool.false_ne_true,
    if_neg hparent, Path.lead, List.getLast?_concat]

/-- The last piece of a path to a name of a folder is the name. -/
theorem exists_pieces_child (folder : Path) (hslash : '/' ∉ name.toList) :
    ∃ init, Path.pieces (folder.child name).text.toList = init ++ [name.toList] := by
  have hhead : name.toList.head? ≠ some '/' := fun h => hslash (List.mem_of_head? h)
  rw [Path.child, Path.join, String.toList_ofList, Path.joinText_of_relative hhead]
  split
  · next hend =>
    rcases hend with hempty | hlast
    · rw [hempty, List.nil_append, Path.pieces_of_not_mem hslash]
      exact ⟨[], rfl⟩
    · obtain ⟨init, hinit⟩ := List.getLast?_eq_some_iff.1 hlast
      rw [hinit, List.append_assoc, List.singleton_append, Path.pieces_append,
        Path.pieces_of_not_mem hslash]
      exact ⟨_, rfl⟩
  · rw [Path.pieces_append, Path.pieces_of_not_mem hslash]
    exact ⟨_, rfl⟩

/-- Without links a path to a name of a folder leads to a place of that name. -/
theorem getLast?_of_find_child (h : disk.Linkless) (hname : Component.IsName (.name name))
    (hfind : disk.find true (folder.child name) = .ok place) : place.getLast? = some name := by
  obtain ⟨hslash, hempty, hdot, hdots⟩ := Component.isName_name.1 hname
  obtain ⟨-, -, -, hwalk⟩ := spot_eq_ok_iff.1 (find_eq_ok_iff.1 hfind)
  obtain ⟨init, hinit⟩ := exists_pieces_child folder hslash
  rw [hinit, maxLinks, walk] at hwalk
  have hidle : Path.isIdle name.toList = false := by
    rw [Path.isIdle, Bool.or_eq_false_iff, List.isEmpty_eq_false_iff, beq_eq_false_iff_ne]
    exact ⟨hempty, hdot⟩
  rw [getLast?_of_walkWith h hidle hdots hwalk, String.ofList_toList]

/-! ### Writing over a file -/

/-- Another content of a file does not matter for the layout. -/
theorem layout_set {before content : ByteArray} (h : disk.entryAt? place = some (.file before)) :
    (disk.set place (.file content)).layout = disk.layout := by
  have hne : place ≠ [] := ne_nil_of_entryAt? h nofun
  rw [entryAt?, if_neg fun he => hne (List.isEmpty_iff.1 he)] at h
  obtain ⟨⟨place', entry⟩, hfound, rfl⟩ := Option.map_eq_some_iff.1 h
  obtain rfl : place = place' :=
    Std.LawfulEqOrd.compare_eq_iff_eq.1 (Keyed.compare_of_find? hfound)
  have hmap : (Keyed.insert Prod.fst (place, .file content) disk.entries).map
      (fun e => (e.1, e.2.shape)) = disk.entries.map fun e => (e.1, e.2.shape) :=
    Keyed.map_insert (a := (place, .file content)) hfound rfl
  unfold layout set
  rw [hmap]

/-- On two disks of one layout a path is read alike when there is no difference where it leads. -/
theorem read_of_layout (h : new.layout = old.layout)
    (hentry : ∀ place, old.find true path = .ok place → new.entryAt? place = old.entryAt? place) :
    new.read path = old.read path := by
  have hfind : new.find true path = old.find true path := by
    rw [← find_layout new, h, find_layout]
  unfold read
  rw [hfind]
  cases hplace : old.find true path with
  | error fault => rfl
  | ok place =>
    dsimp only
    rw [hentry place hplace]

/-- Writing over a file changes what is read only where that leads to the file. -/
theorem read_of_write (h : disk.isFile path = true) (content : ByteArray) {other : Path}
    (hne : ∀ place, disk.find true other = .ok place → disk.find true path ≠ .ok place) :
    (disk.write path content).1.read other = disk.read other := by
  obtain ⟨place, before, hfind, hentry, hwrite⟩ := write_of_isFile h content
  rw [hwrite]
  refine read_of_layout (layout_set hentry) fun found hfound => entryAt?_set_of_ne ?_ _
  rintro rfl
  exact hne found hfound hfind

end Disk

/-- An edit of a file that does not describe a package leaves a disk without links alike. -/
theorem Resolve.alike_of_write {disk : Disk} (hlinks : disk.Linkless) {folder : Path}
    {name : String} (hname : Component.IsName (.name name)) (hne : name ≠ "package.json")
    (hfile : disk.isFile (folder.child name) = true) (content : ByteArray) :
    Alike disk (disk.write (folder.child name) content).1 := by
  obtain ⟨place, before, hfind, hentry, hwrite⟩ := Disk.write_of_isFile hfile content
  rw [hwrite]
  have hlayout : (disk.set place (.file content)).layout = disk.layout := Disk.layout_set hentry
  refine ⟨hlayout, fun other => Disk.read_of_layout hlayout fun found hfound => ?_⟩
  refine Disk.entryAt?_set_of_ne (fun heq => hne ?_) _
  have hlast := Disk.getLast?_of_find_child hlinks hname hfind
  rw [← heq, Disk.getLast?_of_find_child hlinks (by decide) hfound] at hlast
  exact (Option.some.inj hlast).symm

end Minipack
