/-
Disks without links.

Where there are no links, a path leads to the place to which its pieces lead (`Disk.aim`), which is
the one that its names tell when it has no `..` steps (`Disk.place_of_straight`).  Different
straight paths so lead to different places (`Disk.same_of_place`), and there are no more of them
that can be read than there are files (`Disk.length_le_files`).
-/
import Mathlib.Data.List.Perm.Subperm
import Minipack.Proofs.Disk.Walking
import Minipack.Proofs.Path.Straight

namespace Minipack

open Std

namespace Path

/-- The place to which pieces lead where there are no links. -/
def lead (start : Place) : List (List Char) → Place
  | [] => start
  | piece :: rest =>
    if isIdle piece then lead start rest
    else if piece = ['.', '.'] then lead start.dropLast rest
    else lead (start ++ [String.ofList piece]) rest

/-- Pieces without `..` steps lead from name to name. -/
theorem lead_of_forth {start : Place} {pieces : List (List Char)} (h : ['.', '.'] ∉ pieces) :
    lead start pieces = start ++ (busy pieces).map String.ofList := by
  induction pieces generalizing start with
  | nil => exact (List.append_nil start).symm
  | cons piece rest ih =>
    obtain ⟨hpiece, hrest⟩ := not_or.1 (mt List.mem_cons.2 h)
    rw [lead, busy, List.filter_cons]
    by_cases hidle : isIdle piece = true
    · rw [if_pos hidle, if_neg (by simpa using hidle), ih hrest]
      rfl
    · rw [if_neg hidle, if_neg (Ne.symm hpiece), if_pos (by simpa using hidle), ih hrest,
        List.map_cons, List.append_assoc]
      rfl

theorem lead_append (start : Place) (front pieces : List (List Char)) :
    lead start (front ++ pieces) = lead (lead start front) pieces := by
  induction front generalizing start with
  | nil => rfl
  | cons piece front ih =>
    rw [List.cons_append, lead, lead]
    split
    · exact ih start
    · split
      · exact ih start.dropLast
      · exact ih (start ++ [String.ofList piece])

end Path

namespace Disk

/-- No entry is a link. -/
def Linkless (disk : Disk) : Prop :=
  ∀ entry ∈ disk.entries, entry.2.isLink = false

instance (disk : Disk) : Decidable disk.Linkless :=
  inferInstanceAs (Decidable (∀ entry ∈ disk.entries, entry.2.isLink = false))

/-- The places of files. -/
def files (disk : Disk) : List Place :=
  disk.entries.filterMap fun entry =>
    match entry.2 with
    | .file _ => some entry.1
    | _ => none

variable {disk : Disk}

/-! ### Places -/

/-- What stands at a place other than the root is an entry. -/
theorem mem_entries_of_entryAt? {place : Place} (hne : place ≠ []) {entry : Entry}
    (h : disk.entryAt? place = some entry) : (place, entry) ∈ disk.entries := by
  rw [entryAt?, if_neg (fun he => hne (List.isEmpty_iff.1 he))] at h
  obtain ⟨⟨place', entry'⟩, hfound, rfl⟩ := Option.map_eq_some_iff.1 h
  obtain rfl : place = place' := LawfulEqOrd.compare_eq_iff_eq.1 (Keyed.compare_of_find? hfound)
  exact Keyed.mem_of_find? hfound

theorem mem_files_of_entryAt? {place : Place} {content : ByteArray}
    (h : disk.entryAt? place = some (.file content)) : place ∈ disk.files := by
  have hne : place ≠ [] := ne_nil_of_entryAt? h nofun
  exact List.mem_filterMap.2 ⟨_, mem_entries_of_entryAt? hne h, rfl⟩

theorem Linkless.entryAt? (h : disk.Linkless) {place : Place} (target : String) :
    disk.entryAt? place ≠ some (.link target) := by
  intro hlink
  have hne : place ≠ [] := ne_nil_of_entryAt? hlink nofun
  exact Bool.noConfusion (h _ (mem_entries_of_entryAt? hne hlink))

/-! ### Walks -/

/-- Without links a walk follows its pieces. -/
theorem place_of_walkWith (h : disk.Linkless) {follow : Bool}
    {jump : Place → List (List Char) → Except DiskFault Spot} {pieces : List (List Char)}
    {start place : Place} (hw : disk.walkWith follow jump start pieces = .ok (.taken place)) :
    place = Path.lead start pieces := by
  rw [endsAt_iff] at hw
  induction hw with
  | here hspot => exact Spot.taken.inj hspot
  | idle _ hidle _ ih => rw [Path.lead, if_pos hidle, ih]
  | up _ _ ih => rw [Path.lead, if_neg (by decide), if_pos rfl, ih]
  | free _ _ _ _ hspot => cases hspot
  | stay _ _ hlink _ _ _ => exact absurd hlink (h.entryAt? _)
  | link _ _ hlink _ _ => exact absurd hlink (h.entryAt? _)
  | name _ hentry _ _ _ ih =>
    rw [Path.lead, if_neg (Bool.eq_false_iff.1 hentry.busy), if_neg hentry.forth, ih]

/-- It does not matter whether the last link would be followed, or where a link would lead. -/
theorem walkWith_congr (h : disk.Linkless) {follow follow' : Bool}
    {jump jump' : Place → List (List Char) → Except DiskFault Spot} (start : Place)
    (pieces : List (List Char)) :
    disk.walkWith follow jump start pieces = disk.walkWith follow' jump' start pieces := by
  induction pieces generalizing start with
  | nil => rfl
  | cons piece rest ih =>
    rw [walkWith, walkWith, ih start, ih start.dropLast]
    dsimp only
    cases hentry : disk.entryAt? (start ++ [String.ofList piece]) with
    | none => rfl
    | some entry =>
      cases entry with
      | link target => exact absurd hentry (h.entryAt? target)
      | folder => rw [ih (start ++ [String.ofList piece])]
      | file content => rw [ih (start ++ [String.ofList piece])]

theorem find_congr (h : disk.Linkless) (follow follow' : Bool) (path : Path) :
    disk.find follow path = disk.find follow' path := by
  have hwalk (start : Place) (pieces : List (List Char)) :
      disk.walk follow maxLinks start pieces = disk.walk follow' maxLinks start pieces := by
    rw [maxLinks, walk, walk]
    exact walkWith_congr h start pieces
  have hspot : disk.spot follow path = disk.spot follow' path := by
    unfold spot
    dsimp only
    rw [hwalk]
  rw [find, find, hspot]

/-- The place to which a path leads where there are no links. -/
def aim (disk : Disk) (path : Path) : Place :=
  Path.lead (startOf disk.current path.text.toList) (Path.pieces path.text.toList)

theorem place_of_find (h : disk.Linkless) {follow : Bool} {path : Path} {place : Place}
    (hfind : disk.find follow path = .ok place) : place = disk.aim path := by
  obtain ⟨-, -, -, hwalk⟩ := spot_eq_ok_iff.1 (find_eq_ok_iff.1 hfind)
  rw [maxLinks, walk] at hwalk
  exact place_of_walkWith h hwalk

/-- A straight path leads to the place that its names tell. -/
theorem aim_of_straight (disk : Disk) {path : Path} (hp : path.Straight) :
    disk.aim path = (Path.busy (Path.pieces path.text.toList)).map String.ofList := by
  obtain ⟨habsolute, hpieces⟩ := Path.straight_iff_pieces.1 hp
  obtain ⟨rest, hrest⟩ := Path.isAbsolute_iff.1 habsolute
  have hstart : startOf disk.current path.text.toList = [] := by
    rw [startOf, hrest]
    rfl
  rw [aim, hstart, Path.lead_of_forth hpieces, List.nil_append]

theorem place_of_straight (h : disk.Linkless) {path : Path} (hp : path.Straight) {place : Place}
    (hfind : disk.find true path = .ok place) :
    place = (Path.busy (Path.pieces path.text.toList)).map String.ofList :=
  (place_of_find h hfind).trans (disk.aim_of_straight hp)

/-- Straight paths that lead to one place are spellings of one path. -/
theorem same_of_place (h : disk.Linkless) {p q : Path} (hp : p.Straight) (hq : q.Straight)
    {place : Place} (hfind : disk.find true p = .ok place) (hfind' : disk.find true q = .ok place) :
    p.Same q := by
  have hplaces := (place_of_straight h hp hfind).symm.trans (place_of_straight h hq hfind')
  have hbusy : Path.busy (Path.pieces p.text.toList) = Path.busy (Path.pieces q.text.toList) :=
    (List.map_inj_right fun _ _ => String.ofList_injective).1 hplaces
  refine Path.same_iff.2 ⟨?_, ?_⟩
  · rw [Path.front_of_isAbsolute hp.1, Path.front_of_isAbsolute hq.1]
  · exact congrArg (List.map Path.componentOf) hbusy

/-- Different straight paths that can be read are no more than the files. -/
theorem length_le_files (h : disk.Linkless) {paths : List Path}
    (hstraight : ∀ p ∈ paths, p.Straight) (hfile : ∀ p ∈ paths, disk.isFile p = true)
    (hdistinct : paths.Pairwise fun p q => ¬ p.Same q) : paths.length ≤ disk.files.length := by
  have hplace : ∀ p ∈ paths, ∃ place ∈ disk.files, disk.find true p = .ok place := by
    intro p hp
    obtain ⟨content, hread⟩ := isFile_iff_read.1 (hfile p hp)
    obtain ⟨place, hfind, hentry⟩ := read_eq_ok_iff.1 hread
    exact ⟨place, mem_files_of_entryAt? hentry, hfind⟩
  have hnodup : (paths.map fun p => (disk.find true p).toOption).Nodup := by
    refine List.pairwise_map.2 (hdistinct.imp_of_mem fun hp hq hne heq => hne ?_)
    obtain ⟨place, -, hfind⟩ := hplace _ hp
    obtain ⟨place', -, hfind'⟩ := hplace _ hq
    rw [hfind, hfind'] at heq
    obtain rfl : place = place' := Option.some.inj heq
    exact same_of_place h (hstraight _ hp) (hstraight _ hq) hfind hfind'
  have hsubset : (paths.map fun p => (disk.find true p).toOption) ⊆ disk.files.map some := by
    intro found hf
    obtain ⟨p, hp, rfl⟩ := List.mem_map.1 hf
    obtain ⟨place, hmem, hfind⟩ := hplace p hp
    rw [hfind]
    exact List.mem_map.2 ⟨place, hmem, rfl⟩
  have hle := (List.subperm_of_subset hnodup hsubset).length_le
  rwa [List.length_map, List.length_map] at hle

end Disk

end Minipack
