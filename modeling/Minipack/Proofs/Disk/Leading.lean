/-
Walks that lead somewhere.

A walk that ends at something takes one step for each piece: it stays, goes up, goes on to what has
the name, or goes on behind a link (`Disk.Leads`).  So facts about such walks are shown step by
step: a walk leads somewhere with more links to spare (`Disk.Leads.mono`), passes the end of every
front of its pieces (`Disk.Leads.split`), and may take idle pieces on its way (`Disk.Leads.fill`).

Where a walk from the root ends, all places above are folders (`Disk.Leads.rooted`).  So the path of
such a place leads there without links (`Disk.find_pathOf`), and from a folder with links followed a
walk goes on as it did behind the links (`Disk.find_child_pathOf`).  As a step up ends at a folder,
an absolute path that leads to a file ends in a name (`Disk.exists_fileName_of_isFile`).
-/
import Minipack.Proofs.Disk.Folders
import Minipack.Proofs.Disk.Linkless
import Minipack.Proofs.Disk.Named
import Minipack.Proofs.Disk.Spelling

namespace Minipack.Disk

variable {disk : Disk} {n m : Nat} {start place there : Place} {piece : List Char}
  {pieces rest : List (List Char)}

/-- The walk over pieces from a place, with so many links to follow, ends at something. -/
inductive Leads (disk : Disk) : Nat → Place → List (List Char) → Place → Prop
  | here {n : Nat} {place : Place} : Leads disk n place [] place
  | idle {n : Nat} {start place : Place} {piece : List Char} {rest : List (List Char)} :
      disk.hasFolderAt start = true → Path.isIdle piece = true →
      Leads disk n start rest place → Leads disk n start (piece :: rest) place
  | up {n : Nat} {start place : Place} {rest : List (List Char)} :
      disk.hasFolderAt start = true →
      Leads disk n start.dropLast rest place → Leads disk n start (['.', '.'] :: rest) place
  | name {n : Nat} {start place : Place} {piece : List Char} {rest : List (List Char)}
      {entry : Entry} :
      disk.hasFolderAt start = true → IsEntry piece →
      disk.entryAt? (start ++ [String.ofList piece]) = some entry → entry.isLink = false →
      Leads disk n (start ++ [String.ofList piece]) rest place →
      Leads disk n start (piece :: rest) place
  | link {n : Nat} {start place : Place} {piece : List Char} {rest : List (List Char)}
      {target : String} :
      disk.hasFolderAt start = true → IsEntry piece →
      disk.entryAt? (start ++ [String.ofList piece]) = some (.link target) →
      Leads disk n (startOf start target.toList) (Path.pieces target.toList ++ rest) place →
      Leads disk (n + 1) start (piece :: rest) place

/-! ### Walks -/

theorem leads_of_walkWith {jump : Place → List (List Char) → Except DiskFault Spot}
    (hjump : ∀ start pieces, jump start pieces = .ok (.taken place) →
      ∃ m, n = m + 1 ∧ Leads disk m start pieces place)
    (h : disk.walkWith true jump start pieces = .ok (.taken place)) :
    Leads disk n start pieces place := by
  rw [endsAt_iff] at h
  induction h with
  | here hspot =>
    obtain rfl := Spot.taken.inj hspot
    exact .here
  | idle hfolder hidle _ ih => exact .idle hfolder hidle ih
  | up hfolder _ ih => exact .up hfolder ih
  | free _ _ _ _ hspot => cases hspot
  | stay _ _ _ _ hfollow => cases hfollow
  | link hfolder hentry hlink _ hj =>
    obtain ⟨m, rfl, hleads⟩ := hjump _ _ hj
    exact .link hfolder hentry hlink hleads
  | name hfolder hentry hstands hlink _ ih => exact .name hfolder hentry hstands hlink ih

/-- How a walk goes on behind a link while so many links may be followed. -/
def jump (disk : Disk) : Nat → Place → List (List Char) → Except DiskFault Spot
  | 0 => fun _ _ => .error .tooManyLinks
  | n + 1 => disk.walk true n

theorem walk_eq (disk : Disk) (n : Nat) : disk.walk true n = disk.walkWith true (disk.jump n) := by
  cases n <;> rfl

/-- A walk ends at something when its steps lead there. -/
theorem leads_iff : disk.walk true n start pieces = .ok (.taken place) ↔
    Leads disk n start pieces place := by
  constructor
  · intro h
    induction n generalizing start pieces with
    | zero =>
      rw [walk_eq] at h
      refine leads_of_walkWith (fun start pieces hj => ?_) h
      cases hj
    | succ n ih =>
      rw [walk_eq] at h
      exact leads_of_walkWith (fun _ _ hj => ⟨n, rfl, ih hj⟩) h
  · intro h
    rw [walk_eq, endsAt_iff]
    induction h with
    | here => exact .here rfl
    | idle hfolder hidle _ ih => exact .idle hfolder hidle ih
    | up hfolder _ ih => exact .up hfolder ih
    | name hfolder hentry hstands hlink _ ih => exact .name hfolder hentry hstands hlink ih
    | @link n start place piece rest target hfolder hentry hstands _ ih =>
      have hbehind : disk.walk true n (startOf start target.toList)
          (Path.pieces target.toList ++ rest) = .ok (.taken place) := by
        rw [walk_eq, endsAt_iff]
        exact ih
      exact .link hfolder hentry hstands (Bool.and_false _) hbehind

namespace Leads

theorem mono (h : Leads disk n start pieces place) (hm : n ≤ m) :
    Leads disk m start pieces place := by
  induction h generalizing m with
  | here => exact .here
  | idle hfolder hidle _ ih => exact .idle hfolder hidle (ih hm)
  | up hfolder _ ih => exact .up hfolder (ih hm)
  | name hfolder hentry hstands hlink _ ih => exact .name hfolder hentry hstands hlink (ih hm)
  | link hfolder hentry hstands _ ih =>
    obtain ⟨k, rfl⟩ := Nat.exists_eq_add_of_le' hm
    exact .link hfolder hentry hstands (ih (Nat.le_add_left _ _))

/-- A walk passes the end of every front of its pieces. -/
theorem split (h : Leads disk n start pieces place) {front : List (List Char)}
    (hpieces : pieces = front ++ rest) :
    ∃ there m, m ≤ n ∧ Leads disk n start front there ∧ Leads disk m there rest place := by
  -- at each step the front is used up, or it begins with the piece of the step
  induction h generalizing front with
  | @here n place =>
    obtain ⟨rfl, rfl⟩ := List.append_eq_nil_iff.1 hpieces.symm
    exact ⟨place, n, Nat.le_refl n, .here, .here⟩
  | @idle n start place piece after hfolder hidle hleads ih =>
    cases front with
    | nil =>
      obtain rfl : piece :: after = rest := hpieces
      exact ⟨start, n, Nat.le_refl n, .here, .idle hfolder hidle hleads⟩
    | cons first front =>
      obtain ⟨rfl, rfl⟩ := List.cons.inj hpieces
      obtain ⟨there, m, hm, hfront, hrest⟩ := ih rfl
      exact ⟨there, m, hm, .idle hfolder hidle hfront, hrest⟩
  | @up n start place after hfolder hleads ih =>
    cases front with
    | nil =>
      obtain rfl : ['.', '.'] :: after = rest := hpieces
      exact ⟨start, n, Nat.le_refl n, .here, .up hfolder hleads⟩
    | cons first front =>
      obtain ⟨rfl, rfl⟩ := List.cons.inj hpieces
      obtain ⟨there, m, hm, hfront, hrest⟩ := ih rfl
      exact ⟨there, m, hm, .up hfolder hfront, hrest⟩
  | @name n start place piece after entry hfolder hentry hstands hlink hleads ih =>
    cases front with
    | nil =>
      obtain rfl : piece :: after = rest := hpieces
      exact ⟨start, n, Nat.le_refl n, .here, .name hfolder hentry hstands hlink hleads⟩
    | cons first front =>
      obtain ⟨rfl, rfl⟩ := List.cons.inj hpieces
      obtain ⟨there, m, hm, hfront, hrest⟩ := ih rfl
      exact ⟨there, m, hm, .name hfolder hentry hstands hlink hfront, hrest⟩
  | @link n start place piece after target hfolder hentry hstands hleads ih =>
    cases front with
    | nil =>
      obtain rfl : piece :: after = rest := hpieces
      exact ⟨start, n + 1, Nat.le_refl _, .here, .link hfolder hentry hstands hleads⟩
    | cons first front =>
      obtain ⟨rfl, rfl⟩ := List.cons.inj hpieces
      obtain ⟨there, m, hm, hfront, hrest⟩ := ih (List.append_assoc _ _ _).symm
      exact ⟨there, m, Nat.le_succ_of_le hm, .link hfolder hentry hstands hfront, hrest⟩

/-- A walk that goes on has come to a folder. -/
theorem folder (h : Leads disk n start pieces place) (hne : pieces ≠ []) :
    disk.hasFolderAt start = true := by
  cases h with
  | here => exact absurd rfl hne
  | idle hfolder => exact hfolder
  | up hfolder => exact hfolder
  | name hfolder => exact hfolder
  | link hfolder => exact hfolder

/-! ### Idle pieces -/

/-- Without its idle pieces a walk leads to the same place. -/
theorem busy (h : Leads disk n start pieces place) : Leads disk n start (Path.busy pieces) place :=
  leads_iff.1 (walk_of_thinner (thinner_busy pieces) (leads_iff.2 h))

/-- At a folder idle pieces may be put in front. -/
theorem idles {idle : List (List Char)} (hidle : ∀ piece ∈ idle, Path.isIdle piece = true)
    (hfolder : disk.hasFolderAt start = true) (h : Leads disk n start pieces place) :
    Leads disk n start (idle ++ pieces) place := by
  induction idle with
  | nil => exact h
  | cons piece idle ih =>
    exact .idle hfolder (hidle piece List.mem_cons_self)
      (ih fun piece hpiece => hidle piece (List.mem_cons_of_mem _ hpiece))

end Leads

/-- The one list of pieces has idle pieces more than the other, though none behind its last piece.
-/
inductive Fills : List (List Char) → List (List Char) → Prop
  | refl (pieces : List (List Char)) : Fills pieces pieces
  | keep {piece : List Char} {thin full : List (List Char)} :
      Fills thin full → Fills (piece :: thin) (piece :: full)
  | idle {piece : List Char} {thin full : List (List Char)} :
      Path.isIdle piece = true → thin ≠ [] → Fills thin full → Fills thin (piece :: full)

namespace Fills

variable {thin full : List (List Char)}

theorem append (h : Fills thin full) (front : List (List Char)) :
    Fills (front ++ thin) (front ++ full) := by
  induction front with
  | nil => exact h
  | cons piece front ih => exact .keep ih

theorem eq_nil (h : Fills [] full) : full = [] := by
  cases h with
  | refl => rfl
  | idle _ hne => exact absurd rfl hne

/-- The first piece stands behind idle ones. -/
theorem exists_cons (h : Fills (piece :: rest) full) :
    ∃ idle after, full = idle ++ piece :: after ∧ (∀ piece ∈ idle, Path.isIdle piece = true) ∧
      Fills rest after := by
  generalize hthin : piece :: rest = thin at h
  induction h with
  | refl =>
    subst hthin
    exact ⟨[], rest, rfl, nofun, .refl rest⟩
  | keep h =>
    obtain ⟨rfl, rfl⟩ := List.cons.inj hthin
    exact ⟨[], _, rfl, nofun, h⟩
  | @idle first thin full hidle _ _ ih =>
    obtain ⟨idle, after, rfl, hall, hafter⟩ := ih hthin
    refine ⟨first :: idle, after, rfl, fun piece hpiece => ?_, hafter⟩
    rcases List.mem_cons.1 hpiece with rfl | hpiece
    · exact hidle
    · exact hall piece hpiece

/-- Pieces whose last one leaves a component fill up what is left without the idle ones. -/
theorem of_busy {pieces : List (List Char)}
    (hlast : ∀ last ∈ pieces.getLast?, Path.isIdle last = false) :
    Fills (Path.busy pieces) pieces := by
  induction pieces with
  | nil => exact .refl []
  | cons piece rest ih =>
    cases rest with
    | nil =>
      have hbusy : Path.isIdle piece = false := hlast piece rfl
      rw [Path.busy, List.filter_cons_of_pos (by rw [hbusy, Bool.not_false]), List.filter_nil]
      exact .refl _
    | cons next rest =>
      have hfills := ih fun last hl => hlast last (by rwa [List.getLast?_cons_cons])
      rw [Path.busy, List.filter_cons]
      split
      · exact .keep hfills
      · next hidle =>
        refine .idle (by simpa using hidle) (fun hnone => ?_) hfills
        -- the last piece is not idle
        have hmem := List.getLast_mem (List.cons_ne_nil next rest)
        have hbusy := hlast _ (by
          rw [List.getLast?_cons_cons]
          exact List.getLast?_eq_some_getLast (List.cons_ne_nil next rest))
        have hfilter := List.filter_eq_nil_iff.1 hnone _ hmem
        rw [hbusy, Bool.not_false] at hfilter
        exact hfilter rfl

end Fills

/-- A walk may take idle pieces on its way. -/
theorem Leads.fill {thin full : List (List Char)} (h : Leads disk n start thin place)
    (hfills : Fills thin full) : Leads disk n start full place := by
  induction h generalizing full with
  | here =>
    rw [hfills.eq_nil]
    exact .here
  | idle hfolder hidle _ ih =>
    obtain ⟨idle, after, rfl, hall, hafter⟩ := hfills.exists_cons
    exact .idles hall hfolder (.idle hfolder hidle (ih hafter))
  | up hfolder _ ih =>
    obtain ⟨idle, after, rfl, hall, hafter⟩ := hfills.exists_cons
    exact .idles hall hfolder (.up hfolder (ih hafter))
  | name hfolder hentry hstands hlink _ ih =>
    obtain ⟨idle, after, rfl, hall, hafter⟩ := hfills.exists_cons
    exact .idles hall hfolder (.name hfolder hentry hstands hlink (ih hafter))
  | link hfolder hentry hstands _ ih =>
    obtain ⟨idle, after, rfl, hall, hafter⟩ := hfills.exists_cons
    exact .idles hall hfolder (.link hfolder hentry hstands (ih (hafter.append _)))

/-! ### Places that are led to -/

/-- All places above are folders, and the steps from each to the next name entries. -/
def Rooted (disk : Disk) (place : Place) : Prop :=
  ∀ init name more, place = init ++ name :: more →
    disk.hasFolderAt init = true ∧ IsEntry name.toList

theorem rooted_nil (disk : Disk) : disk.Rooted [] :=
  fun _ _ _ h => absurd h.symm (List.append_ne_nil_of_right_ne_nil _ (List.cons_ne_nil _ _))

theorem Rooted.of_append {init more : Place} (h : disk.Rooted (init ++ more)) : disk.Rooted init :=
  fun before name after heq => h before name (after ++ more) (by
    rw [heq, List.append_assoc, List.cons_append])

theorem Rooted.concat {name : String} (h : disk.Rooted start)
    (hfolder : disk.hasFolderAt start = true) (hentry : IsEntry name.toList) :
    disk.Rooted (start ++ [name]) := by
  intro init other more heq
  rcases List.eq_nil_or_concat more with rfl | ⟨more, last, rfl⟩
  · obtain ⟨rfl, hlast⟩ := List.append_inj' heq rfl
    obtain rfl := (List.cons.inj hlast).1
    exact ⟨hfolder, hentry⟩
  · rw [List.concat_eq_append, ← List.cons_append, ← List.append_assoc] at heq
    exact h init other more (List.append_inj' heq rfl).1

/-- A walk from such a place ends at one. -/
theorem Leads.rooted (h : Leads disk n start pieces place) (hstart : disk.Rooted start) :
    disk.Rooted place := by
  induction h with
  | here => exact hstart
  | idle _ _ _ ih => exact ih hstart
  | @up n start place rest _ _ ih =>
    refine ih ?_
    rcases List.eq_nil_or_concat start with rfl | ⟨init, last, rfl⟩
    · exact hstart
    · rw [List.concat_eq_append] at hstart ⊢
      rw [List.dropLast_concat]
      exact hstart.of_append
  | name hfolder hentry _ _ _ ih =>
    exact ih (hstart.concat hfolder (by rwa [String.toList_ofList]))
  | link _ _ _ _ ih =>
    refine ih ?_
    unfold startOf
    split
    · exact disk.rooted_nil
    · exact hstart

/-- From a place above, the names lead down to such a place, and a walk goes on from there. -/
theorem Rooted.leads {init names : Place} (h : disk.Rooted (init ++ names)) {entry : Entry}
    (hentry : disk.entryAt? (init ++ names) = some entry) (hlink : entry.isLink = false)
    (hrest : Leads disk n (init ++ names) rest place) :
    Leads disk n init (names.map String.toList ++ rest) place := by
  induction names generalizing init with
  | nil =>
    rw [List.append_nil] at hrest
    exact hrest
  | cons name names ih =>
    obtain ⟨hfolder, hname⟩ := h init name names rfl
    have hassoc : init ++ name :: names = init ++ [name] ++ names :=
      (List.append_cons init name names)
    rw [hassoc] at h hentry hrest
    have hstands : ∃ entry, disk.entryAt? (init ++ [name]) = some entry ∧
        entry.isLink = false := by
      cases names with
      | nil =>
        rw [List.append_nil] at hentry
        exact ⟨entry, hentry, hlink⟩
      | cons next names =>
        exact ⟨.folder, hasFolderAt_iff.1 (h (init ++ [name]) next names rfl).1, rfl⟩
    obtain ⟨between, hbetween, hnotLink⟩ := hstands
    refine .name hfolder hname ?_ hnotLink ?_
    · rw [String.ofList_toList]
      exact hbetween
    · rw [String.ofList_toList]
      exact ih h hentry hrest

/-! ### Paths of places -/

/-- The system takes the text of a path. -/
def Openable (p : Path) : Prop :=
  p.text.toList.contains '\x00' = false ∧ size p.text.toList ≤ maxPathSize

instance (p : Path) : Decidable (Openable p) :=
  inferInstanceAs (Decidable (_ ∧ _))

variable {p : Path}

/-- What an absolute path leads to is found. -/
theorem find_of_leads (habsolute : p.isAbsolute = true) (hopen : Openable p) (hn : n ≤ maxLinks)
    (h : Leads disk n [] (Path.pieces p.text.toList) place) : disk.find true p = .ok place := by
  obtain ⟨more, htext⟩ := Path.isAbsolute_iff.1 habsolute
  refine find_eq_ok_iff.2 (spot_eq_ok_iff.2 ⟨?_, hopen.1, hopen.2, ?_⟩)
  · rw [htext]
    exact List.cons_ne_nil _ _
  · rw [startOf, if_pos (by rw [htext]; rfl)]
    exact leads_iff.2 (h.mono hn)

/-- The walk of an absolute path that is found. -/
theorem leads_of_find (habsolute : p.isAbsolute = true) (h : disk.find true p = .ok place) :
    Leads disk maxLinks [] (Path.pieces p.text.toList) place := by
  obtain ⟨more, htext⟩ := Path.isAbsolute_iff.1 habsolute
  obtain ⟨-, -, -, hwalk⟩ := spot_eq_ok_iff.1 (find_eq_ok_iff.1 h)
  rw [startOf, if_pos (by rw [htext]; rfl)] at hwalk
  exact leads_iff.1 hwalk

/-- Above such a place there is a folder. -/
theorem Rooted.hasFolderAt_dropLast (h : disk.Rooted place) :
    disk.hasFolderAt place.dropLast = true := by
  rcases List.eq_nil_or_concat place with rfl | ⟨init, name, rfl⟩
  · rfl
  · rw [List.concat_eq_append] at h ⊢
    rw [List.dropLast_concat]
    exact (h init name [] rfl).1

/-- A step up from a place leads above it. -/
theorem Leads.eq_dropLast (h : Leads disk n start [['.', '.']] place) : place = start.dropLast := by
  cases h with
  | idle _ hidle => cases hidle
  | up _ h =>
    cases h
    rfl
  | name _ hentry => exact absurd rfl hentry.forth
  | link _ hentry => exact absurd rfl hentry.forth

/-- The last step of an absolute path to a file is a name: a walk that stays or goes up comes to a
folder. -/
theorem exists_fileName_of_isFile (habsolute : p.isAbsolute = true)
    (hfile : disk.isFile p = true) : ∃ name, p.fileName? = some name := by
  obtain ⟨content, hread⟩ := isFile_iff_read.1 hfile
  obtain ⟨place, hfind, hentry⟩ := read_eq_ok_iff.1 hread
  have hfolder : disk.hasFolderAt place ≠ true := by
    intro hfolder
    rw [hasFolderAt_iff, hentry] at hfolder
    cases hfolder
  have hleads := (leads_of_find habsolute hfind).busy
  have hbody : p.body = (Path.busy (Path.pieces p.text.toList)).map Path.componentOf := rfl
  rcases List.eq_nil_or_concat (Path.busy (Path.pieces p.text.toList)) with
    hnil | ⟨front, last, hlast⟩
  · rw [hnil] at hleads
    cases hleads
    exact absurd rfl hfolder
  · rw [List.concat_eq_append] at hlast
    obtain ⟨there, m, -, hthere, hrest⟩ := hleads.split hlast
    by_cases hparent : last = ['.', '.']
    · obtain rfl := (hparent ▸ hrest).eq_dropLast
      exact absurd (hthere.rooted disk.rooted_nil).hasFolderAt_dropLast hfolder
    · have hcomponents : p.components =
          .root :: front.map Path.componentOf ++ [.name (String.ofList last)] := by
        rw [Path.components_of_isAbsolute habsolute, hbody, hlast, List.map_append,
          List.map_singleton, Path.componentOf, if_neg hparent, List.cons_append]
      exact ⟨_, Path.fileName?_of_components hcomponents⟩

/-- The folder of an absolute path that leads somewhere is no file, in any spelling. -/
theorem not_isFile_of_folder {folder : Path} (habsolute : folder.isAbsolute = true) {name : String}
    (hcomponents : p.components = folder.components ++ [.name name])
    (h : disk.find true p = .ok place) : disk.isFile folder ≠ true := by
  intro hfile
  obtain ⟨parent, hparent, hsame⟩ := Path.parent?_spec hcomponents
  have htext : parent.text.toList ≠ [] := by
    rw [Path.components_of_isAbsolute habsolute] at hsame
    obtain ⟨more, hmore⟩ := Path.isAbsolute_iff.1 (Path.isAbsolute_of_components hsame)
    rw [hmore]
    exact List.cons_ne_nil _ _
  obtain ⟨there, hthere, hfolder⟩ := folder_of_parent? true h hparent htext
  obtain ⟨content, hread⟩ := isFile_iff_read.1 hfile
  obtain ⟨found, hfound, hentry⟩ := read_eq_ok_iff.1 hread
  obtain rfl := place_eq_of_same hsame hthere hfound
  rw [hasFolderAt_iff.1 (hfolder rfl)] at hentry
  cases hentry

theorem toList_pathOf (place : Place) :
    (pathOf place).text.toList = '/' :: ['/'].intercalate (place.map String.toList) := by
  rw [pathOf, String.toList_append, String.toList_intercalate]
  rfl

theorem isAbsolute_pathOf (place : Place) : (pathOf place).isAbsolute = true :=
  Path.isAbsolute_iff.2 ⟨_, toList_pathOf place⟩

/-- The pieces of the path of a place are its names. -/
theorem pieces_pathOf (hnamed : place.Named) (hne : place ≠ []) :
    Path.pieces (pathOf place).text.toList = [] :: place.map String.toList := by
  rw [toList_pathOf, Path.pieces_slash, Path.pieces, List.splitOn_intercalate]
  · intro name hname
    obtain ⟨text, htext, rfl⟩ := List.mem_map.1 hname
    exact (Component.isName_name.1 (hnamed text htext)).1
  · simpa using hne

/-- The path of such a place leads there, as nothing on its way is a link. -/
theorem find_pathOf (hrooted : disk.Rooted place) (hnamed : place.Named)
    (hopen : Openable (pathOf place)) {entry : Entry} (hentry : disk.entryAt? place = some entry)
    (hlink : entry.isLink = false) : disk.find true (pathOf place) = .ok place := by
  refine find_of_leads (isAbsolute_pathOf place) hopen (Nat.zero_le _) ?_
  by_cases hne : place = []
  · subst hne
    exact .idle rfl rfl (.idle rfl rfl .here)
  · rw [pieces_pathOf hnamed hne]
    refine .idle rfl rfl ?_
    have hleads : Leads disk 0 [] (place.map String.toList ++ []) place :=
      Rooted.leads hrooted hentry hlink .here
    rwa [List.append_nil] at hleads

/-- The pieces of an entry of such a folder are its names and those of the entry. -/
theorem pieces_child_pathOf (hnamed : place.Named) {way : String}
    (hway : way.toList.head? ≠ some '/') :
    Path.pieces ((pathOf place).child way).text.toList =
      [] :: (place.map String.toList ++ Path.pieces way.toList) := by
  rw [Path.child, Path.join, String.toList_ofList, Path.joinText_of_relative hway]
  by_cases hne : place = []
  · subst hne
    rfl
  · have hlast : ¬ ((pathOf place).text.toList = [] ∨
        (pathOf place).text.toList.getLast? = some '/') := by
      rintro (hnil | hslash)
      · rw [toList_pathOf] at hnil
        cases hnil
      · -- a text that ends in a slash has an empty last piece
        obtain ⟨front, hfront⟩ := List.getLast?_eq_some_iff.1 hslash
        have hpieces := pieces_pathOf hnamed hne
        rw [hfront, Path.pieces_append] at hpieces
        have hmem : [] ∈ place.map String.toList := by
          have hends : (Path.pieces front ++ [[]]).getLast? = some [] := List.getLast?_concat
          rw [show Path.pieces front ++ [[]] = [] :: place.map String.toList from hpieces,
            List.getLast?_cons_of_ne_nil (by simpa using hne)] at hends
          exact List.mem_of_getLast? hends
        obtain ⟨name, hname, hempty⟩ := List.mem_map.1 hmem
        exact (Component.isName_name.1 (hnamed name hname)).2.1 hempty
    rw [if_neg hlast, Path.pieces_append, pieces_pathOf hnamed hne, List.cons_append]

/-- From the path of a folder a walk goes on as it did behind the links. -/
theorem find_child_pathOf {folder : Place} (hrooted : disk.Rooted folder) (hnamed : folder.Named)
    (hfolder : disk.hasFolderAt folder = true) {way : String}
    (hway : way.toList.head? ≠ some '/') (hopen : Openable ((pathOf folder).child way))
    (hn : n ≤ maxLinks) (h : Leads disk n folder (Path.pieces way.toList) place) :
    disk.find true ((pathOf folder).child way) = .ok place := by
  refine find_of_leads (Path.isAbsolute_join (isAbsolute_pathOf folder) _) hopen hn ?_
  rw [pieces_child_pathOf hnamed hway]
  have hleads : Leads disk n [] (folder.map String.toList ++ Path.pieces way.toList) place :=
    Rooted.leads hrooted (hasFolderAt_iff.1 hfolder) rfl h
  exact .idle rfl rfl hleads

end Minipack.Disk
