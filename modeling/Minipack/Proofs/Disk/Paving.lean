/-
Making the folders of a straight path, and writing a file there.

On a disk without links the folders above a place are made from the root down, and the first that
cannot be made ends it (`Disk.paves_makeFolders`).  Whether one can be made depends on the files
that stand in the way, and not on the folders that are there already, so it does not matter what
other folders were made before (`Disk.Made.folderFault?`).  Where the folders stand, a file is
written unless its spelling is not taken or a folder stands at its place (`Disk.write_of_paved`).
-/
import Minipack.Proofs.Disk.Placing

namespace Minipack.Disk

variable {disk old new : Disk} {p : Path} {init place : Place} {name : String}

/-! ### Making folders -/

/-- Why there can be no folder at the place of a path whose parent is a folder. -/
def folderFault? (disk : Disk) (p : Path) : Option DiskFault :=
  match spellingFault? p with
  | some fault => some fault
  | none =>
    match disk.entryAt? p.place with
    | some (.file _) => some .occupied
    | _ => none

theorem folderFault?_eq_none_iff : disk.folderFault? p = none ↔
    spellingFault? p = none ∧ ∀ content, disk.entryAt? p.place ≠ some (.file content) := by
  unfold folderFault?
  cases spellingFault? p with
  | some fault => simp
  | none =>
    cases disk.entryAt? p.place with
    | none => simp
    | some entry => cases entry <;> simp

/-- Folders that were made stand in no way. -/
theorem Made.folderFault? (h : old.Made new) (p : Path) :
    new.folderFault? p = old.folderFault? p := by
  unfold Disk.folderFault?
  rcases h p.place with hsame | ⟨hnone, hfolder⟩
  · rw [hsame]
  · rw [hnone, hfolder]

/-- What making a folder and those above it comes to: the fault is that of the topmost folder that
cannot be, and there are no changes but at the places on the way. -/
structure Paves (disk : Disk) (p : Path) (changed : Changed) : Prop where
  fault : changed.2 = p.ancestors.reverse.findSome? disk.folderFault?
  paved : changed.2 = none → changed.1.Paved p.place
  changes : ∀ place, changed.1.entryAt? place = disk.entryAt? place ∨ place <+: p.place

theorem makeEach_of_unspelled (hlinks : disk.Unlinked) (hp : p.Straight)
    (h : disk.Paved p.place.dropLast) {fault : DiskFault}
    (hspelling : spellingFault? p = some fault) :
    disk.makeEach [p] = (disk, some fault) := by
  have hspot := spot_of_paved hlinks hp h
  rw [hspelling] at hspot
  have hmake : disk.makeFolder p = (disk, some fault) := by rw [makeFolder, hspot]
  have hfolder : disk.isFolder p = false := by rw [isFolder, entry?, find, hspot]
  cases fault <;> simp [makeEach, hmake, hfolder]

theorem arrive_of_free (htrail : p.place ≠ [] → p.trail = [])
    (hentry : disk.entryAt? p.place = none) : disk.arrive p = .ok (.free p.place false) := by
  have hne : p.place ≠ [] := ne_nil_of_entryAt? hentry (Option.some_ne_none _).symm
  rw [arrive, hentry, htrail hne]
  rfl

/-- The last step comes to what stands at the place, also to a file, since no piece is left behind
it. -/
theorem arrive_of_taken (htrail : p.place ≠ [] → p.trail = []) {entry : Entry}
    (hentry : disk.entryAt? p.place = some entry) : disk.arrive p = .ok (.taken p.place) := by
  rw [arrive, hentry]
  cases entry with
  | link target => rfl
  | folder => rfl
  | file content =>
    have hne : p.place ≠ [] := by
      refine ne_nil_of_entryAt? hentry fun heq => ?_
      cases heq
    rw [htrail hne]
    rfl

theorem makeEach_of_free (hlinks : disk.Unlinked) (hp : p.Straight)
    (htrail : p.place ≠ [] → p.trail = []) (h : disk.Paved p.place.dropLast)
    (hspelling : spellingFault? p = none) (hentry : disk.entryAt? p.place = none) :
    disk.makeEach [p] = (disk.set p.place .folder, none) := by
  have hspot := spot_of_paved hlinks hp h
  rw [hspelling, arrive_of_free htrail hentry] at hspot
  rw [makeEach, makeFolder, hspot]
  rfl

/-- What stands at the place of a folder stays there, and only a folder is no fault. -/
theorem makeEach_of_taken (hlinks : disk.Unlinked) (hp : p.Straight)
    (htrail : p.place ≠ [] → p.trail = []) (h : disk.Paved p.place.dropLast)
    (hspelling : spellingFault? p = none) {entry : Entry}
    (hentry : disk.entryAt? p.place = some entry) :
    disk.makeEach [p] = (disk, disk.folderFault? p) := by
  have hspot := spot_of_paved hlinks hp h
  rw [hspelling, arrive_of_taken htrail hentry] at hspot
  have hmake : disk.makeFolder p = (disk, some .occupied) := by rw [makeFolder, hspot]
  have hfound : disk.entry? p = some entry := by
    unfold entry? find
    rw [hspot]
    exact hentry
  cases entry with
  | link target => exact absurd hentry (hlinks _ _)
  | folder => simp [makeEach, hmake, isFolder, hfound, folderFault?, hspelling, hentry]
  | file content => simp [makeEach, hmake, isFolder, hfound, folderFault?, hspelling, hentry]

/-- The last step: the folders above are there. -/
theorem makeEach_of_paved (hlinks : disk.Unlinked) (hp : p.Straight)
    (htrail : p.place ≠ [] → p.trail = []) (h : disk.Paved p.place.dropLast) :
    (disk.makeEach [p]).2 = disk.folderFault? p ∧
      ((disk.makeEach [p]).2 = none → (disk.makeEach [p]).1.Paved p.place) ∧
      ∀ place, (disk.makeEach [p]).1.entryAt? place = disk.entryAt? place ∨ place = p.place := by
  cases hspelling : spellingFault? p with
  | some fault =>
    rw [makeEach_of_unspelled hlinks hp h hspelling, folderFault?, hspelling]
    exact ⟨rfl, fun hnone => absurd hnone (Option.some_ne_none _), fun place => Or.inl rfl⟩
  | none =>
    cases hentry : disk.entryAt? p.place with
    | none =>
      have hne : p.place ≠ [] := ne_nil_of_entryAt? hentry nofun
      rw [makeEach_of_free hlinks hp htrail h hspelling hentry, folderFault?, hspelling, hentry]
      refine ⟨rfl, fun _ => ?_, fun place => ?_⟩
      · exact (h.set (not_prefix_dropLast hne) .folder).of_dropLast hp hspelling
          (hasFolderAt_iff.2 (entryAt?_set_self hne .folder))
      · by_cases hplace : place = p.place
        · exact Or.inr hplace
        · exact Or.inl (entryAt?_set_of_ne hplace _)
    | some entry =>
      rw [makeEach_of_taken hlinks hp htrail h hspelling hentry]
      refine ⟨rfl, fun hnone => ?_, fun place => Or.inl rfl⟩
      have hfolder : entry = .folder := by
        cases entry with
        | link target => exact absurd hentry (hlinks _ _)
        | folder => rfl
        | file content => exact absurd hentry ((folderFault?_eq_none_iff.1 hnone).2 content)
      exact h.of_dropLast hp hspelling (hasFolderAt_iff.2 (hfolder ▸ hentry))

theorem makeEach_append (disk : Disk) (front rest : List Path) :
    disk.makeEach (front ++ rest) = match disk.makeEach front with
      | (made, none) => made.makeEach rest
      | changed => changed := by
  induction front generalizing disk with
  | nil => rfl
  | cons path front ih =>
    rw [List.cons_append, makeEach, makeEach]
    split
    · exact ih _
    · split
      · exact ih _
      · rfl
    · rfl

/-- The folders above are made before the folder itself. -/
theorem makeFolders_of_parent? {q : Path} (hp : p.Straight) (hplace : p.place = init ++ [name])
    (hparent : p.parent? = some q) (disk : Disk) :
    disk.makeFolders p = match disk.makeFolders q with
      | (made, none) => made.makeEach [p]
      | changed => changed := by
  have htext : (!p.text.isEmpty) = true := by simpa using hp.text_ne
  rw [makeFolders, hp.ancestors_eq hplace hparent,
    List.filter_cons_of_pos (p := fun p : Path => !p.text.isEmpty) htext, List.reverse_cons,
    makeEach_append, ← makeFolders]

/-- The folders on the way to a straight path whose text ends in a name are made one by one. -/
theorem paves_makeFolders (hlinks : disk.Unlinked) (hp : p.Straight)
    (htrail : p.place ≠ [] → p.trail = []) : disk.Paves p (disk.makeFolders p) := by
  generalize hplace : p.place = place
  -- folders are made from the root on, so the induction is on the place from its end
  induction place using List.reverseRecOn generalizing p with
  | nil =>
    have htext : (!p.text.isEmpty) = true := by simpa using hp.text_ne
    have hmake : disk.makeFolders p = disk.makeEach [p] := by
      rw [makeFolders, hp.ancestors_of_root hplace,
        List.filter_cons_of_pos (p := fun p : Path => !p.text.isEmpty) htext]
      rfl
    have hroot : disk.Paved p.place.dropLast := by
      rw [hplace]
      exact disk.paved_nil
    obtain ⟨hfault, hpaved, hchanges⟩ := makeEach_of_paved hlinks hp htrail hroot
    rw [hmake]
    refine ⟨?_, hpaved, fun place => ?_⟩
    · rw [hfault, hp.ancestors_of_root hplace]
      simp
    · rcases hchanges place with hsame | rfl
      · exact Or.inl hsame
      · exact Or.inr List.prefix_rfl
  | append_singleton init name ih =>
    obtain ⟨q, hparent, hq, rfl, hqtrail⟩ := hp.exists_parent? hplace
    obtain ⟨hfault, hpaved, hchanges⟩ := ih hq hqtrail rfl
    have hmade : disk.Made (disk.makeFolders q).1 := made_makeEach disk _
    have hfaults : p.ancestors.reverse.findSome? disk.folderFault? =
        (q.ancestors.reverse.findSome? disk.folderFault?).or (disk.folderFault? p) := by
      rw [hp.ancestors_eq hplace hparent, List.reverse_cons, List.findSome?_append]
      simp
    have habove : q.place <+: p.place := hplace ▸ List.prefix_append _ _
    rw [makeFolders_of_parent? hp hplace hparent]
    rcases hq : disk.makeFolders q with ⟨made, fault⟩
    rw [hq] at hfault hpaved hchanges hmade
    cases fault with
    | some fault =>
      refine ⟨?_, fun h => absurd h (Option.some_ne_none _), fun place => ?_⟩
      · rw [hfaults, ← hfault]
        rfl
      · exact (hchanges place).imp_right fun h => h.trans habove
    | none =>
      -- all folders above are there, and the last one is made
      have hinit : made.Paved p.place.dropLast := by
        rw [hplace, List.dropLast_concat]
        exact hpaved rfl
      obtain ⟨hlast, hpaved', hchanges'⟩ :=
        makeEach_of_paved (hmade.unlinked hlinks) hp htrail hinit
      refine ⟨?_, hpaved', fun place => ?_⟩
      · rw [hfaults, ← hfault]
        exact hlast.trans (hmade.folderFault? p)
      · rcases hchanges' place with hsame | rfl
        · exact (hchanges place).imp hsame.trans fun h => h.trans habove
        · exact Or.inr List.prefix_rfl

/-! ### Writing -/

/-- Why there can be no file at the place of a path whose parent is a folder. -/
def fileFault? (disk : Disk) (p : Path) : Option DiskFault :=
  match spellingFault? p with
  | some fault => some fault
  | none =>
    match disk.arrive p with
    | .error fault => some fault
    | .ok (.free _ slashed) => if slashed then some .isFolder else none
    | .ok (.taken _) => if disk.hasFolderAt p.place then some .isFolder else none

/-- Only what stands at the place matters. -/
theorem fileFault?_congr (h : new.entryAt? p.place = old.entryAt? p.place) :
    new.fileFault? p = old.fileFault? p := by
  unfold fileFault? arrive hasFolderAt
  rw [h]

/-- A file can be where no folder is, when its spelling is taken and ends in its name. -/
theorem fileFault?_eq_none_iff (hlinks : disk.Unlinked) : disk.fileFault? p = none ↔
    spellingFault? p = none ∧ p.trail = [] ∧ disk.hasFolderAt p.place = false := by
  unfold fileFault?
  cases spellingFault? p with
  | some fault => simp
  | none =>
    unfold arrive
    cases hentry : disk.entryAt? p.place with
    | none =>
      have hnot : disk.hasFolderAt p.place = false := by rw [hasFolderAt, hentry]
      cases htrail : p.trail with
      | nil => simp [hnot]
      | cons piece more =>
        dsimp only
        cases (piece :: more).all List.isEmpty <;> simp
    | some entry =>
      cases entry with
      | link target => exact absurd hentry (hlinks _ _)
      | folder => simp [hasFolderAt, hentry]
      | file content =>
        have hnot : disk.hasFolderAt p.place = false := by rw [hasFolderAt, hentry]
        cases htrail : p.trail with
        | nil => simp [hnot]
        | cons piece more => simp

/-- Where the folders above stand, a file is put at its place or nothing happens. -/
theorem write_of_paved (hlinks : disk.Unlinked) (hp : p.Straight)
    (h : disk.Paved p.place.dropLast) (content : ByteArray) :
    disk.write p content = match disk.fileFault? p with
      | some fault => (disk, some fault)
      | none => (disk.set p.place (.file content), none) := by
  have hspot := spot_of_paved hlinks hp h true
  unfold write fileFault?
  rw [hspot]
  cases spellingFault? p with
  | some fault => rfl
  | none =>
    unfold arrive
    cases hentry : disk.entryAt? p.place with
    | none =>
      cases p.trail.all List.isEmpty with
      | false => rfl
      | true => cases p.trail.isEmpty <;> rfl
    | some entry =>
      cases entry with
      | link target => exact absurd hentry (hlinks _ _)
      | folder => simp [hasFolderAt, hentry]
      | file content =>
        cases htrail : p.trail with
        | nil => simp [hasFolderAt, hentry]
        | cons piece more => rfl

/-- A file that stands at the place of such a path is read. -/
theorem read_of_paved (hlinks : disk.Unlinked) (hp : p.Straight)
    (h : disk.Paved p.place.dropLast) (hspelling : spellingFault? p = none)
    (htrail : p.trail = []) {content : ByteArray}
    (hentry : disk.entryAt? p.place = some (.file content)) : disk.read p = .ok content := by
  have hspot : disk.spot true p = .ok (.taken p.place) := by
    rw [spot_of_paved hlinks hp h, hspelling]
    exact arrive_of_taken (fun _ => htrail) hentry
  exact read_eq_ok_iff.2 ⟨p.place, find_eq_ok_iff.2 hspot, hentry⟩

/-! ### Spellings that are taken -/

theorem spellingFault?_eq_none_iff : spellingFault? p = none ↔
    Openable p ∧ ∀ name ∈ p.place.getLast?, size name.toList ≤ maxNameSize := by
  unfold spellingFault? Openable
  cases p.text.toList.contains '\x00' with
  | true => simp
  | false =>
    by_cases hlong : maxPathSize < size p.text.toList
    · simp [hlong, Nat.not_le_of_lt hlong]
    · cases p.place.getLast? <;> simp [hlong, Nat.le_of_not_lt hlong]

/-- The text of the parent is no longer. -/
theorem Openable.parent? {q : Path} (h : Openable p) (hparent : p.parent? = some q)
    (hq : q.Straight) : Openable q := by
  rcases Path.exists_text_of_parent? hparent with hempty | hroot | ⟨more, htext⟩
  · exact absurd (String.toList_eq_nil_iff.1 hempty) hq.text_ne
  · rw [Openable, hroot]
    decide +kernel
  · rw [Openable, htext] at h
    obtain ⟨hnul, hsize⟩ := h
    rw [List.contains_append, Bool.or_eq_false_iff] at hnul
    refine ⟨hnul.1, Nat.le_trans ?_ hsize⟩
    rw [size, size, String.ofList_append, String.utf8ByteSize_append]
    exact Nat.le_add_right _ _

/-- The spellings of a path and of the folders above are taken when its text and its names are. -/
theorem spelling_ancestors_iff (hp : p.Straight) :
    (∀ a ∈ p.ancestors, spellingFault? a = none) ↔
      Openable p ∧ ∀ name ∈ p.place, size name.toList ≤ maxNameSize := by
  generalize hplace : p.place = place
  induction place using List.reverseRecOn generalizing p with
  | nil =>
    rw [hp.ancestors_of_root hplace, List.forall_mem_singleton, spellingFault?_eq_none_iff, hplace]
    simp
  | append_singleton init name ih =>
    obtain ⟨q, hparent, hq, rfl, -⟩ := hp.exists_parent? hplace
    rw [hp.ancestors_eq hplace hparent, List.forall_mem_cons, ih hq rfl, spellingFault?_eq_none_iff,
      hplace, List.getLast?_concat]
    constructor
    · rintro ⟨⟨hopen, hlast⟩, -, hnames⟩
      refine ⟨hopen, fun other hother => ?_⟩
      rcases List.mem_append.1 hother with hother | hother
      · exact hnames other hother
      · exact List.mem_singleton.1 hother ▸ hlast name rfl
    · rintro ⟨hopen, hnames⟩
      refine ⟨⟨hopen, fun last hlast => hnames last ?_⟩, hopen.parent? hparent hq,
        fun other hother => hnames other (List.mem_append_left _ hother)⟩
      rw [← Option.some.inj hlast]
      exact List.mem_append_right _ (List.mem_singleton_self name)

/-- The system takes a file of this spelling: neither the text nor a name is too long, and the text
ends in the last name. -/
structure Takes (p : Path) : Prop where
  text : Openable p
  names : ∀ name ∈ p.place, size name.toList ≤ maxNameSize
  trail : p.trail = []

/-- A folder stands at the place of a path, or a file at a place above. -/
def Blocked (disk : Disk) (p : Path) : Prop :=
  disk.hasFolderAt p.place = true ∨ ∃ front content, front <+: p.place ∧ front ≠ p.place ∧
    disk.entryAt? front = some (.file content)

/-! ### The folder of a destination -/

/-- The folders above a path are made. -/
def makeAbove (disk : Disk) (p : Path) : Changed :=
  match p.parent? with
  | some folder => disk.makeFolders folder
  | none => (disk, none)

/-- Why the folders above a path cannot be made. -/
def aboveFault? (disk : Disk) (p : Path) : Option DiskFault :=
  p.ancestors.tail.reverse.findSome? disk.folderFault?

theorem Made.aboveFault? {made : Disk} (h : disk.Made made) (p : Path) :
    made.aboveFault? p = disk.aboveFault? p := by
  unfold Disk.aboveFault?
  exact congrArg (List.findSome? · _) (funext h.folderFault?)

/-- What making the folders above a path comes to. -/
structure Prepares (disk : Disk) (p : Path) (changed : Changed) : Prop where
  made : disk.Made changed.1
  fault : changed.2 = disk.aboveFault? p
  paved : changed.2 = none → changed.1.Paved p.place.dropLast
  changes : ∀ place, changed.1.entryAt? place = disk.entryAt? place ∨ place <+: p.place.dropLast

theorem prepares_makeAbove (hlinks : disk.Unlinked) (hp : p.Straight) :
    disk.Prepares p (disk.makeAbove p) := by
  unfold makeAbove
  rcases List.eq_nil_or_concat p.place with hplace | ⟨init, name, hplace⟩
  · -- there is nothing above the root
    have hcomponents : p.components = [.root] := by
      rw [hp.components_eq, hplace]
      rfl
    rw [Path.parent?_of_components_root hcomponents]
    refine ⟨.refl disk, ?_, fun _ => ?_, fun _ => Or.inl rfl⟩
    · rw [aboveFault?, hp.ancestors_of_root hplace]
      rfl
    · rw [hplace]
      exact disk.paved_nil
  · rw [List.concat_eq_append] at hplace
    obtain ⟨q, hparent, hq, rfl, htrail⟩ := hp.exists_parent? hplace
    obtain ⟨hfault, hpaved, hchanges⟩ := paves_makeFolders hlinks hq htrail
    rw [hparent]
    refine ⟨made_makeEach disk _, ?_, ?_, ?_⟩
    · rw [aboveFault?, hp.ancestors_eq hplace hparent]
      exact hfault
    · rw [hplace, List.dropLast_concat]
      exact hpaved
    · rw [hplace, List.dropLast_concat]
      exact hchanges

/-- Making the folders above a path changes nothing at its place. -/
theorem Prepares.fileFault? {changed : Changed} (h : disk.Prepares p changed) :
    changed.1.fileFault? p = disk.fileFault? p := by
  refine fileFault?_congr ?_
  rcases h.changes p.place with hsame | habove
  · exact hsame
  · -- nothing but the root lies above itself
    have hroot : p.place = [] := Classical.byContradiction fun hne => not_prefix_dropLast hne habove
    rw [hroot]
    rfl

/-- The folders above can be made when their spellings are taken and none of them is a file. -/
theorem aboveFault?_eq_none_iff (hp : p.Straight) : disk.aboveFault? p = none ↔
    (∀ a ∈ p.ancestors.tail, spellingFault? a = none) ∧
      ∀ front, front <+: p.place → front ≠ p.place →
        ∀ content, disk.entryAt? front ≠ some (.file content) := by
  have hfiles : (∀ a ∈ p.ancestors.tail, ∀ content, disk.entryAt? a.place ≠ some (.file content)) ↔
      ∀ front, front <+: p.place → front ≠ p.place →
        ∀ content, disk.entryAt? front ≠ some (.file content) := by
    rcases List.eq_nil_or_concat p.place with hplace | ⟨init, name, hplace⟩
    · rw [hp.ancestors_of_root hplace, hplace]
      exact ⟨fun _ front hfront hne => absurd (List.prefix_nil.1 hfront) hne,
        fun _ => List.forall_mem_nil _⟩
    · rw [List.concat_eq_append] at hplace
      obtain ⟨q, hparent, hq, rfl, -⟩ := hp.exists_parent? hplace
      rw [hp.ancestors_eq hplace hparent, List.tail_cons,
        hq.forall_ancestors
          (P := fun place => ∀ content, disk.entryAt? place ≠ some (.file content)),
        hplace]
      constructor
      · exact fun h front hfront hne => h front ((List.prefix_concat_iff.1 hfront).resolve_left hne)
      · refine fun h front hfront => h front (hfront.trans (List.prefix_append _ _)) ?_
        rintro rfl
        have hlength := hfront.length_le
        rw [List.length_append, List.length_singleton] at hlength
        omega
  rw [aboveFault?, List.findSome?_eq_none_iff, ← hfiles]
  simp only [List.mem_reverse, folderFault?_eq_none_iff]
  exact forall₂_and

end Minipack.Disk
