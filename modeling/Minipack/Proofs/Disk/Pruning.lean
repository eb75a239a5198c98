/-
What removing a folder takes.

Removing a folder takes it and what lies below, and nothing else (`Disk.Prunes`): on a disk without
links the folder is the one to which its path leads (`Disk.prunes_removeTree`), however the path is
spelled. All that lay strictly below is gone even where the folder itself could not be removed
(`Disk.entryAt?_of_removeTree`).
-/
import Minipack.Proofs.Disk.Placing

namespace Minipack

/-- A place lies strictly below another. -/
def Place.Inside (folder place : Place) : Prop :=
  folder <+: place ∧ folder ≠ place

instance (folder place : Place) : Decidable (folder.Inside place) :=
  inferInstanceAs (Decidable (_ ∧ _))

namespace Disk

variable {disk old new : Disk} {place other : Place} {entry : Entry}

/-- The one disk is the other without some of what lay below a place, and perhaps without the folder
there. -/
structure Prunes (old new : Disk) (place : Place) : Prop where
  current : new.current = old.current
  entries : ∀ entry ∈ new.entries, entry ∈ old.entries
  kept : ∀ other entry, old.entryAt? other = some entry → new.entryAt? other = some entry ∨
    place.Inside other ∨ other = place ∧ entry = .folder

namespace Prunes

theorem refl (disk : Disk) (place : Place) : disk.Prunes disk place :=
  ⟨rfl, fun _ h => h, fun _ _ h => Or.inl h⟩

theorem trans {between : Disk} (h : old.Prunes between place) (k : between.Prunes new place) :
    old.Prunes new place where
  current := k.current.trans h.current
  entries entry hentry := h.entries entry (k.entries entry hentry)
  kept other entry hentry := by
    rcases h.kept other entry hentry with hbetween | hgone
    · exact k.kept other entry hbetween
    · exact Or.inr hgone

theorem linkless (h : old.Prunes new place) (hold : old.Linkless) : new.Linkless :=
  fun entry hentry => hold entry (h.entries entry hentry)

theorem aim (h : old.Prunes new place) (p : Path) : new.aim p = old.aim p := by
  rw [Disk.aim, Disk.aim, h.current]

end Prunes

/-! ### Dropping entries -/

/-- What stands at a place other than the root is found among the entries. -/
theorem entryAt?_eq_some_iff (hne : place ≠ []) : disk.entryAt? place = some entry ↔
    Keyed.find? Prod.fst place disk.entries = some (place, entry) := by
  rw [entryAt?, if_neg fun h => hne (List.isEmpty_iff.1 h), Option.map_eq_some_iff]
  constructor
  · rintro ⟨⟨there, entry'⟩, hfind, rfl⟩
    obtain rfl := Std.LawfulEqOrd.compare_eq_iff_eq.1 (Keyed.compare_of_find? hfind)
    exact hfind
  · exact fun hfind => ⟨_, hfind, rfl⟩

theorem prunes_eraseBelow (disk : Disk) (place : Place) :
    disk.Prunes (disk.eraseBelow place) place where
  current := rfl
  entries entry hentry := (List.mem_filter.1 hentry).1
  kept other entry hentry := by
    by_cases hroot : other = []
    · subst hroot
      exact Or.inl hentry
    · by_cases hinside : place.Inside other
      · exact Or.inr (Or.inl hinside)
      · rw [entryAt?_eq_some_iff hroot] at hentry ⊢
        refine Or.inl (Keyed.find?_filter hentry ?_)
        rw [Bool.not_eq_true', Bool.and_eq_false_iff, bne_eq_false_iff_eq]
        by_cases hbelow : place <+: other
        · exact Or.inr (Classical.byContradiction fun hne => hinside ⟨hbelow, Ne.symm hne⟩)
        · exact Or.inl (Bool.eq_false_iff.2 fun h => hbelow (List.isPrefixOf_iff_prefix.1 h))

theorem prunes_eraseAt (h : disk.hasFolderAt place = true) :
    disk.Prunes (disk.eraseAt place) place where
  current := rfl
  entries entry hentry := (Keyed.erase_sublist place disk.entries).subset hentry
  kept other entry hentry := by
    by_cases hroot : other = []
    · subst hroot
      exact Or.inl hentry
    · by_cases hplace : other = place
      · subst hplace
        exact Or.inr (Or.inr ⟨rfl, Option.some.inj (hentry.symm.trans (hasFolderAt_iff.1 h))⟩)
      · rw [entryAt?_eq_some_iff hroot] at hentry ⊢
        exact Or.inl (Keyed.find?_erase hentry fun h =>
          hplace (Std.LawfulEqOrd.compare_eq_iff_eq.1 h).symm)

/-- Nothing is left strictly below a place that was emptied. -/
theorem entryAt?_of_eraseBelow {pruned : Disk}
    (h : ∀ entry ∈ pruned.entries, entry ∈ (disk.eraseBelow place).entries)
    (hinside : place.Inside other) : pruned.entryAt? other = none := by
  have hroot : other ≠ [] := by
    rintro rfl
    exact hinside.2 (List.prefix_nil.1 hinside.1)
  cases hentry : pruned.entryAt? other with
  | none => rfl
  | some entry =>
    obtain ⟨-, hkept⟩ := List.mem_filter.1 (h _ (mem_entries_of_entryAt? hroot hentry))
    have hbelow : place.isPrefixOf other = true := List.isPrefixOf_iff_prefix.2 hinside.1
    have hne : (other != place) = true := bne_iff_ne.2 (Ne.symm hinside.2)
    dsimp only at hkept
    rw [hbelow, hne] at hkept
    cases hkept

/-! ### Removing folders -/

variable {p : Path}

theorem prunes_removeFolder (h : disk.Linkless) (p : Path) :
    disk.Prunes (disk.removeFolder p).1 (disk.aim p) := by
  unfold removeFolder
  cases hfind : disk.find false p with
  | error fault => exact .refl disk _
  | ok place =>
    obtain rfl := place_of_find h hfind
    dsimp only
    split
    · exact .refl disk _
    · exact .refl disk _
    · split
      · exact .refl disk _
      · next hfolder =>
        split
        · exact .refl disk _
        · exact prunes_eraseAt (by simpa using hfolder)

/-- What a removal has left is what is left of the disk when the folder was emptied. -/
theorem removeTree_of_folder (hfind : disk.find false p = .ok place)
    (hfolder : disk.hasFolderAt place = true) :
    (disk.removeTree p).1 = ((disk.eraseBelow place).removeFolder p).1 := by
  rw [removeTree, hfind]
  dsimp only
  rw [hasFolderAt_iff.1 hfolder]
  dsimp only
  split
  · next hgone => rw [hgone]
  · rfl

theorem prunes_removeTree (h : disk.Linkless) (p : Path) :
    disk.Prunes (disk.removeTree p).1 (disk.aim p) := by
  cases hfind : disk.find false p with
  | error fault =>
    rw [removeTree, hfind]
    exact .refl disk _
  | ok place =>
    obtain rfl := place_of_find h hfind
    by_cases hfolder : disk.hasFolderAt (disk.aim p) = true
    · have hempty := disk.prunes_eraseBelow (disk.aim p)
      have hremove := prunes_removeFolder (hempty.linkless h) p
      rw [hempty.aim] at hremove
      rw [removeTree_of_folder hfind hfolder]
      exact hempty.trans hremove
    · -- only a folder is removed
      have hnone : (disk.removeTree p).1 = disk := by
        rw [removeTree, hfind]
        dsimp only
        split
        · next hlink => exact absurd hlink (h.entryAt? _)
        · next hstands => exact absurd (hasFolderAt_iff.2 hstands) hfolder
        · rfl
      rw [hnone]
      exact .refl disk _

/-- Nothing is left strictly below a folder that was to be removed. -/
theorem entryAt?_of_removeTree (h : disk.Linkless) (hfind : disk.find false p = .ok place)
    (hfolder : disk.hasFolderAt place = true) (hinside : place.Inside other) :
    (disk.removeTree p).1.entryAt? other = none := by
  rw [removeTree_of_folder hfind hfolder]
  exact entryAt?_of_eraseBelow
    (prunes_removeFolder ((disk.prunes_eraseBelow place).linkless h) p).entries hinside

end Disk

end Minipack
