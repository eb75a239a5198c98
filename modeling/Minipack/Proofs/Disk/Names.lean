/-
The names in a folder while files are written.

Making folders and writing files puts things on a disk one after the other, each at a free place or
over a file (`Disk.Puts`).  Every such step leaves the names in a folder and their order, and at
most a name is added at whose place nothing stood (`Disk.Gains`), and so does a whole flush
(`Disk.gains_flush`).
-/
import Minipack.Proofs.Disk.Growth

namespace Minipack

namespace Disk

variable {disk old new : Disk} {place : Place} {entry : Entry}

/-- A disk comes from another one when things are put on it one after the other, each at a free
place or over one of its shape. -/
inductive Puts (old : Disk) : Disk → Prop
  | refl : Puts old old
  | put {disk : Disk} {place : Place} {entry : Entry} : Puts old disk → place ≠ [] →
      (∀ e, disk.entryAt? place = some e → entry.shape = e.shape) → Puts old (disk.set place entry)

theorem Puts.trans {between : Disk} (h : old.Puts between) (k : between.Puts new) :
    old.Puts new := by
  induction k with
  | refl => exact h
  | put _ hp hold ih => exact ih.put hp hold

/-! ### A flush puts -/

theorem puts_makeFolder (disk : Disk) (path : Path) : disk.Puts (disk.makeFolder path).1 := by
  unfold makeFolder
  split
  · exact .refl
  · next place slashed hfree =>
    have hnone := entryAt?_of_spot hfree
    refine Puts.refl.put (grows_set_of_free hfree .folder).1 fun e he => ?_
    rw [hnone] at he
    cases he
  · exact .refl

theorem puts_write (disk : Disk) (path : Path) (content : ByteArray) :
    disk.Puts (disk.write path content).1 := by
  rcases disk.write_cases path content with ⟨fault, heq⟩ | ⟨place, hwritable, heq⟩ <;> rw [heq]
  · exact .refl
  · obtain ⟨hp, hshape⟩ := hwritable.shape content
    exact Puts.refl.put hp hshape

theorem puts_flush (disk : Disk) (settings : Settings) (chunks : List Chunk) :
    disk.Puts (flush settings disk chunks).1 := by
  refine Flush.writeFiles_keeps
    (fun new path content h => h.trans (puts_write new path content)) ?_ _
  exact Flush.makeFolders_keeps (fun new path h => h.trans (puts_makeFolder new path)) .refl _

/-! ### What is listed -/

/-- Names of a folder stay, and those at whose places something stood before are listed as before.
-/
structure Gains (old new : Disk) : Prop extends Grows old new where
  names : ∀ place, ∀ name ∈ old.namesAt place, name ∈ new.namesAt place
  listed : ∀ place (keep : String → Bool),
    (∀ name, keep name = true → old.entryAt? (place ++ [name]) ≠ none) →
      (new.namesAt place).filter keep = (old.namesAt place).filter keep

theorem Gains.refl (disk : Disk) : disk.Gains disk :=
  ⟨.refl disk, fun _ _ hname => hname, fun _ _ _ => rfl⟩

theorem Gains.trans {between : Disk} (h : old.Gains between) (k : between.Gains new) :
    old.Gains new where
  toGrows := h.toGrows.trans k.toGrows
  names place name hname := k.names place name (h.names place name hname)
  listed place keep hkeep := by
    refine (k.listed place keep fun name hname hnone => ?_).trans (h.listed place keep hkeep)
    obtain ⟨entry, hentry⟩ := Option.ne_none_iff_exists'.1 (hkeep name hname)
    have hshape := h.kept _ entry hentry
    rw [hnone] at hshape
    cases hshape

/-- The names of a folder are those at its place. -/
theorem names_eq_ok_iff {path : Path} {names : List String} :
    disk.names path = .ok names ↔
      ∃ place, disk.find true path = .ok place ∧ disk.hasFolderAt place = true ∧
        names = disk.namesAt place := by
  unfold Disk.names
  cases disk.find true path with
  | error fault => exact ⟨nofun, fun ⟨_, hfind, _⟩ => nomatch hfind⟩
  | ok place =>
    dsimp only
    by_cases hfolder : disk.hasFolderAt place = true
    · rw [if_pos hfolder]
      constructor
      · intro hnames
        exact ⟨place, rfl, hfolder, (Except.ok.inj hnames).symm⟩
      · rintro ⟨there, hthere, -, rfl⟩
        rw [Except.ok.inj hthere]
    · rw [if_neg hfolder]
      constructor
      · exact nofun
      · rintro ⟨there, hthere, hfolder', -⟩
        rw [Except.ok.inj hthere] at hfolder
        exact absurd hfolder' hfolder

/-- The name that an entry gives to a folder. -/
def nameIn (place : Place) (e : Place × Entry) : Option String :=
  if e.1.dropLast = place then e.1.getLast? else none

theorem namesAt_eq (disk : Disk) (place : Place) :
    disk.namesAt place = disk.entries.filterMap (nameIn place) := rfl

/-- Putting something at a free place, or over something, adds at most a name. -/
theorem gains_set (hp : place ≠ [])
    (hold : ∀ e, disk.entryAt? place = some e → entry.shape = e.shape) :
    disk.Gains (disk.set place entry) where
  toGrows := grows_set hp hold
  names folder name hname := by
    rw [namesAt_eq, List.mem_filterMap] at hname ⊢
    obtain ⟨e, he, hin⟩ := hname
    by_cases hkey : compare place e.1 = .eq
    · obtain rfl := Std.compare_eq_iff_eq.1 hkey
      exact ⟨(e.1, entry), Keyed.mem_insert_self _ _, hin⟩
    · exact ⟨e, Keyed.mem_insert_of_ne he hkey, hin⟩
  listed folder keep hkeep := by
    rw [namesAt_eq, namesAt_eq, List.filter_filterMap, List.filter_filterMap]
    refine Keyed.filterMap_insert (fun e hkey => ?_) ?_
    · rw [nameIn, nameIn, ← Std.compare_eq_iff_eq.1 hkey]
    · by_cases hfree : disk.entryAt? place = none
      · -- the name that is added is none of those to keep
        refine Or.inl (Option.filter_eq_none_iff.2 fun name hname hkept => ?_)
        unfold nameIn at hname
        split at hname
        · next hfolder =>
          refine hkeep name hkept ?_
          rw [List.getLast?_eq_some_getLast hp] at hname
          rw [← hfolder, ← Option.some.inj hname, List.dropLast_concat_getLast]
          exact hfree
        · cases hname
      · refine Or.inr fun hnone => hfree ?_
        unfold entryAt?
        rw [if_neg (by simpa using hp), hnone]
        rfl

theorem Puts.gains (h : old.Puts new) : old.Gains new := by
  induction h with
  | refl => exact .refl old
  | put _ hp hold ih => exact ih.trans (gains_set hp hold)

/-- A flush leaves the names in a folder, and adds at most such at whose places nothing stood. -/
theorem gains_flush (disk : Disk) (settings : Settings) (chunks : List Chunk) :
    disk.Gains (flush settings disk chunks).1 :=
  (puts_flush disk settings chunks).gains

end Disk

end Minipack
