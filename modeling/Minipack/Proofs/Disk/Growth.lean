/-
What writing leaves alone.

A walk over a disk looks at what stands at a place only to tell files, folders and links apart, and
it never looks behind what is missing.  So a walk that ends at something ends there as well on every
disk that has grown out of the first one (`Disk.Grows`): more may stand on it, and files may have
other contents (`Disk.find_of_grows`).

Making folders puts nothing but folders on a disk (`Disk.Made`).  Making folders and writing files
lets a disk grow (`Flush.grows_makeFolders`, `Disk.write_spec`), and a file that was written is
found with its content.  What a single such step keeps, all of them keep (`Disk.makeEach_keeps`,
`Flush.makeFolders_keeps`, `Flush.writeFiles_keeps`).
-/
import Minipack.Flush
import Minipack.Proofs.Disk.Walking
import Minipack.Proofs.Keyed

namespace Minipack

/-- What a walk sees of an entry: all but the content of a file. -/
def Entry.shape : Entry → Entry
  | .file _ => .file .empty
  | .folder => .folder
  | .link target => .link target

namespace Disk

/-- All that stands on the one disk stands on the other, though files may have other contents. -/
structure Grows (old new : Disk) : Prop where
  current : new.current = old.current
  kept : ∀ place entry, old.entryAt? place = some entry →
    (new.entryAt? place).map Entry.shape = some entry.shape

variable {disk old new : Disk}

theorem Grows.refl (disk : Disk) : disk.Grows disk where
  current := rfl
  kept := by
    intro place entry h
    rw [h]
    rfl

theorem Grows.trans {between : Disk} (h : old.Grows between) (k : between.Grows new) :
    old.Grows new where
  current := k.current.trans h.current
  kept := by
    intro place entry he
    obtain ⟨e, hbetween, hshape⟩ := Option.map_eq_some_iff.1 (h.kept place entry he)
    rw [k.kept place e hbetween, hshape]

/-- A folder stays a folder. -/
theorem Grows.folder (h : old.Grows new) {place : Place} (hf : old.entryAt? place = some .folder) :
    new.entryAt? place = some .folder := by
  obtain ⟨e, he, hshape⟩ := Option.map_eq_some_iff.1 (h.kept place _ hf)
  cases e with
  | folder => exact he
  | file content => cases hshape
  | link target => cases hshape

/-- A link keeps its target. -/
theorem Grows.link (h : old.Grows new) {place : Place} {target : String}
    (hl : old.entryAt? place = some (.link target)) :
    new.entryAt? place = some (.link target) := by
  obtain ⟨e, he, hshape⟩ := Option.map_eq_some_iff.1 (h.kept place _ hl)
  cases e with
  | folder => cases hshape
  | file content => cases hshape
  | link other => rw [he, Entry.link.inj hshape]

/-- A file stays a file. -/
theorem Grows.file (h : old.Grows new) {place : Place} {content : ByteArray}
    (hf : old.entryAt? place = some (.file content)) :
    ∃ content', new.entryAt? place = some (.file content') := by
  obtain ⟨e, he, hshape⟩ := Option.map_eq_some_iff.1 (h.kept place _ hf)
  cases e with
  | folder => cases hshape
  | file content' => exact ⟨content', he⟩
  | link target => cases hshape

/-- What is no link stays none. -/
theorem Grows.unlinked (h : old.Grows new) {place : Place} {entry : Entry}
    (he : old.entryAt? place = some entry) (hlink : entry.isLink = false) :
    ∃ entry', new.entryAt? place = some entry' ∧ entry'.isLink = false := by
  obtain ⟨entry', he', hshape⟩ := Option.map_eq_some_iff.1 (h.kept place _ he)
  refine ⟨entry', he', ?_⟩
  cases entry' with
  | folder => rfl
  | file content => rfl
  | link target =>
    cases entry with
    | folder => cases hshape
    | file content => cases hshape
    | link other => cases hlink

theorem hasFolderAt_iff {place : Place} :
    disk.hasFolderAt place = true ↔ disk.entryAt? place = some .folder := by
  unfold hasFolderAt
  split
  · next h => simp [h]
  · next h =>
    simp only [Bool.false_eq_true, false_iff]
    exact fun hf => h hf

theorem Grows.hasFolderAt (h : old.Grows new) {place : Place} (hf : old.hasFolderAt place = true) :
    new.hasFolderAt place = true :=
  hasFolderAt_iff.2 (h.folder (hasFolderAt_iff.1 hf))

/-! ### Walks -/

/-- A walk that ends at something ends there on a grown disk. -/
theorem walkWith_of_grows (h : old.Grows new) {follow : Bool} {p : Place}
    {jump jump' : Place → List (List Char) → Except DiskFault Spot}
    (hjump : ∀ place pieces, jump place pieces = .ok (.taken p) →
      jump' place pieces = .ok (.taken p))
    {place : Place} {pieces : List (List Char)}
    (hw : old.walkWith follow jump place pieces = .ok (.taken p)) :
    new.walkWith follow jump' place pieces = .ok (.taken p) := by
  rw [endsAt_iff] at hw ⊢
  induction hw with
  | here hspot => exact .here hspot
  | idle hfolder hidle _ ih => exact .idle (h.hasFolderAt hfolder) hidle ih
  | up hfolder _ ih => exact .up (h.hasFolderAt hfolder) ih
  | free _ _ _ _ hspot => cases hspot
  | stay hfolder hentry hlink hrest hfollow hspot =>
    exact .stay (h.hasFolderAt hfolder) hentry (h.link hlink) hrest hfollow hspot
  | link hfolder hentry hlink hend hj =>
    exact .link (h.hasFolderAt hfolder) hentry (h.link hlink) hend (hjump _ _ hj)
  | name hfolder hentry hstands hlink _ ih =>
    obtain ⟨entry', hstands', hlink'⟩ := h.unlinked hstands hlink
    exact .name (h.hasFolderAt hfolder) hentry hstands' hlink' ih

theorem walk_of_grows (h : old.Grows new) {follow : Bool} {links : Nat} {place p : Place}
    {pieces : List (List Char)} (hw : old.walk follow links place pieces = .ok (.taken p)) :
    new.walk follow links place pieces = .ok (.taken p) := by
  induction links generalizing place pieces with
  | zero => exact walkWith_of_grows h (fun _ _ hj => by cases hj) hw
  | succ links ih => exact walkWith_of_grows h (fun _ _ hj => ih hj) hw

/-- A path that can be followed at all is followed by a walk. -/
theorem spot_eq_ok_iff {follow : Bool} {path : Path} {spot : Spot} :
    disk.spot follow path = .ok spot ↔
      path.text.toList ≠ [] ∧ path.text.toList.contains '\x00' = false ∧
        size path.text.toList ≤ maxPathSize ∧
        disk.walk follow maxLinks (startOf disk.current path.text.toList)
          (Path.pieces path.text.toList) = .ok spot := by
  unfold Disk.spot
  dsimp only
  split
  · next h => simp [List.isEmpty_iff.1 h]
  · next h =>
    split
    · next hnul =>
      constructor
      · intro hs
        cases hs
      · intro hs
        rw [hnul] at hs
        cases hs.2.1
    · next hnul =>
      split
      · next hsize =>
        constructor
        · intro hs
          cases hs
        · intro hs
          exact absurd hs.2.2.1 (Nat.not_le_of_lt hsize)
      · next hsize =>
        constructor
        · intro hs
          exact ⟨fun he => h (List.isEmpty_iff.2 he), Bool.eq_false_iff.2 hnul,
            Nat.le_of_not_lt hsize, hs⟩
        · exact fun hs => hs.2.2.2

theorem find_eq_ok_iff {follow : Bool} {path : Path} {place : Place} :
    disk.find follow path = .ok place ↔ disk.spot follow path = .ok (.taken place) := by
  unfold find
  split
  · next h => rw [h]; simp
  · next h => rw [h]; simp
  · next h => rw [h]; simp

/-- What a path names, it names on a grown disk. -/
theorem find_of_grows (h : old.Grows new) {follow : Bool} {path : Path} {place : Place}
    (hf : old.find follow path = .ok place) : new.find follow path = .ok place := by
  rw [find_eq_ok_iff, spot_eq_ok_iff] at hf ⊢
  rw [h.current]
  exact ⟨hf.1, hf.2.1, hf.2.2.1, walk_of_grows h hf.2.2.2⟩

theorem read_eq_ok_iff {path : Path} {content : ByteArray} :
    disk.read path = .ok content ↔
      ∃ place, disk.find true path = .ok place ∧ disk.entryAt? place = some (.file content) := by
  unfold read
  cases hf : disk.find true path with
  | error fault => simp
  | ok place =>
    dsimp only
    cases he : disk.entryAt? place with
    | none => simp [he]
    | some entry => cases entry <;> simp [he]

theorem isFile_iff_read {path : Path} :
    disk.isFile path = true ↔ ∃ content, disk.read path = .ok content := by
  unfold isFile entry? read
  cases disk.find true path with
  | error fault => simp
  | ok place =>
    dsimp only
    cases disk.entryAt? place with
    | none => simp
    | some entry => cases entry <;> simp

/-- A file that is read is there. -/
theorem has_of_read {path : Path} {content : ByteArray} (h : disk.read path = .ok content) :
    disk.has path = true := by
  obtain ⟨place, hfind, hentry⟩ := read_eq_ok_iff.1 h
  rw [has, entry?, hfind]
  dsimp only
  rw [hentry]
  rfl

/-- What names a file names a file on a grown disk. -/
theorem Grows.isFile (h : old.Grows new) {path : Path} (hf : old.isFile path = true) :
    new.isFile path = true := by
  obtain ⟨content, hread⟩ := isFile_iff_read.1 hf
  obtain ⟨place, hfind, hentry⟩ := read_eq_ok_iff.1 hread
  obtain ⟨content', hentry'⟩ := h.file hentry
  exact isFile_iff_read.2 ⟨content', read_eq_ok_iff.2 ⟨place, find_of_grows h hfind, hentry'⟩⟩

/-! ### Putting an entry at a place -/

open Std

theorem entryAt?_nil (disk : Disk) : disk.entryAt? [] = some .folder := rfl

/-- Where something other than a folder is found is not the root. -/
theorem ne_nil_of_entryAt? {place : Place} {found : Option Entry} (h : disk.entryAt? place = found)
    (hfound : found ≠ some .folder) : place ≠ [] := by
  rintro rfl
  exact hfound (h.symm.trans (entryAt?_nil disk))

theorem entryAt?_set_self {place : Place} (hp : place ≠ []) (entry : Entry) :
    (disk.set place entry).entryAt? place = some entry := by
  have hfind : Keyed.find? Prod.fst place (Keyed.insert Prod.fst (place, entry) disk.entries) =
      some (place, entry) := by
    apply Keyed.find?_insert_self
    exact LawfulEqOrd.compare_eq_iff_eq.2 rfl
  rw [entryAt?, if_neg (by simpa using hp)]
  show (Keyed.find? Prod.fst place (Keyed.insert Prod.fst (place, entry) disk.entries)).map Prod.snd
    = _
  rw [hfind]
  rfl

theorem entryAt?_set_of_ne {place other : Place} (h : other ≠ place) (entry : Entry) :
    (disk.set place entry).entryAt? other = disk.entryAt? other := by
  have hfind : Keyed.find? Prod.fst other (Keyed.insert Prod.fst (place, entry) disk.entries) =
      Keyed.find? Prod.fst other disk.entries := by
    apply Keyed.find?_insert_of_ne
    exact fun hc => h (LawfulEqOrd.compare_eq_iff_eq.1 hc)
  rw [entryAt?, entryAt?]
  show (if other.isEmpty = true then some Entry.folder
    else (Keyed.find? Prod.fst other (Keyed.insert Prod.fst (place, entry) disk.entries)).map
      Prod.snd) = _
  rw [hfind]

/-- A disk grows when something is put at a free place, or a file in place of a file. -/
theorem grows_set {place : Place} (hp : place ≠ []) {entry : Entry}
    (hold : ∀ e, disk.entryAt? place = some e → entry.shape = e.shape) :
    disk.Grows (disk.set place entry) where
  current := rfl
  kept := by
    intro other e he
    by_cases ho : other = place
    · rw [ho] at he ⊢
      rw [entryAt?_set_self hp, ← hold e he]
      rfl
    · rw [entryAt?_set_of_ne ho, he]
      rfl

/-! ### Free places -/

/-- Slashes at the end of a path stay at a folder. -/
theorem walkWith_of_empty {follow : Bool}
    {jump : Place → List (List Char) → Except DiskFault Spot} {place : Place}
    (hf : disk.hasFolderAt place = true) {pieces : List (List Char)}
    (hp : pieces.all List.isEmpty = true) :
    disk.walkWith follow jump place pieces = .ok (.taken place) := by
  refine walkWith_of_idle hf fun piece hpiece => ?_
  rw [Path.isIdle, List.all_eq_true.1 hp piece hpiece]
  rfl

/-- What may be put at a free place so that the path to it still leads there: slashes may not follow
the name of a file. -/
def Fits (entry : Entry) (slashed : Bool) : Prop :=
  entry = .folder ∨ (∃ content, entry = .file content) ∧ slashed = false

/-- A walk that ends at a free place finds nothing there, and once something fits in there it ends
at that. -/
theorem walkWith_of_free (h : old.Grows new) {follow slashed : Bool} {p : Place} {entry : Entry}
    (hentry : new.entryAt? p = some entry) (hfits : Fits entry slashed)
    {jump jump' : Place → List (List Char) → Except DiskFault Spot}
    (hjump : ∀ place pieces, jump place pieces = .ok (.free p slashed) →
      jump' place pieces = .ok (.taken p))
    {place : Place} {pieces : List (List Char)}
    (hw : old.walkWith follow jump place pieces = .ok (.free p slashed)) :
    new.walkWith follow jump' place pieces = .ok (.taken p) := by
  rw [endsAt_iff] at hw ⊢
  induction hw with
  | here hspot => cases hspot
  | idle hfolder hidle _ ih => exact .idle (h.hasFolderAt hfolder) hidle ih
  | up hfolder _ ih => exact .up (h.hasFolderAt hfolder) ih
  | @free start piece rest hfolder hpiece _ hrest hspot =>
    obtain ⟨rfl, hslashed'⟩ := Spot.free.inj hspot
    -- behind what is put there only slashes may follow, and those behind a folder alone
    rcases hfits with rfl | ⟨⟨content, rfl⟩, hslashed⟩
    · exact .name (h.hasFolderAt hfolder) hpiece hentry rfl
        (endsAt_iff.1 (walkWith_of_empty (hasFolderAt_iff.2 hentry) hrest))
    · have hnil : rest = [] := by simpa [hslashed'] using hslashed
      exact .name (h.hasFolderAt hfolder) hpiece hentry rfl (hnil ▸ .here rfl)
  | stay _ _ _ _ _ hspot => cases hspot
  | link hfolder hpiece hlink hend hj =>
    exact .link (h.hasFolderAt hfolder) hpiece (h.link hlink) hend (hjump _ _ hj)
  | name hfolder hpiece hstands hlink _ ih =>
    obtain ⟨entry', hstands', hlink'⟩ := h.unlinked hstands hlink
    exact .name (h.hasFolderAt hfolder) hpiece hstands' hlink' ih

theorem walk_of_free (h : old.Grows new) {follow slashed : Bool} {p : Place} {entry : Entry}
    (hentry : new.entryAt? p = some entry) (hfits : Fits entry slashed) {links : Nat}
    {place : Place}
    {pieces : List (List Char)} (hw : old.walk follow links place pieces = .ok (.free p slashed)) :
    new.walk follow links place pieces = .ok (.taken p) := by
  induction links generalizing place pieces with
  | zero => exact walkWith_of_free h hentry hfits (fun _ _ hj => by cases hj) hw
  | succ links ih => exact walkWith_of_free h hentry hfits (fun _ _ hj => ih hj) hw

/-- Nothing stands at a free place. -/
theorem entryAt?_of_walkWith {follow slashed : Bool} {p : Place}
    {jump : Place → List (List Char) → Except DiskFault Spot}
    (hjump : ∀ place pieces, jump place pieces = .ok (.free p slashed) → disk.entryAt? p = none)
    {place : Place} {pieces : List (List Char)}
    (hw : disk.walkWith follow jump place pieces = .ok (.free p slashed)) :
    disk.entryAt? p = none := by
  rw [endsAt_iff] at hw
  induction hw with
  | here hspot => cases hspot
  | idle _ _ _ ih => exact ih
  | up _ _ ih => exact ih
  | free _ _ hnone _ hspot => rwa [(Spot.free.inj hspot).1]
  | stay _ _ _ _ _ hspot => cases hspot
  | link _ _ _ _ hj => exact hjump _ _ hj
  | name _ _ _ _ _ ih => exact ih

theorem entryAt?_of_spot {follow slashed : Bool} {path : Path} {p : Place}
    (h : disk.spot follow path = .ok (.free p slashed)) : disk.entryAt? p = none := by
  have hwalk : ∀ links place pieces, disk.walk follow links place pieces = .ok (.free p slashed) →
      disk.entryAt? p = none := by
    intro links
    induction links with
    | zero => exact fun _ _ hw => entryAt?_of_walkWith (fun _ _ hj => by cases hj) hw
    | succ links ih => exact fun _ _ hw => entryAt?_of_walkWith (fun _ _ hj => ih _ _ hj) hw
  exact hwalk _ _ _ (spot_eq_ok_iff.1 h).2.2.2

/-- A disk grows when something is put at a free place. -/
theorem grows_set_of_free {follow slashed : Bool} {path : Path} {p : Place}
    (h : disk.spot follow path = .ok (.free p slashed)) (entry : Entry) :
    p ≠ [] ∧ disk.Grows (disk.set p entry) := by
  have hnone := entryAt?_of_spot h
  have hp : p ≠ [] := ne_nil_of_entryAt? hnone nofun
  refine ⟨hp, grows_set hp fun e he => ?_⟩
  rw [hnone] at he
  cases he

/-! ### Writing -/

/-- A path leads to a place where a file can be put: to a free place, without slashes behind it, or
to a file. -/
def Writable (disk : Disk) (path : Path) (place : Place) : Prop :=
  disk.spot true path = .ok (.free place false) ∨
    disk.spot true path = .ok (.taken place) ∧ ∃ before, disk.entryAt? place = some (.file before)

/-- A write fails and changes nothing, or puts the content at such a place. -/
theorem write_cases (disk : Disk) (path : Path) (content : ByteArray) :
    (∃ fault, disk.write path content = (disk, some fault)) ∨
      ∃ place, disk.Writable path place ∧
        disk.write path content = (disk.set place (.file content), none) := by
  unfold write
  split
  · exact Or.inl ⟨_, rfl⟩
  · next place slashed hfree =>
    cases slashed with
    | true => exact Or.inl ⟨_, rfl⟩
    | false => exact Or.inr ⟨place, Or.inl hfree, rfl⟩
  · next place htaken =>
    split
    · next before hbefore => exact Or.inr ⟨place, Or.inr ⟨htaken, before, hbefore⟩, rfl⟩
    · exact Or.inl ⟨_, rfl⟩

/-- A file is put only where nothing or another file stands. -/
theorem Writable.shape {path : Path} {place : Place} (h : disk.Writable path place)
    (content : ByteArray) :
    place ≠ [] ∧ ∀ e, disk.entryAt? place = some e → (Entry.file content).shape = e.shape := by
  rcases h with hfree | ⟨-, before, hbefore⟩
  · have hnone := entryAt?_of_spot hfree
    refine ⟨ne_nil_of_entryAt? hnone nofun, fun e he => ?_⟩
    rw [hnone] at he
    cases he
  · refine ⟨ne_nil_of_entryAt? hbefore nofun, fun e he => ?_⟩
    rw [hbefore] at he
    rw [← Option.some.inj he]
    rfl

/-- A file that was written is found with its content, and nothing else has changed. -/
theorem write_spec {path : Path} {content : ByteArray}
    (h : disk.write path content = (new, none)) :
    disk.Grows new ∧ ∃ place, new.find true path = .ok place ∧
      new.entryAt? place = some (.file content) ∧
      ∀ other, other ≠ place → new.entryAt? other = disk.entryAt? other := by
  rcases disk.write_cases path content with ⟨fault, heq⟩ | ⟨place, hwritable, heq⟩ <;> rw [heq] at h
  · cases h
  · obtain ⟨rfl, -⟩ := Prod.mk.inj h
    obtain ⟨hp, hshape⟩ := hwritable.shape content
    have hgrows : disk.Grows (disk.set place (.file content)) := grows_set hp hshape
    have hentry : (disk.set place (.file content)).entryAt? place = some (.file content) :=
      entryAt?_set_self hp _
    refine ⟨hgrows, place, ?_, hentry, fun other ho => entryAt?_set_of_ne ho _⟩
    rcases hwritable with hfree | ⟨htaken, -⟩
    · have hfits : Fits (.file content) false := Or.inr ⟨⟨content, rfl⟩, rfl⟩
      obtain ⟨hne, hnul, hsize, hwalk⟩ := spot_eq_ok_iff.1 hfree
      exact find_eq_ok_iff.2 (spot_eq_ok_iff.2
        ⟨hne, hnul, hsize, walk_of_free hgrows hentry hfits hwalk⟩)
    · exact find_of_grows hgrows (find_eq_ok_iff.2 htaken)

/-- Writing over a file puts the content in its place. -/
theorem write_of_isFile {path : Path} (h : disk.isFile path = true) (content : ByteArray) :
    ∃ place before, disk.find true path = .ok place ∧
      disk.entryAt? place = some (.file before) ∧
      disk.write path content = (disk.set place (.file content), none) := by
  obtain ⟨before, hread⟩ := isFile_iff_read.1 h
  obtain ⟨place, hfind, hentry⟩ := read_eq_ok_iff.1 hread
  refine ⟨place, before, hfind, hentry, ?_⟩
  rw [write, find_eq_ok_iff.1 hfind]
  dsimp only
  rw [hentry]

/-- A write with a fault has changed nothing. -/
theorem write_of_fault {path : Path} {content : ByteArray} {fault : DiskFault}
    (h : (disk.write path content).2 = some fault) : (disk.write path content).1 = disk := by
  rcases disk.write_cases path content with ⟨fault', heq⟩ | ⟨place, -, heq⟩
  · rw [heq]
  · rw [heq] at h
    cases h

/-! ### Making folders -/

/-- All that the one disk has beyond the other are folders. -/
def Made (old new : Disk) : Prop :=
  ∀ place, new.entryAt? place = old.entryAt? place ∨
    old.entryAt? place = none ∧ new.entryAt? place = some .folder

theorem Made.refl (disk : Disk) : disk.Made disk :=
  fun _ => Or.inl rfl

theorem Made.trans {between : Disk} (h : old.Made between) (k : between.Made new) :
    old.Made new := by
  intro place
  rcases h place with hsame | ⟨hfree, hfolder⟩
  · rcases k place with hsame' | ⟨hfree', hfolder'⟩
    · exact Or.inl (hsame'.trans hsame)
    · exact Or.inr ⟨hsame ▸ hfree', hfolder'⟩
  · rcases k place with hsame' | ⟨hfree', -⟩
    · exact Or.inr ⟨hfree, hsame'.trans hfolder⟩
    · rw [hfolder] at hfree'
      cases hfree'

/-- What stood there stands there still. -/
theorem Made.entryAt? (h : old.Made new) {place : Place} {entry : Entry}
    (he : old.entryAt? place = some entry) : new.entryAt? place = some entry := by
  rcases h place with hsame | ⟨hfree, -⟩
  · exact hsame.trans he
  · cases he.symm.trans hfree

theorem grows_makeFolder (disk : Disk) (path : Path) : disk.Grows (disk.makeFolder path).1 := by
  unfold makeFolder
  split
  · exact .refl disk
  · next place slashed hfree => exact (grows_set_of_free hfree .folder).2
  · exact .refl disk

theorem made_makeFolder (disk : Disk) (path : Path) : disk.Made (disk.makeFolder path).1 := by
  unfold makeFolder
  split
  · exact .refl disk
  · next place slashed hfree =>
    obtain ⟨hp, -⟩ := grows_set_of_free hfree .folder
    intro other
    by_cases ho : other = place
    · subst ho
      exact Or.inr ⟨entryAt?_of_spot hfree, entryAt?_set_self hp .folder⟩
    · exact Or.inl (entryAt?_set_of_ne ho .folder)
  · exact .refl disk

/-- What making a folder keeps, making folders one after the other keeps. -/
theorem makeEach_keeps {P : Disk → Prop}
    (hmake : ∀ disk path, P disk → P (disk.makeFolder path).1) (h : P disk) (paths : List Path) :
    P (disk.makeEach paths).1 := by
  induction paths generalizing disk with
  | nil => exact h
  | cons path rest ih =>
    have hfirst := hmake disk path h
    rw [makeEach]
    -- whether the folder is new, was there or cannot be made, the disk is that after making it
    split
    · next made hmade =>
      rw [hmade] at hfirst
      exact ih hfirst
    · next made hmade =>
      rw [hmade] at hfirst
      split
      · exact ih hfirst
      · exact hfirst
    · next made fault _ hmade =>
      rw [hmade] at hfirst
      exact hfirst

theorem grows_makeFolders (disk : Disk) (path : Path) : disk.Grows (disk.makeFolders path).1 :=
  makeEach_keeps (fun made path h => h.trans (grows_makeFolder made path)) (.refl disk) _

theorem made_makeEach (disk : Disk) (paths : List Path) : disk.Made (disk.makeEach paths).1 :=
  makeEach_keeps (fun made path h => h.trans (made_makeFolder made path)) (.refl disk) paths

end Disk

namespace Flush

variable {disk : Disk} {P : Disk → Prop}

/-- What making a folder keeps, making the folders of outputs keeps. -/
theorem makeFolders_keeps (hmake : ∀ disk path, P disk → P (disk.makeFolder path).1) (h : P disk)
    (outputs : List Output) : P (makeFolders disk outputs).1 := by
  induction outputs generalizing disk with
  | nil => exact h
  | cons output rest ih =>
    rw [makeFolders]
    cases output.destination.parent? with
    | none => exact ih h
    | some folder => exact ih (Disk.makeEach_keeps hmake h _)

theorem grows_makeFolders (disk : Disk) (outputs : List Output) :
    disk.Grows (makeFolders disk outputs).1 :=
  makeFolders_keeps (fun made path h => h.trans (Disk.grows_makeFolder made path))
    (.refl disk) outputs

theorem made_makeFolders (disk : Disk) (outputs : List Output) :
    disk.Made (makeFolders disk outputs).1 :=
  makeFolders_keeps (fun made path h => h.trans (Disk.made_makeFolder made path))
    (.refl disk) outputs

/-- What writing a file keeps, writing outputs keeps. -/
theorem writeFiles_keeps (hwrite : ∀ disk path content, P disk → P (disk.write path content).1)
    (h : P disk) (made : List (Output × Option DiskFault)) : P (writeFiles disk made).1 := by
  induction made generalizing disk with
  | nil => exact h
  | cons first rest ih =>
    obtain ⟨output, fault⟩ := first
    cases fault with
    | some fault => exact ih h
    | none => exact ih (hwrite disk output.destination output.content h)

end Flush

end Minipack
