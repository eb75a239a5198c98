/-
Disks of names.

On a disk of names every place is a list of names: none is empty, holds a slash or is a `.` or `..`
step (`Disk.Named`).  A walk leads from such a place to such a place (`Disk.named_spot`), as the
pieces of a path hold no slash and the others leave no name, so that a disk of names stays one when
files are written (`Disk.named_flush`).
-/
import Minipack.Proofs.Disk.Growth
import Minipack.Proofs.Path.Components

namespace Minipack

/-- A place of names. -/
def Place.Named (place : Place) : Prop :=
  ∀ name ∈ place, Component.IsName (.name name)

instance (place : Place) : Decidable place.Named :=
  inferInstanceAs (Decidable (∀ name ∈ place, Component.IsName (.name name)))

namespace Disk

/-- Every place of a disk is a place of names. -/
structure Named (disk : Disk) : Prop where
  entries : ∀ entry ∈ disk.entries, Place.Named entry.1
  current : Place.Named disk.current

instance (disk : Disk) : Decidable disk.Named :=
  decidable_of_iff (_ ∧ _) ⟨fun h => Named.mk h.1 h.2, fun h => ⟨h.entries, h.current⟩⟩

/-- The place at which a walk ends. -/
def Spot.place : Spot → Place
  | .taken place => place
  | .free place _ => place

variable {disk : Disk}

theorem Named.names (h : disk.Named) {folder : Path} {names : List String}
    (hnames : disk.names folder = .ok names) : ∀ name ∈ names, Component.IsName (.name name) := by
  intro name hname
  unfold Disk.names at hnames
  split at hnames
  · cases hnames
  · split at hnames
    · obtain rfl := Except.ok.inj hnames
      obtain ⟨⟨place, entry⟩, hentry, hlast⟩ := List.mem_filterMap.1 hname
      dsimp only at hlast
      split at hlast
      · exact h.entries _ hentry name (List.mem_of_getLast? hlast)
      · cases hlast
    · cases hnames

/-! ### Walking -/

theorem IsEntry.isName {piece : List Char} (h : IsEntry piece) (hslash : '/' ∉ piece) :
    Component.IsName (.name (String.ofList piece)) := by
  have hbusy := h.busy
  refine Component.isName_name.2 ⟨?_, ?_, ?_, ?_⟩ <;> rw [String.toList_ofList]
  · exact hslash
  · rintro rfl
    cases hbusy
  · rintro rfl
    cases hbusy
  · exact h.forth

theorem named_there {place : Place} (hplace : place.Named) {piece : List Char} (h : IsEntry piece)
    (hslash : '/' ∉ piece) : Place.Named (place ++ [String.ofList piece]) := by
  intro name hmem
  rcases List.mem_append.1 hmem with hmem | hmem
  · exact hplace name hmem
  · rw [List.mem_singleton.1 hmem]
    exact h.isName hslash

/-- A walk from a place of names over pieces without slashes leads to a place of names, when its
jumps do. -/
theorem named_walkWith {follow : Bool}
    {jump : Place → List (List Char) → Except DiskFault Spot}
    (hjump : ∀ place pieces spot, Place.Named place → (∀ piece ∈ pieces, '/' ∉ piece) →
      jump place pieces = .ok spot → spot.place.Named) {place : Place} (hplace : place.Named)
    {pieces : List (List Char)} (hpieces : ∀ piece ∈ pieces, '/' ∉ piece) {spot : Spot}
    (h : disk.walkWith follow jump place pieces = .ok spot) : spot.place.Named := by
  rw [endsAt_iff] at h
  induction h with
  | here hspot =>
    rw [hspot]
    exact hplace
  | idle _ _ _ ih => exact ih hplace (List.forall_mem_cons.1 hpieces).2
  | up _ _ ih =>
    exact ih (fun name hname => hplace name (List.dropLast_subset _ hname))
      (List.forall_mem_cons.1 hpieces).2
  | free _ hentry _ _ hspot =>
    rw [hspot]
    exact named_there hplace hentry (List.forall_mem_cons.1 hpieces).1
  | stay _ hentry _ _ _ hspot =>
    rw [hspot]
    exact named_there hplace hentry (List.forall_mem_cons.1 hpieces).1
  -- a link is followed by its pieces, from the root or from where it stands
  | link _ _ _ _ hj =>
    refine hjump _ _ _ ?_ (fun p hp => ?_) hj
    · unfold startOf
      split
      · exact nofun
      · exact hplace
    · exact (List.mem_append.1 hp).elim Path.not_mem_of_mem_pieces
        ((List.forall_mem_cons.1 hpieces).2 p)
  | name _ hentry _ _ _ ih =>
    obtain ⟨hpiece, hrest⟩ := List.forall_mem_cons.1 hpieces
    exact ih (named_there hplace hentry hpiece) hrest

theorem named_walk {follow : Bool} {links : Nat} {place : Place} (hplace : place.Named)
    {pieces : List (List Char)} (hpieces : ∀ piece ∈ pieces, '/' ∉ piece) {spot : Spot}
    (h : disk.walk follow links place pieces = .ok spot) : spot.place.Named := by
  induction links generalizing place pieces spot with
  | zero => exact named_walkWith (fun _ _ _ _ _ h => by cases h) hplace hpieces h
  | succ links ih =>
    exact named_walkWith (fun _ _ _ hplace hpieces h => ih hplace hpieces h) hplace hpieces h

/-- Paths lead to places of names. -/
theorem named_spot (hn : disk.Named) {follow : Bool} {path : Path} {spot : Spot}
    (h : disk.spot follow path = .ok spot) : spot.place.Named := by
  unfold Disk.spot at h
  dsimp only at h
  split at h
  · cases h
  · split at h
    · cases h
    · split at h
      · cases h
      · refine named_walk ?_ (fun _ => Path.not_mem_of_mem_pieces) h
        unfold startOf
        split
        · exact nofun
        · exact hn.current

/-! ### Writing -/

theorem Named.set (hn : disk.Named) {place : Place} (hplace : place.Named) (entry : Entry) :
    (disk.set place entry).Named where
  entries := by
    intro e he
    rcases Keyed.eq_or_mem_of_mem_insert he with rfl | he
    · exact hplace
    · exact hn.entries e he
  current := hn.current

theorem Named.write (hn : disk.Named) (path : Path) (content : ByteArray) :
    (disk.write path content).1.Named := by
  unfold Disk.write
  split
  · exact hn
  · next place slashed hspot =>
    split
    · exact hn
    · exact hn.set (named_spot hn hspot) _
  · next place hspot =>
    split
    · exact hn.set (named_spot hn hspot) _
    · exact hn

theorem Named.makeFolder (hn : disk.Named) (path : Path) : (disk.makeFolder path).1.Named := by
  unfold Disk.makeFolder
  split
  · exact hn
  · next place _ hspot => exact hn.set (named_spot hn hspot) _
  · exact hn

end Disk

/-- Making the folders of outputs and writing them leaves a disk of names. -/
theorem Disk.named_flush {disk : Disk} (hn : disk.Named) (settings : Settings)
    (chunks : List Chunk) : (flush settings disk chunks).1.Named :=
  Flush.writeFiles_keeps (fun _ path content h => h.write path content)
    (Flush.makeFolders_keeps (fun _ path h => h.makeFolder path) hn _) _

end Minipack
