/-
Lookups in a registry.

A chunk that was added is found under its file, in any spelling of the path, and other files find
what they found before (`Registry.get?_add`); a destination more goes to the chunk of its file alone
(`Registry.get?_addDestination`).  A registry is `Sorted` when its chunks are strictly
ordered by file; then its members are exactly what its lookups find
(`Registry.Sorted.get?_eq_some_iff`), and a dropped file is gone (`Registry.Sorted.get?_delete`).
Every operation keeps a registry sorted.
-/
import Minipack.Chunk.Registry
import Minipack.Proofs.Chunk
import Minipack.Proofs.Keyed

namespace Minipack.Registry

/-- The chunks are strictly ordered by file. -/
def Sorted (registry : Registry) : Prop :=
  Keyed.Sorted Chunk.file registry.chunks

variable {registry : Registry}

/-! ### Lookups -/

theorem same_of_get? {file : Path} {chunk : Chunk} (h : registry.get? file = some chunk) :
    file.Same chunk.file :=
  Path.compare_eq_iff_same.1 (Keyed.compare_of_find? h)

theorem mem_of_get? {file : Path} {chunk : Chunk} (h : registry.get? file = some chunk) :
    chunk ∈ registry.chunks :=
  Keyed.mem_of_find? h

/-- Two spellings of a path find the same chunk. -/
theorem get?_congr {file file' : Path} (h : file.Same file') :
    registry.get? file = registry.get? file' :=
  Keyed.find?_congr (Path.compare_eq_iff_same.2 h) _

theorem has_congr {file file' : Path} (h : file.Same file') :
    registry.has file = registry.has file' := by
  rw [has, has, get?_congr h]

theorem has_of_get? {file : Path} {chunk : Chunk} (h : registry.get? file = some chunk) :
    registry.has file = true := by
  rw [has, h]; rfl

theorem has_iff {file : Path} :
    registry.has file = true ↔ ∃ chunk, registry.get? file = some chunk :=
  Option.isSome_iff_exists

/-- A file with a chunk is the file of a chunk. -/
theorem contains_of_has {file : Path} (h : registry.has file = true) :
    (registry.chunks.map Chunk.file).contains file = true := by
  obtain ⟨chunk, hc⟩ := has_iff.1 h
  exact Path.contains_iff.2
    ⟨chunk.file, List.mem_map.2 ⟨chunk, mem_of_get? hc, rfl⟩, (same_of_get? hc).symm⟩

/-! ### Adding -/

theorem get?_add_self {chunk : Chunk} {file : Path} (h : file.Same chunk.file) :
    (registry.add chunk).get? file = some chunk :=
  Keyed.find?_insert_self (Path.compare_eq_iff_same.2 h) _

theorem get?_add_of_ne {chunk : Chunk} {file : Path} (h : ¬ file.Same chunk.file) :
    (registry.add chunk).get? file = registry.get? file :=
  Keyed.find?_insert_of_ne (Path.compare_ne_eq_iff.2 h) _

/-- Adding a chunk answers for its own file and leaves all other lookups alone. -/
theorem get?_add (chunk : Chunk) (file : Path) :
    (registry.add chunk).get? file =
      if file.Same chunk.file then some chunk else registry.get? file := by
  split
  · next h => exact get?_add_self h
  · next h => exact get?_add_of_ne h

theorem has_add (chunk : Chunk) (file : Path) :
    (registry.add chunk).has file = true ↔ file.Same chunk.file ∨ registry.has file = true := by
  rw [has, get?_add]
  split
  · next h => simp [h]
  · next h => simp [h, has]

/-- A file with a chunk keeps having one. -/
theorem has_add_of_has {chunk : Chunk} {file : Path} (h : registry.has file = true) :
    (registry.add chunk).has file = true :=
  (has_add chunk file).2 (Or.inr h)

/-- What one registry finds, another finds too. -/
def Within (part whole : Registry) : Prop :=
  ∀ file chunk, part.get? file = some chunk → whole.get? file = some chunk

theorem Within.empty : Within {} registry := fun _ _ h => nomatch h

theorem Within.add {part : Registry} (h : part.Within registry) (chunk : Chunk) :
    (part.add chunk).Within (registry.add chunk) := by
  intro file c hc
  rw [get?_add] at hc ⊢
  split at hc
  · next hs => rw [if_pos hs, hc]
  · next hs => rw [if_neg hs]; exact h file c hc

/-! ### Changing -/

/-- A changed chunk is found where the chunk was. -/
theorem get?_add_of_get? {file : Path} {chunk changed : Chunk} (h : registry.get? file = some chunk)
    (hfile : changed.file = chunk.file) (file' : Path) :
    (registry.add changed).get? file' =
      if file'.Same file then some changed else registry.get? file' := by
  have hsame : file.Same changed.file := hfile ▸ same_of_get? h
  rw [get?_add]
  split
  · next hs => rw [if_pos (hs.trans hsame.symm)]
  · next hs => rw [if_neg fun hs' => hs (hs'.trans hsame)]

/-- The chunk of the file is changed, and all else is as it was. -/
theorem get?_update {change : Chunk → Chunk} (h : ∀ chunk, (change chunk).file = chunk.file)
    (file file' : Path) :
    (registry.update file change).get? file' =
      if file'.Same file then (registry.get? file').map change else registry.get? file' := by
  rw [update]
  cases hget : registry.get? file with
  | none =>
    dsimp only
    split
    · next hs => rw [get?_congr hs, hget]; rfl
    · rfl
  | some chunk =>
    dsimp only
    rw [get?_add_of_get? hget (h chunk)]
    split
    · next hs => rw [get?_congr hs, hget]; rfl
    · rfl

/-- Changing a chunk neither brings in a file nor drops one. -/
theorem has_update {change : Chunk → Chunk} (h : ∀ chunk, (change chunk).file = chunk.file)
    (file file' : Path) : (registry.update file change).has file' = registry.has file' := by
  rw [has, get?_update h, has]
  split
  · exact Option.isSome_map
  · rfl

/-! ### One destination more -/

theorem addDestination_of_none {file p : Path} (h : registry.get? file = none) :
    registry.addDestination file p = (registry, false) := by
  rw [addDestination, h]

theorem addDestination_of_contains {file p : Path} {chunk : Chunk}
    (h : registry.get? file = some chunk) (hp : chunk.destinations.contains p = true) :
    registry.addDestination file p = (registry, false) := by
  rw [addDestination, h]
  exact if_pos hp

theorem addDestination_of_new {file p : Path} {chunk : Chunk}
    (h : registry.get? file = some chunk) (hp : chunk.destinations.contains p = false) :
    registry.addDestination file p = (registry.add (chunk.addDestination p), true) := by
  rw [addDestination, h]
  exact if_neg (Bool.not_eq_true _ ▸ hp)

/-- The chunk of the file has the destination afterwards, and all else is as it was. -/
theorem get?_addDestination (file p file' : Path) :
    (registry.addDestination file p).1.get? file' =
      if file'.Same file then (registry.get? file').map (Chunk.addDestination · p)
      else registry.get? file' := by
  cases h : registry.get? file with
  | none =>
    rw [addDestination_of_none h]
    split
    · next hs => rw [get?_congr hs, h]; rfl
    · rfl
  | some chunk =>
    cases hp : chunk.destinations.contains p with
    | true =>
      rw [addDestination_of_contains h hp]
      split
      · next hs =>
        rw [get?_congr hs, h]
        exact congrArg some (Chunk.addDestination_of_contains hp).symm
      · rfl
    | false =>
      rw [addDestination_of_new h hp, get?_add_of_get? h (Chunk.addDestination_file p)]
      split
      · next hs => rw [get?_congr hs, h]; rfl
      · rfl

/-! ### Sorted registries -/

theorem Sorted.empty : Sorted {} := Keyed.Sorted.nil

theorem Sorted.add (h : registry.Sorted) (chunk : Chunk) : (registry.add chunk).Sorted :=
  Keyed.Sorted.insert h chunk

theorem Sorted.addDestination (h : registry.Sorted) (file p : Path) :
    (registry.addDestination file p).1.Sorted := by
  unfold Registry.addDestination
  split
  · split
    · exact h
    · exact h.add _
  · exact h

theorem Sorted.update (h : registry.Sorted) (file : Path) (change : Chunk → Chunk) :
    (registry.update file change).Sorted := by
  unfold Registry.update
  split
  · exact h.add _
  · exact h

theorem Sorted.delete (h : registry.Sorted) (file : Path) : (registry.delete file).Sorted :=
  Keyed.Sorted.erase h file

theorem Sorted.get?_of_mem (h : registry.Sorted) {chunk : Chunk} (hc : chunk ∈ registry.chunks) :
    registry.get? chunk.file = some chunk :=
  Keyed.Sorted.find?_of_mem h hc

theorem Sorted.get?_eq_some_iff (h : registry.Sorted) {file : Path} {chunk : Chunk} :
    registry.get? file = some chunk ↔ chunk ∈ registry.chunks ∧ file.Same chunk.file := by
  rw [← Path.compare_eq_iff_same]
  exact Keyed.Sorted.find?_eq_some_iff h

/-- A file has a chunk when one of the chunks is of this file. -/
theorem Sorted.exists_same_iff (h : registry.Sorted) (file : Path) :
    (∃ chunk ∈ registry.chunks, chunk.file.Same file) ↔ registry.has file = true := by
  constructor
  · rintro ⟨chunk, hc, hs⟩
    rw [← has_congr hs]
    exact has_of_get? (h.get?_of_mem hc)
  · intro hhas
    obtain ⟨chunk, hget⟩ := has_iff.1 hhas
    exact ⟨chunk, mem_of_get? hget, (same_of_get? hget).symm⟩

/-- The chunks are listed in the order of the components of their files. -/
theorem Sorted.pairwise (h : registry.Sorted) :
    registry.chunks.Pairwise fun a b => compare a.file.components b.file.components = .lt := h

/-- Dropping a file forgets it and leaves all other lookups alone. -/
theorem Sorted.get?_delete (h : registry.Sorted) (file file' : Path) :
    (registry.delete file).get? file' =
      if file'.Same file then none else registry.get? file' := by
  split
  · next hs => exact Keyed.Sorted.find?_erase_self h (Path.compare_eq_iff_same.2 hs)
  · next hs => exact Keyed.Sorted.find?_erase_of_ne h (Path.compare_ne_eq_iff.2 hs)

end Minipack.Registry
