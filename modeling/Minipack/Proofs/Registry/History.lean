/-
A registry told by its history.

A registry starts empty, and six operations change it: a chunk is added, the chunk of a file gets
other content or one destination more, a file is dropped, and all chunks are moved out or dropped.
What it holds can be told from the list of these operations alone (`Registry.Held`): the chunk of a
file is the one added last, with the updates since, unless the file was dropped since.

Seen from one file, an operation either settles what the file has, whatever it had before
(`Operation.Overrides`), or it amends the chunk that is there (`Operation.amend`).  So a lookup
after one operation has two cases (`Sorted.get?_apply_of_overrides`,
`Sorted.get?_apply_of_not_overrides`), and a history with one operation more has the same two.  The
run is then an induction from the end of the history (`get?_after`), and what a registry lists
follows from what it finds, since it stays sorted (`recounts_of_built`).
-/
import Mathlib.Data.List.Induction
import Minipack.Proofs.Registry

namespace Minipack.Registry

/-- A use of a registry that may change it. -/
inductive Operation where
  /-- Puts a chunk in, in place of the chunk of the same file. -/
  | add (chunk : Chunk)
  /-- Gives the chunk of a file other content, which may be made from the chunk. -/
  | setContent (file : Path) (content : Chunk → ByteArray)
  /-- Gives the chunk of a file one destination more. -/
  | addDestination (file destination : Path)
  /-- Drops the chunk of a file. -/
  | delete (file : Path)
  /-- Moves all chunks out. -/
  | takeAll
  /-- Drops all chunks. -/
  | clear

namespace Operation

/-- The registry after an operation. -/
def apply (registry : Registry) : Operation → Registry
  | add chunk => registry.add chunk
  | setContent file content =>
    registry.update file fun chunk => { chunk with content := content chunk }
  | addDestination file destination => (registry.addDestination file destination).1
  | delete file => registry.delete file
  | takeAll => registry.takeAll.2
  | clear => registry.clear

/-- The file that an operation is about, unless it is about all files. -/
def file? : Operation → Option Path
  | add chunk => some chunk.file
  | setContent file _ => some file
  | addDestination file _ => some file
  | delete file => some file
  | takeAll => none
  | clear => none

/-- What a file has afterwards does not depend on what it had: the file is added or dropped. -/
def Overrides (file : Path) : Operation → Prop
  | add chunk => chunk.file.Same file
  | setContent _ _ => False
  | addDestination _ _ => False
  | delete dropped => dropped.Same file
  | takeAll => True
  | clear => True

/-- What an operation makes of a chunk that stays. -/
def amend (chunk : Chunk) : Operation → Chunk
  | add _ => chunk
  | setContent file content =>
    if file.Same chunk.file then { chunk with content := content chunk } else chunk
  | addDestination file destination =>
    if file.Same chunk.file then chunk.addDestination destination else chunk
  | delete _ => chunk
  | takeAll => chunk
  | clear => chunk

/-- A chunk that lists no destination twice is amended to such a chunk. -/
theorem distinct_amend {chunk : Chunk} (h : chunk.Distinct) (operation : Operation) :
    (operation.amend chunk).Distinct := by
  cases operation with
  | add _ => exact h
  | setContent file content =>
    rw [amend]
    split
    · exact h
    · exact h
  | addDestination file destination =>
    rw [amend]
    split
    · exact h.addDestination destination
    · exact h
  | delete _ => exact h
  | takeAll => exact h
  | clear => exact h

end Operation

variable {registry : Registry} {operations : List Operation} {operation : Operation}

/-! ### One operation -/

theorem Sorted.apply (h : registry.Sorted) (operation : Operation) :
    (operation.apply registry).Sorted := by
  cases operation with
  | add chunk => exact h.add chunk
  | setContent file content => exact h.update file _
  | addDestination file destination => exact h.addDestination file destination
  | delete file => exact h.delete file
  | takeAll => exact Sorted.empty
  | clear => exact Sorted.empty

theorem get?_apply_setContent (f : Path) (content : Chunk → ByteArray) (file : Path) :
    ((Operation.setContent f content).apply registry).get? file =
      if file.Same f then (registry.get? file).map fun chunk =>
        { chunk with content := content chunk }
      else registry.get? file := by
  rw [Operation.apply]
  apply get?_update
  exact fun _ => rfl

/-- A file that is added or dropped has the chunk that is added, or none. -/
theorem Sorted.get?_apply_of_overrides (h : registry.Sorted) {file : Path}
    (ho : operation.Overrides file) (chunk : Chunk) :
    (operation.apply registry).get? file = some chunk ↔ operation = .add chunk := by
  cases operation with
  | add added =>
    rw [Operation.apply, get?_add_self (Path.Same.symm ho), Option.some.injEq, Operation.add.injEq]
  | setContent _ _ => exact ho.elim
  | addDestination _ _ => exact ho.elim
  | delete dropped =>
    rw [Operation.apply, h.get?_delete, if_pos (Path.Same.symm ho)]
    exact iff_of_false nofun nofun
  | takeAll => exact iff_of_false nofun nofun
  | clear => exact iff_of_false nofun nofun

/-- A change for one file can be asked of every chunk that is found. -/
theorem map_amended (f file : Path) (change : Chunk → Chunk) :
    (if file.Same f then (registry.get? file).map change else registry.get? file) =
      (registry.get? file).map fun chunk => if f.Same chunk.file then change chunk else chunk := by
  cases hget : registry.get? file with
  | none => split <;> rfl
  | some chunk =>
    have hfile : file.Same chunk.file := same_of_get? hget
    by_cases hs : file.Same f
    · rw [if_pos hs, Option.map_some, Option.map_some, if_pos (hs.symm.trans hfile)]
    · rw [if_neg hs, Option.map_some, if_neg fun h => hs (hfile.trans h.symm)]

/-- Any other file has what the operation makes of its chunk. -/
theorem Sorted.get?_apply_of_not_overrides (h : registry.Sorted) {file : Path}
    (ho : ¬ operation.Overrides file) :
    (operation.apply registry).get? file = (registry.get? file).map operation.amend := by
  cases operation with
  | add added =>
    rw [Operation.apply, get?_add_of_ne fun hs => ho hs.symm]
    exact Option.map_id_apply.symm
  | setContent f content =>
    rw [get?_apply_setContent]
    exact map_amended f file _
  | addDestination f destination =>
    rw [Operation.apply, get?_addDestination]
    exact map_amended f file _
  | delete dropped =>
    rw [Operation.apply, h.get?_delete, if_neg fun hs => ho hs.symm]
    exact Option.map_id_apply.symm
  | takeAll => exact absurd trivial ho
  | clear => exact absurd trivial ho

/-- An operation on one file leaves the chunks of all other files as they are. -/
theorem Sorted.get?_apply_of_other (h : registry.Sorted) {f file : Path}
    (hf : operation.file? = some f) (hne : ¬ file.Same f) :
    (operation.apply registry).get? file = registry.get? file := by
  cases operation with
  | add added =>
    obtain rfl := Option.some.inj hf
    exact get?_add_of_ne hne
  | setContent _ _ =>
    obtain rfl := Option.some.inj hf
    exact (get?_apply_setContent _ _ _).trans (if_neg hne)
  | addDestination _ _ =>
    obtain rfl := Option.some.inj hf
    exact (get?_addDestination _ _ _).trans (if_neg hne)
  | delete _ =>
    obtain rfl := Option.some.inj hf
    exact (h.get?_delete _ _).trans (if_neg hne)
  | takeAll => cases hf
  | clear => cases hf

/-! ### A history -/

/-- The registry after a history of operations, the first operation first. -/
def after (operations : List Operation) : Registry :=
  operations.foldl Operation.apply {}

/-- What a history makes of a file: some operation added a chunk of it, none since added the file
again or dropped it, and the chunk is the one added, amended by all operations since. -/
def Held (operations : List Operation) (file : Path) (chunk : Chunk) : Prop :=
  ∃ before added later, operations = before ++ .add added :: later ∧ added.file.Same file ∧
    (∀ operation ∈ later, ¬ operation.Overrides file) ∧ chunk = later.foldl Operation.amend added

theorem after_append (operations : List Operation) (operation : Operation) :
    after (operations ++ [operation]) = operation.apply (after operations) := by
  rw [after, List.foldl_append]
  rfl

theorem sorted_after (operations : List Operation) : (after operations).Sorted := by
  induction operations using List.reverseRecOn with
  | nil => exact Sorted.empty
  | append_singleton operations operation ih =>
    rw [after_append]
    exact ih.apply operation

/-- In a history with one operation more, an operation is the last one or has the last one among
those that follow. -/
theorem append_cases {before later : List Operation} {last : Operation}
    (h : operations ++ [last] = before ++ operation :: later) :
    (operation = last ∧ later = []) ∨
      ∃ later', later = later' ++ [last] ∧ operations = before ++ operation :: later' := by
  rcases List.eq_nil_or_concat later with rfl | ⟨later', last', rfl⟩
  · obtain ⟨-, hlast⟩ := List.append_inj' h rfl
    exact Or.inl ⟨(List.singleton_inj.1 hlast).symm, rfl⟩
  · rw [List.concat_eq_append, ← List.cons_append, ← List.append_assoc] at h
    obtain ⟨hfront, hlast⟩ := List.append_inj' h rfl
    obtain rfl := List.singleton_inj.1 hlast
    exact Or.inr ⟨later', List.concat_eq_append, hfront⟩

theorem held_append_of_overrides {file : Path} (ho : operation.Overrides file) (chunk : Chunk) :
    Held (operations ++ [operation]) file chunk ↔ operation = .add chunk := by
  constructor
  · rintro ⟨before, added, later, hsplit, -, hlater, rfl⟩
    rcases append_cases hsplit with ⟨rfl, rfl⟩ | ⟨later', rfl, -⟩
    · rfl
    · exact absurd ho (hlater operation (List.mem_append_right _ (List.mem_singleton_self _)))
  · rintro rfl
    exact ⟨operations, chunk, [], rfl, ho, fun _ h => absurd h List.not_mem_nil, rfl⟩

theorem held_append_of_not_overrides {file : Path} (ho : ¬ operation.Overrides file)
    (chunk : Chunk) :
    Held (operations ++ [operation]) file chunk ↔
      ∃ earlier, Held operations file earlier ∧ operation.amend earlier = chunk := by
  constructor
  · rintro ⟨before, added, later, hsplit, hsame, hlater, rfl⟩
    rcases append_cases hsplit with ⟨rfl, rfl⟩ | ⟨later', rfl, hfront⟩
    · exact absurd hsame ho
    · refine ⟨later'.foldl Operation.amend added, ⟨before, added, later', hfront, hsame,
        fun o ho' => hlater o (List.mem_append_left _ ho'), rfl⟩, ?_⟩
      rw [List.foldl_append]
      rfl
  · rintro ⟨_, ⟨before, added, later, rfl, hsame, hlater, rfl⟩, rfl⟩
    refine ⟨before, added, later ++ [operation], List.append_assoc .., hsame, fun o ho' => ?_, ?_⟩
    · rcases List.mem_append.1 ho' with ho' | ho'
      · exact hlater o ho'
      · obtain rfl := List.mem_singleton.1 ho'
        exact ho
    · rw [List.foldl_append]
      rfl

/-- A lookup answers what the history makes of the file. -/
theorem get?_after (operations : List Operation) (file : Path) (chunk : Chunk) :
    (after operations).get? file = some chunk ↔ Held operations file chunk := by
  induction operations using List.reverseRecOn generalizing chunk with
  | nil =>
    refine iff_of_false nofun ?_
    rintro ⟨before, added, later, hsplit, -⟩
    simp at hsplit
  | append_singleton operations operation ih =>
    have hsorted : (after operations).Sorted := sorted_after operations
    rw [after_append]
    by_cases ho : operation.Overrides file
    · rw [hsorted.get?_apply_of_overrides ho, held_append_of_overrides ho]
    · rw [hsorted.get?_apply_of_not_overrides ho, held_append_of_not_overrides ho,
        Option.map_eq_some_iff]
      exact exists_congr fun earlier => and_congr_left fun _ => ih earlier

/-- When all added chunks were given their destinations one by one, no chunk lists one twice. -/
theorem Held.distinct {file : Path} {chunk : Chunk} (h : Held operations file chunk)
    (hbuilt : ∀ chunk, .add chunk ∈ operations → chunk.Built) : chunk.Distinct := by
  obtain ⟨before, added, later, rfl, -, -, rfl⟩ := h
  have hadded : added.Distinct :=
    (hbuilt added (List.mem_append_right _ List.mem_cons_self)).distinct
  exact List.foldlRecOn later Operation.amend hadded fun _ h operation _ =>
    Operation.distinct_amend h operation

/-! ### What a registry lists -/

/-- The chunks stand in the order of the components of their files, without repetitions. -/
def Increasing (chunks : List Chunk) : Prop :=
  chunks.Pairwise fun a b => compare a.file.components b.file.components = .lt

theorem Increasing.not_same {chunks : List Chunk} (h : Increasing chunks) :
    chunks.Pairwise fun a b => ¬ a.file.Same b.file := by
  refine h.imp fun {a b} hlt hsame => ?_
  have heq : compare a.file b.file = .eq := Path.compare_eq_iff_same.2 hsame
  have hlt : compare a.file b.file = .lt := hlt
  rw [heq] at hlt
  cases hlt

/-- The dependents of a file are the chunks with the file among the targets of their references. -/
theorem mem_dependents {file : Path} {chunk : Chunk} :
    chunk ∈ registry.dependents file ↔
      chunk ∈ registry.chunks ∧ ∃ dependency ∈ chunk.dependencies, dependency.target.Same file := by
  simp only [dependents, List.mem_filter, Chunk.dependsOn, List.any_eq_true, Path.beq_iff_same]

/-- A registry after a history, by what it finds and lists and by what one operation more does. -/
structure Recounts (operations : List Operation) : Prop where
  /-- A file has the chunk that the history makes of it, and otherwise none. -/
  found : ∀ file chunk, (after operations).get? file = some chunk ↔ Held operations file chunk
  /-- The chunks are the ones that the history makes of the files. -/
  listed : ∀ chunk, chunk ∈ (after operations).chunks ↔ ∃ file, Held operations file chunk
  /-- No file has two chunks. -/
  once : (after operations).chunks.Pairwise fun a b => ¬ a.file.Same b.file
  /-- The chunks are listed in the order of their files. -/
  ordered : Increasing (after operations).chunks
  /-- The chunks are moved out in the same order. -/
  taken : Increasing (after operations).takeAll.1 ∧
    ∀ chunk, chunk ∈ (after operations).takeAll.1 ↔ chunk ∈ (after operations).chunks
  /-- The dependents of a file are listed in the same order. -/
  dependents : ∀ file, Increasing ((after operations).dependents file)
  /-- A chunk is a dependent of a file when it has a reference to the file. -/
  referring : ∀ file chunk, chunk ∈ (after operations).dependents file ↔
    chunk ∈ (after operations).chunks ∧
      ∃ dependency ∈ chunk.dependencies, dependency.target.Same file
  /-- No chunk lists a destination twice, in whatever spelling. -/
  distinct : ∀ chunk ∈ (after operations).chunks,
    chunk.destinations.Pairwise fun p q => ¬ p.Same q
  /-- An operation on one file leaves the chunks of all other files as they are. -/
  apart : ∀ operation f, operation.file? = some f → ∀ file, ¬ file.Same f →
    (after (operations ++ [operation])).get? file = (after operations).get? file
  /-- Nothing is left when all chunks were moved out or dropped. -/
  emptied : (after (operations ++ [.takeAll])).chunks = [] ∧
    (after (operations ++ [.clear])).chunks = []

/-- After any history in which chunks are added with destinations given one by one, a registry holds
what the history says. -/
theorem recounts_of_built (operations : List Operation)
    (hbuilt : ∀ chunk, .add chunk ∈ operations → chunk.Built) : Recounts operations := by
  have hsorted : (after operations).Sorted := sorted_after operations
  have hordered : Increasing (after operations).chunks := hsorted.pairwise
  have hlisted (chunk : Chunk) :
      chunk ∈ (after operations).chunks ↔ ∃ file, Held operations file chunk := by
    constructor
    · intro hmem
      exact ⟨chunk.file, (get?_after ..).1 (hsorted.get?_of_mem hmem)⟩
    · rintro ⟨file, hheld⟩
      exact mem_of_get? ((get?_after ..).2 hheld)
  exact {
    found := get?_after operations
    listed := hlisted
    once := hordered.not_same
    ordered := hordered
    taken := ⟨hordered, fun _ => Iff.rfl⟩
    dependents := fun _ => hordered.filter _
    referring := fun _ _ => mem_dependents
    distinct := by
      intro chunk hmem
      obtain ⟨file, hheld⟩ := (hlisted chunk).1 hmem
      exact hheld.distinct hbuilt
    apart := by
      intro operation f hf file hne
      rw [after_append]
      exact hsorted.get?_apply_of_other hf hne
    emptied := by
      rw [after_append, after_append]
      exact ⟨rfl, rfl⟩ }

namespace Respelled

/-- A script that is written to one place, named twice. -/
def script : Chunk :=
  { file := ⟨"/s/b.js"⟩, kind := .entry : Chunk }.addDestinations [⟨"/o/b.js"⟩, ⟨"/o//b.js"⟩]

/-- Scripts and a style sheet, with paths in several spellings. -/
def history : List Operation :=
  [.add script, .add { file := ⟨"/s/a/c.js"⟩, kind := .entry },
    .add { file := ⟨"/s/a-b.css"⟩, kind := .entry },
    .add { file := ⟨"/s//a/./c.js"⟩, kind := .scatter },
    .addDestination ⟨"/s//b.js"⟩ ⟨"/p/b.js"⟩, .delete ⟨"/s/a"⟩]

/-- The added chunks have all their destinations from `Chunk.addDestinations`. -/
theorem built (chunk : Chunk) (h : .add chunk ∈ history) : chunk.Built := by
  simp only [history, List.mem_cons, Operation.add.injEq, reduceCtorEq, List.not_mem_nil,
    or_false] at h
  obtain rfl | rfl | rfl | rfl := h
  · exact ⟨_, _, rfl, rfl⟩
  · exact ⟨_, [], rfl, rfl⟩
  · exact ⟨_, [], rfl, rfl⟩
  · exact ⟨_, [], rfl, rfl⟩

end Respelled

/-- A file of a folder comes before the files whose names the folder's name begins, and of two
spellings the last one stays. -/
theorem recounts_respelled :
    (∀ chunk, .add chunk ∈ Respelled.history → chunk.Built) ∧ Recounts Respelled.history ∧
      (after Respelled.history).chunks.map (fun chunk =>
          (chunk.file.text, chunk.destinations.map Path.text)) =
        [("/s//a/./c.js", []), ("/s/a-b.css", []), ("/s/b.js", ["/o/b.js", "/p/b.js"])] :=
  ⟨Respelled.built, recounts_of_built _ Respelled.built, by decide +kernel⟩

end Minipack.Registry
