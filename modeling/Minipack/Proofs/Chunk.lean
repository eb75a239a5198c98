/-
The destinations of a chunk.

Giving a chunk more destinations changes nothing else of it (`Chunk.addDestinations_fields`), keeps
the destinations it has in their order, and lists each destination once.
-/
import Minipack.Chunk.Basic
import Minipack.Proofs.Path.Order

namespace Minipack.Chunk

variable {chunk : Chunk}

/-! ### One destination more -/

/-- Only the destinations change. -/
theorem addDestination_eq (chunk : Chunk) (p : Path) :
    chunk.addDestination p =
      { chunk with destinations := (chunk.addDestination p).destinations } := by
  unfold addDestination
  split <;> rfl

@[simp] theorem addDestination_file (p : Path) : (chunk.addDestination p).file = chunk.file := by
  rw [addDestination_eq]

@[simp] theorem addDestination_dependencies (p : Path) :
    (chunk.addDestination p).dependencies = chunk.dependencies := by
  rw [addDestination_eq]

theorem addDestination_of_contains {p : Path} (h : chunk.destinations.contains p = true) :
    chunk.addDestination p = chunk := by
  rw [addDestination, if_pos h]

/-- The destinations that a chunk has stay at the front. -/
theorem prefix_addDestination (p : Path) :
    chunk.destinations <+: (chunk.addDestination p).destinations := by
  unfold addDestination
  split
  · exact List.prefix_rfl
  · exact List.prefix_append _ _

theorem mem_addDestination {p q : Path} (h : q ∈ (chunk.addDestination p).destinations) :
    q ∈ chunk.destinations ∨ q = p := by
  unfold addDestination at h
  split at h
  · exact Or.inl h
  · exact (List.mem_append.1 h).imp_right List.mem_singleton.1

theorem contains_addDestination (p : Path) :
    (chunk.addDestination p).destinations.contains p = true := by
  unfold addDestination
  split
  · next h => exact h
  · exact Path.contains_iff.2 ⟨p, List.mem_append_right _ (List.mem_singleton_self p), rfl⟩

/-! ### Several destinations more -/

@[simp] theorem addDestinations_nil : chunk.addDestinations [] = chunk := rfl

@[simp] theorem addDestinations_cons (p : Path) (ps : List Path) :
    chunk.addDestinations (p :: ps) = (chunk.addDestination p).addDestinations ps := rfl

/-- Only the destinations change. -/
theorem addDestinations_eq (chunk : Chunk) (ps : List Path) :
    chunk.addDestinations ps =
      { chunk with destinations := (chunk.addDestinations ps).destinations } := by
  induction ps generalizing chunk with
  | nil => rfl
  | cons p ps ih => rw [addDestinations_cons, ih, addDestination_eq]

@[simp] theorem addDestinations_file (ps : List Path) :
    (chunk.addDestinations ps).file = chunk.file := by
  rw [addDestinations_eq]

@[simp] theorem addDestinations_kind (ps : List Path) :
    (chunk.addDestinations ps).kind = chunk.kind := by
  rw [addDestinations_eq]

@[simp] theorem addDestinations_dependencies (ps : List Path) :
    (chunk.addDestinations ps).dependencies = chunk.dependencies := by
  rw [addDestinations_eq]

theorem prefix_addDestinations (ps : List Path) :
    chunk.destinations <+: (chunk.addDestinations ps).destinations := by
  induction ps generalizing chunk with
  | nil => exact List.prefix_rfl
  | cons p ps ih => exact (prefix_addDestination p).trans ih

/-- The primary destination stays. -/
theorem destination?_addDestinations {p : Path} (h : chunk.destination? = some p) (ps : List Path) :
    (chunk.addDestinations ps).destination? = some p := by
  have hfront : chunk.destinations <+: (chunk.addDestinations ps).destinations :=
    prefix_addDestinations ps
  obtain ⟨rest, hrest⟩ := hfront
  unfold destination? at h ⊢
  rw [← hrest, List.head?_append, h]
  rfl

theorem mem_addDestinations {ps : List Path} {q : Path}
    (h : q ∈ (chunk.addDestinations ps).destinations) : q ∈ chunk.destinations ∨ q ∈ ps := by
  induction ps generalizing chunk with
  | nil => exact Or.inl h
  | cons p ps ih =>
    rcases ih h with h | h
    · rcases mem_addDestination h with h | rfl
      · exact Or.inl h
      · exact Or.inr List.mem_cons_self
    · exact Or.inr (List.mem_cons_of_mem _ h)

theorem contains_addDestinations {ps : List Path} {p : Path} (h : p ∈ ps) :
    (chunk.addDestinations ps).destinations.contains p = true := by
  induction ps generalizing chunk with
  | nil => simp at h
  | cons q ps ih =>
    rcases List.mem_cons.1 h with rfl | h
    · have hp : (chunk.addDestination p).destinations.contains p = true :=
        contains_addDestination p
      obtain ⟨r, hr, hs⟩ := Path.contains_iff.1 hp
      exact Path.contains_iff.2 ⟨r, (prefix_addDestinations ps).subset hr, hs⟩
    · exact ih h

theorem contains_addDestinations_iff {ps : List Path} {p : Path} :
    (chunk.addDestinations ps).destinations.contains p = true ↔
      chunk.destinations.contains p = true ∨ ∃ q ∈ ps, q.Same p := by
  constructor
  · intro h
    obtain ⟨q, hq, hs⟩ := Path.contains_iff.1 h
    rcases mem_addDestinations hq with hq | hq
    · exact Or.inl (Path.contains_iff.2 ⟨q, hq, hs⟩)
    · exact Or.inr ⟨q, hq, hs⟩
  · rintro (h | ⟨q, hq, hs⟩)
    · obtain ⟨q, hq, hs⟩ := Path.contains_iff.1 h
      exact Path.contains_iff.2 ⟨q, (prefix_addDestinations ps).subset hq, hs⟩
    · have hcontains : (chunk.addDestinations ps).destinations.contains q = true :=
        contains_addDestinations hq
      obtain ⟨r, hr, hsame⟩ := Path.contains_iff.1 hcontains
      exact Path.contains_iff.2 ⟨r, hr, hsame.trans hs⟩

/-! ### Distinct destinations -/

/-- No destination is listed twice, in whatever spelling. -/
def Distinct (chunk : Chunk) : Prop :=
  chunk.destinations.Pairwise fun p q => ¬ p.Same q

theorem Distinct.addDestination (h : chunk.Distinct) (p : Path) :
    (chunk.addDestination p).Distinct := by
  unfold Chunk.addDestination
  split
  · exact h
  · next hp =>
    refine List.pairwise_append.2 ⟨h, List.pairwise_singleton _ _, fun q hq r hr => ?_⟩
    obtain rfl := List.mem_singleton.1 hr
    exact Path.contains_eq_false_iff.1 (Bool.eq_false_iff.2 hp) q hq

theorem Distinct.addDestinations (h : chunk.Distinct) (ps : List Path) :
    (chunk.addDestinations ps).Distinct := by
  induction ps generalizing chunk with
  | nil => exact h
  | cons p ps ih => exact ih (h.addDestination p)

/-- All destinations were given to the chunk one by one. -/
def Built (chunk : Chunk) : Prop :=
  ∃ (base : Chunk) (ps : List Path), base.destinations = [] ∧ chunk = base.addDestinations ps

theorem Built.distinct (h : chunk.Built) : chunk.Distinct := by
  obtain ⟨base, ps, hbase, rfl⟩ := h
  have hdistinct : base.Distinct := by
    rw [Distinct, hbase]
    exact List.Pairwise.nil
  exact hdistinct.addDestinations ps

/-- Destinations that are not known come behind the others. -/
theorem destinations_addDestinations {ps : List Path}
    (h : (chunk.destinations ++ ps).Pairwise fun p q => ¬ p.Same q) :
    (chunk.addDestinations ps).destinations = chunk.destinations ++ ps := by
  induction ps generalizing chunk with
  | nil => exact (List.append_nil _).symm
  | cons p ps ih =>
    have hnew : chunk.destinations.contains p = false :=
      Path.contains_eq_false_iff.2 fun q hq =>
        (List.pairwise_append.1 h).2.2 q hq p List.mem_cons_self
    have hadd : (chunk.addDestination p).destinations = chunk.destinations ++ [p] := by
      rw [Chunk.addDestination, if_neg (Bool.eq_false_iff.1 hnew)]
    rw [List.append_cons, ← hadd] at h
    rw [addDestinations_cons, ih h, hadd, ← List.append_cons]

/-! ### References -/

/-- The references that are followed are the ones that are not embedded. -/
theorem mem_followed {d : Dependency} :
    d ∈ chunk.followed ↔ d ∈ chunk.dependencies ∧ d.embedded = false := by
  rw [followed, List.mem_filter, Bool.not_eq_true']

theorem followed_congr {a b : Chunk} (h : a.dependencies = b.dependencies) :
    a.followed = b.followed := by
  rw [followed, followed, h]

end Minipack.Chunk
