/-
The order of paths.

Components are totally ordered by rank and then by text, and two components that compare as equal
are the same.  Paths inherit the order of their component lists, so `compare` on paths is
transitive, and it answers `eq` exactly for two spellings of one path (`Path.compare_eq_iff_same`).
-/
import Minipack.Path.Basic

namespace Minipack

open Std

namespace Component

theorem compare_def (a b : Component) :
    compare a b = (compare a.rank b.rank).then (compare a.text b.text) := rfl

/-- Components with the same rank and the same text are the same. -/
theorem eq_of_rank_of_text {a b : Component} (hr : a.rank = b.rank) (ht : a.text = b.text) :
    a = b := by
  cases a <;> cases b <;> simp_all [rank, text]

instance : TransOrd Component :=
  inferInstanceAs <| TransCmp <|
    compareLex (compareOn Component.rank) (compareOn Component.text)

instance : LawfulEqOrd Component where
  eq_of_compare {a b} h := by
    rw [compare_def, Ordering.then_eq_eq] at h
    exact eq_of_rank_of_text (LawfulEqOrd.eq_of_compare h.1) (LawfulEqOrd.eq_of_compare h.2)

end Component

namespace Path

instance : TransOrd Path :=
  inferInstanceAs <| TransCmp <| compareOn Path.components

/-- Paths compare as equal exactly when they have the same components. -/
theorem compare_eq_iff_same {p q : Path} : compare p q = .eq ↔ p.Same q :=
  show compare p.components q.components = .eq ↔ p.components = q.components from
    LawfulEqOrd.compare_eq_iff_eq

theorem compare_ne_eq_iff {p q : Path} : compare p q ≠ .eq ↔ ¬ p.Same q :=
  not_congr compare_eq_iff_same

instance (p q : Path) : Decidable (p.Same q) :=
  inferInstanceAs (Decidable (p.components = q.components))

theorem beq_eq_false_iff {p q : Path} : (p == q) = false ↔ ¬ p.Same q := by
  rw [← beq_iff_same, Bool.not_eq_true]

/-- Sorting by paths that are all different orders strictly. -/
theorem pairwise_mergeSort {α : Type} (f : α → Path) {l : List α}
    (h : l.Pairwise fun a b => ¬ (f a).Same (f b)) :
    (l.mergeSort fun a b => compare (f a) (f b) != .gt).Pairwise
      fun a b => compare (f a) (f b) = .lt := by
  have hiff {p q : Path} : (compare p q != .gt) = true ↔ (compare p q).isLE = true := by
    rw [bne_iff_ne, ne_eq, Ordering.isLE_iff_ne_gt]
  have hle : (l.mergeSort fun a b => compare (f a) (f b) != .gt).Pairwise
      fun a b => (compare (f a) (f b) != .gt) = true := by
    refine List.pairwise_mergeSort ?_ ?_ l
    · intro a b c hab hbc
      rw [hiff] at hab hbc ⊢
      exact TransCmp.isLE_trans hab hbc
    · intro a b
      have hswap : compare (f b) (f a) = (compare (f a) (f b)).swap := OrientedCmp.eq_swap
      rw [Bool.or_eq_true, hiff, hiff, hswap]
      cases compare (f a) (f b) <;> simp
  have hne : (l.mergeSort fun a b => compare (f a) (f b) != .gt).Pairwise
      fun a b => ¬ (f a).Same (f b) :=
    h.perm (List.mergeSort_perm l _).symm fun hab hba => hab hba.symm
  refine (hle.and hne).imp fun {a b} hab => ?_
  obtain ⟨hab, hsame⟩ := hab
  rw [hiff] at hab
  rw [← compare_eq_iff_same] at hsame
  revert hab hsame
  cases compare (f a) (f b) <;> simp

/-- A list holds a path when one of its members is the same path. -/
theorem contains_iff {l : List Path} {p : Path} : l.contains p = true ↔ ∃ q ∈ l, q.Same p := by
  induction l with
  | nil => simp
  | cons q rest ih =>
    rw [List.contains_cons, Bool.or_eq_true, ih, beq_iff_same]
    simp only [List.mem_cons, exists_eq_or_imp]
    exact or_congr_left ⟨Same.symm, Same.symm⟩

theorem contains_eq_false_iff {l : List Path} {p : Path} :
    l.contains p = false ↔ ∀ q ∈ l, ¬ q.Same p := by
  rw [← Bool.not_eq_true, contains_iff]
  exact ⟨fun h q hq hs => h ⟨q, hq, hs⟩, fun h ⟨q, hq, hs⟩ => h q hq hs⟩

end Path

end Minipack
