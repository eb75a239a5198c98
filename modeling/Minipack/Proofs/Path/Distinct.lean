/-
Distinct paths.

Collecting paths one after the other, each unless it is known in some spelling, keeps the first of
each (`Path.foldl_note`): no path is collected twice, and every path is.
-/
import Minipack.Proofs.Path.Order

namespace Minipack.Path

/-- One path more, unless it is known. -/
def note (known : List Path) (p : Path) : List Path :=
  if known.contains p then known else known ++ [p]

theorem contains_note (known : List Path) (p q : Path) :
    (note known p).contains q = (known.contains q || q == p) := by
  rw [note]
  split
  · next hp =>
    cases hq : q == p with
    | false => rw [Bool.or_false]
    | true =>
      obtain ⟨r, hr, hs⟩ := Path.contains_iff.1 hp
      rw [Bool.or_true, Path.contains_iff]
      exact ⟨r, hr, hs.trans (Path.beq_iff_same.1 hq).symm⟩
  · rw [List.contains_append, List.contains_cons, List.contains_nil, Bool.or_false]

/-- Noting one after the other keeps the first of each. -/
theorem foldl_note (known paths : List Path) :
    paths.foldl note known =
      known ++ (paths.filter fun p => !known.contains p).eraseDups := by
  induction paths generalizing known with
  | nil => exact (List.append_nil known).symm
  | cons p paths ih =>
    rw [List.foldl_cons, List.filter_cons, ih]
    cases hp : known.contains p with
    | true =>
      have hnote : note known p = known := if_pos hp
      rw [hnote]
      rfl
    | false =>
      have hnote : note known p = known ++ [p] := if_neg (Bool.eq_false_iff.1 hp)
      have hfilter : (paths.filter fun q => !(note known p).contains q) =
          (paths.filter fun q => !known.contains q).filter fun q => !q == p := by
        rw [List.filter_filter]
        refine List.filter_congr fun q _ => ?_
        rw [contains_note, Bool.not_or, Bool.and_comm]
      rw [hfilter, hnote, Bool.not_false, if_pos rfl, List.eraseDups_cons, List.append_assoc]
      rfl

theorem pairwise_foldl_note {known : List Path} (h : known.Pairwise fun p q => ¬ p.Same q)
    (paths : List Path) : (paths.foldl note known).Pairwise fun p q => ¬ p.Same q := by
  induction paths generalizing known with
  | nil => exact h
  | cons p paths ih =>
    refine ih ?_
    rw [note]
    split
    · exact h
    · next hp =>
      refine List.pairwise_append.2 ⟨h, List.pairwise_singleton _ _, fun q hq r hr => ?_⟩
      obtain rfl := List.mem_singleton.1 hr
      exact Path.contains_eq_false_iff.1 (Bool.eq_false_iff.2 hp) q hq

theorem contains_foldl_note (known paths : List Path) (q : Path) :
    (paths.foldl note known).contains q = (known.contains q || paths.contains q) := by
  induction paths generalizing known with
  | nil => rw [List.contains_nil, Bool.or_false]; rfl
  | cons p paths ih => rw [List.foldl_cons, ih, contains_note, List.contains_cons, Bool.or_assoc]

/-- Nothing else is collected. -/
theorem mem_of_mem_foldl_note {known paths : List Path} {p : Path}
    (h : p ∈ paths.foldl note known) : p ∈ known ∨ p ∈ paths := by
  induction paths generalizing known with
  | nil => exact Or.inl h
  | cons q paths ih =>
    rcases ih h with h | h
    · rw [note] at h
      split at h
      · exact Or.inl h
      · refine (List.mem_append.1 h).imp_right fun h => ?_
        rw [List.mem_singleton.1 h]
        exact List.mem_cons_self
    · exact Or.inr (List.mem_cons_of_mem _ h)

end Minipack.Path
