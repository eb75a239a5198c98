/-
The keys of packed modules.

A key is a number in base 32 (`Bundle.ofList_digits`), and the number can be read off it again
(`Bundle.value_digits`), so different numbers have different keys.  A destination is keyed by its
place among the distinct primary destinations.  Two destinations share a key exactly when they are
the same path (`Bundle.key_eq_iff`), and the distinct destinations are numbered in the order in
which they occur first (`Bundle.key?_of_getElem?`).
-/
import Mathlib.Data.Nat.Digits.Defs
import Minipack.Bundle
import Minipack.Proofs.Path.Distinct

namespace Minipack.Bundle

/-! ### Numbers -/

/-- The digits below 32. -/
def alphabet : List Char := "0123456789abcdefghijklmnopqrstuv".toList

/-- A number written in base 32. -/
def base32 (n : Nat) : String :=
  if n = 0 then "0"
  else String.ofList ((Nat.digits 32 n).reverse.map fun d => alphabet.getD d '0')

/-- The number that digits stand for. -/
def value (digits : List Char) : Nat :=
  digits.foldl (fun n c => n * 32 + alphabet.idxOf c) 0

theorem digit_eq {d : Nat} (h : d < 32) : digit d = alphabet.getD d '0' := by
  have hall : ∀ d < 32, digit d = alphabet.getD d '0' := by decide +kernel
  exact hall d h

theorem idxOf_digit {d : Nat} (h : d < 32) : alphabet.idxOf (digit d) = d := by
  have hall : ∀ d < 32, alphabet.idxOf (digit d) = d := by decide +kernel
  exact hall d h

/-- The digits of a number are those of its base-32 form. -/
theorem ofList_digits (n : Nat) : String.ofList (digits n) = base32 n := by
  have hpos {n : Nat} (hn : 0 < n) :
      digits n = (Nat.digits 32 n).reverse.map fun d => alphabet.getD d '0' := by
    induction n using Nat.strongRecOn with
    | _ n ih =>
      rw [digits, Nat.digits_def' (by decide) hn, List.reverse_cons, List.map_append]
      split
      · next hlt =>
        rw [Nat.div_eq_of_lt hlt, Nat.digits_zero, Nat.mod_eq_of_lt hlt, digit_eq hlt]
        rfl
      · next hge =>
        have hdiv : 0 < n / 32 := Nat.div_pos (Nat.le_of_not_lt hge) (by decide)
        rw [ih (n / 32) (Nat.div_lt_self hn (by decide)) hdiv,
          digit_eq (Nat.mod_lt n (by decide))]
        rfl
  rw [base32]
  split
  · next hn => rw [hn]; decide +kernel
  · next hn => rw [hpos (Nat.pos_of_ne_zero hn)]

/-- A number can be read off its digits. -/
theorem value_digits (n : Nat) : value (digits n) = n := by
  induction n using Nat.strongRecOn with
  | _ n ih =>
    rw [digits]
    split
    · next hlt =>
      show 0 * 32 + alphabet.idxOf (digit n) = n
      rw [idxOf_digit hlt]
      omega
    · next hge =>
      have hn : 0 < n := by omega
      have hrest := ih (n / 32) (Nat.div_lt_self hn (by decide))
      rw [value] at hrest ⊢
      rw [List.foldl_append, hrest]
      show n / 32 * 32 + alphabet.idxOf (digit (n % 32)) = n
      rw [idxOf_digit (Nat.mod_lt n (by decide))]
      omega

/-- Different numbers have different digits. -/
theorem digits_inj {m n : Nat} : digits m = digits n ↔ m = n := by
  constructor
  · intro h
    rw [← value_digits m, h, value_digits]
  · rintro rfl
    rfl

/-! ### Distinct destinations -/

theorem primaries_eq_foldl (modules : List Chunk) :
    primaries modules = (modules.filterMap Chunk.destination?).foldl Path.note [] := rfl

/-- The distinct primary destinations, in the order in which they occur first. -/
theorem primaries_eq (modules : List Chunk) :
    primaries modules = (modules.filterMap Chunk.destination?).eraseDups := by
  have hall :
      ((modules.filterMap Chunk.destination?).filter fun p => !([] : List Path).contains p) =
        modules.filterMap Chunk.destination? :=
    List.filter_eq_self.2 fun _ _ => rfl
  rw [primaries_eq_foldl, Path.foldl_note, hall, List.nil_append]

theorem pairwise_primaries (modules : List Chunk) :
    (primaries modules).Pairwise fun p q => ¬ p.Same q :=
  Path.pairwise_foldl_note List.Pairwise.nil _

theorem contains_primaries {modules : List Chunk} {chunk : Chunk} (hc : chunk ∈ modules) {p : Path}
    (hp : chunk.destination? = some p) : (primaries modules).contains p = true := by
  rw [primaries_eq_foldl, Path.contains_foldl_note, Bool.or_eq_true]
  exact Or.inr (Path.contains_iff.2 ⟨p, List.mem_filterMap.2 ⟨chunk, hc, hp⟩, rfl⟩)

/-! ### Keys -/

variable {places : List Path} {p q : Path} {key key' : String}

/-- A place that is one of the given ones has a key. -/
theorem exists_key? (h : places.contains p = true) : ∃ key, key? places p = some key := by
  have hsome : (places.findIdx? (· == p)).isSome = true := by
    obtain ⟨r, hr, hs⟩ := Path.contains_iff.1 h
    rw [List.findIdx?_isSome, List.any_eq_true]
    exact ⟨r, hr, Path.beq_iff_same.2 hs⟩
  obtain ⟨n, hn⟩ := Option.isSome_iff_exists.1 hsome
  exact ⟨_, by rw [key?, hn]; rfl⟩

theorem key?_eq_some_iff :
    key? places p = some key ↔
      ∃ n, places.findIdx? (· == p) = some n ∧ String.ofList (digits n) = key := by
  rw [key?, Option.map_eq_some_iff]

/-- What has a key is one of the given places. -/
theorem contains_of_key? (h : key? places p = some key) : places.contains p = true := by
  obtain ⟨n, hn, -⟩ := key?_eq_some_iff.1 h
  obtain ⟨hlt, hsame, -⟩ := List.findIdx?_eq_some_iff_getElem.1 hn
  exact Path.contains_iff.2 ⟨places[n], List.getElem_mem hlt, Path.beq_iff_same.1 hsame⟩

/-- The same path has the same key. -/
theorem key?_congr (h : p.Same q) : key? places p = key? places q := by
  have hpred : (fun r : Path => r == p) = fun r => r == q := by
    funext r
    rw [Bool.eq_iff_iff, Path.beq_iff_same, Path.beq_iff_same]
    exact ⟨fun hr => hr.trans h, fun hr => hr.trans h.symm⟩
  rw [key?, key?, hpred]

/-- Two destinations share their key exactly when they are the same path. -/
theorem key_eq_iff (hp : key? places p = some key) (hq : key? places q = some key') :
    key = key' ↔ p.Same q := by
  constructor
  · obtain ⟨m, hm, rfl⟩ := key?_eq_some_iff.1 hp
    obtain ⟨n, hn, rfl⟩ := key?_eq_some_iff.1 hq
    intro h
    obtain rfl : m = n := digits_inj.1 (String.ofList_injective h)
    obtain ⟨hlt, hsame, -⟩ := List.findIdx?_eq_some_iff_getElem.1 hm
    obtain ⟨hlt', hsame', -⟩ := List.findIdx?_eq_some_iff_getElem.1 hn
    exact (Path.beq_iff_same.1 hsame).symm.trans (Path.beq_iff_same.1 hsame')
  · intro h
    rw [key?_congr h, hq] at hp
    exact (Option.some.inj hp).symm

/-- Among distinct places, the one at `n` has the number `n` as its key. -/
theorem key?_of_getElem? (hd : places.Pairwise fun p q => ¬ p.Same q) {n : Nat}
    (hn : places[n]? = some q) (hs : q.Same p) : key? places p = some (base32 n) := by
  obtain ⟨hlt, rfl⟩ := List.getElem?_eq_some_iff.1 hn
  refine key?_eq_some_iff.2 ⟨n, List.findIdx?_eq_some_iff_getElem.2 ⟨hlt, ?_, ?_⟩, ofList_digits n⟩
  · exact Path.beq_iff_same.2 hs
  · intro j hj hsame
    exact List.pairwise_iff_getElem.1 hd j n (Nat.lt_trans hj hlt) hlt hj
      ((Path.beq_iff_same.1 hsame).trans hs.symm)

end Minipack.Bundle
