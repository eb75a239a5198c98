/-
Numbers of variable length are read back as they were written (`Vlq.decode?_encode`), as long as
they have at most thirteen digits.

The reader is followed from the middle of a number: with the digits of `n` ahead it finishes the
number whose lower bits it has and goes on with the next one (`Vlq.decodeFrom_digits`).
-/
import Mathlib.Tactic.Ring
import Minipack.SourceMap.Vlq

namespace Minipack.Vlq

/-! ### Digits -/

theorem bits_digit : ∀ n < 64, bits (Base64.digit n) = n := by
  decide +kernel

/-- Digits are no separators of mappings. -/
theorem digit_ne_separator : ∀ n < 64, Base64.digit n ≠ ',' ∧ Base64.digit n ≠ ';' := by
  decide +kernel

theorem digits_ne_nil (n : Nat) : digits n ≠ [] := by
  rw [digits]
  split <;> exact List.cons_ne_nil _ _

theorem ne_separator_of_mem_digits {n : Nat} {c : Char} (h : c ∈ digits n) : c ≠ ',' ∧ c ≠ ';' := by
  induction n using Nat.strongRecOn with
  | ind n ih =>
    rw [digits] at h
    split at h
    · next hsmall =>
      rw [List.mem_singleton.1 h]
      exact digit_ne_separator n (Nat.lt_trans hsmall (by decide))
    · rcases List.mem_cons.1 h with rfl | h
      · exact digit_ne_separator _ (by omega)
      · exact ih (n / 32) (by omega) h

/-! ### Signs -/

theorem unfold_fold (n : Int) : unfold (fold n) = n := by
  unfold fold unfold
  split <;> split <;> omega

/-! ### Reading -/

/-- Reading the digits of a number gives the number with the bits that were read before. -/
theorem decodeFrom_digits {places : Nat} {n current shift : Nat} (h : n < 32 ^ places)
    (hplaces : 0 < places) (hshift : shift + 5 * places ≤ maxShift + 5) (rest : List Char) :
    decodeFrom current shift (digits n ++ rest) =
      (decodeFrom 0 0 rest).map (unfold (current + n * 2 ^ shift) :: ·) := by
  induction places generalizing n current shift with
  | zero => exact absurd hplaces (Nat.lt_irrefl 0)
  | succ places ih =>
    have hle : ¬ maxShift < shift := by omega
    rw [digits]
    split
    · next hsmall =>
      -- the last digit
      have hbits := bits_digit n (Nat.lt_trans hsmall (by decide))
      rw [List.singleton_append, decodeFrom, if_neg hle]
      dsimp only
      rw [hbits, if_neg (Nat.not_le.2 hsmall), Nat.mod_eq_of_lt hsmall]
      rfl
    · next hlarge =>
      have hbits := bits_digit (n % 32 + 32) (by omega)
      have hpower : 0 < places := by
        rcases Nat.eq_zero_or_pos places with rfl | hpos
        · exact absurd h (by omega)
        · exact hpos
      have hdiv : n / 32 < 32 ^ places := by
        rw [Nat.div_lt_iff_lt_mul (by decide)]
        exact h
      rw [List.cons_append, decodeFrom, if_neg hle]
      dsimp only
      rw [hbits, if_pos (Nat.le_add_left 32 _), ih hdiv hpower (by omega)]
      -- the bits of this digit and those of the digits behind it
      have hsum : current + (n % 32 + 32) % 32 * Nat.pow 2 shift + n / 32 * 2 ^ (shift + 5) =
          current + n * 2 ^ shift := by
        have hmod : (n % 32 + 32) % 32 = n % 32 := by omega
        rw [hmod, Nat.pow_add]
        show current + n % 32 * 2 ^ shift + n / 32 * (2 ^ shift * 2 ^ 5) = _
        generalize 2 ^ shift = unit
        have hsplit : n * unit = n % 32 * unit + n / 32 * (unit * 2 ^ 5) := by
          conv => lhs; rw [← Nat.mod_add_div n 32]
          ring
        omega
      rw [hsum]

/-- The numbers that have at most thirteen digits. -/
def Short (n : Int) : Prop :=
  fold n < 32 ^ 13

theorem short_of_lt {n : Int} (h : n.natAbs < 2 ^ 32) : Short n := by
  unfold Short fold
  split <;> omega

/-- Numbers are read back. -/
theorem decodeFrom_encode {numbers : List Int} (h : ∀ n ∈ numbers, Short n) :
    decodeFrom 0 0 (numbers.flatMap encode) = some numbers := by
  induction numbers with
  | nil => rfl
  | cons n rest ih =>
    rw [List.flatMap_cons, encode,
      decodeFrom_digits (h n List.mem_cons_self) (by decide) (by decide),
      ih fun m hm => h m (List.mem_cons_of_mem _ hm), Nat.zero_add, Nat.pow_zero, Nat.mul_one,
      unfold_fold]
    rfl

theorem decode?_encode {numbers : List Int} (hne : numbers ≠ []) (h : ∀ n ∈ numbers, Short n) :
    decode? (numbers.flatMap encode) = some numbers := by
  have htext : (numbers.flatMap encode).isEmpty = false := by
    obtain ⟨n, rest, rfl⟩ := List.exists_cons_of_ne_nil hne
    rw [List.isEmpty_eq_false_iff, List.flatMap_cons]
    exact List.append_ne_nil_of_left_ne_nil (digits_ne_nil _) _
  rw [decode?, htext]
  exact decodeFrom_encode h

end Minipack.Vlq
