/-
Patterns with one star.

Characters that no pattern gives a meaning to stand for themselves (`Glob.IsPlain`).  A pattern of
such characters with one star among them is read as it is written (`Glob.read_star`), and matches
the texts that begin with what stands before the star and go on to end with what stands behind it
(`Glob.isMatch_star`): the two may not overlap.
-/
import Minipack.Glob.Basic
import Mathlib.Data.List.Infix

namespace Minipack.Glob

/-- Characters that stand for themselves in a pattern. -/
def IsPlain (text : List Char) : Prop :=
  ∀ c ∈ text, c ≠ '*' ∧ c ≠ '?' ∧ c ≠ '['

instance (text : List Char) : Decidable (IsPlain text) :=
  List.decidableBAll _ text

variable {text start stop : List Char}

theorem IsPlain.star_not_mem (h : IsPlain text) : '*' ∉ text :=
  fun hmem => (h _ hmem).1 rfl

/-! ### Reading -/

/-- Plain characters are read one by one, whatever stands around them. -/
theorem readFrom_plain (h : IsPlain text) (fuel position : Nat) (before : Option Char)
    (done : List GlobToken) (rest : List Char) :
    ∃ position' before', readFrom (text.length + fuel) position before done (text ++ rest) =
      readFrom fuel position' before' ((text.map .char).reverse ++ done) rest := by
  induction text generalizing position before done with
  | nil => exact ⟨position, before, by simp⟩
  | cons c text ih =>
    obtain ⟨hstar, hany, hset⟩ := h c List.mem_cons_self
    obtain ⟨position', before', hread⟩ :=
      ih (fun d hd => h d (List.mem_cons_of_mem _ hd)) (position + 1) (some c) (.char c :: done)
    refine ⟨position', before', ?_⟩
    rw [List.length_cons, Nat.succ_add, List.cons_append, readFrom, hread, List.map_cons,
      List.reverse_cons, List.append_assoc, List.singleton_append]
    all_goals simpa

theorem readFrom_nil (fuel position : Nat) (before : Option Char) (done : List GlobToken) :
    readFrom fuel position before done [] = .ok done.reverse := by
  cases fuel with
  | zero => rw [readFrom]
  | succ fuel =>
    rw [readFrom]
    exact nofun

/-- A star without another one behind it is a run of characters. -/
theorem readFrom_star (h : IsPlain stop) (fuel position : Nat) (before : Option Char)
    (done : List GlobToken) :
    ∃ position' before', readFrom (fuel + 1) position before done ('*' :: stop) =
      readFrom fuel position' before' (.anyRun :: done) stop := by
  have hmore : stop.takeWhile (· == '*') = [] := by
    cases stop with
    | nil => rfl
    | cons c stop =>
      exact List.takeWhile_cons_of_neg (by simpa using (h c List.mem_cons_self).1)
  refine ⟨position + 1 + 0, some '*', ?_⟩
  rw [readFrom, hmore]
  rfl

theorem read_star (hstart : IsPlain start) (hstop : IsPlain stop) :
    read (String.ofList (start ++ '*' :: stop)) =
      .ok (start.map .char ++ .anyRun :: stop.map .char) := by
  have hlength : (String.ofList (start ++ '*' :: stop)).length + 1 =
      start.length + (stop.length + 1 + 1) := by
    rw [String.length_ofList, List.length_append, List.length_cons, Nat.add_assoc]
  obtain ⟨_, _, hbefore⟩ := readFrom_plain hstart (stop.length + 1 + 1) 0 none [] ('*' :: stop)
  rw [List.append_nil] at hbefore
  obtain ⟨_, _, hstar⟩ := readFrom_star hstop (stop.length + 1) _ _ (start.map .char).reverse
  obtain ⟨_, _, hbehind⟩ := readFrom_plain hstop 1 _ _ (.anyRun :: (start.map .char).reverse) []
  rw [List.append_nil] at hbehind
  rw [read, hlength, String.toList_ofList, hbefore, hstar, hbehind, readFrom_nil,
    List.reverse_append, List.reverse_cons, List.reverse_reverse, List.reverse_reverse,
    List.append_assoc, List.singleton_append]

/-! ### Matching -/

theorem mem_tails {tail : List Char} : tail ∈ tails text ↔ tail <:+ text := by
  induction text with
  | nil => simp [tails]
  | cons c text ih => rw [tails, List.mem_cons, ih, List.suffix_cons_iff]

theorem accepts_plain {glob : Glob} {cs : List Char} :
    accepts (text.map .char ++ glob) cs = true ↔
      ∃ tail, cs = text ++ tail ∧ accepts glob tail = true := by
  induction text generalizing cs with
  | nil => exact ⟨fun h => ⟨cs, rfl, h⟩, fun ⟨tail, htail, h⟩ => htail ▸ h⟩
  | cons c text ih =>
    cases cs with
    | nil => simp [accepts]
    | cons d cs =>
      rw [List.map_cons, List.cons_append, accepts, Bool.and_eq_true, ih, tokenHolds, beq_iff_eq]
      · simp only [List.cons_append, List.cons.injEq, and_assoc, exists_and_left]
      · nofun
      · nofun

theorem accepts_run {glob : Glob} {cs : List Char} :
    accepts (.anyRun :: glob) cs = true ↔
      ∃ run tail, cs = run ++ tail ∧ accepts glob tail = true := by
  rw [accepts, List.any_eq_true]
  constructor
  · rintro ⟨tail, hmem, h⟩
    obtain ⟨run, hrun⟩ := mem_tails.1 hmem
    exact ⟨run, tail, hrun.symm, h⟩
  · rintro ⟨run, tail, rfl, h⟩
    exact ⟨tail, mem_tails.2 (List.suffix_append _ _), h⟩

/-- The star stands for what is between the beginning and the end. -/
theorem isMatch_star {text : String} :
    isMatch (start.map .char ++ .anyRun :: stop.map .char) text = true ↔
      ∃ run, text.toList = start ++ run ++ stop := by
  have hend : ∀ cs, accepts (stop.map .char) cs = true ↔ cs = stop := fun cs => by
    have hplain : accepts (stop.map .char ++ []) cs = true ↔
        ∃ tail, cs = stop ++ tail ∧ accepts [] tail = true := accepts_plain
    rw [List.append_nil] at hplain
    rw [hplain]
    constructor
    · rintro ⟨tail, rfl, h⟩
      rw [List.isEmpty_iff.1 h, List.append_nil]
    · rintro rfl
      exact ⟨[], (List.append_nil _).symm, rfl⟩
  rw [isMatch, accepts_plain]
  constructor
  · rintro ⟨tail, htext, h⟩
    obtain ⟨run, last, rfl, hlast⟩ := accepts_run.1 h
    rw [(hend _).1 hlast] at htext
    exact ⟨run, by rw [htext, List.append_assoc]⟩
  · rintro ⟨run, htext⟩
    exact ⟨run ++ stop, by rw [htext, List.append_assoc],
      accepts_run.2 ⟨run, stop, rfl, (hend _).2 rfl⟩⟩

end Minipack.Glob
