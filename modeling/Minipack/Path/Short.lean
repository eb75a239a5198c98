/-
There are only finitely many short paths.

A disk reads no path of more than `Disk.maxPathSize` bytes.  All texts of at most so many characters
make a finite list, and `untried` counts those whose path is none of the given ones.  Trying a new
short path makes the count smaller, which is why following references comes to an end.
-/
import Minipack.Disk.Basic

namespace Minipack

/-- All characters. -/
def allChars : List Char :=
  (List.range 0x110000).map Char.ofNat

theorem mem_allChars (c : Char) : c ∈ allChars := by
  refine List.mem_map.2 ⟨c.toNat, List.mem_range.2 ?_, Char.ofNat_toNat c⟩
  rcases c.valid with h | ⟨_, h⟩
  · exact Nat.lt_trans h (by decide)
  · exact h

/-- All texts of at most `n` characters. -/
def textsUpTo : Nat → List (List Char)
  | 0 => [[]]
  | n + 1 => [] :: allChars.flatMap fun c => (textsUpTo n).map (c :: ·)

theorem mem_textsUpTo {text : List Char} : ∀ {n : Nat}, text.length ≤ n → text ∈ textsUpTo n := by
  induction text with
  | nil => intro n _; cases n <;> simp [textsUpTo]
  | cons c rest ih =>
    intro n h
    cases n with
    | zero => simp at h
    | succ n =>
      have hrest : rest ∈ textsUpTo n := ih (Nat.le_of_succ_le_succ h)
      exact List.mem_cons_of_mem _
        (List.mem_flatMap.2 ⟨c, mem_allChars c, List.mem_map.2 ⟨rest, hrest, rfl⟩⟩)

/-- The number of short texts whose path is not among the given ones. -/
noncomputable def untried (tried : List Path) : Nat :=
  (textsUpTo Disk.maxPathSize).countP fun text => !tried.contains ⟨String.ofList text⟩

/-- A text has at least as many bytes as characters. -/
theorem length_le_size (text : List Char) : text.length ≤ Disk.size text := by
  induction text with
  | nil => simp
  | cons c rest ih =>
    have : Disk.size (c :: rest) = c.utf8Size + Disk.size rest := by
      simp [Disk.size, String.ofList_cons]
    have := c.utf8Size_pos
    simp only [List.length_cons]
    omega

/-- Counting fewer of the same things, one of which drops out. -/
theorem countP_lt_countP {α : Type} {p q : α → Bool} {l : List α}
    (hpq : ∀ x, p x = true → q x = true) {a : α} (ha : a ∈ l) (hq : q a = true)
    (hp : p a = false) : l.countP p < l.countP q := by
  induction l with
  | nil => simp at ha
  | cons b l ih =>
    have hle : l.countP p ≤ l.countP q := List.countP_mono_left fun x _ => hpq x
    rcases List.mem_cons.1 ha with rfl | ha
    · simp only [List.countP_cons, hq, hp]
      simpa using Nat.lt_succ_of_le hle
    · have := ih ha
      simp only [List.countP_cons]
      cases hb : p b
      · cases q b <;> simp <;> omega
      · simp [hpq b hb]; omega

/-- Trying a new short path leaves fewer. -/
theorem untried_cons_lt {tried : List Path} {file : Path}
    (hshort : Disk.size file.text.toList ≤ Disk.maxPathSize) (hnew : tried.contains file = false) :
    untried (file :: tried) < untried tried := by
  have hself : (⟨String.ofList file.text.toList⟩ : Path) = file := by
    cases file; simp [String.ofList_toList]
  refine countP_lt_countP (a := file.text.toList) ?_ ?_ ?_ ?_
  · intro text h
    simp only [List.contains_cons, Bool.not_or, Bool.and_eq_true] at h
    exact h.2
  · exact mem_textsUpTo (Nat.le_trans (length_le_size _) hshort)
  · rw [hself, hnew]; rfl
  · rw [hself, List.contains_cons, Path.beq_iff_same.2 (Path.same_refl file)]; rfl

/-- A path that leads anywhere is short. -/
theorem size_le_of_find {disk : Disk} {follow : Bool} {path : Path} {place : Place}
    (h : disk.find follow path = .ok place) : Disk.size path.text.toList ≤ Disk.maxPathSize := by
  apply Nat.le_of_not_lt
  intro hlong
  have hspot : ∃ fault, disk.spot follow path = .error fault := by
    unfold Disk.spot
    simp only [hlong, if_true]
    split
    · exact ⟨_, rfl⟩
    · split <;> exact ⟨_, rfl⟩
  obtain ⟨fault, hspot⟩ := hspot
  simp [Disk.find, hspot] at h

/-- What can be read has a short path. -/
theorem size_le_of_read {disk : Disk} {path : Path} {content : ByteArray}
    (h : disk.read path = .ok content) : Disk.size path.text.toList ≤ Disk.maxPathSize := by
  cases hfind : disk.find true path with
  | error fault => simp [Disk.read, hfind] at h
  | ok place => exact size_le_of_find hfind

end Minipack
