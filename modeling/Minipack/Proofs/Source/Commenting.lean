/-
Comments between two marks.

A comment is the first mark, some text, and the nearest closing mark; where none closes there is no
comment (`Marks.comment?_eq_some`).  Cutting takes comments out from left to right, without regard
to what else the text says (`Marks.cut`).  What style sheets and templates keep of a text is what
such a cut leaves (`stripBlockComments_eq`, `stripMarkupComments_eq`), and a piece of a text is left
as it is exactly if no comment begins in it (`Marks.cut_append_iff`).
-/
import Minipack.Source.Comments
import Mathlib.Data.List.Infix

namespace Minipack.Source

/-- The two marks of comments. -/
structure Marks where
  first : List Char
  last : List Char
  first_ne_nil : first ≠ []
  last_ne_nil : last ≠ []

/-- The marks of comments in style sheets. -/
def blockMarks : Marks where
  first := ['/', '*']
  last := ['*', '/']
  first_ne_nil := by decide
  last_ne_nil := by decide

/-- The marks of comments in templates. -/
def markupMarks : Marks where
  first := ['<', '!', '-', '-']
  last := ['-', '-', '>']
  first_ne_nil := by decide
  last_ne_nil := by decide

/-- A part of a text that has comments. -/
inductive Cut where
  | kept (c : Char)
  /-- A comment with its marks. -/
  | dropped (text : List Char)
deriving DecidableEq

/-- What is left of a part. -/
def Cut.left : Cut → List Char
  | kept c => [c]
  | dropped _ => []

/-! ### From each character on -/

/-- Whether something holds of a text from each character on of the piece that it begins with. -/
def throughout (p : List Char → Bool) : List Char → List Char → Bool
  | [], _ => true
  | c :: piece, rest => p (c :: (piece ++ rest)) && throughout p piece rest

theorem throughout_append (p : List Char → Bool) (first second rest : List Char) :
    throughout p (first ++ second) rest =
      (throughout p first (second ++ rest) && throughout p second rest) := by
  induction first with
  | nil => rfl
  | cons c first ih =>
    rw [List.cons_append, throughout, throughout, ih, List.append_assoc, Bool.and_assoc]

theorem throughout_of_suffix {p : List Char → Bool} {piece rest : List Char}
    (h : ∀ tail, tail <:+ piece ++ rest → p tail = true) : throughout p piece rest = true := by
  induction piece with
  | nil => rfl
  | cons c piece ih =>
    have hhead : p (c :: (piece ++ rest)) = true := h _ (List.suffix_refl _)
    rw [throughout, hhead, ih fun tail htail => h tail (htail.trans (List.suffix_cons _ _))]
    rfl

theorem throughout_of_head {p : List Char → Bool} {piece : List Char}
    (h : ∀ c ∈ piece, ∀ tail, p (c :: tail) = true) (rest : List Char) :
    throughout p piece rest = true := by
  induction piece with
  | nil => rfl
  | cons c piece ih =>
    rw [throughout, h c List.mem_cons_self, ih fun d hd => h d (List.mem_cons_of_mem _ hd)]
    rfl

/-- What the last character of a piece keeps apart from the rest does not depend on the rest. -/
theorem throughout_of_last {p q : List Char → Bool} {last : Char} {piece rest : List Char}
    (hlast : ∀ tail, p (tail ++ [last]) = true → q (tail ++ last :: rest) = true)
    (h : throughout p (piece ++ [last]) [] = true) :
    throughout q (piece ++ [last]) rest = true := by
  induction piece with
  | nil =>
    have hp : p [last] = true := (Bool.and_eq_true_iff.1 h).1
    have hq : q (last :: rest) = true := hlast [] hp
    rw [List.nil_append, throughout, List.nil_append, hq]
    rfl
  | cons c piece ih =>
    obtain ⟨hhead, htail⟩ := Bool.and_eq_true_iff.1 h
    rw [List.append_nil] at hhead
    have hq := hlast (c :: piece) hhead
    rw [List.cons_append, throughout, ih htail, List.append_assoc, List.singleton_append,
      Bool.and_true]
    exact hq

/-! ### The nearest mark -/

/-- What follows the first occurrence of a mark, and no occurrence comes before it. -/
theorem after?_eq_some {mark text rest : List Char} (hne : mark ≠ []) :
    after? mark text = some rest ↔ ∃ inner, text = inner ++ mark ++ rest ∧
      ∀ other, other ++ mark <+: text → inner.length ≤ other.length := by
  induction text with
  | nil =>
    rw [after?, if_neg (by rwa [List.isEmpty_iff])]
    refine ⟨nofun, ?_⟩
    rintro ⟨inner, heq, -⟩
    rw [eq_comm, List.append_eq_nil_iff, List.append_eq_nil_iff] at heq
    exact absurd heq.1.2 hne
  | cons c text ih =>
    rw [after?]
    split
    · next hprefix =>
      obtain ⟨tail, htail⟩ := List.isPrefixOf_iff_prefix.1 hprefix
      rw [← htail, List.drop_left, Option.some.injEq]
      constructor
      · rintro rfl
        exact ⟨[], rfl, fun _ _ => Nat.zero_le _⟩
      · rintro ⟨inner, heq, hleast⟩
        obtain rfl := List.length_eq_zero_iff.1 (Nat.le_zero.1 (hleast [] (List.prefix_append _ _)))
        exact List.append_cancel_left heq
    · next hprefix =>
      rw [List.isPrefixOf_iff_prefix] at hprefix
      rw [ih]
      constructor
      · rintro ⟨inner, rfl, hleast⟩
        refine ⟨c :: inner, rfl, fun other hother => ?_⟩
        -- an earlier occurrence would be here or in the rest
        cases other with
        | nil => exact absurd hother hprefix
        | cons d other =>
          exact Nat.succ_le_succ (hleast other (List.cons_prefix_cons.1 hother).2)
      · rintro ⟨inner, heq, hleast⟩
        cases inner with
        | nil => exact absurd ⟨rest, heq.symm⟩ hprefix
        | cons d inner =>
          obtain ⟨rfl, rfl⟩ := List.cons.inj heq
          refine ⟨inner, rfl, fun other hother => ?_⟩
          exact Nat.le_of_succ_le_succ
            (hleast (c :: other) (List.cons_prefix_cons.2 ⟨rfl, hother⟩))

/-- Nothing follows a mark that does not occur. -/
theorem after?_eq_none {mark text : List Char} (hne : mark ≠ []) :
    after? mark text = none ↔ ¬ mark <:+: text := by
  induction text with
  | nil =>
    rw [after?, if_neg (by rwa [List.isEmpty_iff]), List.infix_nil]
    exact iff_of_true rfl hne
  | cons c text ih =>
    rw [after?, List.infix_cons_iff, ← List.isPrefixOf_iff_prefix]
    split
    · next hprefix => exact iff_of_false nofun fun h => h (.inl hprefix)
    · next hprefix =>
      rw [ih]
      exact ⟨fun h hor => hor.elim hprefix h, fun h hinside => h (.inr hinside)⟩

/-! ### One comment -/

namespace Marks

variable {marks : Marks} {text rest body behind : List Char}

/-- The comment at the front of a text, with its marks, and what follows. -/
def comment? (marks : Marks) (text : List Char) : Option (List Char × List Char) :=
  if marks.first.isPrefixOf text then
    (after? marks.last (text.drop marks.first.length)).map fun behind =>
      (text.take (text.length - behind.length), behind)
  else none

/-- A comment ends at the nearest closing mark. -/
theorem comment?_eq_some : marks.comment? text = some (body, behind) ↔ ∃ inner,
    body = marks.first ++ inner ++ marks.last ∧ text = body ++ behind ∧
      ∀ other, other ++ marks.last <+: inner ++ marks.last ++ behind →
        inner.length ≤ other.length := by
  unfold comment?
  constructor
  · intro h
    split at h
    · next hprefix =>
      obtain ⟨tail, rfl⟩ := List.isPrefixOf_iff_prefix.1 hprefix
      rw [List.drop_left] at h
      obtain ⟨rest, hrest, heq⟩ := Option.map_eq_some_iff.1 h
      obtain ⟨hbody, rfl⟩ := Prod.mk.inj heq
      obtain ⟨inner, rfl, hleast⟩ := (after?_eq_some marks.last_ne_nil).1 hrest
      have htext : marks.first ++ (inner ++ marks.last ++ rest) =
          marks.first ++ inner ++ marks.last ++ rest := by
        simp only [List.append_assoc]
      rw [htext, List.length_append, Nat.add_sub_cancel, List.take_left] at hbody
      exact ⟨inner, hbody.symm, hbody ▸ htext, hleast⟩
    · cases h
  · rintro ⟨inner, rfl, rfl, hleast⟩
    have htext : marks.first ++ inner ++ marks.last ++ behind =
        marks.first ++ (inner ++ marks.last ++ behind) := by
      simp only [List.append_assoc]
    have hafter : after? marks.last (inner ++ marks.last ++ behind) = some behind :=
      (after?_eq_some marks.last_ne_nil).2 ⟨inner, rfl, hleast⟩
    rw [if_pos (List.isPrefixOf_iff_prefix.2 (htext ▸ List.prefix_append _ _)), htext,
      List.drop_left, hafter, Option.map_some, ← htext, List.length_append, Nat.add_sub_cancel,
      List.take_left]

theorem append_of_comment? (h : marks.comment? text = some (body, behind)) :
    text = body ++ behind ∧ body ≠ [] := by
  obtain ⟨inner, rfl, rfl, -⟩ := comment?_eq_some.1 h
  refine ⟨rfl, fun hnil => marks.last_ne_nil ?_⟩
  exact (List.append_eq_nil_iff.1 hnil).2

theorem length_lt_of_comment? (h : marks.comment? text = some (body, behind)) :
    behind.length < text.length := by
  obtain ⟨rfl, hne⟩ := append_of_comment? h
  rw [List.length_append]
  exact Nat.lt_add_of_pos_left (List.length_pos_of_ne_nil hne)

/-- Where the first mark does not stand there is no comment. -/
theorem comment?_of_not_prefix (h : ¬ marks.first <+: text) : marks.comment? text = none :=
  if_neg fun hprefix => h (List.isPrefixOf_iff_prefix.1 hprefix)

/-- Behind a mark that is not closed there is no comment. -/
theorem comment?_of_suffix (h : after? marks.last (text.drop marks.first.length) = none)
    (hrest : rest <:+ text) : marks.comment? rest = none := by
  unfold comment?
  split
  · obtain ⟨front, rfl⟩ := hrest
    have hnone : after? marks.last (rest.drop marks.first.length) = none := by
      rw [after?_eq_none marks.last_ne_nil] at h ⊢
      intro hinside
      refine h (hinside.trans (List.IsSuffix.isInfix ?_))
      refine List.suffix_of_suffix_length_le
        ((List.drop_suffix _ rest).trans (List.suffix_append front rest))
        (List.drop_suffix _ _) ?_
      simp only [List.length_drop, List.length_append]
      omega
    rw [hnone]
    rfl
  · rfl

/-! ### All comments -/

/-- Cuts a text into comments and the characters between them. -/
def cut (marks : Marks) (text : List Char) : List Cut :=
  match text with
  | [] => []
  | c :: rest =>
    match _h : marks.comment? (c :: rest) with
    | some (body, behind) => .dropped body :: cut marks behind
    | none => .kept c :: cut marks rest
termination_by text.length
decreasing_by
  · exact length_lt_of_comment? ‹_›
  · exact Nat.lt_succ_self _

theorem cut_nil : marks.cut [] = [] := by
  rw [cut]

theorem cut_cons_of_none {c : Char} (h : marks.comment? (c :: rest) = none) :
    marks.cut (c :: rest) = .kept c :: marks.cut rest := by
  rw [cut]
  split
  · next hsome => cases h.symm.trans hsome
  · rfl

theorem cut_of_comment? (h : marks.comment? text = some (body, behind)) :
    marks.cut text = .dropped body :: marks.cut behind := by
  cases text with
  | nil => exact absurd (length_lt_of_comment? h) (Nat.not_lt_zero _)
  | cons c rest =>
    rw [cut]
    split
    · next hsome =>
      obtain ⟨rfl, rfl⟩ := Prod.mk.inj (Option.some.inj (hsome.symm.trans h))
      rfl
    · next hnone => cases hnone.symm.trans h

/-- Whether no comment begins in a piece of a text that something follows. -/
def isSilent (marks : Marks) (piece rest : List Char) : Bool :=
  throughout (fun tail => (marks.comment? tail).isNone) piece rest

/-- A piece is kept, and what follows is cut by itself, exactly if no comment begins in the piece.
-/
theorem cut_append_iff {parts : List Cut} :
    marks.cut (text ++ rest) = text.map .kept ++ parts ↔
      marks.isSilent text rest = true ∧ marks.cut rest = parts := by
  induction text with
  | nil => exact ⟨fun h => ⟨rfl, h⟩, And.right⟩
  | cons c piece ih =>
    rw [isSilent, throughout, List.cons_append, List.map_cons, List.cons_append, Bool.and_eq_true,
      Option.isNone_iff_eq_none, and_assoc, ← isSilent, ← ih]
    cases hcomment : marks.comment? (c :: (piece ++ rest)) with
    | none =>
      rw [cut_cons_of_none hcomment, List.cons.injEq, and_iff_right rfl, and_iff_right rfl]
    | some found =>
      rw [cut_of_comment? hcomment]
      exact iff_of_false (fun h => nomatch (List.cons.inj h).1) fun h => nomatch h.1

theorem cut_append (h : marks.isSilent text rest = true) :
    marks.cut (text ++ rest) = text.map .kept ++ marks.cut rest :=
  cut_append_iff.2 ⟨h, rfl⟩

/-- Dropping what lies between the marks leaves what is left of the cut. -/
theorem dropBetween_eq {fuel : Nat} (h : text.length ≤ fuel) :
    dropBetween marks.first marks.last fuel text = (marks.cut text).flatMap Cut.left := by
  induction fuel generalizing text with
  | zero =>
    obtain rfl := List.length_eq_zero_iff.1 (Nat.le_zero.1 h)
    rw [cut_nil]
    rfl
  | succ fuel ih =>
    cases text with
    | nil =>
      rw [cut_nil]
      rfl
    | cons c rest =>
      rw [dropBetween]
      split
      · next hprefix =>
        split
        · next behind hafter =>
          have hcomment : marks.comment? (c :: rest) =
              some ((c :: rest).take ((c :: rest).length - behind.length), behind) := by
            rw [comment?, if_pos hprefix, hafter]
            rfl
          rw [cut_of_comment? hcomment, List.flatMap_cons, ih]
          · rfl
          · exact Nat.le_of_lt_succ (Nat.lt_of_lt_of_le (length_lt_of_comment? hcomment) h)
        · next hafter =>
          -- an opening mark that is never closed opens nothing, and neither does any behind it
          have hsilent : marks.isSilent (c :: rest) [] = true :=
            throughout_of_suffix fun tail htail => Option.isNone_iff_eq_none.2 <|
              comment?_of_suffix hafter (by rwa [List.append_nil] at htail)
          have hcut := cut_append hsilent
          rw [List.append_nil, cut_nil, List.append_nil] at hcut
          rw [hcut, List.flatMap_map]
          exact (List.flatMap_singleton' _).symm
      · next hprefix =>
        have hcomment : marks.comment? (c :: rest) = none := if_neg hprefix
        rw [cut_cons_of_none hcomment, List.flatMap_cons, ih (Nat.le_of_succ_le_succ h)]
        rfl

end Marks

/-- A style sheet without its comments. -/
theorem stripBlockComments_eq (text : List Char) :
    stripBlockComments text = (blockMarks.cut text).flatMap Cut.left :=
  blockMarks.dropBetween_eq (Nat.le_refl text.length)

/-- A template without its comments. -/
theorem stripMarkupComments_eq (text : List Char) :
    stripMarkupComments text = (markupMarks.cut text).flatMap Cut.left :=
  markupMarks.dropBetween_eq (Nat.le_refl text.length)

end Minipack.Source
