/-
How a style sheet is read.

A style sheet is read from left to right as comments, quoted literals and other characters
(`readSheet`).  A literal goes from a quote to the next one of its kind without a backslash before
it; a quote or a mark that nothing closes is a character as any other.  Comments are taken out of a
sheet without regard to literals.  They are the comments of the sheet exactly if no literal has a
comment begin in it (`cut_eq_iff`), and then what is left is the sheet outside its comments
(`stripBlockComments_of_isUnmarked`).
-/
import Minipack.Proofs.Source.Commenting
import Minipack.Proofs.Source.Lexing
import Minipack.Source.References

namespace Minipack.Source

/-- A part of a style sheet. -/
inductive SheetPiece where
  | plain (c : Char)
  /-- A literal with its quotes. -/
  | literal (text : List Char)
  /-- A comment with its marks. -/
  | comment (text : List Char)
deriving DecidableEq

/-- The text of a part. -/
def SheetPiece.text : SheetPiece → List Char
  | plain c => [c]
  | literal text => text
  | comment text => text

/-- What is outside comments. -/
def SheetPiece.outside : SheetPiece → List Char
  | plain c => [c]
  | literal text => text
  | comment _ => []

/-- A part, as comments and characters between them. -/
def SheetPiece.cuts : SheetPiece → List Cut
  | plain c => [.kept c]
  | literal text => text.map .kept
  | comment text => [.dropped text]

/-- Scans a literal behind its quote; the state says that a backslash came before. -/
def literalStep (quote : Char) (escaped : Bool) (c : Char) : ScanStep Bool :=
  if escaped then .go false
  else if c = '\\' then .go true
  else if c = quote then .done
  else .go false

/-- The literal at the front of a text, with its quotes, and what follows. -/
def literal? : List Char → Option (List Char × List Char)
  | [] => none
  | quote :: rest =>
    if isSpecifierQuote quote then
      (scan (literalStep quote) false rest).map fun (body, behind) => (quote :: body, behind)
    else none

variable {text rest body behind : List Char}

theorem append_of_literal? (h : literal? text = some (body, behind)) :
    text = body ++ behind ∧ body ≠ [] := by
  cases text with
  | nil => cases h
  | cons quote rest =>
    rw [literal?] at h
    split at h
    · obtain ⟨⟨tail, behind'⟩, hscan, heq⟩ := Option.map_eq_some_iff.1 h
      obtain ⟨rfl, rfl⟩ := Prod.mk.inj heq
      exact ⟨congrArg (quote :: ·) (scan_append hscan).1, List.cons_ne_nil _ _⟩
    · cases h

theorem length_lt_of_literal? (h : literal? text = some (body, behind)) :
    behind.length < text.length := by
  obtain ⟨rfl, hne⟩ := append_of_literal? h
  rw [List.length_append]
  exact Nat.lt_add_of_pos_left (List.length_pos_of_ne_nil hne)

/-- The parts of a style sheet. -/
def readSheet (text : List Char) : List SheetPiece :=
  match text with
  | [] => []
  | c :: rest =>
    match _hcomment : blockMarks.comment? (c :: rest) with
    | some (body, behind) => .comment body :: readSheet behind
    | none =>
      match _hliteral : literal? (c :: rest) with
      | some (body, behind) => .literal body :: readSheet behind
      | none => .plain c :: readSheet rest
termination_by text.length
decreasing_by
  · exact Marks.length_lt_of_comment? ‹_›
  · exact length_lt_of_literal? ‹_›
  · exact Nat.lt_succ_self _

/-- The parts, joined, are the sheet. -/
theorem flatMap_text_readSheet (text : List Char) :
    (readSheet text).flatMap SheetPiece.text = text := by
  fun_induction readSheet text with
  | case1 => rfl
  | case2 c rest body behind hcomment ih =>
    rw [List.flatMap_cons, ih]
    exact (Marks.append_of_comment? hcomment).1.symm
  | case3 c rest hcomment body behind hliteral ih =>
    rw [List.flatMap_cons, ih]
    exact (append_of_literal? hliteral).1.symm
  | case4 c rest hcomment hliteral ih =>
    rw [List.flatMap_cons, ih]
    rfl

/-- Whether no comment begins in a literal for a reader who knows no literals. -/
def isUnmarked : List SheetPiece → Bool
  | [] => true
  | .literal text :: rest =>
    blockMarks.isSilent text (rest.flatMap SheetPiece.text) && isUnmarked rest
  | _ :: rest => isUnmarked rest

/-- The comments that are taken out are those of the sheet exactly if no comment begins in a
literal. -/
theorem cut_eq_iff (text : List Char) :
    blockMarks.cut text = (readSheet text).flatMap SheetPiece.cuts ↔
      isUnmarked (readSheet text) = true := by
  fun_induction readSheet text with
  | case1 =>
    rw [Marks.cut_nil]
    exact iff_of_true rfl rfl
  | case2 c rest body behind hcomment ih =>
    rw [Marks.cut_of_comment? hcomment, List.flatMap_cons, isUnmarked, ← ih]
    · exact ⟨fun h => (List.cons.inj h).2, congrArg (Cut.dropped body :: ·)⟩
    · nofun
  | case3 c rest hcomment body behind hliteral ih =>
    rw [(append_of_literal? hliteral).1, List.flatMap_cons, isUnmarked, Bool.and_eq_true, ← ih,
      flatMap_text_readSheet]
    exact Marks.cut_append_iff
  | case4 c rest hcomment hliteral ih =>
    rw [Marks.cut_cons_of_none hcomment, List.flatMap_cons, isUnmarked, ← ih]
    · exact ⟨fun h => (List.cons.inj h).2, congrArg (Cut.kept c :: ·)⟩
    · nofun

theorem flatMap_left_cuts (piece : SheetPiece) : piece.cuts.flatMap Cut.left = piece.outside := by
  cases piece with
  | plain c => rfl
  | literal text =>
    show (text.map Cut.kept).flatMap Cut.left = text
    rw [List.flatMap_map]
    exact List.flatMap_singleton' text
  | comment text => rfl

/-- What is left of a sheet is what stands outside its comments. -/
theorem stripBlockComments_of_isUnmarked (h : isUnmarked (readSheet text) = true) :
    stripBlockComments text = (readSheet text).flatMap SheetPiece.outside := by
  rw [stripBlockComments_eq, (cut_eq_iff text).2 h, List.flatMap_assoc]
  exact congrArg (fun f => (readSheet text).flatMap f) (funext flatMap_left_cuts)

end Minipack.Source
