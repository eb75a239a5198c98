/-
Scripts as the stripper reads them.

By the stripper's own rules a script is cut into literals, from a quote to the next same quote that
no backslash comes before, comments, and the characters between them (`scriptParts`).  Both may end
with the text instead.  What is left without comments is cut into the same parts as before, but for
the comments (`scriptParts_strip`): a slash that is kept has a character behind it that is kept as
well, so nothing that comes close to it opens a comment, and a literal that is not closed has
nothing behind it. All else about stripping follows (`settled_stripScriptComments`).
-/
import Mathlib.Data.List.Basic
import Minipack.Proofs.Source.Stripping

namespace Minipack.Source

/-- A part of a script. -/
inductive ScriptPart where
  /-- A character outside of literals and comments. -/
  | code (c : Char)
  /-- A literal with its quotes. -/
  | literal (text : List Char)
  /-- A comment up to the end of its line. -/
  | lineComment (text : List Char)
  /-- A comment with its marks. -/
  | blockComment (text : List Char)
deriving DecidableEq

namespace ScriptPart

/-- The text of a part. -/
def text : ScriptPart → List Char
  | code c => [c]
  | literal text => text
  | lineComment text => text
  | blockComment text => text

/-- Whether a part is a comment. -/
def isComment : ScriptPart → Bool
  | code _ => false
  | literal _ => false
  | lineComment _ => true
  | blockComment _ => true

/-- The literal that a part is, if it is one. -/
def literal? : ScriptPart → Option (List Char)
  | literal text => some text
  | _ => none

/-- What is left of a part without comments. -/
def left (part : ScriptPart) : List Char :=
  if part.isComment then [] else part.text

end ScriptPart

/-! ### Cutting -/

/-- A literal behind its first quote up to the last one, and what follows.  A backslash takes the
next character along. -/
def literalRest (quote : Char) : List Char → List Char × List Char
  | [] => ([], [])
  | '\\' :: c :: rest => ('\\' :: c :: (literalRest quote rest).1, (literalRest quote rest).2)
  | c :: rest =>
    if c = quote then ([c], rest)
    else (c :: (literalRest quote rest).1, (literalRest quote rest).2)

/-- A comment behind its first mark up to the last one, and what follows. -/
def blockRest : List Char → List Char × List Char
  | [] => ([], [])
  | '*' :: '/' :: rest => (['*', '/'], rest)
  | c :: rest => (c :: (blockRest rest).1, (blockRest rest).2)

theorem literalRest_append (quote : Char) (text : List Char) :
    (literalRest quote text).1 ++ (literalRest quote text).2 = text := by
  fun_induction literalRest quote text with
  | case1 => rfl
  | case2 c rest ih => exact congrArg ('\\' :: c :: ·) ih
  | case3 => rfl
  | case4 c rest _ _ ih => exact congrArg (c :: ·) ih

theorem blockRest_append (text : List Char) : (blockRest text).1 ++ (blockRest text).2 = text := by
  fun_induction blockRest text with
  | case1 => rfl
  | case2 => rfl
  | case3 c rest _ ih => exact congrArg (c :: ·) ih

theorem length_literalRest_le (quote : Char) (text : List Char) :
    (literalRest quote text).2.length ≤ text.length := by
  have hlength := congrArg List.length (literalRest_append quote text)
  rw [List.length_append] at hlength
  exact hlength ▸ Nat.le_add_left _ _

theorem length_blockRest_le (text : List Char) : (blockRest text).2.length ≤ text.length := by
  have hlength := congrArg List.length (blockRest_append text)
  rw [List.length_append] at hlength
  exact hlength ▸ Nat.le_add_left _ _

/-- The literals and comments of a script and the characters between them. -/
def scriptParts (text : List Char) : List ScriptPart :=
  match text with
  | [] => []
  | '/' :: '/' :: rest =>
    .lineComment ('/' :: '/' :: rest.takeWhile (· != '\n')) ::
      scriptParts (rest.dropWhile (· != '\n'))
  | '/' :: '*' :: rest =>
    .blockComment ('/' :: '*' :: (blockRest rest).1) :: scriptParts (blockRest rest).2
  | c :: rest =>
    if isQuote c then .literal (c :: (literalRest c rest).1) :: scriptParts (literalRest c rest).2
    else .code c :: scriptParts rest
termination_by text.length
decreasing_by
  · have hle := (List.dropWhile_suffix (· != '\n') (l := rest)).length_le
    simp only [List.length_cons]
    omega
  · have hle := length_blockRest_le rest
    simp only [List.length_cons]
    omega
  · have hle := length_literalRest_le c rest
    simp only [List.length_cons]
    omega
  · simp only [List.length_cons]
    omega

theorem scriptParts_nil : scriptParts [] = [] := by
  rw [scriptParts]

theorem scriptParts_lineComment (rest : List Char) :
    scriptParts ('/' :: '/' :: rest) =
      .lineComment ('/' :: '/' :: rest.takeWhile (· != '\n')) ::
        scriptParts (rest.dropWhile (· != '\n')) := by
  rw [scriptParts]

theorem scriptParts_blockComment (rest : List Char) :
    scriptParts ('/' :: '*' :: rest) =
      .blockComment ('/' :: '*' :: (blockRest rest).1) :: scriptParts (blockRest rest).2 := by
  rw [scriptParts]

theorem scriptParts_literal {quote : Char} (h : isQuote quote = true) (rest : List Char) :
    scriptParts (quote :: rest) =
      .literal (quote :: (literalRest quote rest).1) :: scriptParts (literalRest quote rest).2 := by
  rw [scriptParts, if_pos h]
  · rintro more rfl
    exact absurd h (by decide)
  · rintro more rfl
    exact absurd h (by decide)

/-- A character that opens neither a literal nor a comment stands for itself. -/
theorem scriptParts_code {c : Char} {rest : List Char} (hquote : isQuote c = false)
    (hmark : c = '/' → rest.head? ≠ some '/' ∧ rest.head? ≠ some '*') :
    scriptParts (c :: rest) = .code c :: scriptParts rest := by
  rw [scriptParts, hquote]
  · rfl
  · rintro more rfl rfl
    exact (hmark rfl).1 rfl
  · rintro more rfl rfl
    exact (hmark rfl).2 rfl

/-- What holds of a script, if it holds of what follows its first part, holds of all scripts. -/
theorem script_induction {motive : List Char → Prop} (nil : motive [])
    (lineComment : ∀ rest, motive (rest.dropWhile (· != '\n')) → motive ('/' :: '/' :: rest))
    (blockComment : ∀ rest, motive (blockRest rest).2 → motive ('/' :: '*' :: rest))
    (literal : ∀ quote rest, isQuote quote = true → motive (literalRest quote rest).2 →
      motive (quote :: rest))
    (code : ∀ c rest, isQuote c = false →
      (c = '/' → rest.head? ≠ some '/' ∧ rest.head? ≠ some '*') → motive rest → motive (c :: rest))
    (text : List Char) : motive text := by
  induction text using scriptParts.induct with
  | case1 => exact nil
  | case2 rest ih => exact lineComment rest ih
  | case3 rest ih => exact blockComment rest ih
  | case4 quote rest _ _ hquote ih => exact literal quote rest hquote ih
  | case5 c rest hline hblock hquote ih =>
    refine code c rest (Bool.eq_false_iff.2 hquote) (fun hc => ⟨?_, ?_⟩) ih
    · intro hhead
      obtain ⟨more, hrest⟩ := List.head?_eq_some_iff.1 hhead
      exact hline more hc hrest
    · intro hhead
      obtain ⟨more, hrest⟩ := List.head?_eq_some_iff.1 hhead
      exact hblock more hc hrest

/-- The parts, joined, are the text. -/
theorem flatMap_text_scriptParts (text : List Char) :
    (scriptParts text).flatMap ScriptPart.text = text := by
  induction text using script_induction with
  | nil =>
    rw [scriptParts_nil]
    rfl
  | lineComment rest ih =>
    rw [scriptParts_lineComment, List.flatMap_cons, ih]
    exact congrArg ('/' :: '/' :: ·) List.takeWhile_append_dropWhile
  | blockComment rest ih =>
    rw [scriptParts_blockComment, List.flatMap_cons, ih]
    exact congrArg ('/' :: '*' :: ·) (blockRest_append rest)
  | literal quote rest hquote ih =>
    rw [scriptParts_literal hquote, List.flatMap_cons, ih]
    exact congrArg (quote :: ·) (literalRest_append quote rest)
  | code c rest hquote hmark ih =>
    rw [scriptParts_code hquote hmark, List.flatMap_cons, ih]
    rfl

/-! ### Stripping part by part -/

/-- A comment up to the end of its line is dropped, and the line feed stays. -/
theorem stripFrom_lineRest (text : List Char) :
    stripFrom .lineComment text = stripFrom .code (text.dropWhile (· != '\n')) := by
  induction text with
  | nil => rfl
  | cons c rest ih =>
    rw [stripFrom, List.dropWhile_cons]
    by_cases hc : c = '\n'
    · subst hc
      rw [if_pos rfl]
      exact (stripFrom_code fun hslash => absurd hslash (by decide)).symm
    · rw [if_neg hc, if_pos (bne_iff_ne.2 hc)]
      exact ih

/-- A star that no slash follows does not matter. -/
theorem stripFrom_star {text : List Char} (h : text.head? ≠ some '/') :
    stripFrom (.blockComment true) text = stripFrom (.blockComment false) text := by
  cases text with
  | nil => rfl
  | cons c rest =>
    have hc : c ≠ '/' := fun hc => h (congrArg some hc)
    rw [stripFrom, stripFrom, Bool.true_and, Bool.false_and, decide_eq_false hc]

/-- A comment between marks is dropped, closed or not. -/
theorem stripFrom_blockRest (text : List Char) :
    stripFrom (.blockComment false) text = stripFrom .code (blockRest text).2 := by
  fun_induction blockRest text with
  | case1 => rfl
  | case2 rest =>
    rw [stripFrom]
    show stripFrom (.blockComment true) ('/' :: rest) = stripFrom .code rest
    rw [stripFrom]
    rfl
  | case3 c rest hend ih =>
    rw [stripFrom, Bool.false_and, if_neg Bool.false_ne_true]
    by_cases hc : c = '*'
    · rw [beq_iff_eq.2 hc, stripFrom_star]
      · exact ih
      · intro hhead
        obtain ⟨more, hrest⟩ := List.head?_eq_some_iff.1 hhead
        exact hend more hc hrest
    · rw [beq_eq_false_iff_ne.2 hc]
      exact ih

/-- A literal is kept, closed or not. -/
theorem stripFrom_literalRest {quote : Char} (h : isQuote quote = true) (text : List Char) :
    stripFrom (.quoted quote) text =
      (literalRest quote text).1 ++ stripFrom .code (literalRest quote text).2 := by
  obtain ⟨hbackslash, -⟩ := ne_of_isQuote h
  fun_induction literalRest quote text with
  | case1 => rfl
  | case2 c rest ih =>
    rw [stripFrom, afterQuoted, if_pos rfl, stripFrom, ih]
    rfl
  | case3 rest _ =>
    rw [stripFrom, afterQuoted, if_neg hbackslash, if_pos rfl]
    rfl
  | case4 c rest hescape hc ih =>
    rw [stripFrom, afterQuoted]
    by_cases hslash : c = '\\'
    · cases rest with
      | nil =>
        rw [if_pos hslash]
        rfl
      | cons d rest => exact (hescape d rest hslash rfl).elim
    · rw [if_neg hslash, if_neg hc, ih]
      rfl

/-- A literal ends at its quote whatever follows, or else with the text. -/
theorem literalRest_of_rest {quote : Char} (h : isQuote quote = true) (text : List Char)
    {more : List Char} (hmore : (literalRest quote text).2 = [] → more = []) :
    literalRest quote ((literalRest quote text).1 ++ more) =
      ((literalRest quote text).1, more) := by
  obtain ⟨hbackslash, -⟩ := ne_of_isQuote h
  fun_induction literalRest quote text with
  | case1 =>
    rw [hmore rfl]
    rfl
  | case2 c rest ih =>
    rw [List.cons_append, List.cons_append, literalRest, ih hmore]
  | case3 rest _ =>
    rw [List.singleton_append, literalRest, if_pos rfl]
    exact fun _ _ hslash _ => hbackslash hslash
  | case4 c rest hescape hc ih =>
    rw [List.cons_append, literalRest, if_neg hc, ih hmore]
    intro d tail hslash happend
    cases rest with
    | nil =>
      rw [hmore rfl] at happend
      cases happend
    | cons d rest => exact hescape d rest hslash rfl

/-- What is left of a script is cut as the script was, but for the comments. -/
theorem scriptParts_strip (text : List Char) :
    scriptParts (stripScriptComments text) =
      (scriptParts text).filter fun part => !part.isComment := by
  unfold stripScriptComments
  induction text using script_induction with
  | nil =>
    rw [stripFrom, scriptParts_nil]
    rfl
  | lineComment rest ih =>
    rw [stripFrom, stripFrom_lineRest, ih, scriptParts_lineComment]
    rfl
  | blockComment rest ih =>
    rw [stripFrom, stripFrom_blockRest, ih, scriptParts_blockComment]
    rfl
  | literal quote rest hquote ih =>
    have hslash : quote ≠ '/' := by
      rintro rfl
      exact absurd hquote (by decide)
    have hnil : (literalRest quote rest).2 = [] →
        stripFrom .code (literalRest quote rest).2 = [] := by
      intro h
      rw [h]
      rfl
    rw [stripFrom_code fun h => absurd h hslash, if_pos hquote, stripFrom_literalRest hquote,
      scriptParts_literal hquote, literalRest_of_rest hquote rest hnil, ih,
      scriptParts_literal hquote]
    rfl
  | code c rest hquote hmark ih =>
    -- a slash keeps apart from what comes close to it, since the character behind it is kept
    have hclosed : Closed [c] (stripFrom .code rest) :=
      Closed.strip fun hc => hmark (Option.some.inj hc)
    rw [stripFrom_code hmark, if_neg (Bool.eq_false_iff.1 hquote),
      scriptParts_code hquote fun hc => hclosed (congrArg some hc), ih,
      scriptParts_code hquote hmark]
    rfl

/-- Stripping leaves out the comments. -/
theorem stripScriptComments_eq (text : List Char) :
    stripScriptComments text = (scriptParts text).flatMap ScriptPart.left := by
  have hfilter (parts : List ScriptPart) :
      (parts.filter fun part => !part.isComment).flatMap ScriptPart.text =
        parts.flatMap ScriptPart.left := by
    induction parts with
    | nil => rfl
    | cons part parts ih =>
      rw [List.filter_cons, List.flatMap_cons, ← ih, ScriptPart.left]
      cases part.isComment <;> rfl
  rw [← hfilter, ← scriptParts_strip, flatMap_text_scriptParts]

/-! ### Parts behind others -/

/-- Behind a part stand the parts of what follows; behind a comment up to the end of its line
nothing follows or the line feed does. -/
theorem exists_behind {text : List Char} {part : ScriptPart} {parts : List ScriptPart}
    (h : scriptParts text = part :: parts) :
    ∃ behind, scriptParts behind = parts ∧
      ∀ comment, part = .lineComment comment → ∀ c ∈ behind.head?, c = '\n' := by
  induction text using script_induction with
  | nil =>
    rw [scriptParts_nil] at h
    cases h
  | lineComment rest _ =>
    rw [scriptParts_lineComment] at h
    refine ⟨_, (List.cons.inj h).2, fun _ _ c hc => ?_⟩
    exact bne_eq_false_iff_eq.1 (head?_dropWhile (· != '\n') rest c hc)
  | blockComment rest _ =>
    rw [scriptParts_blockComment] at h
    obtain ⟨rfl, hparts⟩ := List.cons.inj h
    exact ⟨_, hparts, nofun⟩
  | literal quote rest hquote _ =>
    rw [scriptParts_literal hquote] at h
    obtain ⟨rfl, hparts⟩ := List.cons.inj h
    exact ⟨_, hparts, nofun⟩
  | code c rest hquote hmark _ =>
    rw [scriptParts_code hquote hmark] at h
    obtain ⟨rfl, hparts⟩ := List.cons.inj h
    exact ⟨_, hparts, nofun⟩

/-- The last of the parts of a text are the parts of a text. -/
theorem exists_behind_append {text : List Char} {before parts : List ScriptPart}
    (h : scriptParts text = before ++ parts) : ∃ behind, scriptParts behind = parts := by
  induction before generalizing text with
  | nil => exact ⟨text, h⟩
  | cons part before ih =>
    obtain ⟨behind, hbehind, -⟩ := exists_behind h
    exact ih hbehind

/-- What stripping does to a script, as the rules of the stripper tell parts: the parts are all of
the script, stripping again changes nothing, no comment is left and the literals are the same in the
same order, and where a comment up to the end of its line is not the last part, the line feed behind
it stays at its place. -/
structure Settled (text stripped : List Char) : Prop where
  whole : (scriptParts text).flatMap ScriptPart.text = text
  again : stripScriptComments stripped = stripped
  uncommented : ∀ part ∈ scriptParts stripped, part.isComment = false
  literals : (scriptParts stripped).filterMap ScriptPart.literal? =
    (scriptParts text).filterMap ScriptPart.literal?
  lineFeeds : ∀ before comment after, scriptParts text = before ++ .lineComment comment :: after →
    after = [] ∨ ∃ more, after = .code '\n' :: more ∧
      stripped = before.flatMap ScriptPart.left ++ '\n' :: more.flatMap ScriptPart.left

/-- Stripping settles a script at once. -/
theorem settled_stripScriptComments (text : List Char) :
    Settled text (stripScriptComments text) := by
  have hparts := scriptParts_strip text
  have huncommented : ∀ part ∈ scriptParts (stripScriptComments text), part.isComment = false := by
    intro part hpart
    rw [hparts, List.mem_filter, Bool.not_eq_true'] at hpart
    exact hpart.2
  refine ⟨flatMap_text_scriptParts text, ?_, huncommented, ?_, ?_⟩
  · rw [stripScriptComments_eq (stripScriptComments text)]
    refine Eq.trans ?_ (flatMap_text_scriptParts (stripScriptComments text))
    refine List.flatMap_congr fun part hpart => ?_
    rw [ScriptPart.left, huncommented part hpart]
    rfl
  · rw [hparts, List.filterMap_filter]
    refine List.filterMap_congr fun part _ => ?_
    cases part with
    | code c => rfl
    | literal text => rfl
    | lineComment text => rfl
    | blockComment text => rfl
  · intro before comment after h
    obtain ⟨behind, hbehind⟩ := exists_behind_append h
    obtain ⟨rest, rfl, hline⟩ := exists_behind hbehind
    cases rest with
    | nil => exact Or.inl scriptParts_nil
    | cons c more =>
      obtain rfl : c = '\n' := hline comment rfl c rfl
      have hfeed : scriptParts ('\n' :: more) = .code '\n' :: scriptParts more :=
        scriptParts_code (by decide) fun hslash => absurd hslash (by decide)
      refine Or.inr ⟨scriptParts more, hfeed, ?_⟩
      rw [stripScriptComments_eq, h, hfeed, List.flatMap_append, List.flatMap_cons,
        List.flatMap_cons]
      rfl

/-- A backslash keeps a literal open, and the last comment is not closed. -/
example : scriptParts "a//b\n\x22\\\x22//\x22/*c".toList =
    [.code 'a', .lineComment "//b".toList, .code '\n', .literal "\x22\\\x22//\x22".toList,
      .blockComment "/*c".toList] := by
  decide +kernel

end Minipack.Source
