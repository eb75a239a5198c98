/-
What is left of a style sheet.

A style sheet loses its comments, then some imports are named anew, then some addresses, and blanks
at both ends go (`restyled_of_resolveStyle`).  The comments that go are those of the sheet exactly
if no literal has a comment begin in it, because comments are looked for without regard to literals;
so a literal can lose a part of itself, and what is in a comment can be taken for a reference
(`not_restyled_quoted`).
-/
import Minipack.Proofs.Resolve.Alignment
import Minipack.Proofs.Source.Sheets

namespace Minipack.Resolve

open Source

variable {config : Config} {disk : Disk} {file : Path}

/-! ### One pass -/

/-- A text comes out with some of its captured parts replaced, and the references tell, in order,
which ones. -/
def Rewrites {τ : Type} (find : Recogniser τ) (text result : List Char)
    (references : List Dependency) : Prop :=
  ∃ changes : List (Option Reference),
    List.Forall₂ (fun hit change => ∀ made ∈ change, made.dependency.required = hit.capturedText)
      (hits find text) changes ∧
    result = weave (segments find none text)
      (changes.map (Option.map fun made => made.text.toList)) ∧
    references = changes.filterMap (Option.map Reference.dependency)

theorem rewrites_of_replaceReferences {τ : Type} {find : Recogniser τ}
    {reference : Hit τ → Except Error (Option Reference)} {text result : List Char}
    {references : List Dependency}
    (hrequired : ∀ hit made, reference hit = .ok (some made) →
      made.dependency.required = hit.capturedText)
    (h : replaceReferences find reference text = .ok (result, references)) :
    Rewrites find text result references := by
  rw [replaceReferences_eq] at h
  obtain ⟨changes, hchanges, heq⟩ := map_eq_ok.1 h
  obtain ⟨rfl, rfl⟩ := Prod.mk.inj heq
  refine ⟨changes, ?_, rfl, rfl⟩
  refine (mapM_eq_ok.1 hchanges).imp fun hit change hchange made hmade => ?_
  obtain rfl := Option.mem_def.1 hmade
  exact hrequired hit made hchange

theorem Made.required {specifier : String} {made : Reference}
    (h : Made config disk file specifier made) : made.dependency.required = specifier := by
  cases h with
  | compiled _ => exact (tells_compiledReference file _ specifier _ _).required
  | compiledAddress _ => exact (tells_compiledReference file _ specifier _ _).required
  | copied => exact (tells_staticDependency file _ specifier).required
  | copiedAddress _ => rw [required_replaceWith, staticDependency, required_replaceWith]

/-! ### All passes -/

/-- What becomes of a style sheet. -/
structure Restyled (text : List Char) (resolved : Resolved) : Prop where
  /-- Comments, literals and other characters are the whole sheet. -/
  whole : (readSheet text).flatMap SheetPiece.text = text
  /-- The comments taken out are those outside literals exactly if literals have none begin in them.
  -/
  removed : blockMarks.cut text = (readSheet text).flatMap SheetPiece.cuts ↔
    isUnmarked (readSheet text) = true
  /-- Then all literals and all other characters outside comments are left. -/
  left : isUnmarked (readSheet text) = true →
    stripBlockComments text = (readSheet text).flatMap SheetPiece.outside
  /-- What is left is the content, but for imports and addresses and for blanks at both ends. -/
  rewritten : ∃ sheet styled imports addresses,
    (segments imported none (stripBlockComments text)).flatMap Segment.text =
      stripBlockComments text ∧
    Rewrites imported (stripBlockComments text) sheet imports ∧
    (segments addressed none sheet).flatMap Segment.text = sheet ∧
    Rewrites addressed sheet styled addresses ∧
    resolved.content = (String.ofList (Text.trimBlank styled)).toUTF8 ∧
    resolved.dependencies = imports ++ addresses

/-- Every style sheet that is resolved comes out so. -/
theorem restyled_of_resolveStyle {source : ByteArray} {resolved : Resolved}
    (h : resolveStyle config disk file source = .ok resolved) :
    ∃ text, decodeSource source = .ok text ∧ Restyled text resolved := by
  obtain ⟨text, htext, h⟩ := bind_eq_ok.1 h
  obtain ⟨⟨sheet, imports⟩, himports, h⟩ := bind_eq_ok.1 h
  obtain ⟨⟨styled, addresses⟩, haddresses, h⟩ := bind_eq_ok.1 h
  obtain rfl := pure_eq_ok.1 h
  refine ⟨text, htext, flatMap_text_readSheet text, cut_eq_iff text,
    stripBlockComments_of_isUnmarked, sheet, styled, imports, addresses,
    flatMap_text_segments isSound_imported none _, ?_,
    flatMap_text_segments isSound_addressed none _, ?_, rfl, rfl⟩
  · exact rewrites_of_replaceReferences
      (fun hit made hmade => (made_of_importReference (Except.ok.inj hmade)).required) himports
  · exact rewrites_of_replaceReferences
      (fun hit made hmade => (made_of_addressReference hmade).required) haddresses

/-- A sheet and an image in one folder. -/
def styles : Disk where
  entries := [
    (["p"], .folder),
    (["p", "src"], .folder),
    (["p", "src", "b.wxss"], .file "".toUTF8),
    (["p", "src", "i.png"], .file "i".toUTF8)]
  current := []

/-- The content of a style sheet and the specifiers in it, as they were written. -/
def styledAs (text : String) : Option (List UInt8 × List String) :=
  (resolveStyle (.of ⟨"/p"⟩) styles ⟨"/p/src/a.wxss"⟩ text.toUTF8).toOption.map fun resolved =>
    (resolved.content.data.toList, resolved.dependencies.map Dependency.required)

/-- A sheet with an import, an address, comments, and a literal with a mark and an escaped quote. -/
def plainSheet : String :=
  "@import 'b';/* \x22 @import 'c'; */a\x7bcontent:\x22*/ \\\x22 /\x22;src:url(i.png)/* url(j) */\x7d\n"

theorem restyled_plainSheet : ∃ resolved,
    resolveStyle (.of ⟨"/p"⟩) styles ⟨"/p/src/a.wxss"⟩ plainSheet.toUTF8 = .ok resolved ∧
      (∃ text, decodeSource plainSheet.toUTF8 = .ok text ∧ Restyled text resolved) ∧
      isUnmarked (readSheet plainSheet.toList) = true ∧
      resolved.dependencies.map Dependency.required = ["b", "i.png"] := by
  have hdone : (resolveStyle (.of ⟨"/p"⟩) styles ⟨"/p/src/a.wxss"⟩ plainSheet.toUTF8).toOption.map
      (fun resolved => resolved.dependencies.map Dependency.required) = some ["b", "i.png"] := by
    decide +kernel
  obtain ⟨resolved, hresolved, hrequired⟩ := Option.map_eq_some_iff.1 hdone
  rw [toOption_eq_some] at hresolved
  exact ⟨resolved, hresolved, restyled_of_resolveStyle hresolved, by decide +kernel, hrequired⟩

/-- A comment is seen in a literal and taken out of it; and one that begins there ends too early, so
that an address in a comment is followed. -/
theorem not_restyled_quoted :
    (SheetPiece.literal "\x22/* b */\x22".toList ∈ readSheet "a\x7bb:\x22/* b */\x22\x7d".toList ∧
      blockMarks.cut "a\x7bb:\x22/* b */\x22\x7d".toList ≠
        (readSheet "a\x7bb:\x22/* b */\x22\x7d".toList).flatMap SheetPiece.cuts ∧
      styledAs "a\x7bb:\x22/* b */\x22\x7d" =
        some ("a\x7bb:\x22\x22\x7d".toUTF8.data.toList, [])) ∧
    readSheet "\x22/*\x22/*/url(i.png)*/".toList =
      [.literal "\x22/*\x22".toList, .comment "/*/url(i.png)*/".toList] ∧
    (styledAs "\x22/*\x22/*/url(i.png)*/").map Prod.snd = some ["i.png"] := by
  decide +kernel

end Minipack.Resolve
