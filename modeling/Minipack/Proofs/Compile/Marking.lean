/-
A byte order mark in front of a source.

A mark is read as a character like others.  It stays in front of a text while comments are removed
and references replaced (`SourceKind.resolve_mark`), and is dropped again from what is written.  So
a file compiles with a mark in front exactly if it compiles without, with the same references.  The
same is written, too, unless the mark shelters the front of the text (`SourceKind.Sheltered`): a
second mark, which would be dropped itself, or the blanks before a style sheet, which would be
trimmed.  Descriptors are no JSON with a mark in front (`Json.read?_mark`).
-/
import Mathlib.Data.List.DropRight
import Minipack.Flush
import Minipack.Proofs.Compile.File
import Minipack.Proofs.Disk.Editing
import Minipack.Proofs.Resolve.Alignment
import Minipack.Proofs.Source.Front
import Minipack.Proofs.Text

namespace Minipack

open Text

/-! ### Descriptors -/

theorem toList_mark (bytes : ByteArray) :
    (markBytes ++ bytes).toList = 0xef :: 0xbb :: 0xbf :: bytes.toList := by
  rw [toList_eq, toList_eq, ByteArray.data_append, Array.toList_append]
  rfl

/-- No value begins with a mark. -/
theorem Json.read?_mark (bytes : ByteArray) : Json.read? (markBytes ++ bytes).toList = none := by
  rw [toList_mark, Json.read?, Document.read?, JsonReader.value?]
  rfl

theorem Resolve.resolveDescriptor_mark (config : Config) (disk : Disk) (file : Path)
    (source : ByteArray) :
    resolveDescriptor config disk file (markBytes ++ source) =
      .error (.resolve file .invalidJson) := by
  rw [resolveDescriptor, Json.read?_mark]

/-! ### Trimming behind a mark -/

namespace Text

variable {text : List Char}

theorem isBlank_mark : isBlank mark = false := by
  decide +kernel

/-- The end of a text is trimmed up to its last character that is not blank at most. -/
theorem rdropWhile_append_cons {c : Char} (h : isBlank c = false) (front rest : List Char) :
    (front ++ c :: rest).rdropWhile isBlank = front ++ c :: rest.rdropWhile isBlank := by
  rw [List.rdropWhile, List.reverse_append, List.reverse_cons, List.append_assoc,
    List.dropWhile_append, List.singleton_append, List.rdropWhile]
  split
  · next hempty =>
    rw [List.dropWhile_cons, h, if_neg Bool.false_ne_true, List.isEmpty_iff.1 hempty,
      List.reverse_cons, List.reverse_reverse]
    rfl
  · rw [List.reverse_append, List.reverse_cons, List.reverse_reverse, List.append_assoc]
    rfl

/-- Behind a character that is not blank only the end of a text is trimmed. -/
theorem trimBlank_cons {c : Char} (h : isBlank c = false) (rest : List Char) :
    trimBlank (c :: rest) = c :: rest.rdropWhile isBlank := by
  rw [trimBlank, List.dropWhile_cons, h, if_neg Bool.false_ne_true]
  exact rdropWhile_append_cons h [] rest

/-- A text that is not blank begins with blanks, if any, up to another character. -/
theorem exists_of_not_all (h : text.all isBlank = false) :
    ∃ blanks c rest, text = blanks ++ c :: rest ∧ (∀ b ∈ blanks, isBlank b = true) ∧
      isBlank c = false := by
  induction text with
  | nil => cases h
  | cons c text ih =>
    cases hc : isBlank c with
    | false => exact ⟨[], c, text, rfl, fun _ hb => absurd hb List.not_mem_nil, hc⟩
    | true =>
      rw [List.all_cons, hc, Bool.true_and] at h
      obtain ⟨blanks, d, rest, rfl, hblanks, hd⟩ := ih h
      exact ⟨c :: blanks, d, rest, rfl, List.forall_mem_cons.2 ⟨hc, hblanks⟩, hd⟩

theorem dropMark_eq_self_iff : dropMark text = text ↔ text.head? ≠ some mark := by
  refine ⟨fun h hhead => ?_, dropMark_of_head⟩
  obtain ⟨rest, rfl⟩ := List.head?_eq_some_iff.1 hhead
  exact List.cons_ne_self _ _ h.symm

theorem length_dropMark_le (text : List Char) : (dropMark text).length ≤ text.length := by
  cases text with
  | nil => exact Nat.le_refl _
  | cons c rest =>
    rw [dropMark]
    split
    · exact Nat.le_succ _
    · exact Nat.le_refl _

/-- A mark in front of a text does not matter for trimming and dropping marks, unless the text
begins with a mark, or with blanks before other characters. -/
theorem dropMark_trimBlank_mark_iff :
    dropMark (trimBlank (mark :: text)) = dropMark (trimBlank text) ↔
      ¬ (text.head? = some mark ∨ text.head?.any isBlank = true ∧ text.all isBlank = false) := by
  rw [trimBlank_cons isBlank_mark, dropMark_mark]
  cases hall : text.all isBlank with
  | true =>
    have hblank := List.all_eq_true.1 hall
    have hleft : text.rdropWhile isBlank = [] := List.rdropWhile_eq_nil_iff.2 hblank
    have hright : trimBlank text = [] := by
      rw [trimBlank, List.dropWhile_eq_nil_iff.2 hblank]
      rfl
    rw [hleft, hright]
    refine iff_of_true rfl fun h => h.elim (fun hhead => ?_) fun h => Bool.noConfusion h.2
    have hmark := hblank mark (List.mem_of_head? hhead)
    rw [isBlank_mark] at hmark
    cases hmark
  | false =>
    obtain ⟨blanks, c, rest, rfl, hblanks, hc⟩ := exists_of_not_all hall
    have hright : trimBlank (blanks ++ c :: rest) = c :: rest.rdropWhile isBlank := by
      rw [← trimBlank_cons hc, trimBlank, List.dropWhile_append_of_pos hblanks, ← trimBlank]
    rw [hright, rdropWhile_append_cons hc]
    cases blanks with
    | nil =>
      rw [List.nil_append, eq_comm, dropMark_eq_self_iff, List.head?_cons]
      simp only [List.nil_append, List.head?_cons, Option.any_some, hc, Bool.false_eq_true,
        false_and, or_false, ne_eq]
    | cons b blanks =>
      -- the blanks are there behind the mark, and not without it
      refine iff_of_false (fun heq => ?_) fun h => h (Or.inr ⟨hblanks b List.mem_cons_self, rfl⟩)
      have hlength := length_dropMark_le (c :: rest.rdropWhile isBlank)
      rw [← heq, List.cons_append, List.length_cons, List.length_append] at hlength
      omega

end Text

/-! ### Resolving -/

open Source (Fronts)

namespace SourceKind

/-- A text without the comments of its kind. -/
def bare : SourceKind → List Char → List Char
  | descriptor => id
  | style => Source.stripBlockComments
  | markup => Source.stripMarkupComments
  | moduleScript => Source.stripScriptComments
  | script => Source.stripScriptComments

/-- A text of replaced references as it is compiled. -/
def finish : SourceKind → List Char → List Char
  | style => Text.trimBlank
  | _ => id

/-- A text without comments whose front is dropped or trimmed, but is not behind a mark. -/
def Sheltered (kind : SourceKind) (text : List Char) : Prop :=
  text.head? = some mark ∨
    kind = style ∧ text.head?.any isBlank = true ∧ text.all isBlank = false

variable {kind : SourceKind} {text made : List Char}

theorem Sheltered.congr (h : Fronts isBlank text made) :
    kind.Sheltered made ↔ kind.Sheltered text := by
  rw [Sheltered, h.1, h.2, Sheltered]

/-- A mark in front of a text is dropped from what is compiled, and nothing else is different,
exactly if it does not shelter the front of the text. -/
theorem dropMark_finish_mark_iff :
    dropMark (kind.finish (mark :: made)) = dropMark (kind.finish made) ↔
      ¬ kind.Sheltered made := by
  have hplain : dropMark (mark :: made) = dropMark made ↔ ¬ made.head? = some mark := by
    rw [dropMark_mark, eq_comm, dropMark_eq_self_iff]
  unfold Sheltered
  cases kind with
  | style =>
    simp only [finish, true_and]
    exact dropMark_trimBlank_mark_iff
  | descriptor => simpa only [finish, id, reduceCtorEq, false_and, or_false] using hplain
  | markup => simpa only [finish, id, reduceCtorEq, false_and, or_false] using hplain
  | moduleScript => simpa only [finish, id, reduceCtorEq, false_and, or_false] using hplain
  | script => simpa only [finish, id, reduceCtorEq, false_and, or_false] using hplain

end SourceKind

namespace Resolve

/-- Replacing keeps a mark in front of a text and changes nothing else for it, and a text begins as
before. -/
structure KeepsFront (replace : List Char → Except Error (List Char × List Dependency)) : Prop where
  mark : ∀ text, replace (mark :: text) = (replace text).map fun made => (mark :: made.1, made.2)
  fronts : ∀ text made, replace text = .ok made → Fronts isBlank text made.1

theorem keepsFront_replaceReferences {τ : Type} {find : Source.Recogniser τ} {c : Char}
    (hsound : find.IsSound) (hopens : find.OpensWith c) (hne : Text.mark ≠ c)
    (hblank : isBlank c = false) (resolve : Source.Hit τ → Except Error (Option Reference)) :
    KeepsFront (replaceReferences find resolve) where
  mark := Source.replaceCaptured_cons hsound hopens hne
  fronts _ _ h := Source.front_replaceCaptured hsound hopens hblank h

/-- Replaces in two passes, and collects the references of both. -/
def inTurn (first second : List Char → Except Error (List Char × List Dependency))
    (text : List Char) : Except Error (List Char × List Dependency) := do
  let (text, before) ← first text
  let (text, after) ← second text
  return (text, before ++ after)

theorem KeepsFront.inTurn {first second : List Char → Except Error (List Char × List Dependency)}
    (hfirst : KeepsFront first) (hsecond : KeepsFront second) :
    KeepsFront (inTurn first second) where
  mark text := by
    unfold Resolve.inTurn
    rw [hfirst.mark]
    cases first text with
    | error error => rfl
    | ok made =>
      dsimp only [Except.map, bind, Except.bind]
      rw [hsecond.mark]
      cases second made.1 with
      | error error => rfl
      | ok made' => rfl
  fronts text made h := by
    obtain ⟨⟨between, before⟩, hbefore, h⟩ := bind_eq_ok.1 h
    obtain ⟨⟨after, dependencies⟩, hafter, h⟩ := bind_eq_ok.1 h
    obtain rfl := pure_eq_ok.1 h
    have hlast : Fronts isBlank between after := hsecond.fronts _ _ hafter
    exact (hfirst.fronts _ _ hbefore).trans hlast

theorem resolveStyle_eq {config : Config} {disk : Disk} {file : Path} {source : ByteArray}
    {text : List Char} (h : decodeSource source = .ok text) :
    resolveStyle config disk file source =
      (inTurn
        (replaceReferences Source.imported
          fun hit => .ok (importReference? config disk file hit.capturedText))
        (replaceReferences Source.addressed
          fun hit => addressReference config disk file hit.capturedText)
        (Source.stripBlockComments text)).map
          fun replaced => .ofText (trimBlank replaced.1) replaced.2 := by
  unfold resolveStyle inTurn
  rw [h]
  dsimp only [bind, Except.bind]
  cases replaceReferences Source.imported
      (fun hit => .ok (importReference? config disk file hit.capturedText))
      (Source.stripBlockComments text) with
  | error error => rfl
  | ok made =>
    dsimp only
    cases replaceReferences Source.addressed
        (fun hit => addressReference config disk file hit.capturedText) made.1 with
    | error error => rfl
    | ok made' => rfl

end Resolve

namespace SourceKind

open Resolve

variable {kind : SourceKind} {config : Config} {disk : Disk} {file : Path}

/-- A mark opens no comment. -/
theorem bare_mark (kind : SourceKind) (text : List Char) :
    kind.bare (mark :: text) = mark :: kind.bare text := by
  cases kind with
  | descriptor => rfl
  | style => exact Source.stripBlockComments_cons (by decide) text
  | markup => exact Source.stripMarkupComments_cons (by decide) text
  | moduleScript => exact Source.stripScriptComments_cons (by decide) (by decide) text
  | script => exact Source.stripScriptComments_cons (by decide) (by decide) text

/-- All kinds but descriptors refuse what is no text. -/
theorem resolve_of_not_text (hkind : kind ≠ descriptor) {source : ByteArray} {error : Error}
    (h : decodeSource source = .error error) :
    kind.resolve config disk file source = .error error := by
  have hrequires (reference : String → Except Error Reference) :
      resolveRequires reference source = .error error := by
    unfold resolveRequires
    rw [h]
    rfl
  cases kind with
  | descriptor => exact absurd rfl hkind
  | style =>
    show resolveStyle config disk file source = _
    unfold resolveStyle
    rw [h]
    rfl
  | markup =>
    show resolveMarkup config disk file source = _
    unfold resolveMarkup
    rw [h]
    rfl
  | moduleScript => exact hrequires _
  | script => exact hrequires _

/-- They resolve a text by removing comments, replacing references and finishing. -/
theorem exists_replace (hkind : kind ≠ descriptor) (config : Config) (disk : Disk) (file : Path) :
    ∃ replace, KeepsFront replace ∧ ∀ source text, decodeSource source = .ok text →
      kind.resolve config disk file source =
        (replace (kind.bare text)).map fun made => .ofText (kind.finish made.1) made.2 := by
  have hrequired (reference : String → Except Error Reference) :=
    keepsFront_replaceReferences Source.isSound_required Source.opensWith_required (by decide)
      (by decide +kernel) fun hit => (reference hit.capturedText).map some
  cases kind with
  | descriptor => exact absurd rfl hkind
  | style =>
    have himported := keepsFront_replaceReferences Source.isSound_imported Source.opensWith_imported
      (by decide) (by decide +kernel)
      fun hit => .ok (importReference? config disk file hit.capturedText)
    have haddressed :=
      keepsFront_replaceReferences Source.isSound_addressed Source.opensWith_addressed
        (by decide) (by decide +kernel)
        fun hit => addressReference config disk file hit.capturedText
    exact ⟨_, himported.inTurn haddressed, fun source text h => resolveStyle_eq h⟩
  | markup =>
    have htagged := keepsFront_replaceReferences Source.isSound_tagged Source.opensWith_tagged
      (by decide) (by decide +kernel)
      fun hit => (tagReference config disk file hit.tag hit.capturedText).map some
    exact ⟨_, htagged, fun source text h => resolveMarkup_eq h⟩
  | moduleScript =>
    exact ⟨_, hrequired (moduleScriptReference config disk file), fun source text h =>
      resolveRequires_eq h⟩
  | script =>
    exact ⟨_, hrequired (scriptReference config disk file),
      fun source text h => resolveRequires_eq h⟩

/-- With a mark in front a source of another kind than a descriptor resolves if it does without,
with the same references and the mark in front of the text that is made of it. -/
theorem resolve_mark (hkind : kind ≠ descriptor) (config : Config) (disk : Disk) (file : Path)
    (source : ByteArray) :
    (∃ error error', kind.resolve config disk file source = .error error ∧
        kind.resolve config disk file (markBytes ++ source) = .error error') ∨
      ∃ text made dependencies, source = (String.ofList text).toUTF8 ∧
        Fronts isBlank (kind.bare text) made ∧
        kind.resolve config disk file source = .ok (.ofText (kind.finish made) dependencies) ∧
        kind.resolve config disk file (markBytes ++ source) =
          .ok (.ofText (kind.finish (mark :: made)) dependencies) := by
  obtain ⟨replace, hreplace, hresolve⟩ := exists_replace hkind config disk file
  rcases decode_mark source with ⟨text, htext, hmarked⟩ | ⟨fault, fault', hfault, hfault'⟩
  · have hplain : decodeSource source = .ok text.toList := by
      rw [decodeSource, htext]
    have hwith : decodeSource (markBytes ++ source) = .ok (mark :: text.toList) := by
      rw [decodeSource, hmarked]
      dsimp only
      rw [String.toList_ofList]
    rw [hresolve _ _ hplain, hresolve _ _ hwith, bare_mark, hreplace.mark]
    cases hmade : replace (kind.bare text.toList) with
    | error error => exact Or.inl ⟨error, error, rfl, rfl⟩
    | ok made =>
      have hsource : source = (String.ofList text.toList).toUTF8 := by
        rw [String.ofList_toList]
        exact decode_eq_ok_iff.1 htext
      exact Or.inr ⟨_, made.1, made.2, hsource, hreplace.fronts _ _ hmade, rfl, rfl⟩
  · have hplain : decodeSource source = .error (.notText source fault) := by
      rw [decodeSource, hfault]
    have hwith : decodeSource (markBytes ++ source) =
        .error (.notText (markBytes ++ source) fault') := by
      rw [decodeSource, hfault']
    exact Or.inl ⟨_, _, resolve_of_not_text hkind hplain, resolve_of_not_text hkind hwith⟩

end SourceKind

namespace Resolve

variable {file : Path} {source : ByteArray}

/-- The front of what is left of a source without comments would be dropped or trimmed, but is not
when a mark stands before it. -/
def Sheltered (file : Path) (source : ByteArray) : Prop :=
  ∃ kind text, SourceKind.of? file = some kind ∧ source = (String.ofList text).toUTF8 ∧
    kind.Sheltered (kind.bare text)

theorem sheltered_iff {kind : SourceKind} {text : List Char}
    (hkind : SourceKind.of? file = some kind) :
    Sheltered file (String.ofList text).toUTF8 ↔ kind.Sheltered (kind.bare text) := by
  constructor
  · rintro ⟨kind', text', hkind', htext, h⟩
    obtain rfl := Option.some.inj (hkind.symm.trans hkind')
    obtain rfl := String.ofList_injective (toUTF8_inj htext)
    exact h
  · exact fun h => ⟨kind, text, hkind, rfl, h⟩

/-- With a mark in front a file that is no descriptor resolves if it does without, with the same
references; and but for marks the contents are the same exactly if the mark shelters nothing. -/
theorem resolveFile_mark (hkind : SourceKind.of? file ≠ some .descriptor)
    (hsource : ∀ rest, source ≠ markBytes ++ rest) (config : Config) (disk : Disk) :
    (∃ error error', resolveFile config disk file source = .error error ∧
        resolveFile config disk file (markBytes ++ source) = .error error') ∨
      ∃ plain marked, resolveFile config disk file source = .ok plain ∧
        resolveFile config disk file (markBytes ++ source) = .ok marked ∧
        marked.dependencies = plain.dependencies ∧
        (stripMark marked.content = stripMark plain.content ↔ ¬ Sheltered file source) := by
  unfold resolveFile
  cases hof : SourceKind.of? file with
  | none =>
    refine Or.inr ⟨_, _, rfl, rfl, rfl, iff_of_true ?_ ?_⟩
    · rw [stripMark_mark, stripMark_of_ne hsource]
    · rintro ⟨kind, text, hkind', -⟩
      cases hof.symm.trans hkind'
  | some kind =>
    have hne : kind ≠ .descriptor := fun h => hkind (hof.trans (congrArg some h))
    rcases kind.resolve_mark hne config disk file source with
      herrors | ⟨text, made, dependencies, rfl, hfronts, hplain, hmarked⟩
    · exact Or.inl herrors
    · refine Or.inr ⟨_, _, hplain, hmarked, rfl, ?_⟩
      rw [sheltered_iff hof, ← SourceKind.Sheltered.congr hfronts,
        ← SourceKind.dropMark_finish_mark_iff]
      show stripMark (String.ofList _).toUTF8 = stripMark (String.ofList _).toUTF8 ↔ _
      rw [stripMark_toUTF8, stripMark_toUTF8]
      exact ⟨fun h => String.ofList_injective (toUTF8_inj h), fun h => by rw [h]⟩

end Resolve

/-! ### Compiling -/

namespace Compile

variable {config : Config} {disk marked : Disk} {registry : Registry} {task : Task}
  {source : ByteArray}

/-- The chunk of a source that no loader changes. -/
def plainChunk (config : Config) (registry : Registry) (task : Task) (source : ByteArray)
    (resolved : Resolve.Resolved) : Chunk :=
  (freshChunk config task source resolved ⟨resolved.content, none, []⟩).addDestinations
    (knownDestinations registry task.file)

theorem dependencies_plainChunk (source : ByteArray) (resolved : Resolve.Resolved) :
    (plainChunk config registry task source resolved).dependencies = resolved.dependencies := by
  rw [plainChunk, Chunk.addDestinations_dependencies]
  exact List.append_nil _

/-- It is written as its source resolves to, without a mark. -/
theorem render_plainChunk (settings : Settings) (source : ByteArray) (resolved : Resolve.Resolved) :
    Flush.render settings (plainChunk config registry task source resolved) =
      stripMark resolved.content := by
  rw [plainChunk, Chunk.addDestinations_eq]
  rfl

/-- Without rules a file compiles to what its source resolves to. -/
theorem compileFile_eq_map (hrules : config.rules = []) (hread : disk.read task.file = .ok source) :
    compileFile config disk registry task =
      (Resolve.resolveFile config disk task.file source).map
        (plainChunk config registry task source) := by
  have hrule : config.rule? task.file = none := by
    rw [Config.rule?, hrules]
    rfl
  rw [compileFile, readSource_eq_ok_iff.2 hread]
  unfold compileSource plainChunk freshChunk
  rw [hrule]
  dsimp only
  cases Resolve.resolveFile config disk task.file source with
  | error error => rfl
  | ok resolved => rfl

/-- A file compiles on one disk exactly if it does on another; the chunks have the same references,
and are written as the same bytes exactly if a condition holds. -/
structure Matches (same : Prop) (plain marked : Except Error Chunk) : Prop where
  compiles : (∃ chunk, marked = .ok chunk) ↔ ∃ chunk, plain = .ok chunk
  dependencies : ∀ chunk chunk', plain = .ok chunk → marked = .ok chunk' →
    chunk'.dependencies = chunk.dependencies
  render : ∀ settings chunk chunk', plain = .ok chunk → marked = .ok chunk' →
    (Flush.render settings chunk' = Flush.render settings chunk ↔ same)

theorem matches_error {same : Prop} (error error' : Error) :
    Matches same (.error error) (.error error') where
  compiles := iff_of_false (fun ⟨_, h⟩ => nomatch h) fun ⟨_, h⟩ => nomatch h
  dependencies _ _ h := nomatch h
  render _ _ _ h := nomatch h

theorem matches_ok {same : Prop} {chunk chunk' : Chunk}
    (hdependencies : chunk'.dependencies = chunk.dependencies)
    (hrender : ∀ settings, Flush.render settings chunk' = Flush.render settings chunk ↔ same) :
    Matches same (.ok chunk) (.ok chunk') where
  compiles := iff_of_true ⟨_, rfl⟩ ⟨_, rfl⟩
  dependencies := by
    rintro _ _ ⟨⟩ ⟨⟩
    exact hdependencies
  render := by
    rintro settings _ _ ⟨⟩ ⟨⟩
    exact hrender settings

/-- With a mark in front a descriptor does not compile.  Every other file compiles with a mark in
front exactly if it compiles without, with the same references, and is written as the same bytes
exactly if the mark does not shelter what is left of the source without comments. -/
theorem marked_of_compileFile (hrules : config.rules = [])
    (hread : disk.read task.file = .ok source)
    (hmarked : marked.read task.file = .ok (markBytes ++ source))
    (hsource : ∀ rest, source ≠ markBytes ++ rest) :
    (SourceKind.of? task.file = some .descriptor →
        compileFile config marked registry task = .error (.resolve task.file .invalidJson)) ∧
      (SourceKind.of? task.file ≠ some .descriptor → Resolve.Alike disk marked →
        Matches (¬ Resolve.Sheltered task.file source) (compileFile config disk registry task)
          (compileFile config marked registry task)) := by
  constructor
  · intro hkind
    have hresolve : Resolve.resolveFile config marked task.file (markBytes ++ source) =
        .error (.resolve task.file .invalidJson) := by
      rw [Resolve.resolveFile, hkind]
      exact Resolve.resolveDescriptor_mark config marked task.file source
    rw [compileFile_eq_map hrules hmarked, hresolve]
    rfl
  · intro hkind halike
    -- references are looked up alike on both disks
    have hresolve : Resolve.resolveFile config marked = Resolve.resolveFile config disk :=
      halike.resolveFile config config.manifest
    rw [compileFile_eq_map hrules hread, compileFile_eq_map hrules hmarked, hresolve]
    rcases Resolve.resolveFile_mark hkind hsource config disk with
      ⟨error, error', herror, herror'⟩ | ⟨plain, withMark, hplain, hwith, hdependencies, hrender⟩
    · rw [herror, herror']
      exact matches_error error error'
    · rw [hplain, hwith]
      refine matches_ok ?_ fun settings => ?_
      · rw [dependencies_plainChunk, dependencies_plainChunk, hdependencies]
      · rw [render_plainChunk, render_plainChunk, hrender]

/-- A descriptor, and sheets one of which begins with a blank and one of which imports it. -/
def sheets : Disk where
  entries := [
    (["p"], .folder),
    (["p", "src"], .folder),
    (["p", "src", "a.json"], .file "{}".toUTF8),
    (["p", "src", "a.wxss"], .file " a".toUTF8),
    (["p", "src", "b.wxss"], .file "@import './a.wxss'; ".toUTF8)]
  current := []

/-- The descriptor and the sheets with a mark in front of one. -/
def markedSheets (name : String) (source : String) : Disk :=
  (sheets.write ((Path.mk "/p/src").child name) (markBytes ++ source.toUTF8)).1

theorem marked_of_importing :
    let config : Config := .of ⟨"/p"⟩
    let source := "@import './a.wxss'; "
    let task : Task := { file := (Path.mk "/p/src").child "b.wxss" }
    let marked := markedSheets "b.wxss" source
    config.rules = [] ∧ sheets.read task.file = .ok source.toUTF8 ∧
      marked.read task.file = .ok (markBytes ++ source.toUTF8) ∧
      (∀ rest, source.toUTF8 ≠ markBytes ++ rest) ∧ Resolve.Alike sheets marked ∧
      Matches (¬ Resolve.Sheltered task.file source.toUTF8) (compileFile config sheets {} task)
        (compileFile config marked {} task) ∧
      (compileFile config marked {} task).toOption.map
        (fun chunk => chunk.dependencies.map Dependency.required) = some ["./a.wxss"] := by
  intro config source task marked
  have hread : sheets.read task.file = .ok source.toUTF8 := by decide +kernel
  have hmarked : marked.read task.file = .ok (markBytes ++ source.toUTF8) := by decide +kernel
  have hhead : source.toList.head? ≠ some mark := by decide +kernel
  have hsource : ∀ rest, source.toUTF8 ≠ markBytes ++ rest := fun rest h =>
    toUTF8_ne_mark hhead rest (by rwa [String.ofList_toList])
  have halike : Resolve.Alike sheets marked :=
    Resolve.alike_of_write (by decide) (by decide +kernel) (by decide +kernel) (by decide +kernel) _
  have hkind : SourceKind.of? task.file ≠ some .descriptor := by decide +kernel
  exact ⟨rfl, hread, hmarked, hsource, halike,
    (marked_of_compileFile rfl hread hmarked hsource).2 hkind halike, by decide +kernel⟩

/-- A mark makes a descriptor fail, and the blank of a sheet is written only behind a mark. -/
theorem sheltered_by_mark :
    let config : Config := .of ⟨"/p"⟩
    let descriptor : Task := { file := (Path.mk "/p/src").child "a.json" }
    let sheet : Task := { file := (Path.mk "/p/src").child "a.wxss" }
    let settings : Settings := .of ⟨"/p"⟩
    config.rules = [] ∧
      (∃ chunk, compileFile config sheets {} descriptor = .ok chunk) ∧
      (¬ ∃ chunk, compileFile config (markedSheets "a.json" "{}") {} descriptor = .ok chunk) ∧
      (compileFile config sheets {} sheet).toOption.map (Flush.render settings) =
        some "a".toUTF8 ∧
      (compileFile config (markedSheets "a.wxss" " a") {} sheet).toOption.map
        (Flush.render settings) = some " a".toUTF8 := by
  intro config descriptor sheet settings
  have hcompiled : ((compileFile config sheets {} descriptor).toOption.map Chunk.content).isSome :=
    by decide +kernel
  have hmarked : (compileFile config (markedSheets "a.json" "{}") {} descriptor).toOption.map
      Chunk.content = none := by decide +kernel
  refine ⟨rfl, ?_, ?_, by decide +kernel, by decide +kernel⟩
  · rw [Option.isSome_map] at hcompiled
    obtain ⟨chunk, hchunk⟩ := Option.isSome_iff_exists.1 hcompiled
    exact ⟨chunk, toOption_eq_some.1 hchunk⟩
  · rintro ⟨chunk, hchunk⟩
    rw [hchunk] at hmarked
    cases hmarked

end Compile

end Minipack
