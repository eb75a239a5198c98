/-
What becomes of a template.

A template is rewritten value by value: each tag that refers to a file gets what its value resolves
to (`newValue`) in its place, comments go, and everything else stays (`Rewritten`).  This holds of
every template that is clear (`rewritten_of_resolveMarkup`).  In others an angle bracket in a value
hides the reference behind it, and tags and attributes that only look like those that refer to files
are rewritten as well (`not_rewritten_alike`).
-/
import Minipack.Proofs.Resolve.Alignment
import Minipack.Proofs.Source.Tagging

namespace Minipack.Resolve

open Source

variable {config : Config} {disk : Disk} {file : Path}

/-- The value that takes the place of one by which a tag refers to a file. -/
def newValue (config : Config) (disk : Disk) (file : Path) (tag specifier : String) : String :=
  match tagReference config disk file tag specifier with
  | .ok made => made.text
  | .error _ => specifier

/-- A template without its comments, with new values where tags refer to files, all of which are
found, and a reference for each of them, in order. -/
structure Rewritten (config : Config) (disk : Disk) (file : Path) (pieces : List Markup)
    (resolved : Resolved) : Prop where
  content : resolved.content =
    (String.ofList (pieces.flatMap (Markup.rewritten (newValue config disk file)))).toUTF8
  answered : ∀ source ∈ pieces.flatMap Markup.sources,
    ∃ made, tagReference config disk file source.1 source.2 = .ok made
  dependencies : resolved.dependencies.map (fun d => (d.required, d.specifier)) =
    (pieces.flatMap Markup.sources).map fun (tag, specifier) =>
      (specifier, newValue config disk file tag specifier)

/-- Every clear template that is resolved is rewritten so. -/
theorem rewritten_of_resolveMarkup {source : ByteArray} {resolved : Resolved} {pieces : List Markup}
    (hsource : decodeSource source = .ok (pieces.flatMap Markup.source))
    (hclear : ∀ piece ∈ pieces, piece.isClear = true)
    (h : resolveMarkup config disk file source = .ok resolved) :
    Rewritten config disk file pieces resolved := by
  have hclosed : ∀ t, .tag t ∈ pieces → ∀ a ∈ t.attributes, a.isClosed = true := fun t ht =>
    List.all_eq_true.1 (Bool.and_eq_true_iff.1 (hclear _ ht)).1
  rw [resolveMarkup_eq hsource, replaceReferences_some,
    Markup.stripMarkupComments_source hclosed] at h
  obtain ⟨replaced, hreplaced, rfl⟩ := map_eq_ok.1 h
  obtain ⟨made, hmade, rfl⟩ := map_eq_ok.1 hreplaced
  have hreads := Markup.reads_segments hclear
  rw [hits_eq] at hmade
  have hvalue : ∀ (hit : Hit String) (r : Reference),
      tagReference config disk file hit.tag hit.capturedText = .ok r →
      newValue config disk file hit.tag hit.capturedText = r.text := fun hit r hr => by
    rw [newValue, hr]
  constructor
  · have hchanges := map_of_mapM_eq_ok hmade fun hit r hr =>
      congrArg (fun text : String => some text.toList) (hvalue hit r hr).symm
    dsimp only [Resolved.ofText]
    rw [hchanges, weave_map, hreads.rewritten]
  · rw [← hreads.sources]
    intro source hmem
    obtain ⟨hit, hhit, rfl⟩ := List.mem_map.1 hmem
    obtain ⟨r, -, hr⟩ := (mem_of_mapM_eq_ok hmade).1 hit hhit
    exact ⟨r, hr⟩
  · rw [← hreads.sources]
    show (made.map Reference.dependency).map _ = _
    rw [List.map_map, List.map_map]
    refine map_of_mapM_eq_ok hmade fun hit r hr => ?_
    have htells := (target?_of_ok (fun hit =>
      answers_tagReference config disk file hit.tag hit.capturedText) hr).2
    exact Prod.ext htells.required (htells.text.trans (hvalue hit r hr).symm)

/-- An image in a folder. -/
def images : Disk where
  entries := [(["p"], .folder), (["p", "src"], .folder), (["p", "src", "a.png"], .file "i".toUTF8)]
  current := []

/-- The attribute by which an image is shown. -/
def shown : Attribute :=
  .ofStrings "src" "a.png" (by decide) (by decide) (by decide)

/-- An attribute with a condition. -/
def conditional (condition : String) (h : '\x22' ∉ condition.toList) : Attribute :=
  .ofStrings "wx:if" condition (by decide) (by decide) h

/-- An attribute whose name ends like that of a source. -/
def alike : Attribute :=
  .ofStrings "data-src" "a.png" (by decide) (by decide) (by decide)

/-- A template with a reference, also in a comment, and with what looks like one. -/
def gallery : List Markup :=
  [.comment " <image src='b.png'/> ".toList (by decide),
    .text "a < b".toList (by decide),
    .tag (.ofName "image-list" (by decide) [conditional "\x7b\x7bb > 0\x7d\x7d" (by decide)]),
    .tag (.ofName "image" (by decide) [conditional "\x7b\x7bb < 0\x7d\x7d" (by decide), shown,
      alike])]

theorem rewritten_gallery : ∃ resolved,
    decodeSource (String.ofList (gallery.flatMap Markup.source)).toUTF8 =
      .ok (gallery.flatMap Markup.source) ∧
    (∀ piece ∈ gallery, piece.isClear = true) ∧
    resolveMarkup (.of ⟨"/p"⟩) images ⟨"/p/src/a.wxml"⟩
      (String.ofList (gallery.flatMap Markup.source)).toUTF8 = .ok resolved ∧
    Rewritten (.of ⟨"/p"⟩) images ⟨"/p/src/a.wxml"⟩ gallery resolved ∧
    resolved.dependencies.map Dependency.required = ["a.png"] := by
  have hsource : decodeSource (String.ofList (gallery.flatMap Markup.source)).toUTF8 =
      .ok (gallery.flatMap Markup.source) := by
    rw [decodeSource_toUTF8, String.toList_ofList]
  have hclear : ∀ piece ∈ gallery, piece.isClear = true := by decide +kernel
  have hdone : (resolveMarkup (.of ⟨"/p"⟩) images ⟨"/p/src/a.wxml"⟩
      (String.ofList (gallery.flatMap Markup.source)).toUTF8).toOption.map
        (fun resolved => resolved.dependencies.map Dependency.required) = some ["a.png"] := by
    decide +kernel
  obtain ⟨resolved, hresolved, hrequired⟩ := Option.map_eq_some_iff.1 hdone
  rw [toOption_eq_some] at hresolved
  exact ⟨resolved, hsource, hclear, hresolved, rewritten_of_resolveMarkup hsource hclear hresolved,
    hrequired⟩

/-- What a template with one tag comes out as, and the values in it for which references are made.
-/
def comesOut (tag : Tag) : Option (List UInt8 × List String) :=
  (resolveMarkup (.of ⟨"/p"⟩) images ⟨"/p/src/a.wxml"⟩
    (String.ofList (tag.textWith Attribute.text)).toUTF8).toOption.map fun resolved =>
      (resolved.content.data.toList, resolved.dependencies.map Dependency.required)

/-- The bytes that a template with one tag should come out as. -/
def expectedOf (tag : Tag) : List UInt8 :=
  (String.ofList
    (tag.rewritten (newValue (.of ⟨"/p"⟩) images ⟨"/p/src/a.wxml"⟩))).toUTF8.data.toList

/-- A source behind a value with an angle bracket stays, while values of other tags and of
attributes whose names only end like that of a source are taken for sources. -/
theorem not_rewritten_alike :
    let bracketed : Tag := .ofName "image" (by decide)
      [conditional "\x7b\x7bb > 0\x7d\x7d" (by decide), shown]
    let listed : Tag := .ofName "image-list" (by decide) [shown]
    let prefixed : Tag := .ofName "image" (by decide) [alike]
    (bracketed.sources = [("image", "a.png")] ∧ (comesOut bracketed).map Prod.snd = some [] ∧
        (comesOut bracketed).map Prod.fst ≠ some (expectedOf bracketed)) ∧
      (listed.sources = [] ∧ (comesOut listed).map Prod.snd = some ["a.png"] ∧
        (comesOut listed).map Prod.fst ≠ some (expectedOf listed)) ∧
      prefixed.sources = [] ∧ (comesOut prefixed).map Prod.snd = some ["a.png"] ∧
        (comesOut prefixed).map Prod.fst ≠ some (expectedOf prefixed) := by
  decide +kernel

end Minipack.Resolve
