/-
Content and references of a resolved file go together.

Scripts, template scripts and templates are resolved hit by hit.  Each hit has a target or has none,
by its tag and its captured text alone, and when it has one the reference that is made of it tells
that target, the captured text and the very text that is written in its place (`Resolve.Answers`).
So resolving fails exactly if a hit is left without a target, and else gives one reference for each
hit, in order, and the text with the captured parts replaced by what the references say
(`Resolve.aligned_of_decodeSource`).
-/
import Minipack.Proofs.Resolve.Routes
import Minipack.Proofs.Source.Recognisers

namespace Minipack.Resolve

variable {config : Config} {disk : Disk} {file target : Path} {specifier : String}

/-! ### Targets are files -/

theorem isFile_findScript {path : Path} (h : findScript disk path = some target) :
    disk.isFile target = true :=
  List.find?_some h

theorem isFile_findCandidate {candidate : Path} (h : findCandidate disk candidate = some target) :
    disk.isFile target = true := by
  unfold findCandidate at h
  split at h
  · unfold Disk.search at h
    split at h
    · cases h
    · dsimp only at h
      split at h
      · cases h
      · split at h
        · cases h
        · exact ((searchIn_spec (P := fun _ => True) (fun _ _ => id) (fun _ _ => id) _).1 _ _
            trivial target h).2
  · exact isFile_findScript h

theorem isFile_findAlias (h : findAlias config disk specifier = some target) :
    disk.isFile target = true := by
  unfold findAlias at h
  split at h
  · cases h
  · obtain ⟨candidate, -, hcandidate⟩ := List.exists_of_findSome?_eq_some h
    exact isFile_findCandidate hcandidate

theorem isFile_findPackage {base : Path} (h : findPackage disk specifier base = some target) :
    disk.isFile target = true := by
  obtain ⟨folder, -, hcandidate⟩ := List.exists_of_findSome?_eq_some h
  dsimp only at hcandidate
  split at hcandidate
  · next main hmain =>
    obtain rfl := Option.some.inj hcandidate
    obtain ⟨name, hscript⟩ := exists_of_packageMain? hmain
    exact isFile_findScript hscript
  · exact isFile_findScript hcandidate

theorem isFile_findRequired (h : findRequired config disk file specifier = some target) :
    disk.isFile target = true := by
  unfold findRequired at h
  split at h
  · next found halias =>
    obtain rfl := Option.some.inj h
    exact isFile_findAlias halias
  · split at h
    · exact isFile_findScript h
    · exact isFile_findPackage h

theorem isFile_findModuleScript (h : findModuleScript config disk file specifier = some target) :
    disk.isFile target = true := by
  unfold findModuleScript at h
  dsimp only at h
  split at h
  · next hfile =>
    obtain rfl := Option.some.inj h
    exact hfile
  · split at h
    · cases h
    · exact List.find?_some h

theorem isFile_findTemplate {tag : String}
    (h : findTemplate config disk file tag specifier = some target) :
    disk.isFile target = true := by
  unfold findTemplate at h
  dsimp only at h
  split at h
  · next hfile =>
    obtain rfl := Option.some.inj h
    exact hfile
  · split at h
    · cases h
    · exact List.find?_some h

/-- The file that a tag refers to. -/
def tagTarget? (config : Config) (disk : Disk) (file : Path) (tag specifier : String) :
    Option Path :=
  if isCompiledSource config tag specifier then findTemplate config disk file tag specifier
  else if isPackage specifier then findPackageResource config disk file specifier
  else (some (locate config file specifier)).filter disk.isFile

theorem isFile_tagTarget? {tag : String}
    (h : tagTarget? config disk file tag specifier = some target) :
    disk.isFile target = true := by
  unfold tagTarget? at h
  split at h
  · exact isFile_findTemplate h
  · split at h
    · exact (Option.filter_eq_some_iff.1 h).2
    · exact (Option.filter_eq_some_iff.1 h).2

/-! ### One reference -/

/-- A reference tells its target, what was written and what is written now. -/
structure Tells (reference : Reference) (target : Path) (specifier : String) : Prop where
  target : reference.dependency.target = target
  required : reference.dependency.required = specifier
  text : reference.dependency.specifier = reference.text

/-- A reference is made exactly if there is a target, and tells it. -/
def Answers (reference : Except Error Reference) (target : Option Path) (specifier : String) :
    Prop :=
  match target with
  | some target => ∃ made, reference = .ok made ∧ Tells made target specifier
  | none => ∃ error, reference = .error error

theorem tells_compiledReference (file target : Path) (specifier : String)
    (kind : Option ChunkKind) (suffix : String) :
    Tells (compiledReference config file target specifier kind suffix) target specifier := by
  simp only [compiledReference]
  constructor
  · rw [replaceWith_eq]
  · rw [replaceWith_eq]
  · dsimp only
    exact specifier_replaceWith rfl _

theorem tells_staticDependency (file target : Path) (specifier : String) :
    Tells ⟨staticDependency config file target specifier,
      config.publicUrl (staticDependency config file target specifier).destination⟩
      target specifier := by
  unfold staticDependency
  refine ⟨?_, ?_, ?_⟩
  · rw [replaceWith_eq]
  · rw [replaceWith_eq]
  · rw [specifier_replaceWith rfl, replaceWith_eq]

theorem answers_scriptReference (config : Config) (disk : Disk) (file : Path) (specifier : String) :
    Answers (scriptReference config disk file specifier) (findRequired config disk file specifier)
      specifier := by
  unfold scriptReference
  cases findRequired config disk file specifier with
  | none => exact ⟨_, rfl⟩
  | some target => exact ⟨_, rfl, tells_compiledReference file target specifier _ _⟩

theorem answers_moduleScriptReference (config : Config) (disk : Disk) (file : Path)
    (specifier : String) :
    Answers (moduleScriptReference config disk file specifier)
      (findModuleScript config disk file specifier) specifier := by
  unfold moduleScriptReference
  cases findModuleScript config disk file specifier with
  | none => exact ⟨_, rfl⟩
  | some target => exact ⟨_, rfl, tells_compiledReference file target specifier _ _⟩

theorem answers_tagReference (config : Config) (disk : Disk) (file : Path)
    (tag specifier : String) : Answers (tagReference config disk file tag specifier)
      (tagTarget? config disk file tag specifier) specifier := by
  unfold tagReference tagTarget?
  dsimp only
  split
  · cases findTemplate config disk file tag specifier with
    | none => exact ⟨_, rfl⟩
    | some target => exact ⟨_, rfl, tells_compiledReference file target specifier _ _⟩
  · split
    · cases findPackageResource config disk file specifier with
      | none => exact ⟨_, rfl⟩
      | some target => exact ⟨_, rfl, tells_compiledReference file target specifier _ _⟩
    · rw [Option.filter_some]
      split
      · exact ⟨_, rfl, tells_staticDependency file _ specifier⟩
      · exact ⟨_, rfl⟩

/-! ### All references -/

variable {τ : Type} {find : Source.Recogniser τ} {text : List Char}

/-- Where a reference is asked of every hit, all are collected and their texts are woven in. -/
theorem replaceReferences_some (reference : Source.Hit τ → Except Error Reference)
    (text : List Char) :
    replaceReferences find (fun hit => (reference hit).map some) text =
      ((Source.hits find text).mapM reference).map fun made =>
        (Source.weave (Source.segments find none text) (made.map fun r => some r.text.toList),
          made.map Reference.dependency) := by
  rw [replaceReferences_eq, mapM_map]
  cases (Source.hits find text).mapM reference with
  | error error => rfl
  | ok made =>
    simp only [Except.map, List.map_map, List.filterMap_map, Function.comp_def, Option.map_some,
      List.filterMap_eq_map']

/-- A resolved text has one reference for each hit, in order, which tells the target of the hit, a
file, and its captured text; the content is the text with what the references say in place of the
captured parts. -/
structure Fits (disk : Disk) (find : Source.Recogniser τ) (target? : Source.Hit τ → Option Path)
    (text : List Char) (resolved : Resolved) : Prop where
  required : resolved.dependencies.map Dependency.required =
    (Source.hits find text).map Source.Hit.capturedText
  targets : resolved.dependencies.map (fun d => some d.target) =
    (Source.hits find text).map target?
  files : ∀ d ∈ resolved.dependencies, disk.isFile d.target = true
  content : resolved.content = (String.ofList (Source.weave (Source.segments find none text)
    (resolved.dependencies.map fun d => some d.specifier.toList))).toUTF8

/-- The hits and the characters between them are the whole text, the outcome is an error exactly if
a hit has no target, and else it fits. -/
structure Aligned (disk : Disk) (find : Source.Recogniser τ) (target? : Source.Hit τ → Option Path)
    (text : List Char) (outcome : Except Error Resolved) : Prop where
  parts : (Source.segments find none text).flatMap Source.Segment.text = text
  fails : (∃ error, outcome = .error error) ↔ ∃ hit ∈ Source.hits find text, target? hit = none
  fits : ∀ resolved, outcome = .ok resolved → Fits disk find target? text resolved

section

variable {reference : Source.Hit τ → Except Error Reference}
  {target? : Source.Hit τ → Option Path}
  (hanswers : ∀ hit, Answers (reference hit) (target? hit) hit.capturedText)
include hanswers

theorem target?_of_ok {hit : Source.Hit τ} {made : Reference} (h : reference hit = .ok made) :
    target? hit = some made.dependency.target ∧
      Tells made made.dependency.target hit.capturedText := by
  have hanswer := hanswers hit
  unfold Answers at hanswer
  split at hanswer
  · next target htarget =>
    obtain ⟨made', hmade, htells⟩ := hanswer
    obtain rfl := Except.ok.inj (h.symm.trans hmade)
    obtain rfl := htells.target
    exact ⟨htarget, htells⟩
  · obtain ⟨error, herror⟩ := hanswer
    cases h.symm.trans herror

theorem target?_eq_none_iff {hit : Source.Hit τ} :
    target? hit = none ↔ ∃ error, reference hit = .error error := by
  constructor
  · intro hnone
    have hanswer := hanswers hit
    rwa [hnone] at hanswer
  · rintro ⟨error, herror⟩
    cases htarget : target? hit with
    | none => rfl
    | some target =>
      have hanswer := hanswers hit
      rw [htarget] at hanswer
      obtain ⟨made, hmade, -⟩ := hanswer
      cases herror.symm.trans hmade

/-- What is made of the hits fits. -/
theorem fits_of_made (hfiles : ∀ hit target, target? hit = some target → disk.isFile target = true)
    {made : List Reference} (hmade : (Source.hits find text).mapM reference = .ok made) :
    Fits disk find target? text (.ofText
      (Source.weave (Source.segments find none text) (made.map fun r => some r.text.toList))
      (made.map Reference.dependency)) := by
  constructor
  · show (made.map Reference.dependency).map Dependency.required = _
    rw [List.map_map]
    exact map_of_mapM_eq_ok hmade fun hit r hr => (target?_of_ok hanswers hr).2.required
  · show (made.map Reference.dependency).map (fun d => some d.target) = _
    rw [List.map_map]
    exact map_of_mapM_eq_ok hmade fun hit r hr => (target?_of_ok hanswers hr).1.symm
  · intro d hd
    obtain ⟨r, hr, rfl⟩ := List.mem_map.1 hd
    obtain ⟨hit, -, hmade⟩ := (mem_of_mapM_eq_ok hmade).2 r hr
    exact hfiles hit _ (target?_of_ok hanswers hmade).1
  · have htexts : (made.map Reference.dependency).map (fun d => some d.specifier.toList) =
        made.map fun r => some r.text.toList := by
      rw [List.map_map]
      refine List.map_congr_left fun r hr => ?_
      obtain ⟨hit, -, hmade⟩ := (mem_of_mapM_eq_ok hmade).2 r hr
      show some r.dependency.specifier.toList = _
      rw [(target?_of_ok hanswers hmade).2.text]
    exact congrArg (fun texts =>
      (String.ofList (Source.weave (Source.segments find none text) texts)).toUTF8) htexts.symm

/-- Resolving hit by hit is aligned when each reference answers for its hit. -/
theorem aligned_of_answers (hsound : find.IsSound)
    (hfiles : ∀ hit target, target? hit = some target → disk.isFile target = true)
    (text : List Char) :
    Aligned disk find target? text
      ((replaceReferences find (fun hit => (reference hit).map some) text).map
        fun replaced => .ofText replaced.1 replaced.2) := by
  rw [replaceReferences_some]
  refine ⟨Source.flatMap_text_segments hsound none text, ?_, ?_⟩
  · constructor
    · rintro ⟨error, herror⟩
      obtain ⟨before, hit, after, hhits, -, hhit⟩ :=
        mapM_eq_error.1 (map_eq_error.1 (map_eq_error.1 herror))
      refine ⟨hit, ?_, (target?_eq_none_iff hanswers).2 ⟨error, hhit⟩⟩
      rw [hhits]
      exact List.mem_append_right _ List.mem_cons_self
    · rintro ⟨hit, hmem, hnone⟩
      obtain ⟨error, hhit⟩ := (target?_eq_none_iff hanswers).1 hnone
      cases hmade : (Source.hits find text).mapM reference with
      | error other => exact ⟨other, rfl⟩
      | ok made =>
        obtain ⟨r, -, hr⟩ := (mem_of_mapM_eq_ok hmade).1 hit hmem
        cases hhit.symm.trans hr
  · intro resolved h
    obtain ⟨replaced, hreplaced, rfl⟩ := map_eq_ok.1 h
    obtain ⟨made, hmade, rfl⟩ := map_eq_ok.1 hreplaced
    exact fits_of_made hanswers hfiles hmade

end

/-! ### Resolvers -/

/-- A source that is the bytes of a text is read as the text. -/
theorem decodeSource_toUTF8 (text : String) : decodeSource text.toUTF8 = .ok text.toList := by
  rw [decodeSource, Text.decode_toUTF8]

theorem resolveRequires_eq {reference : String → Except Error Reference} {source : ByteArray}
    (h : decodeSource source = .ok text) :
    resolveRequires reference source =
      (replaceReferences Source.required (fun hit => (reference hit.capturedText).map some)
        (Source.stripScriptComments text)).map fun replaced => .ofText replaced.1 replaced.2 := by
  unfold resolveRequires
  rw [h]
  dsimp only [bind, Except.bind]
  cases replaceReferences Source.required (fun hit => (reference hit.capturedText).map some)
      (Source.stripScriptComments text) with
  | error error => rfl
  | ok replaced => rfl

theorem resolveMarkup_eq {source : ByteArray} (h : decodeSource source = .ok text) :
    resolveMarkup config disk file source =
      (replaceReferences Source.tagged
        (fun hit => (tagReference config disk file hit.tag hit.capturedText).map some)
        (Source.stripMarkupComments text)).map fun replaced => .ofText replaced.1 replaced.2 := by
  unfold resolveMarkup
  rw [h]
  dsimp only [bind, Except.bind]
  cases replaceReferences Source.tagged
      (fun hit => (tagReference config disk file hit.tag hit.capturedText).map some)
      (Source.stripMarkupComments text) with
  | error error => rfl
  | ok replaced => rfl

/-- Scripts, template scripts and templates are resolved with content and references aligned, each
on its text without comments. -/
theorem aligned_of_decodeSource (config : Config) (disk : Disk) (file : Path) {source : ByteArray}
    (h : decodeSource source = .ok text) :
    Aligned disk Source.required (fun hit => findRequired config disk file hit.capturedText)
        (Source.stripScriptComments text) (resolveScript config disk file source) ∧
      Aligned disk Source.required (fun hit => findModuleScript config disk file hit.capturedText)
        (Source.stripScriptComments text) (resolveModuleScript config disk file source) ∧
      Aligned disk Source.tagged (fun hit => tagTarget? config disk file hit.tag hit.capturedText)
        (Source.stripMarkupComments text) (resolveMarkup config disk file source) := by
  refine ⟨?_, ?_, ?_⟩
  · rw [resolveScript, resolveRequires_eq h]
    exact aligned_of_answers (fun hit => answers_scriptReference config disk file hit.capturedText)
      Source.isSound_required (fun _ _ => isFile_findRequired) _
  · rw [resolveModuleScript, resolveRequires_eq h]
    exact aligned_of_answers
      (fun hit => answers_moduleScriptReference config disk file hit.capturedText)
      Source.isSound_required (fun _ _ => isFile_findModuleScript) _
  · rw [resolveMarkup_eq h]
    exact aligned_of_answers
      (fun hit => answers_tagReference config disk file hit.tag hit.capturedText)
      Source.isSound_tagged (fun _ _ => isFile_tagTarget?) _

/-- A script and an image in one folder. -/
def besides : Disk where
  entries := [
    (["p"], .folder),
    (["p", "src"], .folder),
    (["p", "src", "a.png"], .file "i".toUTF8),
    (["p", "src", "b.js"], .file "s".toUTF8)]
  current := []

/-- A text that requires the script and shows the image, and does both in comments as well. -/
def shared : String :=
  "require('./b.js')/*require('c')*/<!--<image src='x'/>--><image src='./a.png'/>"

theorem aligned_shared :
    decodeSource shared.toUTF8 = .ok shared.toList ∧
      (let config : Config := .of ⟨"/p"⟩
        let file : Path := ⟨"/p/src/f"⟩
        let script := resolveScript config besides file shared.toUTF8
        let markup := resolveMarkup config besides file shared.toUTF8
        Aligned besides Source.required
          (fun hit => findRequired config besides file hit.capturedText)
          (Source.stripScriptComments shared.toList) script ∧
        Aligned besides Source.required
          (fun hit => findModuleScript config besides file hit.capturedText)
          (Source.stripScriptComments shared.toList)
          (resolveModuleScript config besides file shared.toUTF8) ∧
        Aligned besides Source.tagged
          (fun hit => tagTarget? config besides file hit.tag hit.capturedText)
          (Source.stripMarkupComments shared.toList) markup ∧
        script.toOption.map (fun r => r.dependencies.map Dependency.required) = some ["./b.js"] ∧
        markup.toOption.map (fun r => r.dependencies.map Dependency.required) =
          some ["./a.png"]) := by
  have htext : decodeSource shared.toUTF8 = .ok shared.toList := decodeSource_toUTF8 shared
  obtain ⟨hscript, hmodule, hmarkup⟩ :=
    aligned_of_decodeSource (.of ⟨"/p"⟩) besides ⟨"/p/src/f"⟩ htext
  exact ⟨htext, hscript, hmodule, hmarkup, by decide +kernel, by decide +kernel⟩

end Minipack.Resolve
