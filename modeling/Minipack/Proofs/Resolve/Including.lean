/-
Included templates and scripts, and rules.

Whether a file that a template includes is compiled is judged by the specifier as it is written: by
its extension, and by the rules tried on the specifier as if it were a path (`LooksCompiled`).
Rules are tried on the path of the file itself when it is compiled.  Both agree where every rule
judges a file by its name and the specifier ends in the name of its file (`Included`,
`included_of_resolveMarkup`).  A rule that looks at folders tells them apart: it can compile a file
that is published as it is, and the other way round (`not_included_folders`).
-/
import Minipack.Proofs.Resolve.Alignment
import Minipack.Proofs.Resolve.Published
import Minipack.Proofs.Rule

namespace Minipack.Resolve

variable {config : Config} {disk : Disk} {file target : Path} {tag specifier : String}
  {reference : Reference} {d : Dependency}

/-- The tags that include templates and scripts. -/
def includeTags : List String :=
  ["wxs", "import", "include"]

/-- The specifier has no extension, or one of a template or a template script, or a rule matches it.
-/
def LooksCompiled (config : Config) (specifier : String) : Prop :=
  ∀ extension, (Path.mk specifier).extension? = some extension →
    extension = "wxml" ∨ extension = "wxs" ∨ (config.rule? ⟨specifier⟩).isSome = true

theorem isCompiledSource_iff (htag : tag ∈ includeTags) :
    isCompiledSource config tag specifier = true ↔ LooksCompiled config specifier := by
  unfold isCompiledSource LooksCompiled
  have hcontains : ["wxs", "import", "include"].contains tag = true := List.contains_iff_mem.2 htag
  rw [Bool.and_eq_true, and_iff_right hcontains]
  cases (Path.mk specifier).extension? with
  | none => exact iff_of_true rfl nofun
  | some extension => simp [or_assoc]

/-! ### One reference -/

/-- A reference that looks compiled is kept as one to a compiled file. -/
theorem compiled_of_looksCompiled (hlooks : isCompiledSource config tag specifier = true)
    (h : tagReference config disk file tag specifier = .ok reference) :
    Compiled config file reference.dependency ∧
      beginsWith reference.dependency.specifier "." = true ∧
      findTemplate config disk file tag specifier = some reference.dependency.target := by
  unfold tagReference at h
  dsimp only at h
  rw [if_pos hlooks] at h
  split at h
  · next target htarget =>
    rw [← Except.ok.inj h, (tells_compiledReference file target specifier none "").target]
    exact ⟨compiled_compiledReference file target specifier none,
      beginsWith_compiledReference file target specifier none "", htarget⟩
  · cases h

/-- Any other reference is to a file that is copied. -/
theorem published_of_not_looksCompiled (hlooks : isCompiledSource config tag specifier = false)
    (hpackage : isPackage specifier = false)
    (h : tagReference config disk file tag specifier = .ok reference) :
    Published config reference.dependency ∧
      reference.dependency.target = locate config file specifier := by
  unfold tagReference at h
  dsimp only at h
  rw [hlooks, hpackage, if_neg Bool.false_ne_true, if_neg Bool.false_ne_true] at h
  split at h
  · rw [← Except.ok.inj h]
    dsimp only
    refine ⟨published_staticDependency file _ specifier, ?_⟩
    rw [staticDependency, replaceWith_eq]
  · cases h

/-- What is found for an included file is what the specifier points at, or that with an extension.
-/
theorem findTemplate_cases (h : findTemplate config disk file tag specifier = some target) :
    target = locate config file specifier ∨
      (locate config file specifier).extension? = none ∧
        (target = (locate config file specifier).withExtension "wxml" ∨
          target = (locate config file specifier).withExtension "wxs") := by
  unfold findTemplate at h
  dsimp only at h
  split at h
  · exact Or.inl (Option.some.inj h).symm
  · split at h
    · cases h
    · next hnone =>
      rw [Option.not_isSome_iff_eq_none] at hnone
      rw [List.mem_singleton.1 (List.mem_of_find?_eq_some h)]
      split
      · exact Or.inr ⟨hnone, Or.inr rfl⟩
      · exact Or.inr ⟨hnone, Or.inl rfl⟩

/-- The specifier ends in the name of a file. -/
def EndsInName (specifier : String) : Prop :=
  ∃ name, Component.IsName (.name name) ∧ Path.EndsIn ⟨specifier⟩ name

/-- What an include is made of its specifier, and what that has to do with the rules for its target.
-/
structure Included (config : Config) (file : Path) (specifier : String) (d : Dependency) :
    Prop where
  compiled : LooksCompiled config specifier → Compiled config file d
  copied : ¬ LooksCompiled config specifier → Published config d
  /-- A target that a rule is for is named by the way to its compiled place, never by an address. -/
  matched : (∀ rule ∈ config.rules, rule.JudgesName) → EndsInName specifier →
    (config.rule? d.target).isSome = true →
    Compiled config file d ∧ beginsWith d.specifier "." = true
  /-- A target that no rule is for is copied, unless its extension is one of a template. -/
  unmatched : (∀ rule ∈ config.rules, rule.JudgesName) → EndsInName specifier →
    ∀ extension, d.target.extension? = some extension → extension ≠ "wxml" → extension ≠ "wxs" →
    config.rule? d.target = none → Published config d

/-- What a specifier points at ends in the name that the specifier ends in. -/
theorem exists_endsIn_locate (hends : EndsInName specifier) (hback : '\\' ∉ specifier.toList)
    (config : Config) (file : Path) : ∃ name, Component.IsName (.name name) ∧
      Path.EndsIn ⟨specifier⟩ name ∧ (locate config file specifier).EndsIn name := by
  obtain ⟨name, hname, hspecifier⟩ := hends
  refine ⟨name, hname, hspecifier, ?_⟩
  unfold locate
  split
  · exact Path.endsIn_joinSpecifier _ hspecifier hname hback
  · exact Path.endsIn_joinSpecifier _ hspecifier hname hback

theorem included_of_tagReference (htag : tag ∈ includeTags) (hpackage : isPackage specifier = false)
    (hback : '\\' ∉ specifier.toList)
    (h : tagReference config disk file tag specifier = .ok reference) :
    Included config file specifier reference.dependency := by
  have hyes (hlooks : LooksCompiled config specifier) :=
    compiled_of_looksCompiled ((isCompiledSource_iff htag).2 hlooks) h
  have hno (hlooks : ¬ LooksCompiled config specifier) :=
    published_of_not_looksCompiled
      (Bool.eq_false_iff.2 fun htrue => hlooks ((isCompiledSource_iff htag).1 htrue)) hpackage h
  refine ⟨fun hlooks => (hyes hlooks).1, fun hlooks => (hno hlooks).1, ?_, ?_⟩
  · intro hnames hends hrule
    obtain ⟨name, hname, hspecifier, hlocate⟩ := exists_endsIn_locate hends hback config file
    by_cases hlooks : LooksCompiled config specifier
    · exact ⟨(hyes hlooks).1, (hyes hlooks).2.1⟩
    · -- the rule that is for the target is for the specifier as well
      rw [(hno hlooks).2, Config.rule?_of_endsIn hnames hname hlocate,
        ← Config.rule?_of_endsIn hnames hname hspecifier] at hrule
      exact absurd (fun _ _ => Or.inr (Or.inr hrule)) hlooks
  · intro hnames hends extension hextension hwxml hwxs hrule
    obtain ⟨name, hname, hspecifier, hlocate⟩ := exists_endsIn_locate hends hback config file
    by_cases hlooks : LooksCompiled config specifier
    · exfalso
      have hfile := Path.fileName?_of_endsIn hlocate hname
      rcases findTemplate_cases (hyes hlooks).2.2 with htarget | ⟨hnone, htarget⟩
      · rw [htarget, Path.extension?, hfile,
          ← Path.fileName?_of_endsIn hspecifier hname] at hextension
        rw [htarget, Config.rule?_of_endsIn hnames hname hlocate,
          ← Config.rule?_of_endsIn hnames hname hspecifier] at hrule
        rcases hlooks extension hextension with heq | heq | hsome
        · exact hwxml heq
        · exact hwxs heq
        · rw [hrule] at hsome
          cases hsome
      · rcases htarget with htarget | htarget
        · rw [htarget, Path.extension?_withExtension hfile hnone (by decide) (by decide) rfl]
            at hextension
          exact hwxml (Option.some.inj hextension).symm
        · rw [htarget, Path.extension?_withExtension hfile hnone (by decide) (by decide) rfl]
            at hextension
          exact hwxs (Option.some.inj hextension).symm
    · exact (hno hlooks).1

/-! ### Templates -/

/-- No captured text holds a backslash. -/
theorem not_mem_capturedText {hit : Source.Hit String} {text : List Char}
    (h : hit ∈ Source.hits Source.tagged text) : '\\' ∉ hit.capturedText.toList := by
  obtain ⟨before, rest, hfind⟩ := Source.exists_of_mem_hits h
  obtain ⟨-, hchars, -⟩ := Source.exists_of_tagged hfind
  rw [Source.Hit.capturedText, String.toList_ofList]
  exact fun hmem => absurd (hchars _ hmem) (by decide)

/-- Every include of a template that is resolved is made so, and the template has in its place what
the reference says. -/
theorem included_of_resolveMarkup {source : ByteArray} {resolved : Resolved}
    (h : resolveMarkup config disk file source = .ok resolved) :
    ∃ text, decodeSource source = .ok text ∧
      List.Forall₂ (fun hit d => d.required = hit.capturedText ∧ disk.isFile d.target = true ∧
          (hit.tag ∈ includeTags → isPackage hit.capturedText = false →
            Included config file hit.capturedText d))
        (Source.hits Source.tagged (Source.stripMarkupComments text)) resolved.dependencies ∧
      resolved.content = (String.ofList (Source.weave
        (Source.segments Source.tagged none (Source.stripMarkupComments text))
        (resolved.dependencies.map fun d => some d.specifier.toList))).toUTF8 := by
  obtain ⟨text, htext, -⟩ := bind_eq_ok.1 h
  rw [resolveMarkup_eq htext, replaceReferences_some] at h
  obtain ⟨replaced, hreplaced, rfl⟩ := map_eq_ok.1 h
  obtain ⟨made, hmade, rfl⟩ := map_eq_ok.1 hreplaced
  have hanswers : ∀ hit : Source.Hit String, Answers
      (tagReference config disk file hit.tag hit.capturedText)
      (tagTarget? config disk file hit.tag hit.capturedText) hit.capturedText :=
    fun hit => answers_tagReference config disk file hit.tag hit.capturedText
  refine ⟨text, htext, ?_, (fits_of_made hanswers (fun _ _ => isFile_tagTarget?) hmade).content⟩
  show List.Forall₂ _ _ (made.map Reference.dependency)
  rw [List.forall₂_map_right_iff]
  have hall := (List.forall₂_and_left _ _).2 ⟨fun _ hmem => hmem, mapM_eq_ok.1 hmade⟩
  refine hall.imp fun hit reference ⟨hmem, hreference⟩ => ?_
  obtain ⟨htarget, htells⟩ := target?_of_ok hanswers hreference
  refine ⟨htells.required, isFile_tagTarget? htarget, fun htag hpackage => ?_⟩
  exact included_of_tagReference htag hpackage (not_mem_capturedText hmem) hreference

/-- A template, and a file that can be turned into one. -/
def parts : Disk where
  entries := [
    (["p"], .folder),
    (["p", "src"], .folder),
    (["p", "src", "a.html"], .file "a".toUTF8),
    (["p", "src", "t.wxml"], .file "t".toUTF8)]
  current := []

/-- A project with a rule for the files of one pattern but not of others, which turns them into
templates. -/
def ruled (test : String) (exclude : List String) : Config :=
  { Config.of ⟨"/p"⟩ with
    publicPath := "http://a"
    rules := (Pattern.read test).toOption.toList.map fun test =>
      { test
        extname := some ".wxml"
        exclude := exclude.filterMap fun pattern => (Pattern.read pattern).toOption } }

/-- Where a template that includes the file has it written, and by which text it names it. -/
def includedAs (config : Config) : Option (List (String × String)) :=
  (resolveMarkup config parts ⟨"/p/src/b.wxml"⟩ "<include src='./a.html'/>".toUTF8).toOption.map
    fun resolved => resolved.dependencies.map fun d => (d.destination.text, d.specifier)

/-- A rule for an extension judges by the name. -/
theorem judgesName_ruled : ∀ rule ∈ (ruled "\\.html$" []).rules, rule.JudgesName := by
  have hrules : (ruled "\\.html$" []).rules =
      [{ test := ⟨"\\.html$", .ending ".html".toList⟩, extname := some ".wxml" }] := rfl
  intro rule hrule
  rw [hrules, List.mem_singleton] at hrule
  subst hrule
  exact Rule.judgesName_of_endings ⟨_, rfl, by decide⟩ nofun

theorem endsInName_html : EndsInName "./a.html" :=
  ⟨"a.html", Component.isName_name.2 (by decide), Or.inr ⟨['.'], rfl⟩⟩

theorem included_ruled : ∃ resolved,
    resolveMarkup (ruled "\\.html$" []) parts ⟨"/p/src/b.wxml"⟩
        "<include src='./a.html'/>".toUTF8 = .ok resolved ∧
      (∃ text, decodeSource "<include src='./a.html'/>".toUTF8 = .ok text ∧
        List.Forall₂ (fun hit d => d.required = hit.capturedText ∧ parts.isFile d.target = true ∧
            (hit.tag ∈ includeTags → isPackage hit.capturedText = false →
              Included (ruled "\\.html$" []) ⟨"/p/src/b.wxml"⟩ hit.capturedText d))
          (Source.hits Source.tagged (Source.stripMarkupComments text)) resolved.dependencies ∧
        resolved.content = (String.ofList (Source.weave
          (Source.segments Source.tagged none (Source.stripMarkupComments text))
          (resolved.dependencies.map fun d => some d.specifier.toList))).toUTF8) ∧
      (∀ rule ∈ (ruled "\\.html$" []).rules, rule.JudgesName) ∧ EndsInName "./a.html" ∧
      resolved.dependencies.map (fun d => (d.destination.text, d.specifier)) =
        [("/p/app/a.wxml", "./a.wxml")] := by
  have hdone : includedAs (ruled "\\.html$" []) = some [("/p/app/a.wxml", "./a.wxml")] := by
    decide +kernel
  obtain ⟨resolved, hresolved, hnames⟩ := Option.map_eq_some_iff.1 hdone
  rw [toOption_eq_some] at hresolved
  exact ⟨resolved, hresolved, included_of_resolveMarkup hresolved, judgesName_ruled,
    endsInName_html, hnames⟩

/-- A rule for a folder is for the file, but the specifier does not show it, and the file is
published; one that leaves a folder out is not for the file, and the file is taken for a compiled
one. -/
theorem not_included_folders :
    (((ruled "src/a" []).rule? ⟨"/p/src/a.html"⟩).isSome = true ∧
      ((ruled "src/a" []).destination ⟨"/p/src/a.html"⟩).text = "/p/app/a.wxml" ∧
      includedAs (ruled "src/a" []) = some [("/p/static/a.html", "http://a/a.html")]) ∧
    ((ruled "\\.html$" ["src/"]).rule? ⟨"/p/src/a.html"⟩).isNone = true ∧
    includedAs (ruled "\\.html$" ["src/"]) = some [("/p/app/a.html", "./a.html")] := by
  decide +kernel

end Minipack.Resolve
