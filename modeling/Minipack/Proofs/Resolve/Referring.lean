/-
The references that are made.

In a style sheet, a template or a script each reference is made of a specifier, in one of a few ways
(`Resolve.Made`): to a file that is found and compiled, or to a resource that is copied, where an
address in a style sheet keeps its query or fragment.  All references of a resolved file are made so
(`Resolve.exists_made`), and what holds of them is shown for each of the ways.
-/
import Minipack.Proofs.Outcome
import Minipack.Proofs.Source.Replacing
import Minipack.Resolve.Basic

namespace Minipack.Resolve

variable {config : Config} {disk : Disk} {file : Path} {specifier : String} {reference : Reference}

/-- A specifier in a source is found as a file that is compiled. -/
inductive Finds (config : Config) (disk : Disk) (file : Path) (specifier : String)
    (target : Path) : Prop
  | sheet : findImported config disk file specifier = some target →
      Finds config disk file specifier target
  | template (tag : String) : findTemplate config disk file tag specifier = some target →
      Finds config disk file specifier target
  | package : findPackageResource config disk file specifier = some target →
      Finds config disk file specifier target
  | script : findRequired config disk file specifier = some target →
      Finds config disk file specifier target
  | moduleScript : findModuleScript config disk file specifier = some target →
      Finds config disk file specifier target

/-- How a reference is made of a specifier. -/
inductive Made (config : Config) (disk : Disk) (file : Path) (specifier : String) : Reference → Prop
  | compiled {target : Path} {kind : Option ChunkKind} : Finds config disk file specifier target →
      Made config disk file specifier (compiledReference config file target specifier kind "")
  | compiledAddress {target : Path} :
      findPackageResource config disk file (splitSuffix specifier).1 = some target →
      Made config disk file specifier
        (compiledReference config file target specifier none (splitSuffix specifier).2)
  | copied : Made config disk file specifier
      ⟨staticDependency config file (locate config file specifier) specifier,
        config.publicUrl
          (staticDependency config file (locate config file specifier) specifier).destination⟩
  | copiedAddress {text : String} :
      text = config.publicUrl (staticDependency config file
        (locate config file (splitSuffix specifier).1) specifier).destination ++
          (splitSuffix specifier).2 →
      Made config disk file specifier
        ⟨(staticDependency config file (locate config file (splitSuffix specifier).1)
          specifier).replaceWith text, text⟩

/-! ### Single references -/

theorem made_of_importReference (h : importReference? config disk file specifier = some reference) :
    Made config disk file specifier reference := by
  unfold importReference? at h
  split at h
  · cases h
  · obtain ⟨target, htarget, rfl⟩ := Option.map_eq_some_iff.1 h
    exact .compiled (.sheet htarget)

theorem made_of_addressReference
    (h : addressReference config disk file specifier = .ok (some reference)) :
    Made config disk file specifier reference := by
  unfold addressReference at h
  split at h
  · cases h
  · dsimp only at h
    split at h
    · split at h
      · next target htarget =>
        rw [← Option.some.inj (Except.ok.inj h)]
        exact .compiledAddress htarget
      · cases h
    · split at h
      · rw [← Option.some.inj (Except.ok.inj h)]
        exact .copiedAddress rfl
      · cases h

theorem made_of_tagReference {tag : String}
    (h : tagReference config disk file tag specifier = .ok reference) :
    Made config disk file specifier reference := by
  unfold tagReference at h
  dsimp only at h
  split at h
  · split at h
    · next target htarget =>
      rw [← Except.ok.inj h]
      exact .compiled (.template tag htarget)
    · cases h
  · split at h
    · split at h
      · next target htarget =>
        rw [← Except.ok.inj h]
        exact .compiled (.package htarget)
      · cases h
    · split at h
      · rw [← Except.ok.inj h]
        exact .copied
      · cases h

theorem made_of_scriptReference (h : scriptReference config disk file specifier = .ok reference) :
    Made config disk file specifier reference := by
  unfold scriptReference at h
  split at h
  · next target htarget =>
    rw [← Except.ok.inj h]
    exact .compiled (.script htarget)
  · cases h

theorem made_of_moduleScriptReference
    (h : moduleScriptReference config disk file specifier = .ok reference) :
    Made config disk file specifier reference := by
  unfold moduleScriptReference at h
  split at h
  · next target htarget =>
    rw [← Except.ok.inj h]
    exact .compiled (.moduleScript htarget)
  · cases h

/-! ### All references -/

/-- The references that are made of the hits are collected, and their texts are woven in. -/
theorem replaceReferences_eq {τ : Type} {find : Source.Recogniser τ}
    (reference : Source.Hit τ → Except Error (Option Reference)) (text : List Char) :
    replaceReferences find reference text =
      ((Source.hits find text).mapM reference).map fun changes =>
        (Source.weave (Source.segments find none text)
          (changes.map (Option.map fun made => made.text.toList)),
          changes.filterMap (Option.map Reference.dependency)) := by
  unfold replaceReferences
  rw [Source.replaceCaptured_eq, ← Source.hits_eq, mapM_map]
  cases (Source.hits find text).mapM reference with
  | error error => rfl
  | ok changes =>
    simp only [Except.map, List.map_map, List.filterMap_map, Function.comp_def, Option.map_map]

/-- The references of a replaced text come from its hits. -/
theorem forall_of_replaceReferences {τ : Type} {find : Source.Recogniser τ}
    {resolve : Source.Hit τ → Except Error (Option Reference)} {P : Dependency → Prop}
    (h : ∀ hit reference, resolve hit = .ok (some reference) → P reference.dependency)
    {text out : List Char} {found : List Dependency}
    (hr : replaceReferences find resolve text = .ok (out, found)) : ∀ d ∈ found, P d := by
  rw [replaceReferences_eq] at hr
  obtain ⟨changes, hchanges, heq⟩ := map_eq_ok.1 hr
  obtain ⟨-, rfl⟩ := Prod.mk.inj heq
  intro d hd
  obtain ⟨change, hchange, hmade⟩ := List.mem_filterMap.1 hd
  obtain ⟨made, rfl, rfl⟩ := Option.map_eq_some_iff.1 hmade
  obtain ⟨hit, -, hhit⟩ := (mem_of_mapM_eq_ok hchanges).2 _ hchange
  exact h hit made hhit

variable {source : ByteArray} {resolved : Resolved} {P : Dependency → Prop}

theorem forall_of_resolveRequires {refer : String → Except Error Reference}
    (hrefer : ∀ specifier made, refer specifier = .ok made → P made.dependency)
    (h : resolveRequires refer source = .ok resolved) : ∀ d ∈ resolved.dependencies, P d := by
  obtain ⟨text, -, h⟩ := bind_eq_ok.1 h
  obtain ⟨⟨text', found⟩, hfound, h⟩ := bind_eq_ok.1 h
  obtain rfl := pure_eq_ok.1 h
  refine forall_of_replaceReferences (fun hit made heq => ?_) hfound
  obtain ⟨made', hmade, hsome⟩ := map_eq_ok.1 heq
  rw [← Option.some.inj hsome]
  exact hrefer _ made' hmade

theorem forall_of_resolveMarkup
    (htag : ∀ tag specifier made, tagReference config disk file tag specifier = .ok made →
      P made.dependency)
    (h : resolveMarkup config disk file source = .ok resolved) :
    ∀ d ∈ resolved.dependencies, P d := by
  obtain ⟨text, -, h⟩ := bind_eq_ok.1 h
  obtain ⟨⟨text', found⟩, hfound, h⟩ := bind_eq_ok.1 h
  obtain rfl := pure_eq_ok.1 h
  refine forall_of_replaceReferences (fun hit made heq => ?_) hfound
  obtain ⟨made', hmade, hsome⟩ := map_eq_ok.1 heq
  rw [← Option.some.inj hsome]
  exact htag _ _ made' hmade

theorem forall_of_resolveStyle
    (himport : ∀ specifier made, importReference? config disk file specifier = some made →
      P made.dependency)
    (haddress : ∀ specifier made, addressReference config disk file specifier = .ok (some made) →
      P made.dependency)
    (h : resolveStyle config disk file source = .ok resolved) :
    ∀ d ∈ resolved.dependencies, P d := by
  obtain ⟨text, -, h⟩ := bind_eq_ok.1 h
  obtain ⟨⟨text', imports⟩, himports, h⟩ := bind_eq_ok.1 h
  obtain ⟨⟨text'', resources⟩, hresources, h⟩ := bind_eq_ok.1 h
  obtain rfl := pure_eq_ok.1 h
  intro d hd
  rcases List.mem_append.1 hd with hd | hd
  · exact forall_of_replaceReferences
      (fun hit made heq => himport _ made (Except.ok.inj heq)) himports d hd
  · exact forall_of_replaceReferences (fun hit made heq => haddress _ made heq) hresources d hd

/-- The references of a style sheet, a template or a script are made of specifiers. -/
theorem exists_made (hkind : SourceKind.of? file ≠ some .descriptor)
    (h : resolveFile config disk file source = .ok resolved) : ∀ d ∈ resolved.dependencies,
      ∃ specifier made, Made config disk file specifier made ∧ made.dependency = d := by
  unfold resolveFile at h
  cases hof : SourceKind.of? file with
  | none =>
    rw [hof] at h
    rw [← Except.ok.inj h]
    exact nofun
  | some kind =>
    rw [hof] at h
    cases kind with
    | descriptor => exact absurd hof hkind
    | style =>
      exact forall_of_resolveStyle
        (fun specifier made hmade => ⟨specifier, made, made_of_importReference hmade, rfl⟩)
        (fun specifier made hmade => ⟨specifier, made, made_of_addressReference hmade, rfl⟩) h
    | markup =>
      exact forall_of_resolveMarkup
        (fun _ specifier made hmade => ⟨specifier, made, made_of_tagReference hmade, rfl⟩) h
    | moduleScript =>
      exact forall_of_resolveRequires
        (fun specifier made hmade => ⟨specifier, made, made_of_moduleScriptReference hmade, rfl⟩) h
    | script =>
      exact forall_of_resolveRequires
        (fun specifier made hmade => ⟨specifier, made, made_of_scriptReference hmade, rfl⟩) h

end Minipack.Resolve
