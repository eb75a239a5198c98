/-
Where references lead.

A reference is followed on one of two kinds of routes.  A specifier that is read from a folder, a
page or a component is joined and normalised, so that its target is straight.  An alias and the
lookup of a package put the text of the specifier behind a folder as it is written, and their target
is what they find (`Resolve.Found`).  Every reference of a resolved file leads on one of these
routes, to a file that is written to its own place (`Resolve.leads_of_resolveFile`).
-/
import Minipack.Proofs.Resolve.Modules
import Minipack.Proofs.Resolve.Referring

namespace Minipack

variable {config : Config} {disk : Disk} {file target : Path}

namespace Resolve

/-! ### Routes -/

/-- What is found under an alias, or as a file of a package from the folder of a file. -/
inductive Found (config : Config) (disk : Disk) : Path → Prop
  | ofAlias {specifier : String} {target : Path} :
      findAlias config disk specifier = some target → Found config disk target
  | ofPackage {file target : Path} {specifier : String} : file.isAbsolute = true →
      findPackage disk specifier (config.folderOf file) = some target → Found config disk target
  | ofSheet {file target : Path} {specifier : String} : file.isAbsolute = true →
      isPackage specifier = true → findImported config disk file specifier = some target →
      Found config disk target

/-- A reference leads to a straight path or to what is found, and its target is written where its
path tells. -/
structure Leads (config : Config) (disk : Disk) (d : Dependency) : Prop where
  target : d.target.Straight ∨ Found config disk d.target
  destination : d.destination = config.destination d.target ∨
    d.destination = config.staticDestination d.target
  embedded : d.embedded = false

/-- Another text changes nothing else of a reference. -/
theorem replaceWith_eq (d : Dependency) (text : String) :
    d.replaceWith text = { d with replacement := (d.replaceWith text).replacement } := by
  unfold Dependency.replaceWith
  split <;> rfl

theorem required_replaceWith (d : Dependency) (text : String) :
    (d.replaceWith text).required = d.required := by
  rw [replaceWith_eq]

/-- The text that is put in place of the specifier is the one of the compiled file. -/
theorem specifier_replaceWith {d : Dependency} (hnone : d.replacement = none) (text : String) :
    (d.replaceWith text).specifier = text := by
  unfold Dependency.replaceWith Dependency.specifier
  split
  · next h => rw [hnone, h]; rfl
  · rfl

/-- A reference that is named by the way from the place of the compiled file to that of its target.
-/
structure Compiled (config : Config) (file : Path) (d : Dependency) : Prop where
  destination : d.destination = config.destination d.target
  specifier : d.specifier = compiledSpecifier config file d.target

theorem compiled_compiledReference (file target : Path) (required : String)
    (kind : Option ChunkKind) :
    Compiled config file (compiledReference config file target required kind "").dependency := by
  simp only [compiledReference]
  constructor
  · rw [replaceWith_eq]
  · rw [specifier_replaceWith rfl, replaceWith_eq, String.append_empty]

theorem Leads.replaceWith {d : Dependency} (h : Leads config disk d) (text : String) :
    Leads config disk (d.replaceWith text) := by
  rw [replaceWith_eq]
  exact ⟨h.target, h.destination, h.embedded⟩

theorem leads_compiledReference (h : target.Straight ∨ Found config disk target)
    (required : String) (kind : Option ChunkKind) (suffix : String) :
    Leads config disk (compiledReference config file target required kind suffix).dependency := by
  have hplain : Leads config disk
      { file, target, destination := config.destination target, required, kind } :=
    ⟨h, Or.inl rfl, rfl⟩
  simp only [compiledReference]
  exact hplain.replaceWith _

theorem leads_staticDependency (h : target.Straight) (required : String) :
    Leads config disk (staticDependency config file target required) := by
  have hplain : Leads config disk
      { file, target, destination := config.staticDestination target, required } :=
    ⟨Or.inl h, Or.inr rfl, rfl⟩
  exact hplain.replaceWith (config.publicUrl (config.staticDestination target))

theorem leads_moduleDependencies {targets : List Path} (h : ∀ target ∈ targets, target.Straight)
    {name : String} {d : Dependency} (hd : d ∈ moduleDependencies config file name targets) :
    Leads config disk d := by
  obtain ⟨target, ht, rfl⟩ := List.mem_map.1 hd
  exact ⟨Or.inl (h target ht), Or.inl rfl, rfl⟩

/-! ### Reading specifiers -/

section

variable (hsrc : config.src.isAbsolute = true) (hfile : file.isAbsolute = true)
include hsrc hfile

theorem isAbsolute_folderOf : (config.folderOf file).isAbsolute = true :=
  Path.isAbsolute_parent hfile hsrc

theorem straight_locate (specifier : String) : (locate config file specifier).Straight := by
  unfold locate
  split
  · exact Path.straight_joinSpecifier hsrc specifier
  · exact Path.straight_joinSpecifier (isAbsolute_folderOf hsrc hfile) specifier

end

/-- A script next to a straight path is straight. -/
theorem straight_findScript {path : Path} (h : path.Straight)
    (hfound : findScript disk path = some target) : target.Straight := by
  have hmem := List.mem_of_find?_eq_some hfound
  rcases List.mem_cons.1 hmem with rfl | hmem
  · exact h
  · rcases List.mem_append.1 hmem with hmem | hmem
    · obtain ⟨extension, hextension, rfl⟩ := List.mem_map.1 hmem
      have hplain : '/' ∉ extension.toList ∧ '.' ∉ extension.toList ∧ extension.toList ≠ [] := by
        simp only [List.mem_cons, List.not_mem_nil, or_false] at hextension
        rcases hextension with rfl | rfl | rfl <;> decide
      exact h.extend hplain.1 hplain.2.1 hplain.2.2
    · obtain ⟨index, hindex, rfl⟩ := List.mem_map.1 hmem
      refine h.child ⟨index, rfl, ?_⟩
      simp only [List.mem_cons, List.not_mem_nil, or_false] at hindex
      rcases hindex with rfl | rfl <;> decide

/-- So is a style sheet. -/
theorem straight_findStyle {path : Path} (h : path.Straight) {extension : String}
    (hslash : '/' ∉ extension.toList) (hfound : findStyle disk extension path = some target) :
    target.Straight := by
  unfold findStyle at hfound
  split at hfound
  · rw [← Option.some.inj hfound]
    exact h
  · split at hfound
    · cases hfound
    · next name hname =>
      have hplain : Component.IsName (.name name) := Path.isName_of_fileName? hname
      have hpart : Component.IsName (.name ("_" ++ name)) := by
        obtain ⟨s, hs, hslash', -⟩ := hplain
        obtain rfl := Component.name.inj hs
        refine ⟨_, rfl, ?_, ?_, ?_, ?_⟩ <;> rw [String.toList_append]
        · simpa using hslash'
        all_goals simp
      obtain ⟨name', hmem, rfl⟩ := List.mem_map.1 (List.mem_of_find?_eq_some hfound)
      simp only [List.mem_cons, List.not_mem_nil, or_false] at hmem
      rcases hmem with rfl | rfl | rfl
      · exact h.withFileName (Path.isName_append hplain hslash)
      · have hjoined : name ++ ".wxss" = name ++ "." ++ "wxss" := by
          rw [String.append_assoc]
          rfl
        rw [hjoined]
        exact h.withFileName (Path.isName_append hplain (by decide))
      · exact h.withFileName (Path.isName_append hpart hslash)

/-- So is what is found by its path or, when this has no extension, by that with one. -/
theorem straight_of_extended {path : Path} {extension : String} (h : path.Straight)
    (hslash : '/' ∉ extension.toList) (hne : extension.isEmpty = false)
    (hfound : (if disk.isFile path then some path else if path.extension?.isSome then none
      else [path.withExtension extension].find? disk.isFile) = some target) : target.Straight := by
  split at hfound
  · rw [← Option.some.inj hfound]
    exact h
  · split at hfound
    · cases hfound
    · next hextension =>
      rw [Option.not_isSome_iff_eq_none] at hextension
      rw [List.mem_singleton.1 (List.mem_of_find?_eq_some hfound)]
      exact h.withExtension hextension hslash hne

/-! ### What a search comes by -/

theorem mem_orTry {found : Option Path} {other : Unit → Option Path}
    (h : target ∈ Disk.orTry found other) : target ∈ found ∨ target ∈ other () := by
  unfold Disk.orTry at h
  split at h
  · exact Or.inl h
  · exact Or.inr h

theorem mem_onlyFile? {path : Path} (h : target ∈ disk.onlyFile? path) :
    target = path ∧ disk.isFile path = true := by
  unfold Disk.onlyFile? at h
  split at h
  · next hfile => exact ⟨(Option.some.inj h).symm, hfile⟩
  · cases h

/-- A part of a pattern leads from a folder into one name, or is matched against what a step into a
name leads to. -/
theorem mem_searchIn_cons {fuel : Nat} {part : Glob} {rest : List Glob} {folder : Path}
    (h : target ∈ disk.searchIn (fuel + 1) (part :: rest) folder) :
    (∃ name, target ∈ disk.searchIn fuel rest (Disk.stepTo folder name)) ∨
      (∃ name, target ∈ disk.searchIn fuel rest (folder.child name)) ∨
        ∃ name, target ∈ disk.searchAt fuel part rest (Disk.stepTo folder name) := by
  rw [Disk.searchIn] at h
  dsimp only at h
  split at h
  · split at h <;> split at h
    · exact Or.inl ⟨_, h⟩
    · cases h
    · exact Or.inl ⟨_, h⟩
    · cases h
  · split at h
    · rcases mem_orTry h with h | h
      · split at h
        · exact Or.inr (Or.inl ⟨_, h⟩)
        · cases h
      · rcases mem_orTry h with h | h
        · split at h
          · exact Or.inr (Or.inl ⟨_, h⟩)
          · cases h
        · split at h
          · obtain ⟨name, -, hfound⟩ := List.exists_of_findSome?_eq_some h
            exact Or.inr (Or.inr ⟨name, hfound⟩)
          · cases h
    · cases h

/-- Matching a part at a path stays at the path, whatever parts are left. -/
theorem mem_searchAt_succ {fuel : Nat} {part : Glob} {rest : List Glob} {path : Path}
    (h : target ∈ disk.searchAt (fuel + 1) part rest path) :
    (∃ parts, target ∈ disk.searchIn fuel parts path) ∨
      ∃ next more, target ∈ disk.searchAt fuel next more path := by
  rw [Disk.searchAt] at h
  dsimp only at h
  split at h
  · split at h
    · split at h
      · exact Or.inl ⟨_, h⟩
      · cases h
    · rcases mem_orTry h with h | h
      · exact Or.inr ⟨_, _, h⟩
      · split at h
        · exact Or.inl ⟨_, h⟩
        · cases h
  · split at h
    · split at h
      · exact Or.inl ⟨_, h⟩
      · cases h
    · cases h

/-- A search finds a file, and of it holds what every step into a name keeps. -/
theorem searchIn_spec {P : Path → Prop}
    (hstep : ∀ folder name, P folder → P (Disk.stepTo folder name))
    (hchild : ∀ (folder : Path) name, P folder → P (folder.child name)) (fuel : Nat) :
    (∀ (parts : List Glob) (folder : Path), P folder →
      ∀ target ∈ disk.searchIn fuel parts folder, P target ∧ disk.isFile target = true) ∧
    ∀ (part : Glob) (rest : List Glob) (path : Path), P path →
      ∀ target ∈ disk.searchAt fuel part rest path, P target ∧ disk.isFile target = true := by
  -- the two searches call each other with less fuel
  induction fuel with
  | zero =>
    constructor
    · intro parts folder _ target ht
      rw [Disk.searchIn] at ht
      cases ht
    · intro part rest path _ target ht
      rw [Disk.searchAt] at ht
      cases ht
  | succ fuel ih =>
    obtain ⟨hin, hat⟩ := ih
    constructor
    · intro parts folder h target ht
      cases parts with
      | nil =>
        rw [Disk.searchIn] at ht
        · obtain ⟨rfl, hfile⟩ := mem_onlyFile? ht
          exact ⟨h, hfile⟩
        · exact nofun
      | cons part rest =>
        rcases mem_searchIn_cons ht with ⟨name, ht⟩ | ⟨name, ht⟩ | ⟨name, ht⟩
        · exact hin _ _ (hstep _ name h) target ht
        · exact hin _ _ (hchild _ name h) target ht
        · exact hat _ _ _ (hstep _ name h) target ht
    · intro part rest path h target ht
      rcases mem_searchAt_succ ht with ⟨parts, ht⟩ | ⟨next, more, ht⟩
      · exact hin parts path h target ht
      · exact hat next more path h target ht

/-! ### What is found is absolute -/

theorem isAbsolute_findScript {path : Path} (h : path.isAbsolute = true)
    (hfound : findScript disk path = some target) : target.isAbsolute = true := by
  rcases List.mem_cons.1 (List.mem_of_find?_eq_some hfound) with rfl | hmem
  · exact h
  · rcases List.mem_append.1 hmem with hmem | hmem
    · obtain ⟨extension, -, rfl⟩ := List.mem_map.1 hmem
      obtain ⟨rest, hrest⟩ := Path.isAbsolute_iff.1 h
      refine Path.isAbsolute_iff.2 ⟨rest ++ '.' :: extension.toList, ?_⟩
      rw [String.toList_append, String.toList_append, hrest, List.append_assoc]
      rfl
    · obtain ⟨index, -, rfl⟩ := List.mem_map.1 hmem
      exact Path.isAbsolute_join h _

theorem isAbsolute_findStyle {path : Path} (h : path.isAbsolute = true) {extension : String}
    (hfound : findStyle disk extension path = some target) : target.isAbsolute = true := by
  unfold findStyle at hfound
  split at hfound
  · rw [← Option.some.inj hfound]
    exact h
  · split at hfound
    · cases hfound
    · obtain ⟨name', -, rfl⟩ := List.mem_map.1 (List.mem_of_find?_eq_some hfound)
      unfold Path.withFileName
      split
      · exact Path.isAbsolute_join h _
      · exact Path.isAbsolute_join (Path.isAbsolute_parent h h) _

theorem isAbsolute_of_mem_ancestors {path folder : Path} (h : path.isAbsolute = true)
    (hmem : folder ∈ path.ancestors) : folder.isAbsolute = true := by
  have hparents : ∀ (n : Nat) (p : Path), p.isAbsolute = true →
      ∀ q ∈ Path.parents n p, q.isAbsolute = true := by
    intro n
    induction n with
    | zero => exact fun p _ q hq => (by cases hq)
    | succ n ih =>
      intro p hp q hq
      rw [Path.parents] at hq
      split at hq
      · cases hq
      · next r hr =>
        have hparent : (p.parent?.getD p).isAbsolute = true := Path.isAbsolute_parent hp hp
        rw [hr] at hparent
        rcases List.mem_cons.1 hq with rfl | hq
        · exact hparent
        · exact ih r hparent q hq
  rcases List.mem_cons.1 hmem with rfl | hmem
  · exact h
  · exact hparents _ _ h _ hmem

theorem isAbsolute_stepTo {folder : Path} (name : String) (h : folder.isAbsolute = true) :
    (Disk.stepTo folder name).isAbsolute = true := by
  unfold Disk.stepTo
  split
  · next hdot =>
    have hs : folder.Same ⟨"."⟩ := Path.beq_iff_same.1 hdot
    exact absurd (Path.isAbsolute_of_same hs h) (by decide)
  · exact Path.isAbsolute_join h _

/-- A search from an absolute folder finds an absolute path. -/
theorem isAbsolute_searchIn {fuel : Nat} {parts : List Glob} {folder : Path}
    (h : folder.isAbsolute = true) :
    ∀ target ∈ disk.searchIn fuel parts folder, target.isAbsolute = true := by
  intro target ht
  apply And.left
  apply (searchIn_spec ?_ ?_ fuel).1 parts folder h target ht
  · exact fun _ => isAbsolute_stepTo
  · exact fun _ _ hp => Path.isAbsolute_join hp _

theorem isAbsolute_findCandidate {candidate : Path} (h : candidate.isAbsolute = true)
    (hfound : findCandidate disk candidate = some target) : target.isAbsolute = true := by
  unfold findCandidate at hfound
  split at hfound
  · obtain ⟨rest, hrest⟩ := Path.isAbsolute_iff.1 h
    unfold Disk.search at hfound
    split at hfound
    · cases hfound
    · rw [hrest] at hfound
      dsimp only at hfound
      split at hfound
      · cases hfound
      · split at hfound
        · cases hfound
        · have hslash : (Path.mk "/").isAbsolute = true := by decide
          exact isAbsolute_searchIn hslash target hfound
  · exact isAbsolute_findScript h hfound

/-- The main file of a package is a script next to a path that is read from its folder. -/
theorem exists_of_packageMain? {package : Path} (h : packageMain? disk package = some target) :
    ∃ main, findScript disk (package.joinSpecifier main) = some target := by
  obtain ⟨content, -, h⟩ := Option.bind_eq_some_iff.1 h
  obtain ⟨descriptor, -, h⟩ := Option.bind_eq_some_iff.1 h
  exact ⟨_, h⟩

/-- What is found is absolute. -/
theorem Found.isAbsolute (hroot : config.root.isAbsolute = true)
    (hsrc : config.src.isAbsolute = true) (h : Found config disk target) :
    target.isAbsolute = true := by
  have hfolder {file : Path} (hfile : file.isAbsolute = true) :
      (config.folderOf file).isAbsolute = true := Path.isAbsolute_parent hfile hsrc
  cases h with
  | ofAlias hfound =>
    unfold findAlias at hfound
    split at hfound
    · cases hfound
    · obtain ⟨candidate, -, hcandidate⟩ := List.exists_of_findSome?_eq_some hfound
      exact isAbsolute_findCandidate (Path.isAbsolute_join hroot _) hcandidate
  | ofPackage hfile hfound =>
    obtain ⟨folder, hmem, hcandidate⟩ := List.exists_of_findSome?_eq_some hfound
    have hpackage (name : String) : ((folder.child "node_modules").child name).isAbsolute = true :=
      Path.isAbsolute_join
        (Path.isAbsolute_join (isAbsolute_of_mem_ancestors (hfolder hfile) hmem) _) _
    dsimp only at hcandidate
    split at hcandidate
    · next main hmain =>
      obtain rfl := Option.some.inj hcandidate
      obtain ⟨name, hscript⟩ := exists_of_packageMain? hmain
      exact isAbsolute_findScript (Path.straight_joinSpecifier (hpackage _) name).1 hscript
    · exact isAbsolute_findScript (hpackage _) hcandidate
  | ofSheet hfile hpackage hfound =>
    unfold findImported at hfound
    dsimp only at hfound
    rw [hpackage, if_pos rfl] at hfound
    obtain ⟨folder, hmem, hstyle⟩ := List.exists_of_findSome?_eq_some hfound
    exact isAbsolute_findStyle (Path.isAbsolute_join
      (Path.isAbsolute_join (isAbsolute_of_mem_ancestors (hfolder hfile) hmem) _) _) hstyle

/-! ### The resolvers -/

section

variable (hnamed : disk.Named) (hsrc : config.src.isAbsolute = true)
  (hfile : file.isAbsolute = true)
include hnamed hsrc hfile

theorem leads_of_pagesDependencies {pages : List String} {found : List Dependency}
    (h : pagesDependencies config disk file pages = .ok found) :
    ∀ d ∈ found, Leads config disk d := by
  obtain ⟨lists, hlists, rfl⟩ := map_eq_ok.1 h
  intro d hd
  obtain ⟨list, hlist, hd⟩ := List.mem_flatten.1 hd
  obtain ⟨page, -, hpage⟩ := (mem_of_mapM_eq_ok hlists).2 list hlist
  unfold pageDependencies at hpage
  dsimp only at hpage
  split at hpage
  · next targets htargets =>
    obtain rfl := Except.ok.inj hpage
    refine leads_moduleDependencies (straight_findModule hnamed ?_ htargets) hd
    split
    · exact hsrc
    · exact isAbsolute_folderOf hsrc hfile
  · cases hpage

theorem leads_of_componentDependencies {component : String} :
    ∀ d ∈ componentDependencies config disk file component, Leads config disk d := by
  intro d hd
  unfold componentDependencies at hd
  split at hd
  · cases hd
  · dsimp only at hd
    split at hd
    · next targets htargets =>
      obtain ⟨base, hbase, hmodule⟩ := List.exists_of_findSome?_eq_some htargets
      refine leads_moduleDependencies (straight_findModule hnamed ?_ hmodule) hd
      split at hbase
      · rw [List.mem_singleton.1 hbase]
        exact hsrc
      · rcases List.mem_pair.1 hbase with rfl | rfl
        · exact isAbsolute_folderOf hsrc hfile
        · exact hsrc
    · cases hd

theorem leads_of_manifestDependencies {manifest : Manifest} {found : List Dependency}
    (h : manifestDependencies config disk file manifest = .ok found) :
    ∀ d ∈ found, Leads config disk d := by
  unfold manifestDependencies at h
  split at h
  · cases h
  · obtain ⟨pages, hpages, h⟩ := bind_eq_ok.1 h
    obtain rfl := pure_eq_ok.1 h
    intro d hd
    rcases List.mem_append.1 hd with hd | hd
    · exact leads_of_pagesDependencies hnamed hsrc hfile hpages d hd
    · obtain ⟨icon, -, rfl⟩ := List.mem_map.1 hd
      exact leads_staticDependency (straight_locate hsrc hfile icon) icon

theorem leads_of_descriptorDependencies {document : Json} {found : List Dependency}
    (h : descriptorDependencies config disk file document = .ok found) :
    ∀ d ∈ found, Leads config disk d := by
  obtain ⟨pages, hpages, h⟩ := bind_eq_ok.1 h
  obtain rfl := pure_eq_ok.1 h
  intro d hd
  rcases List.mem_append.1 hd with hd | hd
  · exact leads_of_pagesDependencies hnamed hsrc hfile hpages d hd
  · obtain ⟨main, -, rfl⟩ := List.mem_map.1 hd
    exact ⟨Or.inl (straight_locate hsrc hfile main), Or.inl rfl, rfl⟩

theorem leads_of_resolveDescriptor {source : ByteArray} {resolved : Resolved}
    (h : resolveDescriptor config disk file source = .ok resolved) :
    ∀ d ∈ resolved.dependencies, Leads config disk d := by
  unfold resolveDescriptor at h
  split at h
  · cases h
  · split at h
    · rw [← Except.ok.inj h]
      exact nofun
    · have hcomponents (document : Json) : ∀ d ∈ (componentNames document).flatMap
          (componentDependencies config disk file), Leads config disk d := by
        intro d hd
        obtain ⟨component, -, hd⟩ := List.mem_flatMap.1 hd
        exact leads_of_componentDependencies hnamed hsrc hfile d hd
      split at h
      · split at h
        · obtain ⟨dependencies, hdependencies, h⟩ := bind_eq_ok.1 h
          obtain rfl := pure_eq_ok.1 h
          intro d hd
          exact (List.mem_append.1 hd).elim
            (leads_of_manifestDependencies hnamed hsrc hfile hdependencies d) (hcomponents _ d)
        · obtain ⟨dependencies, hdependencies, -⟩ := bind_eq_ok.1 h
          cases hdependencies
      · obtain ⟨dependencies, hdependencies, h⟩ := bind_eq_ok.1 h
        obtain rfl := pure_eq_ok.1 h
        intro d hd
        exact (List.mem_append.1 hd).elim
          (leads_of_descriptorDependencies hnamed hsrc hfile hdependencies d) (hcomponents _ d)

omit hnamed

/-- What a specifier is found as lies where it points, or was looked up under an alias or as a file
of a package. -/
theorem Finds.route {specifier : String} (h : Finds config disk file specifier target) :
    target.Straight ∨ Found config disk target := by
  have hlocate := straight_locate hsrc hfile specifier
  -- only aliases and packages lead elsewhere than the specifier points
  cases h with
  | sheet htarget =>
    cases hpackage : isPackage specifier with
    | true => exact Or.inr (.ofSheet hfile hpackage htarget)
    | false =>
      unfold findImported at htarget
      rw [hpackage] at htarget
      refine Or.inl (straight_findStyle hlocate ?_ htarget)
      cases hextension : file.extension? with
      | none => decide
      | some extension => exact Path.not_mem_of_extension? hextension
  | template tag htarget =>
    refine Or.inl (straight_of_extended hlocate ?_ ?_ htarget)
    · split <;> decide
    · split <;> rfl
  | package htarget => exact Or.inr (.ofPackage hfile (Option.filter_eq_some_iff.1 htarget).1)
  | script htarget =>
    unfold findRequired at htarget
    split at htarget
    · next found hfound =>
      rw [← Option.some.inj htarget]
      exact Or.inr (.ofAlias hfound)
    · split at htarget
      · exact Or.inl (straight_findScript hlocate htarget)
      · exact Or.inr (.ofPackage hfile htarget)
  | moduleScript htarget =>
    refine Or.inl (straight_of_extended hlocate ?_ ?_ htarget)
    · decide
    · rfl

theorem Made.leads {specifier : String} {reference : Reference}
    (h : Made config disk file specifier reference) : Leads config disk reference.dependency := by
  cases h with
  | compiled hfinds => exact leads_compiledReference (hfinds.route hsrc hfile) _ _ _
  | compiledAddress htarget =>
    exact leads_compiledReference
      (Or.inr (.ofPackage hfile (Option.filter_eq_some_iff.1 htarget).1)) _ _ _
  | copied =>
    dsimp only
    exact leads_staticDependency (straight_locate hsrc hfile specifier) specifier
  | copiedAddress _ =>
    have hlocate := straight_locate hsrc hfile (splitSuffix specifier).1
    dsimp only
    exact (leads_staticDependency hlocate specifier).replaceWith _

end

/-- Every reference of a resolved file leads to a straight path, or to what is found under an alias
or as a file of a package. -/
theorem leads_of_resolveFile (hnamed : disk.Named) (hsrc : config.src.isAbsolute = true)
    (hfile : file.isAbsolute = true) {source : ByteArray} {resolved : Resolved}
    (h : resolveFile config disk file source = .ok resolved) :
    ∀ d ∈ resolved.dependencies, Leads config disk d := by
  by_cases hkind : SourceKind.of? file = some .descriptor
  · unfold resolveFile at h
    rw [hkind] at h
    exact leads_of_resolveDescriptor hnamed hsrc hfile h
  · intro d hd
    obtain ⟨specifier, made, hmade, rfl⟩ := exists_made hkind h d hd
    exact hmade.leads hsrc hfile

end Resolve

end Minipack
