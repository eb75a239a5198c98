/-
What a build asks a disk.

Compiling asks a disk whether paths are files, for the contents of sources and of descriptions of
packages, which files there are in a folder, and what a pattern leads to (`Probe`).  For every
lookup the list of its questions is written down beside it, in their order and only as far as they
are asked: a search along some candidates ends with the first one that gives something
(`Resolve.searched`).

On two disks that answer these questions alike the lookup comes to the same, and so do resolving a
file (`Resolve.resolveFile_of_same`), compiling it (`Compile.compileFile_of_same`) and finding the
files with which a build begins (`Build.findEntries_of_same`).  Whether the output is packed does
not matter for any of them.
-/
import Minipack.Build.Basic
import Minipack.Proofs.Compile.File
import Minipack.Proofs.Outcome
import Minipack.Proofs.Resolve.Routes

namespace Minipack

/-- The files in a folder, by the names in it. -/
def Disk.filesIn (disk : Disk) (folder : Path) : Option (List Path) :=
  match disk.names folder with
  | .ok names => some ((names.map folder.child).filter disk.isFile)
  | .error _ => none

/-- A question that a build asks a disk. -/
inductive Probe where
  /-- Whether a path is a file. -/
  | test (path : Path)
  /-- For the content of a file, if it can be read. -/
  | read (path : Path)
  /-- For the files in a folder. -/
  | listing (folder : Path)
  /-- For the file that a pattern leads to. -/
  | search (pattern : String)

namespace Probe

/-- Two disks answer a question alike. -/
def Same (old new : Disk) : Probe → Prop
  | test path => new.isFile path = old.isFile path
  | read path => new.read? path = old.read? path
  | listing folder => new.filesIn folder = old.filesIn folder
  | search pattern => new.search pattern = old.search pattern

/-- Two disks answer all of some questions alike. -/
def AllSame (old new : Disk) (probes : List Probe) : Prop :=
  ∀ probe ∈ probes, probe.Same old new

variable {old new : Disk}

theorem allSame_refl (disk : Disk) (probes : List Probe) : AllSame disk disk probes := by
  intro probe _
  cases probe <;> rfl

theorem allSame_cons {probe : Probe} {probes : List Probe} :
    AllSame old new (probe :: probes) ↔ probe.Same old new ∧ AllSame old new probes :=
  List.forall_mem_cons

theorem allSame_append {a b : List Probe} :
    AllSame old new (a ++ b) ↔ AllSame old new a ∧ AllSame old new b :=
  List.forall_mem_append

theorem allSame_flatMap {α : Type} {f : α → List Probe} {l : List α} :
    AllSame old new (l.flatMap f) ↔ ∀ a ∈ l, AllSame old new (f a) := by
  constructor
  · exact fun h a ha probe hp => h probe (List.mem_flatMap.2 ⟨a, ha, hp⟩)
  · intro h probe hp
    obtain ⟨a, ha, hp⟩ := List.mem_flatMap.1 hp
    exact h a ha probe hp

end Probe

open Probe

namespace Resolve

variable {old new : Disk} {config : Config} {bundle : Bool}

/-! ### Searching along candidates -/

section

variable {α β : Type}

/-- The questions of a search: those for each candidate, up to the first that gives something. -/
def searched (find : α → Option β) (probes : α → List Probe) : List α → List Probe
  | [] => []
  | a :: rest => probes a ++ if (find a).isSome then [] else searched find probes rest

theorem findSome?_of_same {find find' : α → Option β} {probes : α → List Probe} {l : List α}
    (h : AllSame old new (searched find probes l))
    (hstep : ∀ a, AllSame old new (probes a) → find' a = find a) :
    l.findSome? find' = l.findSome? find := by
  induction l with
  | nil => rfl
  | cons a rest ih =>
    obtain ⟨hfirst, hrest⟩ := allSame_append.1 h
    rw [List.findSome?_cons, List.findSome?_cons, hstep a hfirst]
    cases hfind : find a with
    | some found => rfl
    | none =>
      rw [hfind] at hrest
      exact ih hrest

end

/-- The questions for the first file among paths. -/
def testProbes (disk : Disk) (paths : List Path) : List Probe :=
  searched (Option.guard disk.isFile) (fun path => [.test path]) paths

theorem find?_of_same {paths : List Path} (h : AllSame old new (testProbes old paths)) :
    paths.find? new.isFile = paths.find? old.isFile := by
  rw [List.find?_eq_findSome?_guard, List.find?_eq_findSome?_guard]
  refine findSome?_of_same h fun path hpath => ?_
  have htest : new.isFile path = old.isFile path := (allSame_cons.1 hpath).1
  unfold Option.guard
  rw [htest]

/-! ### Scripts and packages -/

/-- The paths to try for a script. -/
def scriptCandidates (path : Path) : List Path :=
  let extended := ["js", "ts", "json"].map fun extension => Path.mk (path.text ++ "." ++ extension)
  let indices := ["index.js", "index.ts"].map path.child
  path :: (extended ++ indices)

theorem findScript_of_same {path : Path}
    (h : AllSame old new (testProbes old (scriptCandidates path))) :
    findScript new path = findScript old path :=
  find?_of_same h

/-- The path of the main file that a package declares. -/
def packageTarget? (disk : Disk) (package : Path) : Option Path := do
  let content ← disk.read? (package.child "package.json")
  let descriptor ← Json.read? content.toList
  return package.joinSpecifier (((descriptor.get? "main").bind Json.string?).getD "index.js")

theorem packageMain?_eq (disk : Disk) (package : Path) :
    packageMain? disk package = (packageTarget? disk package).bind (findScript disk) := by
  unfold packageMain? packageTarget?
  simp only [Option.bind_eq_bind, Option.pure_def, Option.bind_assoc, Option.bind_some]

/-- The questions for the main file of a package. -/
def mainProbes (disk : Disk) (package : Path) : List Probe :=
  .read (package.child "package.json") ::
    ((packageTarget? disk package).map fun main => testProbes disk (scriptCandidates main)).getD []

theorem packageMain?_of_same {package : Path} (h : AllSame old new (mainProbes old package)) :
    packageMain? new package = packageMain? old package := by
  obtain ⟨hread, hmain⟩ := allSame_cons.1 h
  have hentry : packageTarget? new package = packageTarget? old package := by
    unfold packageTarget?
    rw [show new.read? (package.child "package.json") =
      old.read? (package.child "package.json") from hread]
  rw [packageMain?_eq, packageMain?_eq, hentry]
  cases hentry' : packageTarget? old package with
  | none => rw [Option.bind_none, Option.bind_none]
  | some main =>
    rw [hentry'] at hmain
    exact findScript_of_same hmain

/-- The file that a path to a package, or to a file of one, stands for. -/
def packageFile? (disk : Disk) (candidate : Path) : Option Path :=
  (packageMain? disk candidate).or (findScript disk candidate)

/-- Where a specifier is looked for in a folder. -/
def packagePath (specifier : String) (folder : Path) : Path :=
  (folder.child "node_modules").child (packageName specifier)

theorem findPackage_eq (disk : Disk) (specifier : String) (base : Path) :
    findPackage disk specifier base =
      base.ancestors.findSome? fun folder => packageFile? disk (packagePath specifier folder) := by
  unfold findPackage packageFile? packagePath
  refine congrArg (List.findSome? · base.ancestors) (funext fun folder => ?_)
  dsimp only
  generalize (folder.child "node_modules").child (packageName specifier) = candidate
  cases packageMain? disk candidate with
  | none => rw [Option.none_or]
  | some main => rw [Option.some_or]

/-- The questions for a file of a package. -/
def packageFileProbes (disk : Disk) (candidate : Path) : List Probe :=
  mainProbes disk candidate ++
    if (packageMain? disk candidate).isSome then []
    else testProbes disk (scriptCandidates candidate)

theorem packageFile?_of_same {candidate : Path}
    (h : AllSame old new (packageFileProbes old candidate)) :
    packageFile? new candidate = packageFile? old candidate := by
  obtain ⟨hmain, hscript⟩ := allSame_append.1 h
  unfold packageFile?
  rw [packageMain?_of_same hmain]
  cases hfound : packageMain? old candidate with
  | some main => rw [Option.some_or, Option.some_or]
  | none =>
    rw [hfound] at hscript
    rw [Option.none_or, Option.none_or]
    exact findScript_of_same hscript

/-- The questions for a package. -/
def packageProbes (disk : Disk) (specifier : String) (base : Path) : List Probe :=
  searched (fun folder => packageFile? disk (packagePath specifier folder))
    (fun folder => packageFileProbes disk (packagePath specifier folder)) base.ancestors

theorem findPackage_of_same {specifier : String} {base : Path}
    (h : AllSame old new (packageProbes old specifier base)) :
    findPackage new specifier base = findPackage old specifier base := by
  rw [findPackage_eq, findPackage_eq]
  exact findSome?_of_same h fun folder hfolder => packageFile?_of_same hfolder

/-- The questions for a resource of a package. -/
def resourceProbes (config : Config) (disk : Disk) (file : Path) (specifier : String) :
    List Probe :=
  packageProbes disk specifier (config.folderOf file) ++
    (findPackage disk specifier (config.folderOf file)).toList.map .test

theorem findPackageResource_of_same {file : Path} {specifier : String}
    (h : AllSame old new (resourceProbes config old file specifier)) :
    findPackageResource { config with bundle := bundle } new file specifier =
      findPackageResource config old file specifier := by
  obtain ⟨hfind, htest⟩ := allSame_append.1 h
  change (findPackage new specifier (config.folderOf file)).filter new.isFile = _
  unfold findPackageResource
  rw [findPackage_of_same hfind]
  cases hfound : findPackage old specifier (config.folderOf file) with
  | none => rw [Option.filter_none, Option.filter_none]
  | some target =>
    rw [hfound] at htest
    have hsame : new.isFile target = old.isFile target := (allSame_cons.1 htest).1
    rw [Option.filter_some, Option.filter_some, hsame]

/-! ### Modules -/

theorem findModule_eq (config : Config) (disk : Disk) (name : String) (base : Path) :
    findModule config disk name base =
      (base.joinSpecifier name).parent?.bind fun folder =>
        (base.joinSpecifier name).fileName?.bind fun stem =>
          (disk.filesIn folder).map (List.filter fun file => file.stem? == some stem &&
            (file.extension?.any moduleExtensions.contains || (config.rule? file).isSome)) := by
  unfold findModule
  dsimp only
  generalize (base.joinSpecifier name).parent? = parent
  generalize (base.joinSpecifier name).fileName? = name
  cases parent with
  | none => rfl
  | some folder =>
    cases name with
    | none => rfl
    | some stem =>
      unfold Disk.filesIn
      dsimp only [Option.bind_some]
      cases disk.names folder with
      | error fault => rfl
      | ok names =>
        dsimp only [Option.map_some]
        rw [List.filter_filter]
        congr 2
        funext file
        unfold isModuleFile
        cases disk.isFile file <;> simp

/-- The questions for a module. -/
def moduleProbes (name : String) (base : Path) : List Probe :=
  (base.joinSpecifier name).parent?.toList.flatMap fun folder =>
    (base.joinSpecifier name).fileName?.toList.map fun _ => .listing folder

theorem findModule_of_same {name : String} {base : Path}
    (h : AllSame old new (moduleProbes name base)) :
    findModule { config with bundle := bundle } new name base =
      findModule config old name base := by
  rw [findModule_eq, findModule_eq]
  unfold moduleProbes at h
  generalize (base.joinSpecifier name).parent? = parent at h ⊢
  generalize (base.joinSpecifier name).fileName? = name at h ⊢
  cases parent with
  | none => rw [Option.bind_none, Option.bind_none]
  | some folder =>
    cases name with
    | none => rw [Option.bind_some, Option.bind_some, Option.bind_none, Option.bind_none]
    | some stem =>
      have hfiles : new.filesIn folder = old.filesIn folder := h (.listing folder) (by simp)
      rw [Option.bind_some, Option.bind_some, Option.bind_some, Option.bind_some, hfiles]
      rfl

/-! ### Scripts -/

/-- The questions for a candidate of an alias. -/
def candidateProbes (disk : Disk) (candidate : Path) : List Probe :=
  if isGlobText candidate.text.toList then [.search candidate.text]
  else testProbes disk (scriptCandidates candidate)

theorem findCandidate_of_same {candidate : Path}
    (h : AllSame old new (candidateProbes old candidate)) :
    findCandidate new candidate = findCandidate old candidate := by
  unfold candidateProbes at h
  unfold findCandidate
  split at h
  · next hglob =>
    rw [if_pos hglob, if_pos hglob]
    exact (allSame_cons.1 h).1
  · next hglob =>
    rw [if_neg hglob, if_neg hglob]
    exact findScript_of_same h

/-- What a candidate of an alias stands for when its star stands for a text. -/
def aliasPath (config : Config) (pattern specifier : String) (candidate : String) : Path :=
  config.root.child
    (String.ofList (fillStar candidate.toList (captured pattern.toList specifier.toList)))

theorem findAlias_eq (config : Config) (disk : Disk) (specifier : String) :
    findAlias config disk specifier =
      (config.aliases.find? fun entry => matchesAlias specifier entry.1).bind fun entry =>
        entry.2.findSome? fun candidate =>
          findCandidate disk (aliasPath config entry.1 specifier candidate) := by
  unfold findAlias
  cases config.aliases.find? fun entry => matchesAlias specifier entry.1 with
  | none => rfl
  | some entry => rfl

/-- The questions for an alias. -/
def aliasProbes (config : Config) (disk : Disk) (specifier : String) : List Probe :=
  (config.aliases.find? fun entry => matchesAlias specifier entry.1).toList.flatMap fun entry =>
    searched (fun candidate => findCandidate disk (aliasPath config entry.1 specifier candidate))
      (fun candidate => candidateProbes disk (aliasPath config entry.1 specifier candidate)) entry.2

theorem findAlias_of_same {specifier : String}
    (h : AllSame old new (aliasProbes config old specifier)) :
    findAlias { config with bundle := bundle } new specifier = findAlias config old specifier := by
  have hpath : aliasPath { config with bundle := bundle } = aliasPath config := rfl
  rw [findAlias_eq, findAlias_eq, hpath]
  unfold aliasProbes at h
  dsimp only
  cases hentry : config.aliases.find? fun entry => matchesAlias specifier entry.1 with
  | none => rw [Option.bind_none, Option.bind_none]
  | some entry =>
    rw [hentry] at h
    have hsearched := allSame_flatMap.1 h entry (List.mem_singleton_self _)
    rw [Option.bind_some, Option.bind_some]
    exact findSome?_of_same hsearched fun candidate hcandidate => findCandidate_of_same hcandidate

/-- What a specifier stands for that is no alias. -/
def findPlain (config : Config) (disk : Disk) (file : Path) (specifier : String) : Option Path :=
  if beginsWith specifier "." || beginsWith specifier "/" then
    findScript disk (locate config file specifier)
  else findPackage disk specifier (config.folderOf file)

theorem findRequired_eq (config : Config) (disk : Disk) (file : Path) (specifier : String) :
    findRequired config disk file specifier =
      (findAlias config disk specifier).or (findPlain config disk file specifier) := by
  unfold findRequired
  rw [← findPlain]
  generalize findPlain config disk file specifier = plain
  cases findAlias config disk specifier with
  | none => rw [Option.none_or]
  | some target => rw [Option.some_or]

/-- The questions for what a script requires. -/
def requiredProbes (config : Config) (disk : Disk) (file : Path) (specifier : String) :
    List Probe :=
  aliasProbes config disk specifier ++
    if (findAlias config disk specifier).isSome then []
    else if beginsWith specifier "." || beginsWith specifier "/" then
      testProbes disk (scriptCandidates (locate config file specifier))
    else packageProbes disk specifier (config.folderOf file)

theorem findRequired_of_same {file : Path} {specifier : String}
    (h : AllSame old new (requiredProbes config old file specifier)) :
    findRequired { config with bundle := bundle } new file specifier =
      findRequired config old file specifier := by
  obtain ⟨halias, hrest⟩ := allSame_append.1 h
  rw [findRequired_eq, findRequired_eq, findAlias_of_same halias]
  cases hfound : findAlias config old specifier with
  | some target => rw [Option.some_or, Option.some_or]
  | none =>
    rw [hfound, Option.isSome_none, if_neg Bool.false_ne_true] at hrest
    rw [Option.none_or, Option.none_or]
    unfold findPlain
    split at hrest
    · next hnear =>
      rw [if_pos hnear, if_pos hnear]
      exact findScript_of_same hrest
    · next hnear =>
      rw [if_neg hnear, if_neg hnear]
      exact findPackage_of_same hrest

theorem compiledReference_bundle :
    compiledReference { config with bundle := bundle } = compiledReference config := rfl

theorem staticDependency_bundle :
    staticDependency { config with bundle := bundle } = staticDependency config := rfl

theorem locate_bundle : locate { config with bundle := bundle } = locate config := rfl

theorem destination_bundle :
    Config.destination { config with bundle := bundle } = config.destination := rfl

theorem publicUrl_bundle : Settings.publicUrl { config.toSettings with bundle := bundle } =
    config.toSettings.publicUrl := rfl

theorem scriptReference_of_same {file : Path} {specifier : String}
    (h : AllSame old new (requiredProbes config old file specifier)) :
    scriptReference { config with bundle := bundle } new file specifier =
      scriptReference config old file specifier := by
  unfold scriptReference
  rw [findRequired_of_same h, compiledReference_bundle]

/-- The questions for a file whose extension may be left out. -/
def templateProbes (disk : Disk) (target : Path) (extension : String) : List Probe :=
  .test target ::
    if disk.isFile target || target.extension?.isSome then []
    else testProbes disk [target.withExtension extension]

/-- The file that a path stands for, with the extension that may be left out. -/
def findExtended (disk : Disk) (target : Path) (extension : String) : Option Path :=
  if disk.isFile target then some target
  else if target.extension?.isSome then none
  else [target.withExtension extension].find? disk.isFile

theorem findExtended_of_same {target : Path} {extension : String}
    (h : AllSame old new (templateProbes old target extension)) :
    findExtended new target extension = findExtended old target extension := by
  obtain ⟨htest, hrest⟩ := allSame_cons.1 h
  have htest : new.isFile target = old.isFile target := htest
  unfold findExtended
  rw [htest]
  cases hfile : old.isFile target with
  | true => rw [if_pos rfl, if_pos rfl]
  | false =>
    rw [hfile, Bool.false_or] at hrest
    rw [if_neg Bool.false_ne_true, if_neg Bool.false_ne_true]
    split at hrest
    · next hextension => rw [if_pos hextension, if_pos hextension]
    · next hextension => rw [if_neg hextension, if_neg hextension, find?_of_same hrest]

theorem moduleScriptReference_of_same {file : Path} {specifier : String}
    (h : AllSame old new (templateProbes old (locate config file specifier) "wxs")) :
    moduleScriptReference { config with bundle := bundle } new file specifier =
      moduleScriptReference config old file specifier := by
  have hfind : findModuleScript { config with bundle := bundle } new file specifier =
      findModuleScript config old file specifier := findExtended_of_same h
  unfold moduleScriptReference
  rw [hfind, compiledReference_bundle]

/-! ### Templates -/

/-- The questions for what a tag refers to. -/
def tagProbes (config : Config) (disk : Disk) (file : Path) (tag specifier : String) : List Probe :=
  if isCompiledSource config tag specifier then
    templateProbes disk (locate config file specifier) (if tag = "wxs" then "wxs" else "wxml")
  else if isPackage specifier then resourceProbes config disk file specifier
  else [.test (locate config file specifier)]

theorem tagReference_of_same {file : Path} {tag specifier : String}
    (h : AllSame old new (tagProbes config old file tag specifier)) :
    tagReference { config with bundle := bundle } new file tag specifier =
      tagReference config old file tag specifier := by
  have hcompiled : isCompiledSource { config with bundle := bundle } tag specifier =
      isCompiledSource config tag specifier := rfl
  unfold tagProbes at h
  unfold tagReference
  dsimp only
  rw [hcompiled, locate_bundle, compiledReference_bundle]
  split at h
  · next hsource =>
    have hfind : findTemplate { config with bundle := bundle } new file tag specifier =
        findTemplate config old file tag specifier := findExtended_of_same h
    rw [if_pos hsource, if_pos hsource, hfind]
  · next hsource =>
    rw [if_neg hsource, if_neg hsource]
    split at h
    · next hpackage =>
      rw [if_pos hpackage, if_pos hpackage, findPackageResource_of_same h]
    · next hpackage =>
      have htest : new.isFile (locate config file specifier) =
        old.isFile (locate config file specifier) := (allSame_cons.1 h).1
      rw [if_neg hpackage, if_neg hpackage, htest, staticDependency_bundle, publicUrl_bundle]

/-! ### Style sheets -/

/-- The questions for a style sheet. -/
def sheetProbes (disk : Disk) (extension : String) (path : Path) : List Probe :=
  .test path ::
    if disk.isFile path then []
    else path.fileName?.toList.flatMap fun name =>
      testProbes disk
        ([name ++ "." ++ extension, name ++ ".wxss", "_" ++ name ++ "." ++ extension].map
          path.withFileName)

theorem findStyle_of_same {extension : String} {path : Path}
    (h : AllSame old new (sheetProbes old extension path)) :
    findStyle new extension path = findStyle old extension path := by
  obtain ⟨htest, hrest⟩ := allSame_cons.1 h
  have htest : new.isFile path = old.isFile path := htest
  unfold findStyle
  rw [htest]
  split at hrest
  · next hfile => rw [if_pos hfile, if_pos hfile]
  · next hfile =>
    rw [if_neg hfile, if_neg hfile]
    cases hname : path.fileName? with
    | none => rfl
    | some name =>
      rw [hname] at hrest
      exact find?_of_same (allSame_flatMap.1 hrest name (List.mem_singleton_self _))

/-- Where a style sheet of a package is looked for in a folder. -/
def sheetPath (specifier : String) (folder : Path) : Path :=
  (folder.child "node_modules").child (String.ofList (specifier.toList.dropWhile (· == '~')))

/-- The questions for the sheet that a style sheet imports. -/
def importProbes (config : Config) (disk : Disk) (file : Path) (specifier : String) : List Probe :=
  let extension := file.extension?.getD "wxss"
  if isRemote specifier then []
  else if isPackage specifier then
    searched (fun folder => findStyle disk extension (sheetPath specifier folder))
      (fun folder => sheetProbes disk extension (sheetPath specifier folder))
      (config.folderOf file).ancestors
  else sheetProbes disk extension (locate config file specifier)

theorem importReference?_of_same {file : Path} {specifier : String}
    (h : AllSame old new (importProbes config old file specifier)) :
    importReference? { config with bundle := bundle } new file specifier =
      importReference? config old file specifier := by
  unfold importProbes at h
  dsimp only at h
  unfold importReference?
  split at h
  · next hremote => rw [if_pos hremote, if_pos hremote]
  · next hremote =>
    have hfind : findImported { config with bundle := bundle } new file specifier =
        findImported config old file specifier := by
      unfold findImported
      dsimp only
      split at h
      · next hpackage =>
        rw [if_pos hpackage, if_pos hpackage]
        exact findSome?_of_same h fun folder hfolder => findStyle_of_same hfolder
      · next hpackage =>
        rw [if_neg hpackage, if_neg hpackage]
        exact findStyle_of_same h
    rw [if_neg hremote, if_neg hremote, hfind, compiledReference_bundle]

/-- The questions for what an address leads to. -/
def addressProbes (config : Config) (disk : Disk) (file : Path) (specifier : String) : List Probe :=
  if isRemote specifier || beginsWith specifier "#" then []
  else if isPackage (splitSuffix specifier).1 then
    resourceProbes config disk file (splitSuffix specifier).1
  else [.test (locate config file (splitSuffix specifier).1)]

theorem addressReference_of_same {file : Path} {specifier : String}
    (h : AllSame old new (addressProbes config old file specifier)) :
    addressReference { config with bundle := bundle } new file specifier =
      addressReference config old file specifier := by
  unfold addressProbes at h
  unfold addressReference
  dsimp only
  rw [locate_bundle, compiledReference_bundle]
  split at h
  · next hremote => rw [if_pos hremote, if_pos hremote]
  · next hremote =>
    rw [if_neg hremote, if_neg hremote]
    split at h
    · next hpackage =>
      rw [if_pos hpackage, if_pos hpackage, findPackageResource_of_same h]
    · next hpackage =>
      have htest : new.isFile (locate config file (splitSuffix specifier).1) =
        old.isFile (locate config file (splitSuffix specifier).1) := (allSame_cons.1 h).1
      rw [if_neg hpackage, if_neg hpackage, htest, staticDependency_bundle, publicUrl_bundle]

/-! ### Texts with references -/

section

variable {τ : Type} {find : Source.Recogniser τ} {text : List Char}

theorem replaceReferences_congr {resolve resolve' : Source.Hit τ → Except Error (Option Reference)}
    (h : ∀ hit ∈ Source.hits find text, resolve' hit = resolve hit) :
    replaceReferences find resolve' text = replaceReferences find resolve text := by
  rw [replaceReferences_eq, replaceReferences_eq, mapM_congr h]

/-- The questions for the hits in a text. -/
def hitProbes (find : Source.Recogniser τ) (text : List Char) (probes : Source.Hit τ → List Probe) :
    List Probe :=
  (Source.hits find text).flatMap probes

theorem replaceReferences_of_same {probes : Source.Hit τ → List Probe}
    (resolve resolve' : Source.Hit τ → Except Error (Option Reference))
    (h : AllSame old new (hitProbes find text probes))
    (hstep : ∀ hit, AllSame old new (probes hit) → resolve' hit = resolve hit) :
    replaceReferences find resolve' text = replaceReferences find resolve text :=
  replaceReferences_congr fun hit hh => hstep hit (allSame_flatMap.1 h hit hh)

end

/-- The questions for a text, if a source can be read as one. -/
def textProbes (source : ByteArray) (probes : List Char → List Probe) : List Probe :=
  (decodeSource source).toOption.toList.flatMap probes

theorem allSame_textProbes {source : ByteArray} {probes : List Char → List Probe} {text : List Char}
    (h : AllSame old new (textProbes source probes)) (htext : decodeSource source = .ok text) :
    AllSame old new (probes text) := by
  unfold textProbes at h
  rw [htext] at h
  exact allSame_flatMap.1 h text (List.mem_singleton_self _)

/-- The questions for all that a script without comments requires. -/
def requireProbes (source : ByteArray) (probes : String → List Probe) : List Probe :=
  textProbes source fun text =>
    hitProbes Source.required (Source.stripScriptComments text) fun hit => probes hit.capturedText

theorem resolveRequires_of_same {source : ByteArray} {probes : String → List Probe}
    {reference reference' : String → Except Error Reference}
    (h : AllSame old new (requireProbes source probes))
    (hstep : ∀ specifier, AllSame old new (probes specifier) →
      reference' specifier = reference specifier) :
    resolveRequires reference' source = resolveRequires reference source := by
  unfold resolveRequires
  cases htext : decodeSource source with
  | error error => rfl
  | ok text =>
    have hhits := allSame_textProbes h htext
    have hreplaced := replaceReferences_of_same
      (fun hit => (reference hit.capturedText).map some)
      (fun hit => (reference' hit.capturedText).map some) hhits
      fun hit hh => by rw [hstep _ hh]
    dsimp only [bind, Except.bind]
    rw [hreplaced]

/-- The questions for a template. -/
def markupProbes (config : Config) (disk : Disk) (file : Path) (source : ByteArray) : List Probe :=
  textProbes source fun text =>
    hitProbes Source.tagged (Source.stripMarkupComments text) fun hit =>
      tagProbes config disk file hit.tag hit.capturedText

theorem resolveMarkup_of_same {file : Path} {source : ByteArray}
    (h : AllSame old new (markupProbes config old file source)) :
    resolveMarkup { config with bundle := bundle } new file source =
      resolveMarkup config old file source := by
  unfold resolveMarkup
  cases htext : decodeSource source with
  | error error => dsimp only [bind, Except.bind]
  | ok text =>
    have hhits := allSame_textProbes h htext
    have hreplaced := replaceReferences_of_same
      (fun hit => (tagReference config old file hit.tag hit.capturedText).map some)
      (fun hit =>
        (tagReference { config with bundle := bundle } new file hit.tag hit.capturedText).map some)
      hhits fun hit hh => by rw [tagReference_of_same hh]
    dsimp only [bind, Except.bind]
    rw [hreplaced]

/-- A style sheet with its imports replaced. -/
def replaceImports (config : Config) (disk : Disk) (file : Path) (text : List Char) :
    Except Error (List Char × List Dependency) :=
  replaceReferences Source.imported
    (fun hit => .ok (importReference? config disk file hit.capturedText)) text

/-- The questions for a style sheet: those for its imports, and those for the addresses in the text
with the imports replaced. -/
def styleProbes (config : Config) (disk : Disk) (file : Path) (source : ByteArray) : List Probe :=
  textProbes source fun text =>
    let text := Source.stripBlockComments text
    hitProbes Source.imported text (fun hit => importProbes config disk file hit.capturedText) ++
      (replaceImports config disk file text).toOption.toList.flatMap fun replaced =>
        hitProbes Source.addressed replaced.1 fun hit =>
          addressProbes config disk file hit.capturedText

theorem resolveStyle_of_same {file : Path} {source : ByteArray}
    (h : AllSame old new (styleProbes config old file source)) :
    resolveStyle { config with bundle := bundle } new file source =
      resolveStyle config old file source := by
  unfold resolveStyle
  cases htext : decodeSource source with
  | error error => dsimp only [bind, Except.bind]
  | ok text =>
    obtain ⟨himports, haddresses⟩ := allSame_append.1 (allSame_textProbes h htext)
    have hreplaced : replaceImports { config with bundle := bundle } new file
        (Source.stripBlockComments text) =
        replaceImports config old file (Source.stripBlockComments text) :=
      replaceReferences_of_same _ _ himports fun hit hh => by rw [importReference?_of_same hh]
    unfold replaceImports at hreplaced
    dsimp only [bind, Except.bind]
    rw [hreplaced]
    rw [← replaceImports]
    cases himported : replaceImports config old file (Source.stripBlockComments text) with
    | error error => rfl
    | ok imported =>
      rw [himported] at haddresses
      have hhits := allSame_flatMap.1 haddresses imported (List.mem_singleton_self _)
      have haddressed := replaceReferences_of_same
        (fun hit => addressReference config old file hit.capturedText)
        (fun hit =>
          addressReference { config with bundle := bundle } new file hit.capturedText)
        hhits fun hit hh => addressReference_of_same hh
      dsimp only
      rw [haddressed]

/-! ### Descriptors -/

theorem moduleDependencies_bundle :
    moduleDependencies { config with bundle := bundle } = moduleDependencies config := rfl

theorem manifestFile_bundle :
    Settings.manifestFile { config.toSettings with bundle := bundle } = config.manifestFile := rfl

theorem projectFile_bundle :
    Settings.projectFile { config.toSettings with bundle := bundle } = config.projectFile := rfl

/-- The folder from which a page is named. -/
def pageBase (config : Config) (file : Path) (page : String) : Path :=
  if beginsWith page "/" then config.src else config.folderOf file

/-- The questions for pages. -/
def pagesProbes (config : Config) (file : Path) (pages : List String) : List Probe :=
  pages.flatMap fun page => moduleProbes page (pageBase config file page)

theorem pageDependencies_of_same {file : Path} {page : String}
    (h : AllSame old new (moduleProbes page (pageBase config file page))) :
    pageDependencies { config with bundle := bundle } new file page =
      pageDependencies config old file page := by
  have hmodule : findModule { config with bundle := bundle } new page
      (pageBase { config with bundle := bundle } file page) =
      findModule config old page (pageBase config file page) := findModule_of_same h
  unfold pageDependencies
  dsimp only
  unfold pageBase at hmodule
  rw [hmodule, moduleDependencies_bundle]

theorem pagesDependencies_of_same {file : Path} {pages : List String}
    (h : AllSame old new (pagesProbes config file pages)) :
    pagesDependencies { config with bundle := bundle } new file pages =
      pagesDependencies config old file pages := by
  unfold pagesDependencies
  rw [mapM_congr fun page hp => pageDependencies_of_same (allSame_flatMap.1 h page hp)]

/-- The folders from which a component is named. -/
def componentBases (config : Config) (file : Path) (component : String) : List Path :=
  if beginsWith component "/" then [config.src] else [config.folderOf file, config.src]

/-- The questions for a component. -/
def componentProbes (config : Config) (disk : Disk) (file : Path) (component : String) :
    List Probe :=
  if beginsWith component "plugin://" then []
  else searched (findModule config disk component) (moduleProbes component)
    (componentBases config file component)

theorem componentDependencies_of_same {file : Path} {component : String}
    (h : AllSame old new (componentProbes config old file component)) :
    componentDependencies { config with bundle := bundle } new file component =
      componentDependencies config old file component := by
  unfold componentProbes at h
  unfold componentDependencies
  split at h
  · next hplugin => rw [if_pos hplugin, if_pos hplugin]
  · next hplugin =>
    have hbases : (componentBases { config with bundle := bundle } file component).findSome?
        (findModule { config with bundle := bundle } new component) =
        (componentBases config file component).findSome? (findModule config old component) :=
      findSome?_of_same h fun base hbase => findModule_of_same hbase
    rw [if_neg hplugin, if_neg hplugin]
    dsimp only
    unfold componentBases at hbases
    rw [hbases, moduleDependencies_bundle]

/-- The questions for the pages of a descriptor. -/
def descriptorPages (config : Config) (file : Path) (document : Json) : List Probe :=
  if file == config.manifestFile then
    (Manifest.ofDocument (Document.ofJson document)).toOption.toList.flatMap fun manifest =>
      pagesProbes config file manifest.allPages
  else pagesProbes config file (((document.get? "pages").map Json.strings).getD [])

/-- What a descriptor refers to besides its components. -/
def documentDependencies (config : Config) (disk : Disk) (file : Path) (document : Json) :
    Except Error (List Dependency) :=
  if file == config.manifestFile then
    match Manifest.ofDocument (Document.ofJson document) with
    | .ok manifest => manifestDependencies config disk file manifest
    | .error fault => .error (.resolve file (.invalidManifest fault))
  else descriptorDependencies config disk file document

theorem documentDependencies_of_same {file : Path} {document : Json}
    (h : AllSame old new (descriptorPages config file document)) :
    documentDependencies { config with bundle := bundle } new file document =
      documentDependencies config old file document := by
  unfold descriptorPages at h
  unfold documentDependencies
  dsimp only
  rw [manifestFile_bundle]
  split at h
  · next hmanifest =>
    rw [if_pos hmanifest, if_pos hmanifest]
    cases hread : Manifest.ofDocument (Document.ofJson document) with
    | error fault => dsimp only
    | ok manifest =>
      rw [hread] at h
      have hpages := allSame_flatMap.1 h manifest (List.mem_singleton_self _)
      dsimp only
      unfold manifestDependencies
      rw [pagesDependencies_of_same hpages, staticDependency_bundle, locate_bundle]
  · next hmanifest =>
    rw [if_neg hmanifest, if_neg hmanifest]
    unfold descriptorDependencies
    dsimp only
    rw [pagesDependencies_of_same h, locate_bundle, destination_bundle]

theorem resolveDescriptor_eq (config : Config) (disk : Disk) (file : Path) (source : ByteArray) :
    resolveDescriptor config disk file source =
      match Json.read? source.toList with
      | none => .error (.resolve file .invalidJson)
      | some document =>
        if file == config.projectFile then
          .ok ⟨((outputProject config document).pretty ++ "\n").toUTF8, []⟩
        else (documentDependencies config disk file document).map fun dependencies =>
          ⟨source, dependencies ++
            (componentNames document).flatMap (componentDependencies config disk file)⟩ := by
  unfold resolveDescriptor documentDependencies
  cases Json.read? source.toList with
  | none => dsimp only
  | some document =>
    dsimp only
    generalize (componentNames document).flatMap (componentDependencies config disk file) =
      components
    congr 1
    split
    · cases Manifest.ofDocument (Document.ofJson document) with
      | error fault => dsimp only [bind, Except.bind, Except.map]
      | ok manifest =>
        dsimp only
        cases manifestDependencies config disk file manifest <;>
          dsimp only [bind, Except.bind, Except.map, pure, Except.pure]
    · cases descriptorDependencies config disk file document <;>
        dsimp only [bind, Except.bind, Except.map, pure, Except.pure]

/-- The questions for a descriptor. -/
def descriptorProbes (config : Config) (disk : Disk) (file : Path) (source : ByteArray) :
    List Probe :=
  (Json.read? source.toList).toList.flatMap fun document =>
    if file == config.projectFile then []
    else descriptorPages config file document ++
      (componentNames document).flatMap (componentProbes config disk file)

theorem resolveDescriptor_of_same {file : Path} {source : ByteArray}
    (h : AllSame old new (descriptorProbes config old file source)) :
    resolveDescriptor { config with bundle := bundle } new file source =
      resolveDescriptor config old file source := by
  unfold descriptorProbes at h
  rw [resolveDescriptor_eq, resolveDescriptor_eq]
  dsimp only
  rw [projectFile_bundle]
  cases hread : Json.read? source.toList with
  | none => dsimp only
  | some document =>
    rw [hread] at h
    have hdocument := allSame_flatMap.1 h document (List.mem_singleton_self _)
    dsimp only
    split at hdocument
    · next hproject =>
      have hproject' : outputProject { config with bundle := bundle } = outputProject config := rfl
      rw [if_pos hproject, if_pos hproject, hproject']
    · next hproject =>
      obtain ⟨hpages, hcomponents⟩ := allSame_append.1 hdocument
      have hnames : (componentNames document).flatMap
          (componentDependencies { config with bundle := bundle } new file) =
          (componentNames document).flatMap (componentDependencies config old file) := by
        rw [List.flatMap_def, List.flatMap_def]
        refine congrArg List.flatten (List.map_congr_left fun component hc => ?_)
        exact componentDependencies_of_same (allSame_flatMap.1 hcomponents component hc)
      rw [if_neg hproject, if_neg hproject, documentDependencies_of_same hpages, hnames]

/-! ### Files -/

/-- The questions for the references of a file. -/
def resolveProbes (config : Config) (disk : Disk) (file : Path) (source : ByteArray) : List Probe :=
  match SourceKind.of? file with
  | none => []
  | some .descriptor => descriptorProbes config disk file source
  | some .style => styleProbes config disk file source
  | some .markup => markupProbes config disk file source
  | some .moduleScript =>
    requireProbes source fun specifier => templateProbes disk (locate config file specifier) "wxs"
  | some .script => requireProbes source (requiredProbes config disk file)

/-- Where the questions for the references of a file have the same answers, they lead to the same.
-/
theorem resolveFile_of_same {file : Path} {source : ByteArray}
    (h : AllSame old new (resolveProbes config old file source)) :
    resolveFile { config with bundle := bundle } new file source =
      resolveFile config old file source := by
  unfold resolveProbes at h
  unfold resolveFile
  cases hkind : SourceKind.of? file with
  | none => dsimp only
  | some kind =>
    rw [hkind] at h
    cases kind with
    | descriptor => exact resolveDescriptor_of_same h
    | style => exact resolveStyle_of_same h
    | markup => exact resolveMarkup_of_same h
    | moduleScript =>
      exact resolveRequires_of_same h fun specifier hs => moduleScriptReference_of_same hs
    | script => exact resolveRequires_of_same h fun specifier hs => scriptReference_of_same hs

end Resolve

/-! ### Compiling and entries -/

variable {old new : Disk} {config : Config} {bundle : Bool}

namespace Compile

/-- The questions for compiling a file. -/
def fileProbes (config : Config) (disk : Disk) (file : Path) : List Probe :=
  .read file :: (disk.read? file).toList.flatMap (Resolve.resolveProbes config disk file)

theorem runLoaders_bundle : runLoaders { config with bundle := bundle } = runLoaders config := rfl

/-- Where the questions for compiling a file have the same answers, and a source that cannot be read
is missed in the same way, the file compiles to the same. -/
theorem compileFile_of_same (registry : Registry) {task : Task}
    (hread : new.read task.file = old.read task.file)
    (h : AllSame old new (fileProbes config old task.file)) :
    compileFile { config with bundle := bundle } new registry task =
      compileFile config old registry task := by
  obtain ⟨-, hresolve⟩ := allSame_cons.1 h
  have hrule : Config.rule? { config with bundle := bundle } = config.rule? := rfl
  unfold compileFile
  rw [show readSource new task.file = readSource old task.file by unfold readSource; rw [hread]]
  cases hsource : readSource old task.file with
  | error error => dsimp only
  | ok source =>
    have hold : old.read? task.file = some source := by
      unfold Disk.read?
      rw [readSource_eq_ok_iff.1 hsource]
      rfl
    rw [hold] at hresolve
    have hprobes := allSame_flatMap.1 hresolve source (List.mem_singleton_self _)
    unfold compileSource
    dsimp only
    rw [Resolve.resolveFile_of_same hprobes, runLoaders_bundle, hrule, Resolve.destination_bundle]

end Compile

namespace Build

/-- The questions for the files with which a build begins. -/
def entryProbes (config : Config) : List Probe :=
  .test config.projectFile :: Resolve.moduleProbes "app" config.src ++
    config.manifest.allPages.flatMap (Resolve.moduleProbes · config.src) ++
    config.pluginRoot.toList.map fun root => .test (root.child "plugin.json")

/-- Where the questions for the entries of a build have the same answers, these are the same. -/
theorem findEntries_of_same (h : AllSame old new (entryProbes config)) :
    findEntries { config with bundle := bundle } new = findEntries config old := by
  obtain ⟨hfront, hplugin⟩ := allSame_append.1 h
  obtain ⟨happ, hpages⟩ := allSame_append.1 hfront
  have hfiles : appFiles { config with bundle := bundle } new = appFiles config old := by
    unfold appFiles
    dsimp only
    rw [Resolve.findModule_of_same (allSame_cons.1 happ).2, Resolve.manifestFile_bundle]
  have hpage : ∀ page ∈ config.manifest.allPages,
      pageFiles { config with bundle := bundle } new page = pageFiles config old page := by
    intro page hp
    unfold pageFiles
    dsimp only
    rw [Resolve.findModule_of_same (allSame_flatMap.1 hpages page hp), Resolve.manifestFile_bundle]
  have hdescriptor : pluginFiles { config with bundle := bundle } new = pluginFiles config old := by
    unfold pluginFiles
    dsimp only
    cases hroot : config.pluginRoot with
    | none => dsimp only
    | some root =>
      rw [hroot] at hplugin
      have htest : new.isFile (root.child "plugin.json") = old.isFile (root.child "plugin.json") :=
        hplugin (.test (root.child "plugin.json")) (by simp)
      dsimp only
      rw [List.filter_singleton, List.filter_singleton, htest]
  -- no other question is asked
  unfold findEntries
  dsimp only
  rw [mapM_congr hpage, hfiles, hdescriptor]

end Build

end Minipack
