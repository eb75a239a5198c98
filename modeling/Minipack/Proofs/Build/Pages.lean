/-
The pages as entries and as references.

A build walks the pages of its manifest to find the files with which it begins, and walks them once
more when it resolves the manifest as a descriptor.  Both take a page from the source folder
(`Build.pageDependencies_eq`), so both fail at the first page whose folder is missing, and else the
files of the pages are the targets of the references to them, each with the destination that it has
as an entry (`Build.walks_of_loadManifest`).

The files of an entry list are told apart by their paths.  Files of modules are written in one way
only (`Resolve.tidy_findModule`), but the folders of the sources and of the plugin are written as
they are given, so that a file may be listed twice where they go up and down again.
-/
import Minipack.Proofs.Build.Entries
import Minipack.Proofs.Compile.File
import Minipack.Proofs.Disk.Linkless
import Minipack.Proofs.Resolve.Modules

namespace Minipack

variable {config : Config} {disk : Disk} {file : Path} {content : ByteArray}

/-! ### The module of the app -/

namespace Resolve

/-- The manifest belongs to the module of the app. -/
theorem isModuleFile_app (hs : file.Same config.manifestFile) (hfile : disk.isFile file = true) :
    isModuleFile config disk "app" file = true := by
  have hname := config.fileName?_manifestFile hs
  have hstem : file.stem? = some "app" := by
    rw [Path.stem?, hname]
    decide +kernel
  have hextension : file.extension? = some "json" := by
    rw [Path.extension?, hname]
    decide +kernel
  have hmember : (some "json").any moduleExtensions.contains = true := by decide +kernel
  rw [isModuleFile, hfile, hstem, hextension, hmember]
  simp

/-- A module that has the manifest is the one of the app. -/
theorem mem_findModule_app (hnamed : disk.Named) {name : String} {base : Path} {files : List Path}
    (h : findModule config disk name base = some files) (hfile : file ∈ files)
    (hs : file.Same config.manifestFile) :
    ∃ appFiles, findModule config disk "app" config.src = some appFiles ∧ file ∈ appFiles := by
  obtain ⟨folder, stem, names, htidy, hreduced, hnames, rfl⟩ := exists_folder_findModule h
  obtain ⟨hmem, hmodule⟩ := List.mem_filter.1 hfile
  obtain ⟨entry, hentry, rfl⟩ := List.mem_map.1 hmem
  have hcomponents : (folder.child entry).components =
      config.src.components ++ [.name "app.json"] := Eq.trans hs config.components_manifestFile
  rw [Path.components_child folder (hnamed.names hnames entry hentry)] at hcomponents
  obtain ⟨hfolder, -⟩ := List.append_inj' hcomponents rfl
  -- the module of the app is looked for in the same folder
  have hsrc : config.src.Same folder := Eq.symm hfolder
  have happ : Component.IsName (.name "app") := by decide
  obtain ⟨hparent, hstem⟩ := htidy.parent?_joinSpecifier hreduced hsrc happ (by decide)
  refine ⟨_, findModule_eq_some_iff.2 ⟨folder, "app", names, hparent, hstem, hnames, rfl⟩, ?_⟩
  rw [isModuleFile, Bool.and_assoc, Bool.and_eq_true] at hmodule
  exact List.mem_filter.2 ⟨hmem, isModuleFile_app hs hmodule.1⟩

end Resolve

/-! ### The first spelling of a path -/

namespace Build

/-- A path is kept as it is written when it is written in one way among the first ones. -/
theorem mem_distinct_append {first more : List Path} {p : Path} (hp : p ∈ first)
    (hone : ∀ q ∈ first, q.Same p → q = p) : p ∈ distinct (first ++ more) := by
  obtain ⟨q, hq, hs⟩ := Path.contains_iff.1 (contains_distinct hp)
  obtain rfl := hone q (mem_of_mem_distinct hq) hs
  rw [distinct_eq_foldl, List.foldl_append, ← distinct_eq_foldl, Path.foldl_note]
  exact List.mem_append_left _ hq

/-- The files of a module are entries as they are written, when the entries hold them. -/
theorem mem_distinct_of_findModule (hnamed : disk.Named) {page : String}
    {files pages more : List Path} (h : Resolve.findModule config disk page config.src = some files)
    (hpages : ∀ p ∈ pages, p.Tidy) (hfiles : ∀ p ∈ files, p ∈ pages) {target : Path}
    (htarget : target ∈ files) : target ∈ distinct (appFiles config disk ++ pages ++ more) := by
  have htidy : target.Tidy := Resolve.tidy_findModule hnamed h target htarget
  refine mem_distinct_append (List.mem_append_right _ (hfiles target htarget)) fun q hq hs => ?_
  have hmodule : ∀ p ∈ (Resolve.findModule config disk "app" config.src).getD [], p.Tidy := by
    cases happ : Resolve.findModule config disk "app" config.src with
    | none => exact fun p hp => absurd hp List.not_mem_nil
    | some appFiles => exact Resolve.tidy_findModule hnamed happ
  refine Path.Tidy.eq_of_same ?_ htidy hs
  rcases List.mem_append.1 hq with hq | hq
  · unfold appFiles at hq
    dsimp only at hq
    split at hq
    · exact hmodule q hq
    · next hmissing =>
      -- the manifest is not among the files of the app, so it is none of the page
      rcases List.mem_cons.1 hq with rfl | hq
      · obtain ⟨appFiles, happ, hmem⟩ :=
          Resolve.mem_findModule_app hnamed h htarget hs.symm
        refine absurd (Path.contains_iff.2 ⟨target, ?_, hs.symm⟩) hmissing
        rw [happ]
        exact hmem
      · exact hmodule q hq
  · exact hpages q hq

/-! ### Missing pages -/

/-- A page whose folder is missing, and before which no such page is listed. -/
def FirstMissing (config : Config) (disk : Disk) (page : String) : Prop :=
  ∃ before after, config.manifest.allPages = before ++ page :: after ∧
    (∀ other ∈ before, ∃ files, Resolve.findModule config disk other config.src = some files) ∧
    Resolve.findModule config disk page config.src = none

theorem pageFiles_eq_error_iff {page : String} {error : Error} :
    pageFiles config disk page = .error error ↔
      Resolve.findModule config disk page config.src = none ∧
        error = .resolve config.manifestFile (.missingPageFolder page) := by
  unfold pageFiles
  cases Resolve.findModule config disk page config.src <;> simp [eq_comm]

/-- The entries cannot be found because of the first page whose folder is missing. -/
theorem findEntries_eq_error_iff {error : Error} :
    findEntries config disk = .error error ↔ ∃ page, FirstMissing config disk page ∧
      error = .resolve config.manifestFile (.missingPageFolder page) := by
  unfold findEntries
  rw [bind_eq_error, mapM_eq_error]
  simp only [pageFiles_eq_error_iff, pageFiles_eq_ok_iff]
  constructor
  · rintro (⟨before, page, after, hlist, hbefore, hmissing, rfl⟩ | ⟨_, _, hpure⟩)
    · exact ⟨page, ⟨before, after, hlist, hbefore, hmissing⟩, rfl⟩
    · cases hpure
  · rintro ⟨page, ⟨before, after, hlist, hbefore, hmissing⟩, rfl⟩
    exact Or.inl ⟨before, page, after, hlist, hbefore, hmissing, rfl⟩

/-- The references to the pages cannot be made because of the first page whose folder is missing. -/
theorem pagesDependencies_eq_error_iff (hfile : file.Same config.manifestFile) {error : Error} :
    Resolve.pagesDependencies config disk file config.manifest.allPages = .error error ↔
      ∃ page, FirstMissing config disk page ∧ error = .resolve file (.missingPageFolder page) := by
  have herror (page : String) : Resolve.pageDependencies config disk file page = .error error ↔
      Resolve.findModule config disk page config.src = none ∧
        error = .resolve file (.missingPageFolder page) := by
    rw [pageDependencies_eq hfile]
    cases Resolve.findModule config disk page config.src <;> simp [eq_comm]
  have hok (page : String) : (∃ list, Resolve.pageDependencies config disk file page = .ok list) ↔
      ∃ files, Resolve.findModule config disk page config.src = some files := by
    rw [pageDependencies_eq hfile]
    cases Resolve.findModule config disk page config.src <;> simp
  unfold Resolve.pagesDependencies
  rw [map_eq_error, mapM_eq_error]
  simp only [herror, hok]
  constructor
  · rintro ⟨before, page, after, hlist, hbefore, hmissing, rfl⟩
    exact ⟨page, ⟨before, after, hlist, hbefore, hmissing⟩, rfl⟩
  · rintro ⟨page, ⟨before, after, hlist, hbefore, hmissing⟩, rfl⟩
    exact ⟨before, page, after, hlist, hbefore, hmissing, rfl⟩

/-! ### Pages as entries -/

/-- Entries that agree with references to pages. -/
structure Entered (config : Config) (disk : Disk) (entries : List Path) (pages : List Dependency) :
    Prop where
  /-- The targets are the files of the pages that the manifest lists. -/
  target_iff : ∀ target, (∃ d ∈ pages, d.target = target) ↔
    ∃ page ∈ config.manifest.allPages, ∃ files, pageFiles config disk page = .ok files ∧
      target ∈ files
  /-- They stand between the files of the app and the file of the plugin. -/
  entries_eq : entries =
    distinct (appFiles config disk ++ pages.map Dependency.target ++ pluginFiles config disk)
  /-- Each is an entry as it is written. -/
  mem : ∀ d ∈ pages, d.target ∈ entries
  /-- The destination is the one that the file gets as an entry. -/
  destination : ∀ d ∈ pages, ∀ registry chunk,
    Compile.compileFile config disk registry { file := d.target } = .ok chunk →
      chunk.destination? = some d.destination
  /-- The manifest is among them. -/
  manifest : entries.contains config.manifestFile = true
  /-- No path is listed twice. -/
  distinct : entries.Pairwise fun p q => ¬ p.Same q
  /-- Without links and `..` steps no file is listed twice. -/
  places : disk.Linkless → (∀ p ∈ entries, p.Straight) →
    entries.Pairwise fun p q => ∀ place, disk.find true p = .ok place → disk.find true q ≠ .ok place

/-- When the files of the pages are found, so are the references to them. -/
theorem exists_pagesDependencies (hfile : file.Same config.manifestFile) {names : List String}
    {lists : List (List Path)} (h : names.mapM (pageFiles config disk) = .ok lists) :
    ∃ pages, Resolve.pagesDependencies config disk file names = .ok pages ∧
      pages.map Dependency.target = lists.flatten ∧
      ∀ d ∈ pages, d.destination = config.destination d.target := by
  have hfound : ∃ found, List.Forall₂
      (fun page list => Resolve.pageDependencies config disk file page = .ok list) names found ∧
      found.flatten.map Dependency.target = lists.flatten ∧
      ∀ d ∈ found.flatten, d.destination = config.destination d.target := by
    have hall := mapM_eq_ok.1 h
    clear h
    -- both loops find the files of a page in the same way
    induction hall with
    | nil => exact ⟨[], .nil, rfl, nofun⟩
    | @cons page files _ lists hpage _ ih =>
      obtain ⟨found, hfound, htargets, hdestinations⟩ := ih
      refine ⟨Resolve.moduleDependencies config file page files :: found, .cons ?_ hfound, ?_, ?_⟩
      · rw [pageDependencies_eq hfile, pageFiles_eq_ok_iff.1 hpage]
      · have hmodule : (Resolve.moduleDependencies config file page files).map Dependency.target =
            files := by
          rw [Resolve.moduleDependencies, List.map_map]
          exact List.map_id files
        rw [List.flatten_cons, List.map_append, hmodule, htargets, List.flatten_cons]
      · intro d hd
        rcases List.mem_append.1 hd with hd | hd
        · obtain ⟨target, -, rfl⟩ := List.mem_map.1 hd
          rfl
        · exact hdestinations d hd
  obtain ⟨found, hfound, htargets, hdestinations⟩ := hfound
  exact ⟨found.flatten, map_eq_ok.2 ⟨found, mapM_eq_ok.2 hfound, rfl⟩, htargets, hdestinations⟩

/-- The entries of a build and the references to its pages agree. -/
theorem entered_of_findEntries (hnamed : disk.Named) {lists : List (List Path)}
    (hlists : config.manifest.allPages.mapM (pageFiles config disk) = .ok lists)
    {entries : List Path} (hentries : findEntries config disk = .ok entries)
    {pages : List Dependency} (htargets : pages.map Dependency.target = lists.flatten)
    (hdestinations : ∀ d ∈ pages, d.destination = config.destination d.target) :
    Entered config disk entries pages := by
  have hentries_eq : entries =
      distinct (appFiles config disk ++ lists.flatten ++ pluginFiles config disk) := by
    obtain ⟨lists', hlists', hpure⟩ := bind_eq_ok.1 hentries
    obtain rfl := Except.ok.inj (hlists.symm.trans hlists')
    exact (pure_eq_ok.1 hpure).symm
  have hdistinct : entries.Pairwise fun p q => ¬ p.Same q := by
    rw [hentries_eq, distinct_eq_foldl]
    exact Path.pairwise_foldl_note List.Pairwise.nil _
  obtain ⟨hitems, hresults⟩ := mem_of_mapM_eq_ok hlists
  have htidy : ∀ p ∈ lists.flatten, p.Tidy := by
    intro p hp
    obtain ⟨files, hfiles, hp⟩ := List.mem_flatten.1 hp
    obtain ⟨page, -, hpage⟩ := hresults files hfiles
    exact Resolve.tidy_findModule hnamed (pageFiles_eq_ok_iff.1 hpage) p hp
  -- pages and their files correspond, in the order in which they are listed
  have htarget_iff (target : Path) : (∃ d ∈ pages, d.target = target) ↔
      ∃ page ∈ config.manifest.allPages, ∃ files, pageFiles config disk page = .ok files ∧
        target ∈ files := by
    rw [← List.mem_map, htargets, List.mem_flatten]
    constructor
    · rintro ⟨files, hfiles, htarget⟩
      obtain ⟨page, hpage, heq⟩ := hresults files hfiles
      exact ⟨page, hpage, files, heq, htarget⟩
    · rintro ⟨page, hpage, files, heq, htarget⟩
      obtain ⟨files', hfiles', heq'⟩ := hitems page hpage
      obtain rfl := Except.ok.inj (heq.symm.trans heq')
      exact ⟨files, hfiles', htarget⟩
  refine ⟨htarget_iff, htargets ▸ hentries_eq, fun d hd => ?_, fun d hd registry chunk hchunk => ?_,
    ?_, hdistinct, fun hlinkless hstraight => ?_⟩
  · obtain ⟨page, hpage, files, hfiles, htarget⟩ := (htarget_iff d.target).1 ⟨d, hd, rfl⟩
    obtain ⟨files', hfiles', heq⟩ := hitems page hpage
    obtain rfl := Except.ok.inj (hfiles.symm.trans heq)
    rw [hentries_eq]
    exact mem_distinct_of_findModule hnamed (pageFiles_eq_ok_iff.1 hfiles) htidy
      (fun p hp => List.mem_flatten.2 ⟨files, hfiles', hp⟩) htarget
  · rw [Compile.destination?_of_compileFile hchunk, hdestinations d hd]
    rfl
  · obtain ⟨p, hp, hs⟩ := Path.contains_iff.1 (contains_appFiles config disk)
    have hmem : p ∈ appFiles config disk ++ lists.flatten ++ pluginFiles config disk :=
      List.mem_append_left _ (List.mem_append_left _ hp)
    obtain ⟨q, hq, hs'⟩ := Path.contains_iff.1 (contains_distinct hmem)
    rw [hentries_eq]
    exact Path.contains_iff.2 ⟨q, hq, hs'.trans hs⟩
  · refine hdistinct.imp_of_mem fun hp hq hne place hfind hfind' => hne ?_
    exact Disk.same_of_place hlinkless (hstraight _ hp) (hstraight _ hq) hfind hfind'

/-- The two walks over the pages of a manifest: the one that looks for entries, and the one that
resolves the manifest. -/
structure Walks (config : Config) (disk : Disk) (file : Path) (content : ByteArray) : Prop where
  /-- The entries cannot be found because of a page just if it is the first that is missing. -/
  entries_missing : ∀ page, findEntries config disk =
    .error (.resolve config.manifestFile (.missingPageFolder page)) ↔ FirstMissing config disk page
  /-- Nor can the manifest be resolved because of another page. -/
  resolve_missing : ∀ page, Resolve.resolveDescriptor config disk file content =
    .error (.resolve file (.missingPageFolder page)) ↔ FirstMissing config disk page
  /-- Else both are done, and what they come to agrees. -/
  found : (∀ page, ¬ FirstMissing config disk page) → ∃ entries resolved pages others,
    findEntries config disk = .ok entries ∧
    Resolve.resolveDescriptor config disk file content = .ok resolved ∧
    Resolve.pagesDependencies config disk file config.manifest.allPages = .ok pages ∧
    resolved.dependencies = pages ++ others ∧ Entered config disk entries pages

/-- When the manifest is the one on the disk, lists pages and can be read as a document, the walk
that looks for entries and the one that resolves the manifest agree on its pages. -/
theorem walks_of_loadManifest (hnamed : disk.Named)
    (hmanifest : Config.loadManifest disk config.manifestFile = .ok config.manifest)
    (hpages : config.manifest.pages ≠ [])
    (hread : disk.read config.manifestFile = .ok content) {document : Json}
    (hdocument : Json.read? content.toList = some document)
    (hfile : file.Same config.manifestFile) : Walks config disk file content := by
  have hmanifest : Manifest.read content = .ok config.manifest := by
    obtain ⟨content', hread', hmanifest⟩ := Config.loadManifest_eq_ok_iff.1 hmanifest
    obtain rfl := Except.ok.inj (hread.symm.trans hread')
    exact hmanifest
  have hresolve : Resolve.resolveDescriptor config disk file content =
      (Resolve.pagesDependencies config disk file config.manifest.allPages).map fun pages =>
        ⟨content, pages ++ (config.manifest.tabIcons.map fun icon =>
          Resolve.staticDependency config file (Resolve.locate config file icon) icon) ++
          (Resolve.componentNames document).flatMap
            (Resolve.componentDependencies config disk file)⟩ := by
    rw [resolveDescriptor_manifest hfile hmanifest hdocument, Resolve.manifestDependencies,
      if_neg (by rwa [List.isEmpty_iff])]
    cases Resolve.pagesDependencies config disk file config.manifest.allPages <;> rfl
  have hone (owner : Path) (page : String) : (∃ other, FirstMissing config disk other ∧
      Error.resolve owner (.missingPageFolder page) = .resolve owner (.missingPageFolder other)) ↔
        FirstMissing config disk page := by
    constructor
    · rintro ⟨other, hmissing, heq⟩
      cases heq
      exact hmissing
    · exact fun hmissing => ⟨page, hmissing, rfl⟩
  refine ⟨fun page => ?_, fun page => ?_, fun hnone => ?_⟩
  · rw [findEntries_eq_error_iff, hone]
  · rw [hresolve, map_eq_error, pagesDependencies_eq_error_iff hfile, hone]
  · cases hlists : config.manifest.allPages.mapM (pageFiles config disk) with
    | error error =>
      have herror : findEntries config disk = .error error :=
        bind_eq_error.2 (Or.inl hlists)
      obtain ⟨page, hmissing, -⟩ := findEntries_eq_error_iff.1 herror
      exact absurd hmissing (hnone page)
    | ok lists =>
      obtain ⟨pages, hdependencies, htargets, hdestinations⟩ :=
        exists_pagesDependencies hfile hlists
      have hentries : findEntries config disk = .ok (distinct
          (appFiles config disk ++ lists.flatten ++ pluginFiles config disk)) :=
        bind_eq_ok.2 ⟨lists, hlists, rfl⟩
      rw [hdependencies] at hresolve
      exact ⟨_, _, pages, _, hentries, hresolve, hdependencies, List.append_assoc _ _ _,
        entered_of_findEntries hnamed hlists hentries htargets hdestinations⟩

/-! ### A small app -/

/-- An app with the file of one page, and a manifest. -/
def app (manifest : String) : Disk where
  entries := [
    (["src"], .folder),
    (["src", "app.json"], .file manifest.toUTF8),
    (["src", "p.js"], .file "".toUTF8)]
  current := []

/-- The default configuration with a manifest. -/
def appConfig (manifest : Manifest) : Config :=
  { Config.of ⟨"/"⟩ with manifest }

/-- The same with a source folder that is reached by going up and down again. -/
def twisted (manifest : Manifest) : Config :=
  { appConfig manifest with src := ⟨"/src/../src"⟩ }

/-- A manifest that lists a page in two ways. -/
def twice : String :=
  "\x7b\"pages\":[\"p\"],\"subPackages\":[\x7b\"root\":\"a\",\"pages\":[\"../p\"]\x7d]\x7d"

/-- A page that is listed in two ways has its file among the entries once. -/
theorem walks_of_twice : ∃ manifest,
    Config.loadManifest (app twice) (appConfig manifest).manifestFile = .ok manifest ∧
    manifest.allPages = ["p", "a/../p"] ∧
    Walks (appConfig manifest) (app twice) (appConfig manifest).manifestFile twice.toUTF8 ∧
    ((findEntries (appConfig manifest) (app twice)).toOption.map (List.map Path.text)) =
      some ["/src/app.json", "/src/p.js"] := by
  let manifest : Manifest :=
    { pages := ["p"], packages := [{ root := some "a", pages := ["../p"] }] }
  have hmanifest : Config.loadManifest (app twice) (appConfig manifest).manifestFile =
      .ok manifest := toOption_eq_some.1 (by decide +kernel)
  obtain ⟨document, hdocument⟩ := Option.isSome_iff_exists.1
    (by decide +kernel : (Json.read? twice.toUTF8.toList).isSome = true)
  exact ⟨manifest, hmanifest, by decide +kernel,
    walks_of_loadManifest (by decide +kernel) hmanifest (by decide +kernel) (by decide +kernel)
      hdocument rfl, by decide +kernel⟩

/-- A manifest that lists a page and is no document: a text that nothing looks at holds half of a
character. -/
def halved : String :=
  "\x7b\"pages\":[\"b/p\"],\"x\":\"\\ud800\"\x7d"

/-- A manifest whose pages are all those of a package. -/
def packaged : String :=
  "\x7b\"subPackages\":[\x7b\"pages\":[\"p\"]\x7d]\x7d"

/-- The walks part where the manifest can be read as it stands and not as a document, and where it
lists pages of packages alone; and where the source folder is given with a `..` step, the manifest
is listed under two paths. -/
theorem walks_part :
    (∃ manifest, Config.loadManifest (app halved) (appConfig manifest).manifestFile = .ok manifest ∧
      manifest.allPages = ["b/p"] ∧
      findEntries (appConfig manifest) (app halved) =
        .error (.resolve (appConfig manifest).manifestFile (.missingPageFolder "b/p")) ∧
      Resolve.resolveDescriptor (appConfig manifest) (app halved) (appConfig manifest).manifestFile
        halved.toUTF8 = .error (.resolve (appConfig manifest).manifestFile .invalidJson)) ∧
    (∃ manifest,
      Config.loadManifest (app packaged) (appConfig manifest).manifestFile = .ok manifest ∧
      manifest.allPages = ["p"] ∧
      (findEntries (appConfig manifest) (app packaged)).toOption.isSome = true ∧
      Resolve.resolveDescriptor (appConfig manifest) (app packaged)
        (appConfig manifest).manifestFile packaged.toUTF8 =
          .error (.resolve (appConfig manifest).manifestFile .noPages)) ∧
    (∃ manifest, Config.loadManifest (app twice) (twisted manifest).manifestFile = .ok manifest ∧
      ((findEntries (twisted manifest) (app twice)).toOption.map
        (List.map fun p => (p.text, ((app twice).find true p).toOption))) = some [
          ("/src/../src/app.json", some ["src", "app.json"]),
          ("/src/app.json", some ["src", "app.json"]),
          ("/src/p.js", some ["src", "p.js"])]) := by
  refine ⟨⟨{ pages := ["b/p"] }, toOption_eq_some.1 (by decide +kernel), by decide +kernel, ?_, ?_⟩,
    ⟨{ packages := [{ pages := ["p"] }] }, toOption_eq_some.1 (by decide +kernel),
      by decide +kernel, by decide +kernel, ?_⟩,
    ⟨{ pages := ["p"], packages := [{ root := some "a", pages := ["../p"] }] },
      toOption_eq_some.1 (by decide +kernel), by decide +kernel⟩⟩
  · exact findEntries_eq_error_iff.2 ⟨"b/p", ⟨[], [], by decide +kernel, nofun,
      Option.isNone_iff_eq_none.1 (by decide +kernel)⟩, rfl⟩
  · have hnone : Json.read? halved.toUTF8.toList = none :=
      Option.isNone_iff_eq_none.1 (by decide +kernel)
    rw [Resolve.resolveDescriptor, hnone]
  · obtain ⟨document, hdocument⟩ := Option.isSome_iff_exists.1
      (by decide +kernel : (Json.read? packaged.toUTF8.toList).isSome = true)
    have hmanifest : Manifest.read packaged.toUTF8 = .ok { packages := [{ pages := ["p"] }] } :=
      toOption_eq_some.1 (by decide +kernel)
    rw [resolveDescriptor_manifest (Path.same_refl _) hmanifest hdocument,
      Resolve.manifestDependencies, if_pos (by decide +kernel)]
    rfl

end Build

end Minipack
