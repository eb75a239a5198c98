/-
The files with which a build begins.

A build begins with the project descriptor, the files of the app, those of the pages and the main
file of the plugin.  In a registry that is up to date the pages need no care: the manifest is a
descriptor of the app and refers to the files of all its pages (`Build.writes_of_page`), as it is
the same manifest when it is read as a descriptor and when it is read as it stands.  So it is enough
that the other files are known (`Build.Rooted`), and then all files with which a fresh build begins
are (`Build.Rooted.entry`).
-/
import Minipack.Proofs.Compile.Current
import Minipack.Proofs.Disk.Spelling
import Minipack.Proofs.Json.Reading
import Minipack.Proofs.Path.Distinct
import Minipack.Proofs.Path.Parent
import Minipack.Proofs.Resolve.Layout

namespace Minipack

variable {config : Config} {disk : Disk} {registry registry' : Registry} {chunk : Chunk}

/-! ### The manifest as a descriptor -/

theorem Config.components_manifestFile (config : Config) :
    config.manifestFile.components = config.src.components ++ [.name "app.json"] :=
  Path.components_child config.src
    ⟨"app.json", rfl, by decide, by decide, by decide, by decide⟩

theorem Config.not_same_projectFile (config : Config) :
    ¬ config.manifestFile.Same config.projectFile := by
  intro hs
  have hproject : config.projectFile.components =
      config.root.components ++ [.name "project.config.json"] :=
    Path.components_child config.root
      ⟨"project.config.json", rfl, by decide, by decide, by decide, by decide⟩
  have hlast : config.manifestFile.components.getLast? = config.projectFile.components.getLast? :=
    congrArg List.getLast? hs
  rw [config.components_manifestFile, hproject, List.getLast?_concat, List.getLast?_concat] at hlast
  exact absurd hlast (by decide)

/-- The manifest has its name in every spelling. -/
theorem Config.fileName?_manifestFile {file : Path} (h : file.Same config.manifestFile) :
    file.fileName? = some "app.json" := by
  have hcomponents : file.components = config.src.components ++ [.name "app.json"] :=
    Eq.trans h config.components_manifestFile
  rw [Path.fileName?, hcomponents, List.getLast?_concat]
  rfl

/-- The manifest is a descriptor in every spelling. -/
theorem SourceKind.of?_manifestFile {file : Path} (h : file.Same config.manifestFile) :
    SourceKind.of? file = some .descriptor := by
  have hname := config.fileName?_manifestFile h
  have hextension : file.extension? = some "json" := by
    rw [Path.extension?, hname]
    decide +kernel
  rw [SourceKind.of?, hextension]
  decide +kernel

/-- A manifest is loaded when its file can be read and holds it. -/
theorem Config.loadManifest_eq_ok_iff {file : Path} {manifest : Manifest} :
    loadManifest disk file = .ok manifest ↔
      ∃ content, disk.read file = .ok content ∧ Manifest.read content = .ok manifest := by
  unfold loadManifest
  constructor
  · intro h
    split at h
    · cases h
    · split at h
      · cases h
      · next content hread =>
        split at h
        · next found hmanifest =>
          rw [Except.ok.inj h] at hmanifest
          exact ⟨content, hread, hmanifest⟩
        · cases h
  · rintro ⟨content, hread, hmanifest⟩
    rw [Disk.isFile_iff_read.2 ⟨content, hread⟩, hread]
    dsimp only
    rw [hmanifest]
    rfl

namespace Build

/-- A page is looked up from the source folder also when it is read from the manifest. -/
theorem findModule_folderOf {file : Path} (h : file.Same config.manifestFile) (page : String) :
    Resolve.findModule config disk page (config.folderOf file) =
      Resolve.findModule config disk page config.src := by
  have hcomponents : file.components = config.src.components ++ [.name "app.json"] :=
    Eq.trans h config.components_manifestFile
  obtain ⟨folder, hparent, hfolder⟩ := Path.parent?_spec hcomponents
  have hsame : (config.folderOf file).Same config.src := by
    rw [Settings.folderOf, hparent]
    exact hfolder
  unfold Resolve.findModule
  rw [Path.joinSpecifier_congr hsame]

theorem pageDependencies_eq {file : Path} (h : file.Same config.manifestFile) (page : String) :
    Resolve.pageDependencies config disk file page =
      match Resolve.findModule config disk page config.src with
      | some files => .ok (Resolve.moduleDependencies config file page files)
      | none => .error (.resolve file (.missingPageFolder page)) := by
  have hbase : Resolve.findModule config disk page
      (if Resolve.beginsWith page "/" then config.src else config.folderOf file) =
        Resolve.findModule config disk page config.src := by
    split
    · rfl
    · exact findModule_folderOf h page
  unfold Resolve.pageDependencies
  cases hmodule : Resolve.findModule config disk page config.src with
  | none => simp only [hbase, hmodule]
  | some files => simp only [hbase, hmodule]

theorem pageFiles_eq_ok_iff {page : String} {files : List Path} :
    pageFiles config disk page = .ok files ↔
      Resolve.findModule config disk page config.src = some files := by
  unfold pageFiles
  cases Resolve.findModule config disk page config.src <;> simp

/-- The manifest is resolved as a list of pages and icons, and as a descriptor with components. -/
theorem resolveDescriptor_manifest {file : Path} (hfile : file.Same config.manifestFile)
    {source : ByteArray} {manifest : Manifest} (hmanifest : Manifest.read source = .ok manifest)
    {document : Json} (hdocument : Json.read? source.toList = some document) :
    Resolve.resolveDescriptor config disk file source = (do
      let dependencies ← Resolve.manifestDependencies config disk file manifest
      let components :=
        (Resolve.componentNames document).flatMap (Resolve.componentDependencies config disk file)
      return ⟨source, dependencies ++ components⟩) := by
  have hproject : (file == config.projectFile) = false :=
    Path.beq_eq_false_iff.2 fun hs => config.not_same_projectFile (hfile.symm.trans hs)
  unfold Resolve.resolveDescriptor
  rw [hdocument]
  dsimp only
  rw [hproject, Path.beq_iff_same.2 hfile, Manifest.ofDocument_ofJson hmanifest hdocument]
  rfl

/-- What the manifest refers to when it is resolved: the files of all pages that it lists. -/
theorem mem_dependencies_of_page {file : Path} (hfile : file.Same config.manifestFile)
    {source : ByteArray} {resolved : Resolve.Resolved}
    (hresolved : Resolve.resolveFile config disk file source = .ok resolved)
    {manifest : Manifest} (hmanifest : Manifest.read source = .ok manifest) {page : String}
    (hpage : page ∈ manifest.allPages) {files : List Path}
    (hfiles : pageFiles config disk page = .ok files) {target : Path} (htarget : target ∈ files) :
    ∃ d ∈ resolved.dependencies, d.target = target ∧ d.destination = config.destination target ∧
      d.embedded = false := by
  unfold Resolve.resolveFile at hresolved
  rw [SourceKind.of?_manifestFile hfile] at hresolved
  change Resolve.resolveDescriptor config disk file source = .ok resolved at hresolved
  have hdocument : ∃ document, Json.read? source.toList = some document := by
    unfold Resolve.resolveDescriptor at hresolved
    split at hresolved
    · cases hresolved
    · exact ⟨_, ‹_›⟩
  obtain ⟨document, hdocument⟩ := hdocument
  rw [resolveDescriptor_manifest hfile hmanifest hdocument] at hresolved
  obtain ⟨dependencies, hdependencies, hresolved⟩ := bind_eq_ok.1 hresolved
  obtain rfl := pure_eq_ok.1 hresolved
  unfold Resolve.manifestDependencies at hdependencies
  split at hdependencies
  · cases hdependencies
  · obtain ⟨pages, hlisted, hdependencies⟩ := bind_eq_ok.1 hdependencies
    obtain rfl := pure_eq_ok.1 hdependencies
    obtain ⟨lists, hlists, rfl⟩ := map_eq_ok.1 hlisted
    obtain ⟨list, hlist, heq⟩ := (mem_of_mapM_eq_ok hlists).1 page hpage
    rw [pageDependencies_eq hfile, pageFiles_eq_ok_iff.1 hfiles] at heq
    obtain rfl := Except.ok.inj heq
    refine ⟨{ file, target, destination := config.destination target, required := page }, ?_,
      rfl, rfl, rfl⟩
    apply List.mem_append_left
    apply List.mem_append_left
    exact List.mem_flatten.2 ⟨_, hlist, List.mem_map.2 ⟨target, htarget, rfl⟩⟩

/-- In a registry that is up to date the files of all pages are known, with their destinations. -/
theorem writes_of_page (h : Compile.UpToDate config disk registry)
    (hknown : registry.has config.manifestFile = true)
    (hmanifest : Config.loadManifest disk config.manifestFile = .ok config.manifest) {page : String}
    (hpage : page ∈ config.manifest.allPages) {files : List Path}
    (hfiles : pageFiles config disk page = .ok files) {target : Path} (htarget : target ∈ files) :
    registry.Writes target (config.destination target) := by
  obtain ⟨chunk, hget⟩ := Registry.has_iff.1 hknown
  have hmem := Registry.mem_of_get? hget
  have hsame : chunk.file.Same config.manifestFile := (Registry.same_of_get? hget).symm
  obtain ⟨source, resolved, hsource, hresolved, hfollowed⟩ :=
    Compile.followed_of_compileFile (h.current chunk hmem)
  obtain ⟨content, hcontent, hread⟩ := Config.loadManifest_eq_ok_iff.1 hmanifest
  -- the descriptor is compiled from what the manifest is read from
  obtain rfl : content = source :=
    Disk.read_eq_of_same hsame.symm hcontent (Compile.readSource_eq_ok_iff.1 hsource)
  obtain ⟨d, hd, rfl, hdestination, hembedded⟩ :=
    mem_dependencies_of_page hsame hresolved hread hpage hfiles htarget
  rw [← hdestination]
  refine h.closed chunk hmem d ?_
  change d ∈ Chunk.followed { chunk with destinations := [config.destination chunk.file] }
  rw [hfollowed, List.mem_filter, hembedded]
  exact ⟨hd, rfl⟩

/-! ### Known entries -/

theorem distinct_eq_foldl (paths : List Path) : distinct paths = paths.foldl Path.note [] := rfl

theorem contains_distinct {paths : List Path} {p : Path} (h : p ∈ paths) :
    (distinct paths).contains p = true := by
  rw [distinct_eq_foldl, Path.contains_foldl_note, Bool.or_eq_true]
  exact Or.inr (Path.contains_iff.2 ⟨p, h, rfl⟩)

theorem mem_of_mem_distinct {paths : List Path} {p : Path} (h : p ∈ distinct paths) :
    p ∈ paths := by
  rw [distinct_eq_foldl] at h
  exact (Path.mem_of_mem_foldl_note h).resolve_left List.not_mem_nil

/-- An entry is a file of the app, of a page or of the plugin. -/
theorem mem_entries_cases {entries : List Path} (hentries : findEntries config disk = .ok entries)
    {file : Path} (hfile : file ∈ entries) :
    file ∈ appFiles config disk ∨
      (∃ page ∈ config.manifest.allPages, ∃ files, pageFiles config disk page = .ok files ∧
        file ∈ files) ∨
      file ∈ pluginFiles config disk := by
  obtain ⟨lists, hlists, hdistinct⟩ := bind_eq_ok.1 hentries
  obtain rfl := pure_eq_ok.1 hdistinct
  rcases List.mem_append.1 (mem_of_mem_distinct hfile) with hfile | hplugin
  · rcases List.mem_append.1 hfile with happ | hpages
    · exact Or.inl happ
    · obtain ⟨list, hlist, hmem⟩ := List.mem_flatten.1 hpages
      obtain ⟨page, hpage, heq⟩ := (mem_of_mapM_eq_ok hlists).2 list hlist
      exact Or.inr (Or.inl ⟨page, hpage, list, heq, hmem⟩)
  · exact Or.inr (Or.inr hplugin)

/-- It is the manifest, a file of a module of the source folder or the main file of the plugin. -/
theorem entry_cases {entries : List Path} (hentries : findEntries config disk = .ok entries)
    {file : Path} (hfile : file ∈ entries) :
    file = config.manifestFile ∨
      (∃ name files, Resolve.findModule config disk name config.src = some files ∧
        file ∈ files) ∨
      ∃ root, config.pluginRoot = some root ∧ file = root.child "plugin.json" := by
  rcases mem_entries_cases hentries hfile with happ | ⟨page, -, files, hpage, hmem⟩ | hplugin
  · have hfound : file ∈ (Resolve.findModule config disk "app" config.src).getD [] →
        ∃ name files, Resolve.findModule config disk name config.src = some files ∧
          file ∈ files := by
      intro hmem
      cases h : Resolve.findModule config disk "app" config.src with
      | none =>
        rw [h] at hmem
        cases hmem
      | some files =>
        rw [h] at hmem
        exact ⟨"app", files, h, hmem⟩
    unfold appFiles at happ
    dsimp only at happ
    split at happ
    · exact Or.inr (Or.inl (hfound happ))
    · exact (List.mem_cons.1 happ).imp_right fun hmem => Or.inl (hfound hmem)
  · exact Or.inr (Or.inl ⟨page, files, pageFiles_eq_ok_iff.1 hpage, hmem⟩)
  · unfold pluginFiles at hplugin
    split at hplugin
    · next root hroot =>
      exact Or.inr (Or.inr ⟨root, hroot, List.mem_singleton.1 (List.mem_filter.1 hplugin).1⟩)
    · cases hplugin

/-- The manifest is a file of the app in some spelling. -/
theorem contains_appFiles (config : Config) (disk : Disk) :
    (appFiles config disk).contains config.manifestFile = true := by
  unfold appFiles
  dsimp only
  split
  · next hc => exact hc
  · exact Path.contains_iff.2 ⟨_, List.mem_cons_self, rfl⟩

/-- A file is known, and has its own destination when it is known by the same spelling. -/
def Known (config : Config) (registry : Registry) (file : Path) : Prop :=
  ∃ chunk, registry.get? file = some chunk ∧
    (chunk.file = file → chunk.destinations.contains (config.destination file) = true)

/-- The entries are known that the manifest does not list. -/
def Rooted (config : Config) (disk : Disk) (registry : Registry) : Prop :=
  ∀ file ∈ config.projectFile :: (appFiles config disk ++ pluginFiles config disk),
    Known config registry file

theorem Known.keeps {file : Path} (h : Known config registry file)
    (hkeeps : registry.Keeps registry') : Known config registry' file := by
  obtain ⟨chunk, hget, hdestination⟩ := h
  obtain ⟨kept, hkept, hfile, -, hdestinations⟩ := hkeeps file chunk hget
  refine ⟨kept, hkept, fun heq => hdestinations _ (hdestination ?_)⟩
  rw [← hfile, heq]

/-- The manifest is known in some spelling. -/
theorem Rooted.manifest (h : Rooted config disk registry) :
    registry.has config.manifestFile = true := by
  obtain ⟨file, hfile, hs⟩ := Path.contains_iff.1 (contains_appFiles config disk)
  obtain ⟨chunk, hget, -⟩ := h file (List.mem_cons_of_mem _ (List.mem_append_left _ hfile))
  rw [← Registry.has_congr hs]
  exact Registry.has_of_get? hget

/-- All files with which a build begins are known. -/
theorem Rooted.entry (h : Rooted config disk registry) (hup : Compile.UpToDate config disk registry)
    (hmanifest : Config.loadManifest disk config.manifestFile = .ok config.manifest)
    {entries : List Path} (hentries : findEntries config disk = .ok entries) {file : Path}
    (hfile : file ∈ config.projectFile :: entries) : Known config registry file := by
  rcases List.mem_cons.1 hfile with rfl | hfile
  · exact h _ List.mem_cons_self
  · rcases mem_entries_cases hentries hfile with happ | ⟨page, hpage, files, heq, hmem⟩ | hplugin
    · exact h file (List.mem_cons_of_mem _ (List.mem_append_left _ happ))
    · obtain ⟨chunk, hget, hdestination⟩ := writes_of_page hup h.manifest hmanifest hpage heq hmem
      exact ⟨chunk, hget, fun _ => hdestination⟩
    · exact h file (List.mem_cons_of_mem _ (List.mem_append_right _ hplugin))

end Build

end Minipack
