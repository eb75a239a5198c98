/-
Builds that are settled.

A build is settled on a disk when its configuration is what the disk tells, its registry is up to
date and the files with which it begins are known (`Build.Settled`).  A run settles a build
(`Build.settled_run`), and so does a batch that lists all files that others have changed
(`Build.settled_batch`).  Both speak of the disk before anything is written; writing leaves a build
settled when it does not change what the build reads (`Build.Settled.unread`).
-/
import Minipack.Proofs.Build.Entries
import Minipack.Proofs.Build.Tasks
import Minipack.Proofs.Config.Lasting

namespace Minipack

variable {config resolved : Config} {old new disk : Disk} {registry : Registry}

/-! ### Configurations -/

theorem Config.resolve_eq_ok (h : config.resolve disk = .ok resolved) :
    ∃ manifest, loadManifest disk config.manifestFile = .ok manifest ∧
      resolved = { config.settleAddress with
        manifest := manifest
        pluginRoot := config.settleAddress.readPluginRoot disk } := by
  obtain ⟨-, -, manifest, hmanifest, -, hresolved⟩ := resolve_eq_ok_iff.1 h
  exact ⟨manifest, hmanifest, hresolved⟩

/-- What a disk tells about a configuration is what the configuration holds. -/
structure Config.Settled (config : Config) (disk : Disk) : Prop where
  address : config.publicPath ≠ none
  plugin : config.readPluginRoot disk = config.pluginRoot
  manifest : loadManifest disk config.manifestFile = .ok config.manifest

theorem Config.settleAddress_eq_self (h : config.publicPath ≠ none) :
    config.settleAddress = config := by
  unfold Config.settleAddress
  split
  · rfl
  · next hnone => exact absurd hnone h

theorem Config.publicPath_settleAddress (config : Config) :
    config.settleAddress.publicPath ≠ none := by
  obtain ⟨address, haddress⟩ := exists_publicPath_settleAddress config
  rw [haddress]
  exact nofun

theorem Config.settled_of_resolve (h : config.resolve disk = .ok config) : config.Settled disk := by
  obtain ⟨manifest, hmanifest, heq⟩ := resolve_eq_ok h
  have haddress : config.publicPath ≠ none := by
    have hpublic : config.publicPath = config.settleAddress.publicPath :=
      congrArg (fun config => config.publicPath) heq
    rw [hpublic]
    exact config.publicPath_settleAddress
  rw [settleAddress_eq_self haddress] at heq
  refine ⟨haddress, (congrArg Config.pluginRoot heq).symm, ?_⟩
  rw [hmanifest, congrArg Config.manifest heq]

/-- Resolving a settled configuration changes nothing. -/
theorem Config.Settled.resolve_eq (hs : config.Settled disk)
    (h : config.resolve disk = .ok resolved) : resolved = config := by
  obtain ⟨manifest, hmanifest, rfl⟩ := resolve_eq_ok h
  rw [hs.manifest] at hmanifest
  rw [settleAddress_eq_self hs.address, hs.plugin, ← Except.ok.inj hmanifest]

/-! ### What is read -/

/-- A file has the same content on two disks, and its references are resolved in the same way. -/
def Compile.SameSource (config : Config) (old new : Disk) (file : Path) : Prop :=
  new.read file = old.read file ∧
    ∀ source ∈ old.read? file, (Resolve.resolveFile config new file source).toOption =
      (Resolve.resolveFile config old file source).toOption

/-- The parts of a reference, with paths as they are written. -/
def Dependency.parts (d : Dependency) :
    (String × String × String × String) × Option String × Option ChunkKind × Bool :=
  ((d.file.text, d.target.text, d.destination.text, d.required), d.replacement, d.kind, d.embedded)

theorem Dependency.parts_injective : Function.Injective Dependency.parts := by
  rintro ⟨⟨_⟩, ⟨_⟩, ⟨_⟩, _, _, _, _⟩ ⟨⟨_⟩, ⟨_⟩, ⟨_⟩, _, _, _, _⟩ h
  simp only [parts, Prod.mk.injEq] at h
  obtain ⟨⟨rfl, rfl, rfl, rfl⟩, rfl, rfl, rfl⟩ := h
  rfl

instance : DecidableEq Dependency := fun a b =>
  decidable_of_iff (a.parts = b.parts) Dependency.parts_injective.eq_iff

instance : DecidableEq Resolve.Resolved := fun a b =>
  have : DecidableEq ByteArray := ByteArray.instDecidableEq
  decidable_of_iff (a.content = b.content ∧ a.dependencies = b.dependencies)
    (by cases a; cases b; rw [Resolve.Resolved.mk.injEq])

instance (config : Config) (old new : Disk) (file : Path) :
    Decidable (Compile.SameSource config old new file) :=
  inferInstanceAs (Decidable (_ ∧ ∀ source ∈ old.read? file, _))

theorem Compile.Current.of_sameSource {chunk : Chunk} (h : Current config old chunk)
    (hs : SameSource config old new chunk.file) : Current config new chunk := by
  obtain ⟨source, made, transformed, hsource, hmade, htransformed, heq⟩ :=
    compileFile_eq_ok_iff.1 h
  have hread := readSource_eq_ok_iff.1 hsource
  have hread' : source ∈ old.read? chunk.file := by
    rw [Disk.read?, hread]
    rfl
  have hmade' : Resolve.resolveFile config new chunk.file source = .ok made := by
    have hoption := hs.2 source hread'
    rw [hmade] at hoption
    cases hresolve : Resolve.resolveFile config new chunk.file source with
    | ok resolved =>
      rw [hresolve] at hoption
      rw [Option.some.inj hoption]
    | error error =>
      rw [hresolve] at hoption
      cases hoption
  refine compileFile_eq_ok_iff.2 ⟨source, made, transformed, ?_, hmade', htransformed, heq⟩
  exact readSource_eq_ok_iff.2 (hs.1.trans hread)

namespace Build

/-- What differs between two disks is not read by a build: neither its known files, nor what tells
where it begins. -/
structure Unread (config : Config) (registry : Registry) (old new : Disk) : Prop where
  sources : ∀ chunk ∈ registry.chunks, Compile.SameSource config old new chunk.file
  manifest : new.read config.manifestFile = old.read config.manifestFile
  project : new.read config.projectFile = old.read config.projectFile
  app : appFiles config new = appFiles config old
  plugin : pluginFiles config new = pluginFiles config old

theorem text_inj {p q : Path} : p.text = q.text ↔ p = q :=
  ⟨fun h => by cases p; cases q; exact congrArg Path.mk h, congrArg Path.text⟩

theorem map_text_inj {a b : List Path} : a.map Path.text = b.map Path.text ↔ a = b :=
  List.map_inj_right fun _ _ => text_inj.1

instance (config : Config) (registry : Registry) (old new : Disk) :
    Decidable (Unread config registry old new) :=
  have : DecidableEq ByteArray := ByteArray.instDecidableEq
  decidable_of_iff
    ((∀ chunk ∈ registry.chunks, Compile.SameSource config old new chunk.file) ∧
      new.read config.manifestFile = old.read config.manifestFile ∧
      new.read config.projectFile = old.read config.projectFile ∧
      (appFiles config new).map Path.text = (appFiles config old).map Path.text ∧
      (pluginFiles config new).map Path.text = (pluginFiles config old).map Path.text)
    ⟨fun ⟨hsources, hmanifest, hproject, happ, hplugin⟩ =>
        ⟨hsources, hmanifest, hproject, map_text_inj.1 happ, map_text_inj.1 hplugin⟩,
      fun h => ⟨h.sources, h.manifest, h.project, map_text_inj.2 h.app, map_text_inj.2 h.plugin⟩⟩

/-- The configuration is what the disk tells, the registry is up to date, and the files with which
the build begins are known. -/
structure Settled (config : Config) (disk : Disk) (registry : Registry) : Prop where
  configured : config.Settled disk
  upToDate : Compile.UpToDate config disk registry
  rooted : Rooted config disk registry

/-- What is not read makes no difference. -/
theorem Settled.unread (h : Settled config old registry) (hu : Unread config registry old new) :
    Settled config new registry := by
  refine ⟨⟨h.configured.address, ?_, ?_⟩, ⟨h.upToDate.sorted, ?_, h.upToDate.closed⟩, ?_⟩
  · rw [← h.configured.plugin, Config.readPluginRoot, Config.readPluginRoot, Disk.read?, Disk.read?,
      hu.project]
  · obtain ⟨content, hread, hmanifest⟩ := Config.loadManifest_eq_ok_iff.1 h.configured.manifest
    exact Config.loadManifest_eq_ok_iff.2 ⟨content, hu.manifest.trans hread, hmanifest⟩
  · exact fun chunk hc => (h.upToDate.current chunk hc).of_sameSource (hu.sources chunk hc)
  · unfold Rooted
    rw [hu.app, hu.plugin]
    exact h.rooted

variable {build start after : Build} {changes : List Change}

/-! ### Running -/

/-- The first entry of a path is the one that is compiled. -/
theorem exists_entry {entries : List Path} (hentries : findEntries config disk = .ok entries)
    {file : Path} (hfile : file ∈ config.projectFile :: (appFiles config disk ++
      pluginFiles config disk)) :
    ∃ task ∈ entryTasks config entries, task.file.Same file := by
  obtain ⟨lists, -, hdistinct⟩ := bind_eq_ok.1 hentries
  obtain rfl := pure_eq_ok.1 hdistinct
  have hlisted : file ∈ appFiles config disk ++ pluginFiles config disk → ∃ task ∈
      entryTasks config (distinct (appFiles config disk ++ lists.flatten ++
        pluginFiles config disk)), task.file.Same file := by
    intro hmem
    have hall : file ∈ appFiles config disk ++ lists.flatten ++ pluginFiles config disk := by
      rcases List.mem_append.1 hmem with hmem | hmem
      · exact List.mem_append_left _ (List.mem_append_left _ hmem)
      · exact List.mem_append_right _ hmem
    obtain ⟨entry, hentry, hs⟩ := Path.contains_iff.1 (contains_distinct hall)
    exact ⟨_, List.mem_map.2 ⟨entry, List.mem_cons_of_mem _ hentry, rfl⟩, hs⟩
  rcases List.mem_cons.1 hfile with rfl | hmem
  · exact ⟨_, List.mem_map.2 ⟨_, List.mem_cons_self, rfl⟩, Path.same_refl _⟩
  · exact hlisted hmem

/-- A run leaves all chunks up to date. -/
theorem upToDate_of_ran {entries : List Path} {chunks : List Chunk}
    (hran : Ran start after entries chunks) :
    Compile.UpToDate start.config start.disk after.registry := by
  rw [hran.registry]
  exact Compile.upToDate_compileAll hran.compiled

/-- A run settles a build. -/
theorem settled_run {entries : List Path} {chunks : List Chunk}
    (hconfig : start.config.Settled start.disk) (hran : Ran start after entries chunks) :
    Settled start.config start.disk after.registry := by
  obtain ⟨calls, hruns⟩ := Compile.Pass.runs_run start.config start.disk { registry := {} }
    (entryTasks start.config entries)
  have hnone := Compile.firstError_of_compileAll hran.compiled
  refine ⟨hconfig, upToDate_of_ran hran, fun file hfile => ?_⟩
  rw [hran.registry, Compile.registry_of_compileAll hran.compiled]
  obtain ⟨task, ht, hs⟩ := exists_entry hran.found hfile
  rcases hruns.called_of_mem_queue ht with htried | ⟨call, hcall, hs'⟩
  · cases htried
  · have hfirst : call.task ∈ entryTasks start.config entries := by
      rw [← List.append_nil (entryTasks start.config entries)] at hruns
      exact hruns.mem_tasks_of_same hcall ht hs'
    obtain ⟨entry, -, htask⟩ := List.mem_map.1 hfirst
    obtain ⟨made, hmade⟩ := hruns.ok_of_none hnone hcall
    obtain ⟨before, -, hresult⟩ := hruns.result_eq hcall
    obtain ⟨ps, hmerged⟩ := Compile.exists_get?_merged hruns hcall hmade (hs'.trans hs).symm
    rw [hmade] at hresult
    refine ⟨made.addDestinations ps, hmerged, fun heq => ?_⟩
    apply Compile.contains_addDestinations_of_contains
    have hdestination := Compile.contains_destination hresult
    rw [Chunk.addDestinations_file, Compile.file_of_compileFile hresult] at heq
    rw [← htask] at hdestination heq
    rw [← heq]
    exact hdestination

/-! ### Batches -/

/-- What others may do between two batches: they change the contents of files, though not what
describes packages or names the folder of the plugin, nor what the build has written.  A known file
that has the digest with which it was compiled has the content, too. -/
structure Edits (build : Build) (disk : Disk) : Prop where
  alike : Resolve.Alike build.disk disk
  plugin : build.config.readPluginRoot disk = build.config.pluginRoot
  outputs : ∀ chunk ∈ build.registry.chunks, ∀ p ∈ chunk.destinations,
    disk.read p = build.disk.read p
  digests : ∀ chunk ∈ build.registry.chunks, ∀ content, disk.read chunk.file = .ok content →
    digest content = chunk.hash → build.disk.read chunk.file = .ok content

/-- A batch lists every known file that others have changed, and all changes of known files that it
lists can be taken. -/
structure Lists (build : Build) (disk : Disk) (changes : List Change) : Prop where
  changed : ∀ chunk ∈ build.registry.chunks, disk.read chunk.file ≠ build.disk.read chunk.file →
    ∃ change ∈ changes, change.path.Same chunk.file
  takes : ∀ change ∈ changes, build.registry.has change.path = true →
    Takes { build with disk := disk } change

/-- The last changes can be taken when all changes can. -/
theorem takes_latest
    (h : ∀ change ∈ changes, build.registry.has change.path = true → build.Takes change) :
    ∀ change ∈ latest changes, build.registry.has change.path = true → build.Takes change := by
  intro change hc hhas
  obtain ⟨first, hfirst, last, hlast, hpath, hsame, hkind⟩ :=
    (condenses_latest changes).mem change hc
  obtain ⟨hignored, hthere⟩ := h first hfirst (hpath ▸ hhas)
  have hhas' : build.registry.has last.path = true := (Registry.has_congr hsame).trans hhas
  have hlast' := (h last hlast hhas').2
  unfold isRemoval at hthere hlast'
  rw [Bool.or_eq_false_iff] at hthere hlast'
  refine ⟨hpath ▸ hignored, ?_⟩
  unfold isRemoval
  rw [Bool.or_eq_false_iff, hpath, hkind]
  exact ⟨hlast'.1, hthere.2⟩

/-- A file of the old disk is a file of the new one. -/
theorem Edits.exists_read (h : Edits build disk) {file : Path} {content : ByteArray}
    (hread : build.disk.read file = .ok content) : ∃ content', disk.read file = .ok content' := by
  rw [← Disk.isFile_iff_read, h.alike.isFile, Disk.isFile_iff_read]
  exact ⟨content, hread⟩

/-- A known file that the batch does not list is as it was, in every spelling. -/
theorem Lists.read_eq (h : Lists build disk changes) (hedits : Edits build disk) {chunk : Chunk}
    (hc : chunk ∈ build.registry.chunks) (hunlisted : ∀ change ∈ changes,
      ¬ change.path.Same chunk.file) {file : Path} (hs : file.Same chunk.file)
    {source content : ByteArray} (hsource : build.disk.read chunk.file = .ok source)
    (hread : build.disk.read file = .ok content) : disk.read file = .ok content := by
  have hsame : disk.read chunk.file = build.disk.read chunk.file :=
    Classical.byContradiction fun hne => by
      obtain ⟨change, hchange, hs⟩ := h.changed chunk hc hne
      exact hunlisted change hchange hs
  obtain ⟨content', hread'⟩ := hedits.exists_read hread
  rw [hread', Disk.read_eq_of_same hs hread' (hsame.trans hsource),
    Disk.read_eq_of_same hs hread hsource]

section

variable (h : Settled build.config build.disk build.registry) (hedits : Edits build disk)
  (hlists : Lists build disk changes) {state : Build × List Task × List WatchEvent}
  (hcollected : Collected { build with disk := disk } (latest changes) state)
include h hedits hlists hcollected

/-- After a batch has been taken every known file is as it was compiled, or there is a task for it.
-/
theorem current_or_asked (manifest : Manifest) {chunk : Chunk}
    (hc : chunk ∈ build.registry.chunks) :
    Compile.Current { build.config with manifest := manifest } disk chunk ∨
      ∃ task ∈ state.2.1, task.file.Same chunk.file := by
  have hcurrent := h.upToDate.current chunk hc
  obtain ⟨source, -, -, hsource, -⟩ := Compile.compileFile_eq_ok_iff.1 hcurrent
  have hread := Compile.readSource_eq_ok_iff.1 hsource
  -- a file of the same content compiles as before
  have hkept (hsame : disk.read chunk.file = build.disk.read chunk.file) :
      Compile.Current { build.config with manifest := manifest } disk chunk := by
    let task : Task := { file := chunk.file, kind := chunk.kind }
    have hread' : disk.read task.file = build.disk.read task.file := hsame
    exact (Compile.compileFile_of_alike hedits.alike build.config manifest {} hread').trans hcurrent
  by_cases hchanged : disk.read chunk.file = build.disk.read chunk.file
  · exact Or.inl (hkept hchanged)
  · obtain ⟨change, hchange, hs⟩ := hlists.changed chunk hc hchanged
    obtain ⟨found, hfound, hs'⟩ := (condenses_latest changes).exists_same hchange
    have hsame : found.path.Same chunk.file := hs'.trans hs
    have hget : build.registry.get? found.path = some chunk :=
      (Registry.get?_congr hsame).trans (h.upToDate.sorted.get?_of_mem hc)
    obtain ⟨content, hcontent, hdigest | hasked⟩ := hcollected.asked found hfound chunk hget
    · -- of the same digest the content is the same
      obtain ⟨content', hcontent'⟩ := hedits.exists_read hread
      obtain rfl : content = content' := Disk.read_eq_of_same hsame hcontent hcontent'
      exact absurd (hcontent'.trans (hedits.digests chunk hc content hcontent' hdigest).symm)
        hchanged
    · exact Or.inr (exists_of_asksFor hasked)

/-- After a batch has been taken the manifest is the one that the disk holds. -/
theorem loadManifest_of_collected : ∃ manifest,
    state.1 = { build with
      config := { build.config with manifest := manifest }
      disk := disk } ∧
    Config.loadManifest disk build.config.manifestFile = .ok manifest := by
  obtain ⟨manifest, hstate, hlisted, hunlisted⟩ := hcollected.build
  refine ⟨manifest, hstate, ?_⟩
  by_cases hany : ∃ change ∈ latest changes, change.path.Same build.config.manifestFile
  · exact hlisted hany
  · have hnone : ∀ change ∈ latest changes, ¬ change.path.Same build.config.manifestFile :=
      fun change hc hs => hany ⟨change, hc, hs⟩
    have hmanifest : manifest = build.config.manifest := hunlisted hnone
    obtain ⟨chunk, hget⟩ := Registry.has_iff.1 h.rooted.manifest
    have hmem := Registry.mem_of_get? hget
    have hs : build.config.manifestFile.Same chunk.file := Registry.same_of_get? hget
    obtain ⟨source, -, -, hsource, -⟩ :=
      Compile.compileFile_eq_ok_iff.1 (h.upToDate.current chunk hmem)
    obtain ⟨content, hread, hcontent⟩ := Config.loadManifest_eq_ok_iff.1 h.configured.manifest
    rw [hmanifest]
    refine Config.loadManifest_eq_ok_iff.2 ⟨content, ?_, hcontent⟩
    refine hlists.read_eq hedits hmem ?_ hs (Compile.readSource_eq_ok_iff.1 hsource) hread
    intro change hchange hs'
    obtain ⟨found, hfound, hs''⟩ := (condenses_latest changes).exists_same hchange
    exact hnone found hfound (hs''.trans (hs'.trans hs.symm))

end

/-- What a build begins with depends neither on the contents of files nor on the manifest. -/
theorem Rooted.edits (h : Rooted build.config build.disk registry) (hedits : Edits build disk)
    (manifest : Manifest) : Rooted { build.config with manifest := manifest } disk registry := by
  have happ : appFiles { build.config with manifest := manifest } disk =
      appFiles build.config build.disk := appFiles_of_alike hedits.alike build.config manifest
  have hplugin : pluginFiles { build.config with manifest := manifest } disk =
      pluginFiles build.config build.disk := pluginFiles_of_alike hedits.alike build.config manifest
  unfold Rooted
  rw [happ, hplugin]
  exact h

/-- A batch settles a build once more. -/
theorem settled_batch (hp : build.Plain) (h : Settled build.config build.disk build.registry)
    (hedits : Edits build disk) (hlists : Lists build disk changes)
    (hok : ∀ event ∈ (handleChanges { build with disk := disk } changes).2,
      event.isFailed = false) :
    Settled (handleChanges { build with disk := disk } changes).1.config disk
      (handleChanges { build with disk := disk } changes).1.registry := by
  have hedited : Plain { build with disk := disk } := ⟨hp.plugins, hp.bundle, hp.pending⟩
  have hcollected := collected_taken hedited.bare h.rooted.manifest (takes_latest hlists.takes)
    fun event he => hok event (mem_handleChanges he)
  obtain ⟨manifest, htaken, hmanifest⟩ := loadManifest_of_collected h hedits hlists hcollected
  have hcurrent : ∀ chunk ∈ build.registry.chunks, _ := fun chunk hc =>
    current_or_asked h hedits hlists hcollected manifest hc
  have hconfig : Config.Settled { build.config with manifest := manifest } disk :=
    ⟨h.configured.address, hedits.plugin, hmanifest⟩
  have hrooted := h.rooted.edits hedits manifest
  -- without a task all chunks were current
  by_cases htasks : (taken { build with disk := disk } changes).2.1 = []
  · rw [handleChanges_of_nil htasks, htaken]
    refine ⟨hconfig, ⟨h.upToDate.sorted, fun chunk hc => ?_, h.upToDate.closed⟩, hrooted⟩
    refine (hcurrent chunk hc).resolve_right ?_
    rintro ⟨task, ht, -⟩
    rw [htasks] at ht
    cases ht
  -- the pass compiles each chunk that is not
  · have hplain : Plain { build with
        config := { build.config with manifest := manifest }
        disk := disk } := ⟨hp.plugins, hp.bundle, hp.pending⟩
    rw [handleChanges_of_ne_nil htasks, htaken] at hok ⊢
    have hlast := hok _ (List.mem_append_right _ (List.mem_singleton_self _))
    obtain ⟨calls, hruns⟩ := Compile.Pass.runs_run { build.config with manifest := manifest } disk
      { registry := build.registry } (taken { build with disk := disk } changes).2.1
    cases he : (Build.pass { build with
        config := { build.config with manifest := manifest }
        disk := disk } (taken { build with disk := disk } changes).2.1).firstError with
    | some error =>
      rw [recompile_of_error hplain he] at hlast
      cases hlast
    | none =>
      rw [recompile_of_none hplain he]
      have hknown : ∀ task ∈ (taken { build with disk := disk } changes).2.1,
          build.registry.has task.file = true →
            ∃ chunk ∈ build.registry.chunks, task = .ofChunk chunk :=
        fun task ht _ => hcollected.known task ht
      have hkeeps := Compile.keeps_of_pass hruns he h.upToDate.sorted hknown
      refine ⟨hconfig, ?_, fun file hfile => (hrooted file hfile).keeps hkeeps⟩
      exact Compile.upToDate_of_pass hruns he h.upToDate.sorted hknown hcurrent h.upToDate.closed

end Build

end Minipack
