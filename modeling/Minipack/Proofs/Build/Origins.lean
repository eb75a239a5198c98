/-
Where a build writes.

A build comes to a file by a straight path, under an alias, in a package, or as the descriptor of
the plugin that the project declares (`Config.Reaches`), and writes it to its places in some
spelling (`Config.Places`).  Every chunk of a build is such a file with such destinations
(`Build.Served.sound`), so that a build writes below its output folders, except for files that are
found by a path with `..` steps and files without a place of their own
(`Build.contained_of_served`).

A path that is put together from the text of a specifier may have such steps, and its places have
them, too: then a build writes next to its output folders, also over its own sources
(`Build.overwritten_by_escape`).
-/
import Minipack.Proofs.Build.Entries
import Minipack.Proofs.Build.Ready
import Minipack.Proofs.Build.Steps
import Minipack.Proofs.Build.Tasks
import Minipack.Proofs.Compile.Invariant
import Minipack.Proofs.Compile.Once
import Minipack.Proofs.Config.Places
import Minipack.Proofs.Disk.Named
import Minipack.Proofs.Bundle.Table

namespace Minipack

variable {config : Config} {disk : Disk} {file p : Path} {chunk : Chunk} {d : Dependency}

/-! ### Files and places -/

/-- How a build comes to a file. -/
inductive Config.Reaches (config : Config) : Path → Prop
  | straight {file : Path} : file.Straight → Reaches config file
  | found {disk : Disk} {file : Path} : Resolve.Found config disk file → Reaches config file
  | plugin {root : Path} : config.pluginRoot = some root → Reaches config (root.child "plugin.json")

/-- The places of a file, in any spelling of its path. -/
def Config.Places (config : Config) (file p : Path) : Prop :=
  ∃ spelling : Path, spelling.Same file ∧
    (p = config.destination spelling ∨ p = config.staticDestination spelling)

/-- A chunk of a file that a build comes to, written to places of the file. -/
structure Chunk.Placed (config : Config) (chunk : Chunk) : Prop where
  reached : config.Reaches chunk.file
  places : ∀ p ∈ chunk.destinations, config.Places chunk.file p

/-- A task for a file that a build comes to, and for one of its places. -/
structure Task.Placed (config : Config) (task : Task) : Prop where
  reached : config.Reaches task.file
  places : ∀ p ∈ task.destination, config.Places task.file p

theorem Config.Places.of_same {file' : Path} (h : config.Places file p) (hs : file.Same file') :
    config.Places file' p := by
  obtain ⟨spelling, hspelling, hp⟩ := h
  exact ⟨spelling, hspelling.trans hs, hp⟩

theorem Config.Reaches.isAbsolute (hr : config.Regular) (h : config.Reaches file) :
    file.isAbsolute = true := by
  cases h with
  | straight h => exact h.1
  | found h => exact h.isAbsolute hr.settings.root.1 hr.settings.src.1
  | plugin h => exact Path.isAbsolute_join (hr.plugin _ h) _

/-- How a build comes to a file does not depend on the manifest. -/
theorem Config.Reaches.manifest (h : config.Reaches file) (manifest : Manifest) :
    Config.Reaches { config with manifest := manifest } file := by
  cases h with
  | straight h => exact .straight h
  | found h =>
    cases h with
    | ofAlias h => exact .found (.ofAlias h)
    | ofPackage hfile h => exact .found (.ofPackage hfile h)
    | ofSheet hfile hpackage h => exact .found (.ofSheet hfile hpackage h)
  | plugin h => exact .plugin h

theorem Config.Regular.manifest (h : config.Regular) (manifest : Manifest) :
    Config.Regular { config with manifest := manifest } :=
  ⟨h.settings, h.plugin, h.extnames⟩

theorem Chunk.Placed.manifest (h : chunk.Placed config) (manifest : Manifest) :
    chunk.Placed { config with manifest := manifest } :=
  ⟨h.reached.manifest manifest, h.places⟩

theorem Task.placed_ofChunk (h : chunk.Placed config) : (Task.ofChunk chunk).Placed config :=
  ⟨h.reached, fun p hp => h.places p (List.mem_of_head? hp)⟩

/-! ### Passes -/

namespace Compile

/-- A compiled chunk goes to the place of its task and to those that its file had before. -/
theorem places_of_compileFile {registry : Registry} {task : Task}
    (htask : ∀ p ∈ task.destination, config.Places task.file p)
    (hregistry : ∀ c ∈ registry.chunks, ∀ p ∈ c.destinations, config.Places c.file p)
    (h : compileFile config disk registry task = .ok chunk) :
    ∀ p ∈ chunk.destinations, config.Places chunk.file p := by
  intro p hp
  rw [file_of_compileFile h]
  obtain ⟨source, resolved, transformed, -, -, -, rfl⟩ := compileFile_eq_ok_iff.1 h
  rcases Chunk.mem_addDestinations hp with hp | hp
  · obtain rfl := List.mem_singleton.1 hp
    cases hdestination : task.destination with
    | some p => exact htask p hdestination
    | none => exact ⟨task.file, Path.same_refl _, Or.inl rfl⟩
  · unfold knownDestinations at hp
    cases hget : registry.get? task.file with
    | none =>
      rw [hget] at hp
      cases hp
    | some old =>
      rw [hget] at hp
      exact (hregistry old (Registry.mem_of_get? hget) p hp).of_same
        (Registry.same_of_get? hget).symm

/-- A reference gives its target a place of its own. -/
theorem places_addDestination (hplaces : ∀ p ∈ chunk.destinations, config.Places chunk.file p)
    (hd : Resolve.Leads config disk d) (hs : d.target.Same chunk.file) :
    ∀ p ∈ (chunk.addDestination d.destination).destinations, config.Places chunk.file p := by
  intro p hp
  rcases Chunk.mem_addDestination hp with hp | rfl
  · exact hplaces p hp
  · exact ⟨d.target, hs, hd.destination⟩

/-- Compiling keeps chunks at places of their files. -/
theorem invariant_placed (hr : config.Regular) (hn : disk.Named) :
    Invariant config disk (Task.Placed config) (Chunk.Placed config)
      (Resolve.Leads config disk) where
  compiled := by
    intro registry task chunk htask hregistry h
    refine ⟨⟨file_of_compileFile h ▸ htask.reached, ?_⟩,
      leads_of_compileFile hn hr.settings.src.1 (htask.reached.isAbsolute hr) h⟩
    exact places_of_compileFile htask.places (fun c hc => (hregistry c hc).places) h
  followed := by
    intro d hd
    refine ⟨hd.target.elim .straight .found, fun p hp => ?_⟩
    obtain rfl := Option.some.inj hp
    exact ⟨d.target, Path.same_refl _, hd.destination⟩
  merged := by
    intro chunk d hchunk hd hs
    refine ⟨?_, fun p hp => ?_⟩
    · rw [Chunk.addDestination_file]
      exact hchunk.reached
    · rw [Chunk.addDestination_file]
      exact places_addDestination hchunk.places hd hs p hp

end Compile

/-! ### Packing -/

namespace Bundle

/-- Packing writes the packed file, and else what the chunks are written to. -/
theorem mem_of_pack {chunks output : List Chunk} (h : pack config chunks = .ok output)
    (hc : chunk ∈ output) : chunk.destinations = [place config.toSettings] ∨
      ∃ source ∈ chunks, chunk.file = source.file ∧ chunk.destinations = source.destinations := by
  rw [pack_eq] at h
  split at h
  · obtain rfl := Except.ok.inj h
    exact Or.inr ⟨chunk, (List.mem_filter.1 hc).1, rfl, rfl⟩
  · obtain ⟨bundler, hbundler, rfl⟩ := map_eq_ok.1 h
    rcases List.mem_append.1 hc with hc | hc
    · exact Or.inr ⟨chunk, (List.mem_filter.1 hc).1, rfl, rfl⟩
    · rcases List.mem_cons.1 hc with rfl | hc
      · exact Or.inl ((shape_of_bundlerChunk hbundler).2.2)
      · obtain ⟨m, hm, rfl⟩ := List.mem_map.1 hc
        obtain ⟨hmem, -⟩ := modules_spec (List.mem_filter.1 hm).1
        exact Or.inr ⟨m.chunk, (List.mem_filter.1 (List.mem_mergeSort.1 hmem)).1, rfl, rfl⟩

end Bundle

namespace Build

variable {build after : Build} {tasks : List Task} {changes : List Change}

/-! ### Builds -/

/-- A build without plugins on a disk of names whose chunks are written to places of their files. -/
structure Sound (build : Build) : Prop where
  bare : build.Bare
  regular : build.config.Regular
  named : build.disk.Named
  sorted : build.registry.Sorted
  placed : ∀ chunk ∈ build.registry.chunks, chunk.Placed build.config

/-- A build as a session makes it: new, edited by others, run, or after a batch. -/
inductive Served : Build → Prop
  | new {build : Build} : build.Bare → build.config.Regular → build.disk.Named →
      build.registry = {} → Served build
  | edit {build : Build} {disk : Disk} : Served build → disk.Named →
      Served { build with disk := disk }
  | run {build : Build} : Served build → Served build.run.1
  | batch {build : Build} (changes : List Change) : Served build →
      Served (build.handleChanges changes).1

/-- What is written lies below the output folders, or it is the copy of a file that is found by a
path with `..` steps or has no place of its own. -/
def Contained (config : Config) (chunk : Chunk) : Prop :=
  (∀ p ∈ chunk.destinations, p.Below config.out ∨ p.Below config.static) ∨
    config.Reaches chunk.file ∧ (¬ chunk.file.Straight ∨ config.Placeless chunk.file)

/-- What is written is the packed file or has the destinations of a chunk at its places. -/
def Wrought (config : Config) (chunk : Chunk) : Prop :=
  chunk.destinations = [Bundle.place config.toSettings] ∨
    ∃ source : Chunk, source.Placed config ∧ chunk.file = source.file ∧
      chunk.destinations = source.destinations

/-- A sound build is ready to write chunks at their places. -/
structure Ready.Sound (config : Config) (ready : Ready) : Prop where
  build : ready.build.Sound
  config : ∃ manifest, ready.build.config = { config with manifest := manifest }
  output : ∀ chunks, ready.output = .ok chunks → ∀ chunk ∈ chunks, Wrought ready.build.config chunk

theorem Sound.passed (h : build.Sound) (htasks : ∀ task ∈ tasks, task.Placed build.config) :
    (build.passed tasks).Sound where
  bare := ⟨h.bare.plugins, h.bare.pending⟩
  regular := h.regular
  named := h.named
  sorted := Compile.sorted_compileAll h.sorted _ _ _
  placed := (Compile.invariant_placed h.regular h.named).compileAll htasks h.placed

/-- A build stays sound when it writes. -/
theorem Ready.Sound.write {ready : Ready} (h : ready.Sound config) : ready.write.1.Sound := by
  unfold Ready.write
  split
  · next chunks _ =>
    rw [write_of_pending h.build.bare.pending]
    exact ⟨⟨h.build.bare.plugins, h.build.bare.pending⟩, h.build.regular,
      Disk.named_flush h.build.named _ _, h.build.sorted, h.build.placed⟩
  · exact h.build

/-- The files with which a build begins are among those that it comes to. -/
theorem placed_entryTasks (hr : config.Regular) (hn : disk.Named) {entries : List Path}
    (hentries : findEntries config disk = .ok entries) :
    ∀ task ∈ entryTasks config entries, task.Placed config := by
  intro task ht
  obtain ⟨file, hfile, rfl⟩ := List.mem_map.1 ht
  refine ⟨?_, nofun⟩
  rcases List.mem_cons.1 hfile with rfl | hfile
  · exact .straight (hr.settings.root.child (by decide))
  rcases entry_cases hentries hfile with rfl | ⟨name, files, hfiles, hmem⟩ | ⟨root, hroot, rfl⟩
  · exact .straight (hr.settings.src.child (by decide))
  · exact .straight (Resolve.straight_findModule hn hr.settings.src.1 hfiles file hmem)
  · exact .plugin hroot

/-! ### Runs and batches -/

/-- Starting forgets all chunks. -/
theorem Sound.start (h : build.Sound) : build.start.Sound :=
  ⟨h.bare.start, h.regular, h.named, Registry.Sorted.empty, fun _ hc => by cases hc⟩

/-- What is put out is the packed file, or it goes where a chunk goes. -/
theorem mem_of_output {chunks : List Chunk} (h : build.output = .ok chunks) (hc : chunk ∈ chunks) :
    chunk.destinations = [Bundle.place build.config.toSettings] ∨
      ∃ source ∈ build.registry.chunks, chunk.file = source.file ∧
        chunk.destinations = source.destinations := by
  rcases output_cases h with ⟨-, hpacked⟩ | ⟨-, rfl⟩
  · exact Bundle.mem_of_pack hpacked hc
  · exact Or.inr ⟨chunk, hc, rfl, rfl⟩

/-- What a sound registry puts out. -/
theorem Sound.of_output (h : build.Sound) {chunks : List Chunk} (ho : build.output = .ok chunks) :
    ∀ chunk ∈ chunks, Wrought build.config chunk := by
  intro chunk hc
  exact (mem_of_output ho hc).imp_right fun ⟨source, hs, hrest⟩ =>
    ⟨source, h.placed source hs, hrest⟩

/-- What of it is put out once more. -/
theorem Sound.of_reoutput (h : build.Sound) {compiled chunks : List Chunk}
    (hcompiled : ∀ chunk ∈ compiled, chunk ∈ build.registry.chunks)
    (ho : build.reoutput compiled = .ok chunks) :
    ∀ chunk ∈ chunks, Wrought build.config chunk := by
  intro chunk hc
  unfold reoutput at ho
  split at ho
  · obtain ⟨packed, hpacked, rfl⟩ := map_eq_ok.1 ho
    exact (Bundle.mem_of_pack hpacked (List.mem_filter.1 hc).1).imp_right
      fun ⟨source, hs, hrest⟩ => ⟨source, h.placed source hs, hrest⟩
  · obtain rfl := Except.ok.inj ho
    exact Or.inr ⟨chunk, h.placed chunk (hcompiled chunk hc), rfl, rfl⟩

theorem Sound.runReady (h : build.Sound) : build.runReady.Sound build.config := by
  rw [h.bare.runReady]
  rcases h.start.bare.finishReady_cases with ⟨hbuild, hnone⟩ | ⟨entries, hentries, hbuild, houtput⟩
  · refine ⟨?_, ⟨build.config.manifest, ?_⟩, fun chunks ho => absurd ho (hnone chunks)⟩
    · rw [hbuild]
      exact h.start
    · rw [hbuild]
      rfl
  · have hpassed := h.start.passed (placed_entryTasks h.regular h.named hentries)
    refine ⟨?_, ⟨build.config.manifest, ?_⟩, fun chunks ho => ?_⟩
    · rw [hbuild]
      exact hpassed
    · rw [hbuild]
      rfl
    · rw [hbuild]
      exact hpassed.of_output (houtput chunks ho).2

theorem Sound.pruned (h : build.Sound) (hp : build.Pruned after) : after.Sound := by
  obtain ⟨manifest, hconfig⟩ := hp.config
  refine ⟨hp.bare h.bare, ?_, ?_, hp.sorted h.sorted, fun chunk hc => ?_⟩
  · rw [hconfig]
    exact h.regular.manifest manifest
  · rw [hp.disk]
    exact h.named
  · rw [hconfig]
    exact (h.placed chunk (hp.mem h.sorted hc)).manifest manifest

/-- The tasks of a batch compile known chunks. -/
theorem known_taken (hp : build.Bare) (hs : build.registry.Sorted) (changes : List Change) :
    ∀ task ∈ (build.taken changes).2.1, ∃ chunk ∈ build.registry.chunks, task = .ofChunk chunk := by
  have hfold : ∀ (changes : List Change) (state : Build × List Task × List WatchEvent),
      build.Pruned state.1 → (∀ task ∈ state.2.1, ∃ chunk ∈ build.registry.chunks,
        task = .ofChunk chunk) →
      ∀ task ∈ (changes.foldl takeChange state).2.1, ∃ chunk ∈ build.registry.chunks,
        task = .ofChunk chunk := by
    intro changes
    induction changes with
    | nil => exact fun _ _ htasks => htasks
    | cons change rest ih =>
      rintro ⟨between, tasks, events⟩ hpruned htasks
      have hbare := hpruned.bare hp
      have htaken := pruned_takeChange hbare (hpruned.sorted hs) tasks events change
      refine ih _ (hpruned.trans htaken) ?_
      rcases takeChange_cases between tasks events change with ⟨heq, -⟩ | ⟨heq, -⟩ | ⟨heq, -⟩ <;>
        rw [heq]
      · exact htasks
      · exact htasks
      · intro task ht
        rcases mem_foldl_addTask ht with ht | ht
        · obtain ⟨chunk, hc, rfl⟩ := known_asked hbare task ht
          exact ⟨chunk, hpruned.mem hs hc, rfl⟩
        · exact htasks task ht
  exact hfold _ _ (.refl build) (fun _ ht => by cases ht)

theorem Sound.batchReady (h : build.Sound) (changes : List Change) :
    (build.batchReady changes).Sound build.config := by
  have hpruned := pruned_taken h.bare h.sorted changes
  have htaken : (build.taken changes).1.Sound := h.pruned hpruned
  unfold Build.batchReady
  split
  · refine ⟨htaken, hpruned.config, fun chunks ho => ?_⟩
    rw [← Except.ok.inj ho]
    exact nofun
  -- the tasks of a batch come from known chunks
  · have htasks :
        ∀ task ∈ (build.taken changes).2.1, task.Placed (build.taken changes).1.config := by
      intro task ht
      obtain ⟨chunk, hc, rfl⟩ := known_taken h.bare h.sorted changes task ht
      obtain ⟨manifest, hconfig⟩ := hpruned.config
      rw [hconfig]
      exact Task.placed_ofChunk ((h.placed chunk hc).manifest manifest)
    have hpassed := htaken.passed htasks
    obtain ⟨hbuild, houtput⟩ := htaken.bare.recompileReady_cases (build.taken changes).2.1
    refine ⟨?_, ?_, fun chunks ho => ?_⟩
    · rw [hbuild]
      exact hpassed
    · rw [hbuild]
      exact hpruned.config
    · rw [hbuild]
      obtain ⟨compiled, hcompiled, hsome⟩ := houtput chunks ho
      exact hpassed.of_reoutput (fun chunk hc =>
        Compile.mem_of_mem_result htaken.sorted hcompiled hc) hsome

/-- Every build of a session is sound. -/
theorem Served.sound (h : Served build) : build.Sound := by
  induction h with
  | new hbare hregular hnamed hempty =>
    refine ⟨hbare, hregular, hnamed, ?_, ?_⟩
    · rw [hempty]
      exact Registry.Sorted.empty
    · rw [hempty]
      exact nofun
  | edit _ hnamed ih =>
    exact ⟨⟨ih.bare.plugins, ih.bare.pending⟩, ih.regular, hnamed, ih.sorted, ih.placed⟩
  | run _ ih =>
    rw [run_eq]
    exact ih.runReady.write
  | batch changes _ ih =>
    rw [handleChanges_eq]
    exact (ih.batchReady changes).write

/-! ### Contained output -/

/-- The places of a straight path with a place lie below the output folders. -/
theorem below_of_places (hr : config.Regular) (hfile : file.Straight)
    (hplace : ¬ config.Placeless file) (hp : config.Places file p) :
    p.Below config.out ∨ p.Below config.static := by
  obtain ⟨spelling, hs, rfl | rfl⟩ := hp
  · exact Or.inl (Config.below_destination hr (hfile.of_same hs.symm)
      fun h => hplace ((Config.Placeless.congr hs).1 h))
  · refine Or.inr (Settings.below_staticDestination hr.settings (hfile.of_same hs.symm) ?_)
    rw [Settings.wayOf_congr hs]
    obtain ⟨init, last, hway, -⟩ := Config.exists_way hr hfile hplace
    rw [hway]
    exact List.concat_ne_nil _ _

theorem Ready.Sound.contained {ready : Ready} (h : ready.Sound config) {chunks : List Chunk}
    (ho : ready.output = .ok chunks) : ∀ chunk ∈ chunks, Contained config chunk := by
  intro chunk hc
  have hr := h.build.regular
  have hwrought := h.output chunks ho chunk hc
  obtain ⟨manifest, hconfig⟩ := h.config
  rw [hconfig] at hr hwrought
  replace hr : config.Regular := hr.manifest config.manifest
  rcases hwrought with hbundler | ⟨source, hsource, hfile, hdestinations⟩
  · refine Or.inl fun p hp => Or.inl ?_
    rw [hbundler, List.mem_singleton] at hp
    rw [hp]
    have hplace : (Bundle.place config.toSettings).components =
        config.out.components ++ [.name Bundle.fileName] := Path.components_child _ (by decide)
    exact Path.below_of_components hr.settings.out (by decide) (by decide) hplace
  · by_cases hplain : source.file.Straight ∧ ¬ config.Placeless source.file
    · refine Or.inl fun p hp => ?_
      rw [hdestinations] at hp
      exact below_of_places hr hplain.1 hplain.2 (hsource.places p hp)
    · refine Or.inr ?_
      rw [hfile]
      exact ⟨hsource.reached.manifest config.manifest, by rwa [not_and_or, not_not] at hplain⟩

/-- What a build of a session writes, in a run or in a batch, lies below its output folders, except
for files that are found by a path with `..` steps or have no place of their own. -/
theorem contained_of_served (h : Served build) :
    (∀ chunks, build.runReady.output = .ok chunks →
      ∀ chunk ∈ chunks, Contained build.config chunk) ∧
    ∀ changes chunks, (build.batchReady changes).output = .ok chunks →
      ∀ chunk ∈ chunks, Contained build.config chunk :=
  ⟨fun _ ho => h.sound.runReady.contained ho,
    fun changes _ ho => (h.sound.batchReady changes).contained ho⟩

/-! ### An escape -/

namespace Escape

/-- A script that steps out of the source folder under an alias. -/
def app : Build where
  config := { Config.of ⟨"/p"⟩ with
    publicPath := some "http://a"
    aliases := [("@/*", ["src/*"])]
    manifest := { pages := ["p"] } }
  disk := {
    entries := [
      (["p"], .folder),
      (["p", "project.config.json"], .file "\x7b\x7d".toUTF8),
      (["p", "src"], .folder),
      (["p", "src", "app.js"], .file "require('@/../x')".toUTF8),
      (["p", "src", "app.json"], .file "\x7b\"pages\":[\"p\"]\x7d".toUTF8),
      (["p", "src", "y.js"], .file "y".toUTF8),
      (["p", "x.js"], .file "require('./src/y')".toUTF8)]
    current := [] }

/-- The file that the script requires. -/
def source : Path := ⟨"/p/x.js"⟩

theorem regular : app.config.Regular where
  settings := ⟨by decide +kernel, by decide +kernel, by decide +kernel, by decide +kernel,
    by decide +kernel⟩
  plugin := nofun
  extnames := nofun

theorem served : Served app :=
  .new ⟨rfl, rfl⟩ regular (by decide +kernel) rfl

theorem session : ∃ ready ∈ app.readyUpTo 8,
    (∃ chunks ∈ ready.output.toOption, ∃ chunk ∈ chunks, ∃ p ∈ chunk.destinations,
      p.normalize.Same source ∧ ¬ p.Below app.config.out ∧ ¬ p.Below app.config.static) ∧
    ready.write.1.disk.read source ≠ app.disk.read source := by
  decide +kernel

end Escape

/-- A run that comes to a file by a path with `..` steps writes next to its output folders, and over
that file. -/
theorem overwritten_by_escape : Served Escape.app ∧
    (∃ chunks, Escape.app.runReady.output = .ok chunks ∧ ∃ chunk ∈ chunks,
      ∃ p ∈ chunk.destinations, p.normalize.Same Escape.source ∧
        ¬ p.Below Escape.app.config.out ∧ ¬ p.Below Escape.app.config.static) ∧
    Escape.app.run.1.disk.read Escape.source ≠ Escape.app.disk.read Escape.source := by
  obtain ⟨ready, hready, ⟨chunks, hchunks, hwritten⟩, hread⟩ := Escape.session
  obtain rfl := runReady_of_readyUpTo Escape.served.sound.bare hready
  exact ⟨Escape.served, ⟨chunks, toOption_eq_some.1 hchunks, hwritten⟩, run_eq Escape.app ▸ hread⟩

/-- All else that it writes is contained. -/
theorem contained_of_escape : ∃ chunks, Escape.app.runReady.output = .ok chunks ∧
    ∀ chunk ∈ chunks, Contained Escape.app.config chunk := by
  obtain ⟨ready, hready, ⟨chunks, hchunks, -⟩, -⟩ := Escape.session
  obtain rfl := runReady_of_readyUpTo Escape.served.sound.bare hready
  have hout : Escape.app.runReady.output = .ok chunks := toOption_eq_some.1 hchunks
  exact ⟨chunks, hout, (contained_of_served Escape.served).1 chunks hout⟩

end Build

end Minipack
