/-
Which chunks share a place.

A run reads the files whose chunks it makes, so these end in names and are no folders of the layout
(`Build.Whole.sited`), and it writes the chunks to places that end in names.  So files that come to
one place meet there (`Config.Meet`), and the chunks that a run writes have no place in common,
unless their files meet at it or one of them is the packed file and the other goes to its place
(`Build.parted_of_run`).  The packed modules have keys of their own, unless their files meet.  All
of this happens (`Build.places_shared`).
-/
import Mathlib.Data.List.Pairwise
import Minipack.Proofs.Build.Origins
import Minipack.Proofs.Build.Settled
import Minipack.Proofs.Build.Whole
import Minipack.Proofs.Config.Meeting
import Minipack.Proofs.Disk.Leading

namespace Minipack

variable {config : Config} {disk : Disk} {file p q : Path}

/-! ### Files that are read -/

/-- A chunk of a file that can be read by an absolute path, written to places of the file. -/
structure Chunk.Sourced (config : Config) (disk : Disk) (chunk : Chunk) : Prop where
  absolute : chunk.file.isAbsolute = true
  isFile : disk.isFile chunk.file = true
  places : ∀ p ∈ chunk.destinations, config.Places chunk.file p

/-- A task for an absolute path, and for one of its places. -/
structure Task.Sourced (config : Config) (task : Task) : Prop where
  absolute : task.file.isAbsolute = true
  places : ∀ p ∈ task.destination, config.Places task.file p

theorem Config.Places.goesTo (h : config.Places file p) : config.GoesTo file p := by
  obtain ⟨spelling, hspelling, rfl | rfl⟩ := h
  · exact Or.inl ⟨spelling, hspelling, Path.same_refl _⟩
  · exact Or.inr ⟨spelling, hspelling, Path.same_refl _⟩

theorem Config.Places.isAbsolute (ha : config.Anchored) (hfile : file.isAbsolute = true)
    (h : config.Places file p) : p.isAbsolute = true := by
  obtain ⟨spelling, hspelling, rfl | rfl⟩ := h
  · exact isAbsolute_destination ha (Path.isAbsolute_of_same hspelling.symm hfile)
  · exact Settings.isAbsolute_placeBelow ha.settings ha.settings.static
      (Path.isAbsolute_of_same hspelling.symm hfile)

/-- Compiling makes chunks of files that it has read. -/
theorem Compile.invariant_sourced (ha : config.Anchored) (hn : disk.Named) :
    Invariant config disk (Task.Sourced config) (Chunk.Sourced config disk)
      (Resolve.Leads config disk) where
  compiled := by
    intro registry task chunk htask hregistry h
    have hfile := file_of_compileFile h
    obtain ⟨source, resolved, transformed, hsource, -⟩ := compileFile_eq_ok_iff.1 h
    have hread : disk.isFile task.file = true :=
      Disk.isFile_iff_read.2 ⟨source, readSource_eq_ok_iff.1 hsource⟩
    refine ⟨⟨hfile ▸ htask.absolute, hfile ▸ hread, ?_⟩,
      leads_of_compileFile hn ha.settings.src htask.absolute h⟩
    exact places_of_compileFile htask.places (fun c hc => (hregistry c hc).places) h
  followed := by
    intro d hd
    refine ⟨hd.target.elim (fun h => h.1) fun h => ?_, fun p hp => ?_⟩
    · exact h.isAbsolute ha.settings.root ha.settings.src
    · obtain rfl := Option.some.inj hp
      exact ⟨d.target, Path.same_refl _, hd.destination⟩
  merged := by
    intro chunk d hchunk hd hs
    refine ⟨?_, ?_, fun p hp => ?_⟩ <;> rw [Chunk.addDestination_file]
    · exact hchunk.absolute
    · exact hchunk.isFile
    · exact places_addDestination hchunk.places hd hs p hp

namespace Build

variable {start ran : Build} {entries : List Path} {compiled output : List Chunk} {stats : Stats}

/-- A build begins with absolute paths. -/
theorem sourced_entryTasks (ha : config.Anchored) (hn : disk.Named)
    (hentries : findEntries config disk = .ok entries) :
    ∀ task ∈ entryTasks config entries, task.Sourced config := by
  intro task ht
  obtain ⟨file, hfile, rfl⟩ := List.mem_map.1 ht
  refine ⟨?_, nofun⟩
  rcases List.mem_cons.1 hfile with rfl | hfile
  · exact Path.isAbsolute_join ha.settings.root _
  rcases entry_cases hentries hfile with rfl | ⟨name, files, hfiles, hmem⟩ | ⟨root, hroot, rfl⟩
  · exact Path.isAbsolute_join ha.settings.src _
  · exact (Resolve.straight_findModule hn ha.settings.src hfiles file hmem).1
  · exact Path.isAbsolute_join (ha.plugin root hroot) _

namespace Whole

/-- All chunks are of files that the run has read. -/
theorem sourced (h : Whole start ran entries compiled output stats) (ha : start.config.Anchored)
    (hn : start.disk.Named) :
    ∀ chunk ∈ ran.registry.chunks, chunk.Sourced start.config start.disk := by
  rw [h.registry]
  exact (Compile.invariant_sourced ha hn).compileAll (sourced_entryTasks ha hn h.found) nofun

/-- The manifest is read in some spelling. -/
theorem exists_manifest (h : Whole start ran entries compiled output stats) :
    ∃ p place, p.Same start.config.manifestFile ∧ start.disk.find true p = .ok place := by
  obtain ⟨file, hfile, hs⟩ := Path.contains_iff.1 (contains_appFiles start.config start.disk)
  obtain ⟨task, ht, hs'⟩ :=
    exists_entry h.found (List.mem_cons_of_mem _ (List.mem_append_left _ hfile))
  obtain ⟨calls, hruns⟩ := Compile.Pass.runs_run start.config start.disk { registry := {} }
    (entryTasks start.config entries)
  rcases hruns.called_of_mem_queue ht with htried | ⟨call, hcall, hs''⟩
  · cases htried
  · obtain ⟨chunk, hchunk⟩ := Compile.ok_of_compileAll h.compiled hruns hcall
    have hread := Compile.isFile_of_isOk hruns hcall (by rw [Compile.Call.isOk, hchunk]; rfl)
    obtain ⟨content, hcontent⟩ := Disk.isFile_iff_read.1 hread
    obtain ⟨place, hplace, -⟩ := Disk.read_eq_ok_iff.1 hcontent
    exact ⟨call.file, place, hs''.trans (hs'.trans hs), hplace⟩

/-- These files end in names and are no folders of the layout. -/
theorem sited (h : Whole start ran entries compiled output stats) (ha : start.config.Anchored)
    (hn : start.disk.Named) : ∀ chunk ∈ ran.registry.chunks, start.config.Sited chunk.file := by
  intro chunk hc
  obtain ⟨habsolute, hfile, -⟩ := h.sourced ha hn chunk hc
  have hname := Disk.exists_fileName_of_isFile habsolute hfile
  refine ⟨habsolute, hname, fun hsrc => ?_, fun hroot => ?_⟩
  · -- the manifest lies in the source folder
    obtain ⟨p, place, hs, hplace⟩ := h.exists_manifest
    have hcomponents : p.components = chunk.file.components ++ [.name "app.json"] := by
      rw [show chunk.file.components = start.config.src.components from hsrc]
      exact Eq.trans hs start.config.components_manifestFile
    exact Disk.not_isFile_of_folder habsolute hcomponents hplace hfile
  · -- the descriptor of the project lies in the root
    obtain ⟨content, hcontent⟩ := Disk.isFile_iff_read.1 h.project
    obtain ⟨place, hplace, -⟩ := Disk.read_eq_ok_iff.1 hcontent
    have hcomponents : start.config.projectFile.components =
        chunk.file.components ++ [.name "project.config.json"] := by
      rw [show chunk.file.components = start.config.root.components from hroot]
      exact Path.components_child start.config.root (by decide)
    exact Disk.not_isFile_of_folder habsolute hcomponents hplace hfile

end Whole

end Build

/-! ### Chunks that share a place -/

namespace Chunk

variable {a b : Chunk}

/-- Two chunks are written to no common place. -/
def Apart (a b : Chunk) : Prop :=
  ∀ p ∈ a.destinations, ∀ q ∈ b.destinations, ¬ p.Same q

instance : Decidable (a.Apart b) :=
  inferInstanceAs (Decidable (∀ p ∈ a.destinations, ∀ q ∈ b.destinations, ¬ p.Same q))

/-- The chunk is the packed file. -/
def IsPacked (config : Config) (chunk : Chunk) : Prop :=
  chunk.kind = .bundler ∧ chunk.destinations = [Bundle.place config.toSettings]

/-- Why two chunks may be written to one place: their files meet there, or one is the packed file
and the file of the other goes to its place. -/
def Contend (config : Config) (a b : Chunk) (p : Path) : Prop :=
  config.Meet a.file b.file p ∨
    config.bundle = true ∧
      (a.IsPacked config ∧ config.GoesTo b.file p ∨ b.IsPacked config ∧ config.GoesTo a.file p)

/-- Two chunks are written to no common place without a reason. -/
def Clear (config : Config) (a b : Chunk) : Prop :=
  ∀ p ∈ a.destinations, ∀ q ∈ b.destinations, p.Same q → a.Contend config b p

/-- The same for places that end in names. -/
def ClearByName (config : Config) (a b : Chunk) : Prop :=
  ∀ p ∈ a.destinations, ∀ q ∈ b.destinations, p.Same q → (∃ name, p.fileName? = some name) →
    a.Contend config b p

theorem Contend.symm (h : a.Contend config b p) : b.Contend config a p :=
  h.imp Config.Meet.symm fun ⟨hbundle, hpacked⟩ => ⟨hbundle, hpacked.symm⟩

theorem Contend.of_same (h : a.Contend config b p) (hs : p.Same q) : a.Contend config b q := by
  refine h.imp (fun h => h.of_same hs) fun ⟨hbundle, hpacked⟩ => ⟨hbundle, ?_⟩
  exact hpacked.imp (fun h => ⟨h.1, h.2.of_same hs⟩) fun h => ⟨h.1, h.2.of_same hs⟩

theorem ClearByName.symm (h : a.ClearByName config b) : b.ClearByName config a := by
  rintro q hq p hp hs ⟨name, hname⟩
  have hname' : p.fileName? = some name := (Path.fileName?_of_same hs).symm.trans hname
  exact (h p hp q hq hs.symm ⟨name, hname'⟩).symm.of_same hs.symm

instance : Std.Symm (Chunk.ClearByName config) :=
  ⟨fun _ _ => ClearByName.symm⟩

/-- Chunks of different files that are read. -/
theorem clear_of_sited (ha : config.Anchored) (hfile : config.Sited a.file)
    (hother : config.Sited b.file) (hplaces : ∀ p ∈ a.destinations, config.Places a.file p)
    (hplaces' : ∀ p ∈ b.destinations, config.Places b.file p) (hne : ¬ a.file.Same b.file) :
    a.ClearByName config b := by
  rintro p hp q hq hs ⟨name, hname⟩
  exact Or.inl (Config.meet_of_goesTo ha hfile hother hne (hplaces p hp).goesTo
    ((hplaces' q hq).goesTo.of_same hs.symm) hname)

/-- The packed file and a chunk at its places. -/
theorem clear_of_isPacked (hbundle : config.bundle = true) (hpacked : a.IsPacked config)
    (hplaces : ∀ p ∈ b.destinations, config.Places b.file p) : a.ClearByName config b :=
  fun _ _ q hq hs _ => Or.inr ⟨hbundle, Or.inl ⟨hpacked, (hplaces q hq).goesTo.of_same hs.symm⟩⟩

end Chunk

namespace Bundle

/-- What is common to all packed chunks is common to the modules. -/
theorem pairwise_modules {R : Chunk → Chunk → Prop} (hsymm : ∀ {a b}, R a b → R b a)
    {chunks : List Chunk} (h : (chunks.filter participates).Pairwise R) :
    (modules ((chunks.filter participates).mergeSort inOrder)).Pairwise
      fun m n => R m.chunk n.chunk := by
  have hsorted : ((chunks.filter participates).mergeSort inOrder).Pairwise R :=
    h.perm (List.mergeSort_perm _ inOrder).symm hsymm
  have hdestination : ∀ chunk ∈ (chunks.filter participates).mergeSort inOrder,
      ∃ p, chunk.destination? = some p := fun chunk hc =>
    exists_destination (List.mem_filter.1 (List.mem_mergeSort.1 hc)).2
  rw [← map_chunk_modules hdestination] at hsorted
  exact List.pairwise_map.1 hsorted

/-- A stub goes where its chunk goes, and neither is the packed file. -/
theorem clear_stub {a : Chunk} {m : Module} (hpart : participates m.chunk = true)
    (h : a.ClearByName config m.chunk) : a.ClearByName config (stub config.toSettings m) := by
  intro p hp q hq hs hname
  refine (h p hp q hq hs hname).imp_right fun ⟨hbundle, hpacked⟩ => ⟨hbundle, ?_⟩
  refine hpacked.imp_right fun ⟨⟨hkind, _⟩, _⟩ => ?_
  rw [participates, hkind, Bool.and_eq_true] at hpart
  cases hpart.2

/-- Packing keeps chunks clear of each other. -/
theorem clear_of_pack (hbundle : config.bundle = true) {chunks output : List Chunk}
    (hclear : chunks.Pairwise (Chunk.ClearByName config))
    (hplaces : ∀ chunk ∈ chunks, ∀ p ∈ chunk.destinations, config.Places chunk.file p)
    (h : pack config chunks = .ok output) : output.Pairwise (Chunk.ClearByName config) := by
  have hothers : (chunks.filter fun c => !participates c).Pairwise (Chunk.ClearByName config) :=
    hclear.filter _
  rw [pack_eq] at h
  split at h
  · rwa [← Except.ok.inj h]
  · obtain ⟨bundler, hbundler, rfl⟩ := map_eq_ok.1 h
    have hpacked : bundler.IsPacked config := (shape_of_bundlerChunk hbundler).2
    have hfile : ∀ b ∈ chunks, bundler.ClearByName config b := fun b hb =>
      Chunk.clear_of_isPacked hbundle hpacked (hplaces b hb)
    have hmem : ∀ m ∈ modules ((chunks.filter participates).mergeSort inOrder),
        m.chunk ∈ chunks ∧ participates m.chunk = true := fun m hm =>
      List.mem_filter.1 (List.mem_mergeSort.1 (modules_spec hm).1)
    have hstubs := (pairwise_modules Chunk.ClearByName.symm (hclear.filter participates)).filter
      fun m => m.chunk.kind != .bundle
    refine List.pairwise_append.2 ⟨hothers, List.pairwise_cons.2 ⟨?_, ?_⟩, ?_⟩
    · intro b hb
      obtain ⟨m, hm, rfl⟩ := List.mem_map.1 hb
      obtain ⟨hchunk, hpart⟩ := hmem m (List.mem_of_mem_filter hm)
      exact clear_stub hpart (hfile m.chunk hchunk)
    · refine List.pairwise_map.2 (hstubs.imp_of_mem fun hm hn hpair => ?_)
      refine clear_stub (hmem _ (List.mem_of_mem_filter hn)).2 ?_
      exact (clear_stub (hmem _ (List.mem_of_mem_filter hm)).2 hpair.symm).symm
    · intro a ha b hb
      obtain ⟨hchunk, hother⟩ := List.mem_filter.1 ha
      rcases List.mem_cons.1 hb with rfl | hb
      · exact (hfile a hchunk).symm
      · obtain ⟨m, hm, rfl⟩ := List.mem_map.1 hb
        obtain ⟨hmchunk, hpart⟩ := hmem m (List.mem_of_mem_filter hm)
        have hne : a ≠ m.chunk := by
          rintro rfl
          rw [hpart] at hother
          cases hother
        exact clear_stub hpart (hclear.forall hchunk hmchunk hne)

/-- The primary destination of a packed chunk ends in a name. -/
theorem exists_fileName_of_participates {chunk : Chunk} (h : participates chunk = true)
    (hp : chunk.destination? = some p) : ∃ name, p.fileName? = some name := by
  have hscript : chunk.isScript = true := by
    rw [participates, Bool.and_assoc, Bool.and_eq_true] at h
    exact h.1
  rw [Chunk.isScript, hp, Option.bind_some, beq_iff_eq, Path.extension?] at hscript
  obtain ⟨name, hname, -⟩ := Option.bind_eq_some_iff.1 hscript
  exact ⟨name, hname⟩

end Bundle

namespace Build

variable {build start ran after : Build} {entries : List Path} {compiled output : List Chunk}
  {stats : Stats}

/-- What is written by a run, and what it packs, share no places and no keys without a reason. -/
structure Parted (build after : Build) (chunks : List Chunk) : Prop where
  /-- No two chunks are written to one place, but for these reasons. -/
  clear : chunks.Pairwise (Chunk.Clear build.config)
  /-- No two modules are packed under one key, but where their files meet. -/
  keys : (Bundle.modules (Bundle.packed after.registry)).Pairwise fun m n =>
    m.key ≠ n.key ∨ build.config.Meet m.chunk.file n.chunk.file m.destination
  /-- What is written is for one of the chunks that go there. -/
  sources : ∀ chunk ∈ chunks, ∀ p ∈ chunk.destinations, ∃ source ∈ chunks,
    ∃ q ∈ source.destinations, after.disk.find true q = after.disk.find true p ∧
      after.disk.read p = .ok (Flush.render build.config.toSettings source)

namespace Whole

theorem sorted_registry (h : Whole start ran entries compiled output stats) :
    ran.registry.Sorted := by
  rw [h.registry]
  exact Compile.sorted_compileAll Registry.Sorted.empty _ _ _

/-- The chunks are of different files. -/
theorem distinct_files (h : Whole start ran entries compiled output stats) :
    ran.registry.chunks.Pairwise fun a b => ¬ a.file.Same b.file := by
  refine h.sorted_registry.imp fun hlt hs => ?_
  rw [Path.compare_eq_iff_same.2 hs] at hlt
  cases hlt

/-- The places to which a run writes end in names, as they are files afterwards. -/
theorem exists_fileName (h : Whole start ran entries compiled output stats)
    (ha : start.config.Anchored) (hn : start.disk.Named) {chunk : Chunk} (hc : chunk ∈ output)
    (hp : p ∈ chunk.destinations) : ∃ name, p.fileName? = some name := by
  have habsolute : p.isAbsolute = true := by
    rcases mem_of_output h.packed hc with hplace | ⟨source, hsource, -, hdestinations⟩
    · rw [hplace, List.mem_singleton] at hp
      exact hp ▸ Path.isAbsolute_join ha.settings.out _
    · have hsourced := h.sourced ha hn source hsource
      exact (hsourced.places p (hdestinations ▸ hp)).isAbsolute ha hsourced.absolute
  obtain ⟨log, hflush⟩ := h.flushed
  obtain ⟨source, -, q, -, -, hread⟩ := exists_source_of_flush hflush hc hp
  exact Disk.exists_fileName_of_isFile habsolute (Disk.isFile_iff_read.2 ⟨_, hread⟩)

theorem parted (h : Whole start ran entries compiled output stats) (ha : start.config.Anchored)
    (hn : start.disk.Named) : Parted start ran output := by
  have hplaces : ∀ chunk ∈ ran.registry.chunks, ∀ p ∈ chunk.destinations,
      start.config.Places chunk.file p := fun chunk hc => (h.sourced ha hn chunk hc).places
  have hsited := h.sited ha hn
  refine ⟨?_, ?_, fun chunk hc p hp => ?_⟩
  · have hregistry : ran.registry.chunks.Pairwise (Chunk.ClearByName start.config) :=
      h.distinct_files.imp_of_mem fun hc hc' hne =>
        Chunk.clear_of_sited ha (hsited _ hc) (hsited _ hc') (hplaces _ hc) (hplaces _ hc') hne
    have hclear : output.Pairwise (Chunk.ClearByName start.config) := by
      rcases h.output_cases with ⟨hbundle, hpacked⟩ | ⟨-, rfl⟩
      · exact Bundle.clear_of_pack hbundle hregistry hplaces hpacked
      · exact hregistry
    exact hclear.imp_of_mem fun hc _ hclear p hp q hq hs =>
      hclear p hp q hq hs (h.exists_fileName ha hn hc hp)
  · have hmodules : (Bundle.modules (Bundle.packed ran.registry)).Pairwise
        fun m n => ¬ m.chunk.file.Same n.chunk.file :=
      Bundle.pairwise_modules (fun h hs => h hs.symm) (h.distinct_files.filter _)
    refine hmodules.imp_of_mem fun {m n} hm hn' hne => ?_
    obtain ⟨hmchunk, hmplace, hmkey, -⟩ := Bundle.modules_spec hm
    obtain ⟨hnchunk, hnplace, hnkey, -⟩ := Bundle.modules_spec hn'
    obtain ⟨hmchunk, hpart⟩ := Bundle.mem_packed_iff.1 hmchunk
    obtain ⟨hnchunk, -⟩ := Bundle.mem_packed_iff.1 hnchunk
    rw [or_iff_not_imp_left, not_not, Bundle.key_eq_iff hmkey hnkey]
    intro hs
    obtain ⟨name, hname⟩ := Bundle.exists_fileName_of_participates hpart hmplace
    exact Config.meet_of_goesTo ha (hsited _ hmchunk) (hsited _ hnchunk) hne
      (hplaces _ hmchunk _ (List.mem_of_mem_head? hmplace)).goesTo
      ((hplaces _ hnchunk _ (List.mem_of_mem_head? hnplace)).goesTo.of_same hs.symm) hname
  · obtain ⟨log, hflush⟩ := h.flushed
    exact exists_source_of_flush hflush hc hp

end Whole

/-- Two of the chunks, of these files, are written to this place, so they are not apart. -/
def Shared (chunks : List Chunk) (file other place : String) : Prop :=
  ¬ chunks.Pairwise Chunk.Apart ∧ ∃ a ∈ chunks, ∃ b ∈ chunks,
    (a.file.text = file ∧ place ∈ a.destinations.map Path.text) ∧
      b.file.text = other ∧ place ∈ b.destinations.map Path.text

instance (chunks : List Chunk) (file other place : String) :
    Decidable (Shared chunks file other place) :=
  inferInstanceAs (Decidable (¬ chunks.Pairwise Chunk.Apart ∧ ∃ a ∈ chunks, ∃ b ∈ chunks,
    (a.file.text = file ∧ place ∈ a.destinations.map Path.text) ∧
      b.file.text = other ∧ place ∈ b.destinations.map Path.text))

namespace Sharing

def settings : Config :=
  { Config.of ⟨"/"⟩ with
    publicPath := some "http://a"
    sourceMap := false }

/-- A loader that leaves files as they are. -/
def keep : Loader where
  name := "keep"
  transform := fun input _ => .ok { content := input.content }

/-- Scripts of another extension are written as scripts. -/
def typed : Rule where
  test := ⟨"\\.ts", .sequence (.char (.one '.')) (.sequence (.char (.one 't')) (.char (.one 's')))⟩
  extname := some ".js"
  loaders := [{ loader := keep }]

/-- A page of two scripts, and of a template that shows other files, where the folders of the output
are one. -/
def page : Build where
  config := { settings with
    static := ⟨"/app"⟩
    rules := [typed]
    manifest := { pages := ["x"] } }
  disk := {
    entries := [
      (["project.config.json"], .file "\x7b\x7d".toUTF8),
      (["src"], .folder),
      (["src", "app.json"], .file "\x7b\"pages\":[\"x\"]\x7d".toUTF8),
      (["src", "x.js"], .file "1".toUTF8),
      (["src", "x.ts"], .file "2".toUTF8),
      (["src", "x.wxml"],
        .file "<image src=\"../x.wxml\"/><image src=\"./y\"/><image src=\"../y\"/>".toUTF8),
      (["src", "y"], .file "3".toUTF8),
      (["x.wxml"], .file "4".toUTF8),
      (["y"], .file "5".toUTF8)]
    current := [] }

/-- Pages that are packed: one with the name of the packed file, and two of one name. -/
def pages : Build where
  config := { settings with
    bundle := true
    manifest := { pages := ["bundler", "x", "../x"] } }
  disk := {
    entries := [
      (["project.config.json"], .file "\x7b\x7d".toUTF8),
      (["src"], .folder),
      (["src", "app.json"],
        .file "\x7b\"pages\":[\"bundler\",\"x\",\"../x\"]\x7d".toUTF8),
      (["src", "bundler.js"], .file "1".toUTF8),
      (["src", "x.js"], .file "2".toUTF8),
      (["x.js"], .file "3".toUTF8)]
    current := [] }

theorem anchored : pages.config.Anchored where
  settings := by decide +kernel
  plugin := nofun
  extnames := nofun

theorem written : ∃ ready ∈ page.readyUpTo 16, ready.write.2.isOk = true ∧
    ∃ chunks ∈ ready.output.toOption,
      Shared chunks "/src/x.js" "/src/x.ts" "/app/x.js" ∧
      Shared chunks "/src/x.wxml" "/x.wxml" "/app/x.wxml" ∧
      Shared chunks "/src/y" "/y" "/app/y" := by
  decide +kernel

theorem packed : ∃ ready ∈ pages.readyUpTo 16, ready.write.2.isOk = true ∧
    ∃ chunks ∈ ready.output.toOption,
      Shared chunks "/src/x.js" "/x.js" "/app/x.js" ∧
      Shared chunks "/app/bundler.js" "/src/bundler.js" "/app/bundler.js" ∧
      ¬ (Bundle.modules (ready.build.registry.chunks.filter Bundle.participates)).Pairwise
        fun m n => m.key ≠ n.key := by
  decide +kernel

end Sharing

end Build

end Minipack
