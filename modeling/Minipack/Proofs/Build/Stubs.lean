/-
The stubs of packed scripts while files are watched.

The keys of the table shift whenever a script appears or disappears, so a stub may only call a key
of the table that is on the disk.  A pass that compiles a script that takes part writes the packed
file and the stubs of all entry scripts from one table (`Build.answered_of_pack`); any other pass
writes neither (`Build.Packed.recompile`).

So at all times the stub of an entry script, as long as its chunk has not been dropped since it was
written, calls the key that the table on the disk has for its primary destination
(`Build.answered_of_packing`).
-/
import Minipack.Proofs.Build.Gathering
import Minipack.Proofs.Build.Plugins
import Minipack.Proofs.Compile.Current
import Minipack.Proofs.Disk.Editing

namespace Minipack.Build

variable {build after : Build} {config : Config} {disk disk' : Disk} {written : Registry}
  {kept : List Path} {chunk : Chunk} {changes : List Change}

/-! ### What was written last -/

namespace Ready

/-- The registry whose table is in the packed file: the one that is packed, if something is written
to the place of the packed file. -/
def tabled (ready : Ready) (written : Registry) : Registry :=
  match ready.output with
  | .ok chunks =>
    let place := Bundle.place ready.build.config.toSettings
    if chunks.any fun chunk => chunk.destinations.any fun p => p.text == place.text then
      ready.build.registry
    else written
  | .error _ => written

/-- The files of the entry scripts that are written. -/
def stubbed (ready : Ready) : List Path :=
  match ready.output with
  | .ok chunks => (chunks.filter fun chunk => chunk.kind == .entry && chunk.isScript).map Chunk.file
  | .error _ => []

end Ready

/-- A build that packs, watched after it has run without plugins: others may change the disk, though
not what stands where the build writes, and batches are taken in which no write fails.  At no time
do two outlets share a destination.

With it go the registry that the packed file was last written for, and the files of the entry
scripts whose chunks have not been dropped since they were last written. -/
inductive Packing : Build → Registry → List Path → Prop
  | run {start build : Build} {stats : Stats} :
      start.config.plugins = [] →
      start.config.bundle = true →
      start.run = (build, .ok stats) →
      Separate build.disk (Bundle.outlets build.config.toSettings build.registry) →
      Packing build (start.runReady.tabled {}) start.runReady.stubbed
  | edit {build : Build} {written : Registry} {kept : List Path} {disk : Disk} :
      Packing build written kept →
      (∀ chunk ∈ Bundle.outlets build.config.toSettings build.registry, ∀ p ∈ chunk.destinations,
        disk.read p = build.disk.read p) →
      Packing { build with disk := disk } written kept
  | batch {build : Build} {written : Registry} {kept : List Path} (changes : List Change) :
      Packing build written kept →
      (build.handleChanges changes).2.any WatchEvent.isUnwritten = false →
      Separate (build.handleChanges changes).1.disk
        (Bundle.outlets (build.handleChanges changes).1.config.toSettings
          (build.handleChanges changes).1.registry) →
      Packing (build.handleChanges changes).1 ((build.batchReady changes).tabled written)
        ((kept.filter fun file => (build.taken changes).1.registry.has file) ++
          (build.batchReady changes).stubbed)

/-- The packed file on the disk is the one for a registry, and the stub of a script there calls the
key that its primary destination has in the table of that file. -/
structure Answered (config : Config) (disk : Disk) (written : Registry) (chunk : Chunk) : Prop where
  table : ∃ bundler,
    Bundle.bundlerChunk config (Bundle.modules (Bundle.packed written)) = .ok bundler ∧
      disk.read (Bundle.place config.toSettings) = .ok (Flush.render config.toSettings bundler)
  stub : ∃ m ∈ Bundle.modules (Bundle.packed written), m.chunk.file.Same chunk.file ∧
    chunk.destination? = some m.destination ∧
    Bundle.key? (Bundle.primaries (Bundle.packed written)) m.destination = some m.key ∧
    m.chunk.destinations <+: chunk.destinations ∧
      ∀ p ∈ m.chunk.destinations,
        disk.read p = .ok (Bundle.stubText config.toSettings m).toUTF8

/-- What is answered stays answered while the packed file and the stubs stay. -/
theorem Answered.later (h : Answered config disk written chunk) (manifest : Manifest)
    (hplace : ∀ content, disk.read (Bundle.place config.toSettings) = .ok content →
      disk'.read (Bundle.place config.toSettings) = .ok content)
    (hplaces : ∀ p ∈ chunk.destinations, ∀ content, disk.read p = .ok content →
      disk'.read p = .ok content)
    {new : Chunk} (hfile : chunk.file.Same new.file)
    (hdestinations : chunk.destinations <+: new.destinations) :
    Answered { config with manifest := manifest } disk' written new := by
  obtain ⟨bundler, hbundler, hread⟩ := h.table
  obtain ⟨m, hm, hsame, hprimary, hkey, hfront, hstub⟩ := h.stub
  refine ⟨⟨bundler, hbundler, hplace _ hread⟩, m, hm, hsame.trans hfile, ?_, hkey,
    hfront.trans hdestinations, fun p hp => hplaces p (hfront.subset hp) _ (hstub p hp)⟩
  obtain ⟨rest, hrest⟩ := hdestinations
  unfold Chunk.destination? at hprimary ⊢
  rw [← hrest, List.head?_append, hprimary]
  rfl

/-! ### Writing -/

section

variable {registry : Registry} {chunks output : List Chunk} {stats : List Written}
  {log : List LogLine}

theorem participates_of_entry (hkind : chunk.kind = .entry) (hscript : chunk.isScript = true) :
    Bundle.participates chunk = true := by
  unfold Bundle.participates
  rw [hscript, hkind]
  rfl

/-- When the packed file and all stubs are written, every entry script is answered by them. -/
theorem answered_of_pack (hsorted : registry.Sorted)
    (hpack : Bundle.pack config registry.chunks = .ok output) (hsub : ∀ c ∈ chunks, c ∈ output)
    (hall : ∀ c ∈ output, c.kind = .bundler ∨ c.kind = .entry ∧ c.isScript = true → c ∈ chunks)
    (hflush : flush config.toSettings disk chunks = (disk', .ok stats, log))
    (hseparate : Separate disk' (Bundle.outlets config.toSettings registry))
    (hc : chunk ∈ registry.chunks) (hkind : chunk.kind = .entry) (hscript : chunk.isScript = true) :
    Answered config disk' registry chunk := by
  have hp := participates_of_entry hkind hscript
  have hstanding : ∀ c ∈ chunks, Standing config.toSettings disk' c := fun c hc =>
    standing_of_flush hflush hsub (Bundle.separate_of_outlets hpack hseparate) hc
  constructor
  · obtain ⟨bundler, hmem, hbundler⟩ :=
      Bundle.exists_bundler hpack (List.any_eq_true.2 ⟨chunk, hc, hp⟩)
    obtain ⟨-, hbundlerKind, hplace⟩ := Bundle.shape_of_bundlerChunk hbundler
    refine ⟨bundler, hbundler, hstanding bundler (hall bundler hmem (Or.inl hbundlerKind)) _ ?_⟩
    rw [hplace]
    exact List.mem_singleton_self _
  · obtain ⟨m, hm, rfl⟩ := Bundle.exists_module hc hp
    have hstub : Bundle.stub config.toSettings m ∈ output :=
      (Bundle.outlet hsorted hpack hc).stub m hm rfl fun hbundle => by
        rw [hkind] at hbundle
        cases hbundle
    have hstands := hstanding _ (hall _ hstub (Or.inr ⟨rfl, hscript⟩))
    obtain ⟨-, hprimary, hkey, -⟩ := Bundle.modules_spec hm
    refine ⟨m, hm, Path.same_refl _, hprimary, hkey, List.prefix_rfl, fun p hp => ?_⟩
    rw [← Bundle.render_stub]
    exact hstands p hp

/-- Writing packed output writes something to the place of the packed file. -/
theorem tabled_of_pack (build : Build)
    (hpack : Bundle.pack build.config build.registry.chunks = .ok output)
    (hp : build.registry.chunks.any Bundle.participates = true)
    (hall : ∀ c ∈ output, c.kind = .bundler ∨ c.kind = .entry ∧ c.isScript = true → c ∈ chunks) :
    Ready.tabled ⟨build, .ok chunks⟩ written = build.registry := by
  obtain ⟨bundler, hmem, hbundler⟩ := Bundle.exists_bundler hpack hp
  obtain ⟨-, hkind, hplace⟩ := Bundle.shape_of_bundlerChunk hbundler
  refine if_pos (List.any_eq_true.2 ⟨bundler, hall bundler hmem (Or.inl hkind), ?_⟩)
  rw [hplace]
  exact List.any_eq_true.2 ⟨_, List.mem_singleton_self _, beq_self_eq_true _⟩

/-- The packed file and the stubs of entry scripts are stale, whatever was compiled. -/
theorem mem_filter_isStale (compiled : List Chunk) (hc : chunk ∈ output)
    (hcalls : chunk.kind = .bundler ∨ chunk.kind = .entry ∧ chunk.isScript = true) :
    chunk ∈ output.filter (isStale compiled) := by
  refine List.mem_filter.2 ⟨hc, ?_⟩
  unfold isStale
  rcases hcalls with hkind | ⟨hkind, hscript⟩
  · rw [hkind]
    rfl
  · rw [hkind, hscript]
    rfl

/-- Chunks that take no part are written without a stub. -/
theorem stubbed_of_apart (build : Build) (h : ∀ c ∈ chunks, Bundle.participates c = false) :
    Ready.stubbed ⟨build, .ok chunks⟩ = [] := by
  refine List.map_eq_nil_iff.2 (List.filter_eq_nil_iff.2 fun c hc hentry => ?_)
  obtain ⟨hkind, hscript⟩ := Bool.and_eq_true_iff.1 hentry
  have hpart := participates_of_entry (eq_of_beq hkind) hscript
  rw [h c hc] at hpart
  cases hpart

/-- The table stays as long as nothing is written to the place of the packed file. -/
theorem tabled_of_other (build : Build)
    (h : ∀ c ∈ chunks, Bundle.place build.config.toSettings ∉ c.destinations) :
    Ready.tabled ⟨build, .ok chunks⟩ written = written := by
  refine if_neg fun hany => ?_
  obtain ⟨c, hc, hplace⟩ := List.any_eq_true.1 hany
  obtain ⟨p, hp, htext⟩ := List.any_eq_true.1 hplace
  obtain rfl : p = Bundle.place build.config.toSettings := congrArg Path.mk (eq_of_beq htext)
  exact h c hc hp

/-- What is written apart from the packed file and the stubs leaves them alone. -/
theorem free_of_separate
    (hchunks : ∀ c ∈ chunks, c ∈ registry.chunks ∧ Bundle.participates c = false)
    {settings : Settings} (hseparate : Separate disk' (Bundle.outlets settings registry))
    (hc : chunk ∈ registry.chunks) (hkind : chunk.kind = .entry) (hscript : chunk.isScript = true)
    {p : Path} (hp : p = Bundle.place settings ∨ p ∈ chunk.destinations) :
    ∀ c ∈ chunks, ∀ q ∈ c.destinations, ∀ place, disk'.find true p = .ok place →
      disk'.find true q ≠ .ok place := by
  intro c hcc q hq place hfind hfind'
  have hpart := participates_of_entry hkind hscript
  obtain ⟨hmem, hapart⟩ := hchunks c hcc
  rcases hp with rfl | hp
  · -- the packed file stands before the other outlets
    unfold Bundle.outlets at hseparate
    dsimp only at hseparate
    rw [if_pos (List.any_eq_true.2 ⟨chunk, hc, hpart⟩)] at hseparate
    have hother : c ∈ registry.chunks.filter
        fun c => !(Bundle.participates c && c.kind == .bundle) := by
      refine List.mem_filter.2 ⟨hmem, ?_⟩
      rw [hapart]
      rfl
    exact (List.pairwise_cons.1 hseparate).1 c hother _ (List.mem_singleton_self _) q hq place
      (Disk.place?_eq_some_iff.2 hfind) (Disk.place?_eq_some_iff.2 hfind')
  · have hself : chunk ∈ Bundle.outlets settings registry :=
      Bundle.mem_outlets_of_mem hc (Or.inr fun hb => by rw [hkind] at hb; cases hb) settings
    have hother : c ∈ Bundle.outlets settings registry :=
      Bundle.mem_outlets_of_mem hmem (Or.inl hapart) settings
    obtain rfl := hseparate.eq hself hother hp hq hfind hfind'
    rw [hpart] at hapart
    cases hapart

/-- What is answered stays answered when only chunks that take no part are written, and none of them
is written to the place of the packed file. -/
theorem Answered.beside {old : Chunk} (h : Answered config disk written old)
    (hchunks : ∀ c ∈ chunks, c ∈ registry.chunks ∧ Bundle.participates c = false)
    (hflush : flush config.toSettings disk chunks = (disk', .ok stats, log))
    (hseparate : Separate disk' (Bundle.outlets config.toSettings registry))
    (hc : chunk ∈ registry.chunks) (hkind : chunk.kind = .entry) (hscript : chunk.isScript = true)
    (hfile : old.file.Same chunk.file) (hdestinations : old.destinations <+: chunk.destinations) :
    Answered config disk' written chunk ∧
      ∀ c ∈ chunks, Bundle.place config.toSettings ∉ c.destinations := by
  have hkept {p : Path} (hp : p = Bundle.place config.toSettings ∨ p ∈ chunk.destinations) :
      ∀ content, disk.read p = .ok content → disk'.read p = .ok content := fun content hread =>
    read_of_flush hflush hread (free_of_separate hchunks hseparate hc hkind hscript hp)
  refine ⟨h.later config.manifest (hkept (Or.inl rfl))
    (fun p hp => hkept (Or.inr (hdestinations.subset hp))) hfile hdestinations,
    fun c hcc hplace => ?_⟩
  -- the packed file stands there
  obtain ⟨bundler, -, hread⟩ := h.table
  obtain ⟨place, hfind, -⟩ := Disk.read_eq_ok_iff.1 (hkept (Or.inl rfl) _ hread)
  exact free_of_separate hchunks hseparate hc hkind hscript (Or.inl rfl) c hcc _ hplace place hfind
    hfind

end

/-! ### Steps -/

/-- What holds at all times: every entry script that was kept is answered. -/
structure Packed (build : Build) (written : Registry) (kept : List Path) : Prop where
  bare : build.Bare
  bundle : build.config.bundle = true
  sorted : build.registry.Sorted
  listed : ∀ chunk ∈ build.registry.chunks, chunk.Distinct ∧ ∃ p, chunk.destination? = some p
  answered : ∀ chunk ∈ build.registry.chunks, chunk.kind = .entry → chunk.isScript = true →
    kept.contains chunk.file = true → Answered build.config build.disk written chunk

/-- A kept script was answered before the pass. -/
theorem Packed.exists_answered (h : build.Packed written kept) {registry : Registry}
    (hsorted : registry.Sorted) (hstays : build.registry.Stays registry)
    (hknown : ∀ file ∈ kept, build.registry.has file = true) (hc : chunk ∈ registry.chunks)
    (hkind : chunk.kind = .entry) (hscript : chunk.isScript = true)
    (hkept : kept.contains chunk.file = true) :
    ∃ old, old.file.Same chunk.file ∧ old.destinations <+: chunk.destinations ∧
      Answered build.config build.disk written old := by
  obtain ⟨file, hfile, hsame⟩ := Path.contains_iff.1 hkept
  have hhas : build.registry.has chunk.file = true := by
    rw [← Registry.has_congr hsame]
    exact hknown file hfile
  obtain ⟨old, hold⟩ := Registry.has_iff.1 hhas
  obtain ⟨found, hfound, hfoundKind, hdestinations⟩ := hstays _ _ hold
  obtain rfl : chunk = found := Option.some.inj ((hsorted.get?_of_mem hc).symm.trans hfound)
  have hmem := Registry.mem_of_get? hold
  have hsame' : chunk.file.Same old.file := Registry.same_of_get? hold
  -- the script has its primary destination from the start
  obtain ⟨p, hp⟩ := (h.listed old hmem).2
  have hprimary : chunk.destination? = old.destination? := by
    obtain ⟨rest, hrest⟩ := hdestinations
    unfold Chunk.destination? at hp ⊢
    rw [← hrest, List.head?_append, hp]
    rfl
  have holdScript : old.isScript = true := by
    unfold Chunk.isScript at hscript ⊢
    rwa [← hprimary]
  exact ⟨old, hsame'.symm, hdestinations,
    h.answered old hmem (hfoundKind.symm.trans hkind) holdScript
      (Path.contains_iff.2 ⟨file, hfile, hsame.trans hsame'⟩)⟩

/-- Compiling again writes the packed file and all stubs from one table, or neither. -/
theorem Packed.recompile (h : build.Packed written kept) {tasks : List Task}
    (htasks : ∀ task ∈ tasks, build.registry.has task.file = true →
      ∃ chunk ∈ build.registry.chunks, task = .ofChunk chunk)
    (hknown : ∀ file ∈ kept, build.registry.has file = true)
    (hwrites : ∀ chunks, (build.recompileReady tasks).output = .ok chunks →
      ∃ stats, (build.recompileReady tasks).write.2 = .ok stats)
    (hseparate : Separate (build.recompileReady tasks).write.1.disk
      (Bundle.outlets (build.recompileReady tasks).write.1.config.toSettings
        (build.recompileReady tasks).write.1.registry)) :
    (build.recompileReady tasks).write.1.Packed ((build.recompileReady tasks).tabled written)
      (kept ++ (build.recompileReady tasks).stubbed) := by
  have hstays : build.registry.Stays (build.passed tasks).registry :=
    Compile.stays_of_compileAll h.sorted htasks fun c hc => (h.listed c hc).1
  have hsorted : (build.passed tasks).registry.Sorted :=
    Compile.sorted_compileAll h.sorted build.config build.disk tasks
  have hlisted := Compile.distinct_compileAll h.listed build.config build.disk tasks
  have hbare : (build.passed tasks).Bare := ⟨h.bare.plugins, h.bare.pending⟩
  obtain ⟨hbuild, houtput⟩ := h.bare.recompileReady_cases tasks
  generalize build.recompileReady tasks = ready at *
  obtain ⟨after, output⟩ := ready
  obtain rfl : after = build.passed tasks := hbuild
  cases output with
  | error error =>
    refine ⟨hbare, h.bundle, hsorted, hlisted, fun chunk hc hkind hscript hkept => ?_⟩
    have hkept' : kept.contains chunk.file = true := by
      rwa [← List.append_nil kept]
    obtain ⟨old, hfile, hdestinations, hanswered⟩ :=
      h.exists_answered hsorted hstays hknown hc hkind hscript hkept'
    exact hanswered.later build.config.manifest (fun _ hread => hread)
      (fun _ _ _ hread => hread) hfile hdestinations
  | ok chunks =>
    obtain ⟨compiled, hcompiled, hreoutput⟩ := houtput chunks rfl
    obtain ⟨stats, hstats⟩ := hwrites chunks rfl
    have hwrite : Ready.write ⟨build.passed tasks, .ok chunks⟩ = _ :=
      write_of_pending hbare.pending chunks
    rw [hwrite] at hstats hseparate ⊢
    have hflush : flush build.config.toSettings build.disk chunks = (_, .ok stats, _) :=
      Prod.ext rfl (Prod.ext hstats rfl)
    have hmem : ∀ c ∈ compiled, c ∈ (build.passed tasks).registry.chunks := fun c hc =>
      Compile.mem_of_mem_result h.sorted hcompiled hc
    refine ⟨⟨h.bare.plugins, h.bare.pending⟩, h.bundle, hsorted, hlisted,
      fun chunk hc hkind hscript hkept => ?_⟩
    unfold reoutput at hreoutput
    split at hreoutput
    · next hpacks =>
      -- something that takes part was compiled, so all is written from one table
      obtain ⟨output, hpack, rfl⟩ := map_eq_ok.1 hreoutput
      obtain ⟨-, hpart⟩ := Bool.and_eq_true_iff.1 hpacks
      obtain ⟨c, hcc, hcp⟩ := List.any_eq_true.1 hpart
      have hall : ∀ c ∈ output, c.kind = .bundler ∨ c.kind = .entry ∧ c.isScript = true →
          c ∈ output.filter (isStale compiled) := fun c hc => mem_filter_isStale compiled hc
      rw [tabled_of_pack (build.passed tasks) hpack (List.any_eq_true.2 ⟨c, hmem c hcc, hcp⟩) hall]
      exact answered_of_pack hsorted hpack (fun c hc => List.mem_of_mem_filter hc) hall hflush
        hseparate hc hkind hscript
    · next hpacks =>
      obtain rfl := Except.ok.inj hreoutput
      have hapart : ∀ c ∈ compiled, c ∈ (build.passed tasks).registry.chunks ∧
          Bundle.participates c = false := by
        refine fun c hcc => ⟨hmem c hcc, Bool.eq_false_iff.2 fun hcp => hpacks ?_⟩
        exact Bool.and_eq_true_iff.2 ⟨h.bundle, List.any_eq_true.2 ⟨c, hcc, hcp⟩⟩
      rw [stubbed_of_apart _ fun c hcc => (hapart c hcc).2, List.append_nil] at hkept
      obtain ⟨old, hfile, hdestinations, hanswered⟩ :=
        h.exists_answered hsorted hstays hknown hc hkind hscript hkept
      obtain ⟨hflushed, hplace⟩ :=
        hanswered.beside hapart hflush hseparate hc hkind hscript hfile hdestinations
      rw [tabled_of_other (build.passed tasks) hplace]
      exact hflushed

/-- Taking changes keeps what is answered for the chunks that are left. -/
theorem Packed.taken (h : build.Packed written kept) (changes : List Change) :
    (build.taken changes).1.Packed written
      (kept.filter fun file => (build.taken changes).1.registry.has file) := by
  have hpruned := pruned_taken h.bare h.sorted changes
  obtain ⟨manifest, hconfig⟩ := hpruned.config
  refine ⟨hpruned.bare h.bare, ?_, hpruned.sorted h.sorted,
    fun c hc => h.listed c (hpruned.mem h.sorted hc), fun chunk hc hkind hscript hkept => ?_⟩
  · rw [hconfig]
    exact h.bundle
  · obtain ⟨file, hfile, hsame⟩ := Path.contains_iff.1 hkept
    have hanswered := h.answered chunk (hpruned.mem h.sorted hc) hkind hscript
      (Path.contains_iff.2 ⟨file, List.mem_of_mem_filter hfile, hsame⟩)
    rw [hconfig, hpruned.disk]
    exact hanswered.later manifest (fun _ hread => hread) (fun _ _ _ hread => hread)
      (Path.same_refl _) List.prefix_rfl

/-- A batch in which no write fails keeps what holds. -/
theorem Packed.batch (h : build.Packed written kept)
    (hwrites : (build.handleChanges changes).2.any WatchEvent.isUnwritten = false)
    (hseparate : Separate (build.handleChanges changes).1.disk
      (Bundle.outlets (build.handleChanges changes).1.config.toSettings
        (build.handleChanges changes).1.registry)) :
    (build.handleChanges changes).1.Packed ((build.batchReady changes).tabled written)
      ((kept.filter fun file => (build.taken changes).1.registry.has file) ++
        (build.batchReady changes).stubbed) := by
  have htaken := h.taken changes
  rw [handleChanges_eq] at hseparate ⊢
  by_cases hnil : (build.taken changes).2.1 = []
  · have hready : build.batchReady changes = ⟨(build.taken changes).1, .ok []⟩ := by
      rw [batchReady, hnil]
      rfl
    rw [hready]
    show ((build.taken changes).1.write []).1.Packed written (_ ++ [])
    rw [write_nil, List.append_nil]
    exact htaken
  · have hready : build.batchReady changes =
        (build.taken changes).1.recompileReady (build.taken changes).2.1 :=
      if_neg fun hempty => hnil (List.isEmpty_iff.1 hempty)
    rw [hready] at hseparate ⊢
    refine htaken.recompile (fun task ht hhas => ?_) (fun file hf => (List.mem_filter.1 hf).2)
      (fun chunks hchunks => ?_) hseparate
    · -- a task is for a chunk of before, and that is still the chunk of its file
      obtain ⟨chunk, hc, htask, -⟩ := (mem_tasks_taken h.bare.pending h.sorted changes task).1 ht
      rw [htask] at hhas
      obtain ⟨found, hfound⟩ := Registry.has_iff.1 hhas
      have hget := (pruned_taken h.bare h.sorted changes).within _ _ hfound
      obtain rfl : chunk = found :=
        Option.some.inj ((h.sorted.get?_of_mem hc).symm.trans hget)
      exact ⟨chunk, Registry.mem_of_get? hfound, htask⟩
    · rw [handleChanges_of_ne_nil hnil, recompile_eq] at hwrites
      cases hresult : ((build.taken changes).1.recompileReady
          (build.taken changes).2.1).write.2 with
      | ok stats => exact ⟨stats, rfl⟩
      | error error =>
        -- all but writing has succeeded
        exfalso
        have hpending : ((build.taken changes).1.passed (build.taken changes).2.1).pending = [] :=
          htaken.bare.pending
        have hflush := hresult
        rw [Ready.write, hchunks, (htaken.bare.recompileReady_cases _).1] at hflush
        dsimp only at hflush
        rw [write_of_pending hpending] at hflush
        obtain ⟨n, cause, rfl⟩ := exists_flush_error hflush
        rw [hresult, List.any_append, Bool.or_eq_false_iff] at hwrites
        cases hwrites.2

theorem Packed.edit (h : build.Packed written kept) {disk : Disk}
    (hd : ∀ chunk ∈ Bundle.outlets build.config.toSettings build.registry,
      ∀ p ∈ chunk.destinations, disk.read p = build.disk.read p) :
    Packed { build with disk := disk } written kept where
  bare := ⟨h.bare.plugins, h.bare.pending⟩
  bundle := h.bundle
  sorted := h.sorted
  listed := h.listed
  answered := by
    intro chunk hc hkind hscript hkept
    have hself : chunk ∈ Bundle.outlets build.config.toSettings build.registry :=
      Bundle.mem_outlets_of_mem hc (Or.inr fun hb => by rw [hkind] at hb; cases hb) _
    have hplace := hd _ (Bundle.mem_outlets_place (List.any_eq_true.2
      ⟨chunk, hc, participates_of_entry hkind hscript⟩) _) _ (List.mem_singleton_self _)
    refine (h.answered chunk hc hkind hscript hkept).later build.config.manifest
      (fun content hread => hplace.trans hread)
      (fun p hp content hread => (hd chunk hself p hp).trans hread)
      (Path.same_refl _) List.prefix_rfl

/-- After a run every entry script is answered. -/
theorem packed_of_run {start : Build} {stats : Stats} (hplugins : start.config.plugins = [])
    (hbundle : start.config.bundle = true) (hrun : start.run = (build, .ok stats))
    (hseparate : Separate build.disk (Bundle.outlets build.config.toSettings build.registry)) :
    build.Packed (start.runReady.tabled {}) start.runReady.stubbed := by
  obtain ⟨entries, compiled, chunks, h⟩ := exists_finished hrun
  obtain ⟨hpending, hsorted⟩ := idle_of_run hrun
  have hpack := h.pack_of_bundle hbundle
  have hnone : ∀ c ∈ start.prepared.registry.chunks, False := by
    intro c hc
    obtain ⟨plugin, hplugin, -⟩ :=
      supplies_of_prepared (Registry.has_of_get? (start.sorted_prepared.get?_of_mem hc))
    rw [hplugins] at hplugin
    cases hplugin
  have hlisted := Compile.distinct_compileAll (fun c hc => (hnone c hc).elim) start.prepared.config
    start.prepared.disk (entryTasks start.prepared.config entries)
  rw [← h.registry] at hlisted
  refine ⟨⟨?_, hpending⟩, ?_, hsorted, hlisted, fun chunk hc hkind hscript _ => ?_⟩
  · rw [h.config_eq]
    exact hplugins
  · rw [h.config_eq]
    exact hbundle
  -- a run writes all of the packed output, so no file is stale
  · have hall : ∀ c ∈ chunks, c.kind = .bundler ∨ c.kind = .entry ∧ c.isScript = true →
        c ∈ chunks := fun c hc _ => hc
    have hpart : build.registry.chunks.any Bundle.participates = true :=
      List.any_eq_true.2 ⟨chunk, hc, participates_of_entry hkind hscript⟩
    have htabled : start.runReady.tabled {} = build.registry := by
      have hpack' := hpack
      rw [h.registry] at hpart ⊢
      rw [h.registry, h.config_eq, ← start.prepared_config] at hpack'
      rw [h.ready]
      exact tabled_of_pack (start.prepared.passed _) hpack' hpart hall
    obtain ⟨log, hflush⟩ := h.flushed
    rw [htabled]
    rw [← h.config_eq] at hflush
    exact answered_of_pack hsorted hpack (fun _ hc => hc) hall hflush hseparate hc hkind hscript

theorem Packing.packed (h : Packing build written kept) : build.Packed written kept := by
  induction h with
  | run hplugins hbundle hrun hseparate => exact packed_of_run hplugins hbundle hrun hseparate
  | edit _ hd ih => exact ih.edit hd
  | batch changes _ hwrites hseparate ih => exact ih.batch hwrites hseparate

/-- At all times the stub of an entry script, as long as its chunk has not been dropped since it was
last written, calls the key that the table on the disk has for the primary destination of the chunk.
-/
theorem answered_of_packing (h : Packing build written kept) (hc : chunk ∈ build.registry.chunks)
    (hkind : chunk.kind = .entry) (hscript : chunk.isScript = true)
    (hkept : kept.contains chunk.file = true) :
    Answered build.config build.disk written chunk :=
  h.packed.answered chunk hc hkind hscript hkept

/-! ### Keys that shift -/

namespace Shifting

/-- An app with a script that its own script does not require yet. -/
def app : Build where
  config := { Config.of ⟨"/p"⟩ with
    publicPath := some "http://a"
    bundle := true
    sourceMap := false
    manifest := { pages := ["p"] } }
  disk := {
    entries := [
      (["p"], .folder),
      (["p", "project.config.json"], .file "\x7b\x7d".toUTF8),
      (["p", "src"], .folder),
      (["p", "src", "a.js"], .file "2".toUTF8),
      (["p", "src", "app.js"], .file "1".toUTF8),
      (["p", "src", "app.json"], .file "\x7b\"pages\":[\"p\"]\x7d".toUTF8)]
    current := [] }

/-- The script of the app. -/
def script : Path := ⟨"/p/src/app.js"⟩

/-- The script of the app is changed to require the other one, which comes before it. -/
def growing (ran : Build) : Build :=
  { ran with disk := (ran.disk.write script "require('./a')".toUTF8).1 }

def appChanged : List Change := [⟨script, .modified⟩]

/-- What happens from the run to the end of the batch, when the script of the app has another key.
-/
theorem session : ∃ ready ∈ app.readyUpTo 8,
    ready.write.2.isOk = true ∧
    Separate ready.write.1.disk
      (Bundle.outlets ready.write.1.config.toSettings ready.write.1.registry) ∧
    ready.write.1.disk.isFile script = true ∧
    (∀ chunk ∈ Bundle.outlets ready.write.1.config.toSettings ready.write.1.registry,
      ∀ p ∈ chunk.destinations, ∀ place ∈ ready.write.1.disk.place? p,
        ready.write.1.disk.place? script ≠ some place) ∧
    ((growing ready.write.1).taken appChanged).2.2.any WatchEvent.isUnwritten = false ∧
    ∃ next ∈ (growing ready.write.1).batchReadyUpTo 8 appChanged,
      next.write.2.isOk = true ∧
      Separate next.write.1.disk
        (Bundle.outlets next.write.1.config.toSettings next.write.1.registry) ∧
      ∃ chunk ∈ next.write.1.registry.chunks, chunk.kind = .entry ∧ chunk.isScript = true ∧
        next.stubbed.contains chunk.file = true := by
  decide +kernel

end Shifting

/-- After a batch in which the keys have shifted the stub of the script of the app calls its new
key. -/
theorem answered_of_shifting : ∃ build written kept chunk, Packing build written kept ∧
    chunk ∈ build.registry.chunks ∧ chunk.kind = .entry ∧ chunk.isScript = true ∧
      kept.contains chunk.file = true ∧ Answered build.config build.disk written chunk := by
  obtain ⟨ready, hready, hok, hseparate, hfile, hclear, hevents, next, hnext, hnextOk,
    hnextSeparate, chunk, hc, hkind, hscript, hkept⟩ := Shifting.session
  have hbare : Shifting.app.Bare := ⟨rfl, rfl⟩
  obtain ⟨stats, hrun⟩ := exists_run_of_readyUpTo hbare hready hok
  have hran := Packing.run hbare.plugins rfl hrun hseparate
  have hedited : Packing (Shifting.growing ready.write.1) (Shifting.app.runReady.tabled {})
      Shifting.app.runReady.stubbed :=
    hran.edit fun chunk hc p hp => Disk.read_of_write hfile _ fun place hfind hfind' =>
      hclear chunk hc p hp place (Disk.place?_eq_some_iff.2 hfind)
        (Disk.place?_eq_some_iff.2 hfind')
  have hbatch : (Shifting.growing ready.write.1).batchReady Shifting.appChanged = next :=
    batchReady_of_upTo hedited.packed.bare hedited.packed.sorted hnext
  have hafter : ((Shifting.growing ready.write.1).handleChanges Shifting.appChanged).1 =
      next.write.1 := by
    rw [handleChanges_eq, hbatch]
  have hwritten := written_of_batchReady hevents (by rw [hbatch]; exact hnextOk)
  have hpacking := hedited.batch Shifting.appChanged hwritten (by rw [hafter]; exact hnextSeparate)
  rw [hafter, hbatch] at hpacking
  have hlast (before : List Path) : (before ++ next.stubbed).contains chunk.file = true := by
    rw [List.contains_append, hkept, Bool.or_true]
  exact ⟨_, _, _, chunk, hpacking, hc, hkind, hscript, hlast _,
    answered_of_packing hpacking hc hkind hscript (hlast _)⟩

end Minipack.Build
