/-
What plugins do to a build.

Background hooks and the steps before a build change the disk and tell something; they leave the
chunks alone (`Build.exists_wait`, `Build.registry_runBefore`).  Before files are compiled plugins
may add chunks (`Build.exists_addAllPluginChunks`).  A run waits for what is pending when it
compiles, so that afterwards nothing is (`Build.idle_of_run`).
-/
import Minipack.Proofs.Build.Ready
import Minipack.Proofs.Compile.Invariant

namespace Minipack.Build

variable {build start : Build}

/-- Waiting leaves nothing pending. -/
theorem exists_wait (build : Build) : ∃ disk log,
    build.wait = { build with disk := disk, pending := [], log := log } := by
  have hfold : ∀ (plugins : List Plugin) (build : Build), ∃ disk log,
      plugins.foldl runBackground build = { build with disk := disk, log := log } := by
    intro plugins
    induction plugins with
    | nil => exact fun build => ⟨build.disk, build.log, rfl⟩
    | cons plugin rest ih =>
      intro build
      obtain ⟨disk, log, hrest⟩ := ih (build.runBackground plugin)
      exact ⟨disk, log, hrest⟩
  exact hfold build.pending { build with pending := [] }

theorem exists_waitIf (build : Build) (waiting : Bool) : ∃ disk pending log,
    build.waitIf waiting = { build with disk := disk, pending := pending, log := log } := by
  unfold waitIf
  split
  · obtain ⟨disk, log, hwait⟩ := build.exists_wait
    exact ⟨disk, [], log, hwait⟩
  · exact ⟨build.disk, build.pending, build.log, rfl⟩

/-- Writing leaves the chunks alone. -/
theorem registry_write (build : Build) (chunks : List Chunk) :
    (build.write chunks).1.registry = build.registry := by
  obtain ⟨disk, pending, log, hwait⟩ :=
    build.exists_waitIf (chunks.any fun chunk => !chunk.destinations.isEmpty)
  unfold write
  rw [hwait]
  rfl

/-- Compiling something waits first. -/
theorem compile_cons (build : Build) (task : Task) (tasks : List Task) :
    build.compile (task :: tasks) = build.wait.compile (task :: tasks) := by
  obtain ⟨disk, log, hwait⟩ := build.exists_wait
  have hidle : build.wait.pending = [] := by rw [hwait]
  have hfirst : build.waitIf (!(task :: tasks).isEmpty) = build.wait := rfl
  unfold compile
  rw [hfirst, waitIf_of_pending hidle]

/-- The steps before a build leave its chunks and its configuration alone. -/
theorem exists_runBefore (build : Build) (steps : List HookStep) : ∃ disk pending log,
    (build.runBefore steps).1 = { build with disk := disk, pending := pending, log := log } := by
  induction steps generalizing build with
  | nil => exact ⟨build.disk, build.pending, build.log, rfl⟩
  | cons step rest ih =>
    rw [runBefore]
    obtain ⟨disk, pending, log, hwait⟩ := exists_waitIf
      ({ build with disk := (step build.disk).disk }.tell (step build.disk).log)
      (step build.disk).waited
    rw [hwait]
    split
    · exact ⟨disk, pending, log, rfl⟩
    · obtain ⟨disk', pending', log', hrest⟩ := ih _
      exact ⟨disk', pending', log', hrest⟩

/-- A plugin has a chunk of a file to add. -/
def Supplies (build : Build) (file : Path) : Prop :=
  ∃ plugin ∈ build.config.plugins, ∃ chunks,
    (plugin.beforeCompile build.config.toSettings).1 = .ok chunks ∧
      ∃ chunk ∈ chunks, file.Same chunk.file

theorem Supplies.congr {file file' : Path} (h : build.Supplies file) (hs : file'.Same file) :
    build.Supplies file' := by
  obtain ⟨plugin, hplugin, chunks, hchunks, chunk, hc, hsame⟩ := h
  exact ⟨plugin, hplugin, chunks, hchunks, chunk, hc, hs.trans hsame⟩

/-- Chunks that are added make no other files known than theirs. -/
theorem has_foldl_add {chunks : List Chunk} {registry : Registry} {file : Path}
    (h : (chunks.foldl Registry.add registry).has file = true) :
    registry.has file = true ∨ ∃ chunk ∈ chunks, file.Same chunk.file := by
  induction chunks generalizing registry with
  | nil => exact Or.inl h
  | cons chunk rest ih =>
    rcases ih h with h | ⟨other, ho, hsame⟩
    · rcases (Registry.has_add chunk file).1 h with hsame | h
      · exact Or.inr ⟨chunk, List.mem_cons_self, hsame⟩
      · exact Or.inl h
    · exact Or.inr ⟨other, List.mem_cons_of_mem _ ho, hsame⟩

theorem sorted_foldl_add {registry : Registry} (h : registry.Sorted) (chunks : List Chunk) :
    (chunks.foldl Registry.add registry).Sorted := by
  induction chunks generalizing registry with
  | nil => exact h
  | cons chunk rest ih => exact ih (h.add chunk)

theorem exists_addPluginChunks (build : Build) (plugins : List Plugin) : ∃ registry log,
    (build.addPluginChunks plugins).1 = { build with registry := registry, log := log } ∧
      (build.registry.Sorted → registry.Sorted) ∧
      ∀ file, registry.has file = true → build.registry.has file = true ∨
        ∃ plugin ∈ plugins, ∃ chunks,
          (plugin.beforeCompile build.config.toSettings).1 = .ok chunks ∧
            ∃ chunk ∈ chunks, file.Same chunk.file := by
  -- the plugins are asked in turn, up to the first that fails
  induction plugins generalizing build with
  | nil => exact ⟨build.registry, build.log, rfl, fun h => h, fun file h => Or.inl h⟩
  | cons plugin rest ih =>
    rw [addPluginChunks]
    cases hresult : (plugin.beforeCompile build.config.toSettings).1 with
    | error error =>
      refine ⟨build.registry, build.log ++ (plugin.beforeCompile build.config.toSettings).2, ?_,
        fun h => h, fun file h => Or.inl h⟩
      dsimp only
      rw [hresult]
      rfl
    | ok chunks =>
      dsimp only
      rw [hresult]
      dsimp only
      obtain ⟨registry, log, heq, hsorted, hhas⟩ := ih
        { build.tell (plugin.beforeCompile build.config.toSettings).2 with
          registry := chunks.foldl Registry.add build.registry }
      refine ⟨registry, log, heq, fun h => hsorted (sorted_foldl_add h chunks), fun file h => ?_⟩
      rcases hhas file h with h | ⟨other, ho, made, hmade, hsame⟩
      · rcases has_foldl_add h with h | hsame
        · exact Or.inl h
        · exact Or.inr ⟨plugin, List.mem_cons_self, chunks, hresult, hsame⟩
      · exact Or.inr ⟨other, List.mem_cons_of_mem _ ho, made, hmade, hsame⟩

/-- Plugins add chunks of the files that they supply, and do nothing else. -/
theorem exists_addAllPluginChunks (build : Build) : ∃ registry log,
    build.addAllPluginChunks.1 = { build with registry := registry, log := log } ∧
      (build.registry.Sorted → registry.Sorted) ∧
      ∀ file, registry.has file = true → build.registry.has file = true ∨ build.Supplies file :=
  build.exists_addPluginChunks build.config.plugins

/-! ### Runs -/

/-- The build of a run that has made the steps before it, and has the chunks of its plugins. -/
def begun (build : Build) : Build :=
  build.start.runAllBefore.1.addAllPluginChunks.1

/-- The build of a run that compiles its entries: nothing is pending any more. -/
def prepared (build : Build) : Build :=
  build.begun.wait

/-- What is prepared has only the chunks of plugins. -/
theorem exists_prepared (build : Build) : ∃ disk registry log,
    build.prepared = { build with disk := disk, registry := registry, pending := [], log := log } ∧
      registry.Sorted ∧ ∀ file, registry.has file = true → build.Supplies file := by
  obtain ⟨disk, pending, log, hbefore⟩ := exists_runBefore build.start
    (build.start.config.plugins.flatMap fun plugin => plugin.before build.start.config.toSettings)
  obtain ⟨registry, log', hadd, hsorted, hsupplied⟩ :=
    exists_addAllPluginChunks (build.start.runBefore
      (build.start.config.plugins.flatMap fun plugin =>
        plugin.before build.start.config.toSettings)).1
  obtain ⟨disk', log'', hwait⟩ := build.begun.exists_wait
  refine ⟨disk', registry, log'', ?_, ?_, fun file hfile => ?_⟩
  · rw [prepared, hwait, begun, runAllBefore, hadd, hbefore]
    rfl
  · apply hsorted
    rw [hbefore]
    exact Registry.Sorted.empty
  · rcases hsupplied file hfile with hfile | hfile
    · rw [hbefore] at hfile
      cases hfile
    · rw [hbefore] at hfile
      exact hfile

theorem prepared_config (build : Build) : build.prepared.config = build.config := by
  obtain ⟨disk, registry, log, hprepared, -⟩ := build.exists_prepared
  rw [hprepared]

theorem prepared_pending (build : Build) : build.prepared.pending = [] := by
  obtain ⟨disk, registry, log, hprepared, -⟩ := build.exists_prepared
  rw [hprepared]

theorem sorted_prepared (build : Build) : build.prepared.registry.Sorted := by
  obtain ⟨disk, registry, log, hprepared, hsorted, -⟩ := build.exists_prepared
  rw [hprepared]
  exact hsorted

theorem supplies_of_prepared {file : Path} (h : build.prepared.registry.has file = true) :
    build.Supplies file := by
  obtain ⟨disk, registry, log, hprepared, -, hsupplied⟩ := build.exists_prepared
  rw [hprepared] at h
  exact hsupplied file h

/-- What a run has done when it succeeds: it has found its entries and compiled them, and has
written what that puts out. -/
structure Finished (start ran : Build) (entries : List Path) (compiled chunks : List Chunk)
    (stats : Stats) : Prop where
  found : findEntries start.begun.config start.begun.disk = .ok entries
  compiled : (Compile.compileAll start.prepared.config start.prepared.disk start.prepared.registry
    (entryTasks start.prepared.config entries)).result = .ok compiled
  output : (start.prepared.passed (entryTasks start.prepared.config entries)).output = .ok chunks
  ready : start.runReady =
    ⟨start.prepared.passed (entryTasks start.prepared.config entries), .ok chunks⟩
  written : (start.prepared.passed (entryTasks start.prepared.config entries)).write chunks =
    (ran, .ok stats)

/-- A run that comes to an output has found its entries and compiled them. -/
theorem exists_ready {chunks : List Chunk} (h : start.runReady.output = .ok chunks) :
    ∃ entries compiled, findEntries start.begun.config start.begun.disk = .ok entries ∧
      (Compile.compileAll start.prepared.config start.prepared.disk start.prepared.registry
        (entryTasks start.prepared.config entries)).result = .ok compiled ∧
      (start.prepared.passed (entryTasks start.prepared.config entries)).output = .ok chunks ∧
      start.runReady =
        ⟨start.prepared.passed (entryTasks start.prepared.config entries), .ok chunks⟩ := by
  have hbegun : start.begun = start.start.runAllBefore.1.addAllPluginChunks.1 := rfl
  obtain ⟨ready, hready⟩ : ∃ ready, start.runReady = ready := ⟨_, rfl⟩
  rw [hready] at h ⊢
  unfold runReady at hready
  generalize start.start.runAllBefore = first at hready hbegun
  obtain ⟨first, error | _⟩ := first
  · rw [← hready] at h
    cases h
  · dsimp only at hready hbegun
    generalize first.addAllPluginChunks = second at hready hbegun
    obtain ⟨second, error | _⟩ := second
    · rw [← hready] at h
      cases h
    · obtain rfl : start.begun = second := hbegun
      obtain rfl : start.begun.finishReady = ready := hready
      unfold finishReady at h ⊢
      dsimp only at h ⊢
      split at h
      · cases h
      · next hproject =>
        rw [if_neg hproject]
        cases hentries : findEntries start.begun.config start.begun.disk with
        | error error =>
          rw [hentries] at h
          cases h
        | ok entries =>
          -- there is the project descriptor to compile, so the build waits
          have hcompile : start.begun.compile (entryTasks start.begun.config entries) =
              start.prepared.compile (entryTasks start.begun.config entries) :=
            compile_cons start.begun _ _
          have hsettings : start.prepared.config = start.begun.config := by
            obtain ⟨disk, log, hwait⟩ := start.begun.exists_wait
            rw [prepared, hwait]
          rw [hentries] at h
          dsimp only at h ⊢
          rw [hcompile, ← hsettings, compile_of_pending start.prepared_pending] at h ⊢
          cases hresult : (Compile.compileAll start.prepared.config start.prepared.disk
              start.prepared.registry (entryTasks start.prepared.config entries)).result with
          | error error =>
            rw [hresult] at h
            cases h
          | ok compiled =>
            rw [hresult] at h
            refine ⟨entries, compiled, rfl, hresult, h, ?_⟩
            exact congrArg (Ready.mk _) h

theorem exists_finished {ran : Build} {stats : Stats} (hrun : start.run = (ran, .ok stats)) :
    ∃ entries compiled chunks, Finished start ran entries compiled chunks stats := by
  rw [run_eq] at hrun
  cases houtput : start.runReady.output with
  | error error =>
    unfold Ready.write at hrun
    rw [houtput] at hrun
    cases (Prod.mk.inj hrun).2
  | ok chunks =>
    obtain ⟨entries, compiled, hfound, hcompiled, hchunks, hready⟩ := exists_ready houtput
    rw [hready] at hrun
    exact ⟨entries, compiled, chunks, hfound, hcompiled, hchunks, hready, hrun⟩

variable {ran : Build} {entries : List Path} {compiled chunks : List Chunk} {stats : Stats}

/-- A run ends with what its pass has left, and changes only the disk besides. -/
theorem Finished.exists_eq (h : Finished start ran entries compiled chunks stats) :
    ∃ disk log, ran = { start.prepared.passed (entryTasks start.prepared.config entries) with
      disk := disk, log := log } := by
  have hpending : (start.prepared.passed (entryTasks start.prepared.config entries)).pending = [] :=
    start.prepared_pending
  have hwritten := h.written
  rw [write_of_pending hpending] at hwritten
  exact ⟨_, _, (Prod.mk.inj hwritten).1.symm⟩

theorem Finished.registry (h : Finished start ran entries compiled chunks stats) :
    ran.registry = (Compile.compileAll start.prepared.config start.prepared.disk
      start.prepared.registry (entryTasks start.prepared.config entries)).registry := by
  obtain ⟨disk, log, hran⟩ := h.exists_eq
  rw [hran]
  rfl

theorem Finished.sorted_registry (h : Finished start ran entries compiled chunks stats) :
    ran.registry.Sorted := by
  rw [h.registry]
  exact Compile.sorted_compileAll start.sorted_prepared _ _ _

theorem Finished.config_eq (h : Finished start ran entries compiled chunks stats) :
    ran.config = start.config := by
  obtain ⟨disk, log, hran⟩ := h.exists_eq
  rw [hran]
  exact start.prepared_config

theorem Finished.flushed (h : Finished start ran entries compiled chunks stats) :
    ∃ log, flush start.config.toSettings start.prepared.disk chunks =
      (ran.disk, .ok stats, log) := by
  have hpending : (start.prepared.passed (entryTasks start.prepared.config entries)).pending = [] :=
    start.prepared_pending
  have hwritten := h.written
  rw [write_of_pending hpending] at hwritten
  obtain ⟨rfl, hstats⟩ := Prod.mk.inj hwritten
  rw [← start.prepared_config]
  exact ⟨_, Prod.ext rfl (Prod.ext hstats rfl)⟩

/-- A run that packs writes what packing its chunks gives. -/
theorem Finished.pack_of_bundle (h : Finished start ran entries compiled chunks stats)
    (hbundle : start.config.bundle = true) :
    Bundle.pack ran.config ran.registry.chunks = .ok chunks := by
  have houtput := h.output
  have hpacks : (start.prepared.passed (entryTasks start.prepared.config entries)).config.bundle =
      true := by
    show start.prepared.config.bundle = true
    rw [start.prepared_config]
    exact hbundle
  unfold Build.output at houtput
  rw [if_pos hpacks] at houtput
  rw [h.config_eq, h.registry, ← start.prepared_config]
  exact houtput

/-- After a run nothing is pending, and the chunks are in order. -/
theorem idle_of_run (hrun : start.run = (ran, .ok stats)) :
    ran.pending = [] ∧ ran.registry.Sorted := by
  obtain ⟨entries, compiled, chunks, h⟩ := exists_finished hrun
  obtain ⟨disk, log, hran⟩ := h.exists_eq
  refine ⟨?_, h.sorted_registry⟩
  rw [hran]
  exact start.prepared_pending

end Minipack.Build
