/-
The stages of a build without plugins.

Without plugins there is nothing to wait for and nothing is added to the registry (`Build.Plain`),
so a build is a pass over its entries and a flush of all chunks (`Build.run_spec`), and compiling
again is a pass and a flush of what it compiled (`Build.recompile_of_error`,
`Build.recompile_of_none`).
-/
import Minipack.Build.Changes
import Minipack.Proofs.Compile.Reach

namespace Minipack

namespace Build

/-- A build without plugins. -/
structure Bare (build : Build) : Prop where
  plugins : build.config.plugins = []
  pending : build.pending = []

/-- A build without plugins that does not pack. -/
structure Plain (build : Build) : Prop where
  plugins : build.config.plugins = []
  bundle : build.config.bundle = false
  pending : build.pending = []

variable {build after : Build}

theorem Plain.bare (h : build.Plain) : build.Bare :=
  ⟨h.plugins, h.pending⟩

/-! ### Without plugins -/

/-- Where nothing is pending there is nothing to wait for. -/
theorem wait_of_pending (h : build.pending = []) : build.wait = build := by
  unfold wait
  rw [h, List.foldl_nil, ← h]

theorem waitIf_of_pending (h : build.pending = []) (waiting : Bool) :
    build.waitIf waiting = build := by
  unfold waitIf
  split
  · exact wait_of_pending h
  · rfl

theorem Bare.addAllPluginChunks (h : build.Bare) : build.addAllPluginChunks = (build, .ok ()) := by
  unfold Build.addAllPluginChunks
  rw [h.plugins]
  rfl

/-- What is put out is packed, or it is all chunks as they are. -/
theorem output_cases {chunks : List Chunk} (h : build.output = .ok chunks) :
    build.config.bundle = true ∧ Bundle.pack build.config build.registry.chunks = .ok chunks ∨
      build.config.bundle = false ∧ build.registry.chunks = chunks := by
  unfold Build.output at h
  split at h
  · next hbundle => exact Or.inl ⟨hbundle, h⟩
  · next hplain => exact Or.inr ⟨Bool.eq_false_iff.2 hplain, Except.ok.inj h⟩

theorem Plain.output (h : build.Plain) : build.output = .ok build.registry.chunks := by
  unfold Build.output
  rw [h.bundle]
  rfl

theorem Plain.reoutput (h : build.Plain) (compiled : List Chunk) :
    build.reoutput compiled = .ok compiled := by
  unfold Build.reoutput
  rw [h.bundle]
  rfl

/-- The build after a pass. -/
theorem compile_of_pending (h : build.pending = []) (tasks : List Task) :
    build.compile tasks =
      ({ build with
          registry := (Compile.compileAll build.config build.disk build.registry tasks).registry
          log :=
            build.log ++ (Compile.compileAll build.config build.disk build.registry tasks).log },
        (Compile.compileAll build.config build.disk build.registry tasks).result) := by
  unfold compile
  rw [waitIf_of_pending h]
  rfl

/-- The build after a flush. -/
theorem write_of_pending (h : build.pending = []) (chunks : List Chunk) :
    build.write chunks =
      ({ build with
          disk := (flush build.config.toSettings build.disk chunks).1
          log := build.log ++ (flush build.config.toSettings build.disk chunks).2.2 },
        (flush build.config.toSettings build.disk chunks).2.1) := by
  unfold write
  rw [waitIf_of_pending h]
  rfl

/-- The pass over tasks. -/
def pass (build : Build) (tasks : List Task) : Compile.Pass :=
  ({ registry := build.registry } : Compile.Pass).run build.config build.disk tasks

/-- What a build comes to once a pass over it has succeeded and chunks have been written. -/
def written (build : Build) (pass : Compile.Pass) (chunks : List Chunk) :
    Build × Except Error Stats :=
  ({ build with
      registry := pass.merged.1
      disk := (flush build.config.toSettings build.disk chunks).1
      log := build.log ++ pass.log ++ (flush build.config.toSettings build.disk chunks).2.2 },
    (flush build.config.toSettings build.disk chunks).2.1)

/-- The build after a pass that fails. -/
theorem Bare.compile_of_error (h : build.Bare) {tasks : List Task} {error : Error}
    (he : (build.pass tasks).firstError = some error) :
    build.compile tasks =
      ({ build with
          registry := (build.pass tasks).registry
          log := build.log ++ (build.pass tasks).log },
        .error error) := by
  have hall : Compile.compileAll build.config build.disk build.registry tasks =
      ⟨(build.pass tasks).registry, .error error, (build.pass tasks).log⟩ :=
    Compile.compileAll_of_error he
  rw [compile_of_pending h.pending, hall]

/-- The build after a pass that succeeds. -/
theorem Bare.compile_of_none (h : build.Bare) {tasks : List Task}
    (hn : (build.pass tasks).firstError = none) :
    build.compile tasks =
      ({ build with
          registry := (build.pass tasks).merged.1
          log := build.log ++ (build.pass tasks).log },
        .ok (build.pass tasks).merged.2.chunks) := by
  have hall : Compile.compileAll build.config build.disk build.registry tasks =
      ⟨(build.pass tasks).merged.1, .ok (build.pass tasks).merged.2.chunks,
        (build.pass tasks).log⟩ := Compile.compileAll_of_none hn
  rw [compile_of_pending h.pending, hall]

/-! ### Running -/

/-- The tasks with which a build begins. -/
def entryTasks (config : Config) (entries : List Path) : List Task :=
  (config.projectFile :: entries).map fun file => { file }

/-- A build that finds its entries compiles them and writes all chunks. -/
theorem finish_of_ok (h : build.Plain)
    (hproject : build.disk.isFile build.config.projectFile = true)
    {entries : List Path} (hentries : findEntries build.config build.disk = .ok entries) :
    build.finish =
      (match build.compile (entryTasks build.config entries) with
      | (after, .error error) => (after, .error error)
      | (after, .ok _) => after.write after.registry.chunks : Build × Except Error Stats) := by
  have hplain : (build.compile (entryTasks build.config entries)).1.Plain := by
    rw [compile_of_pending h.pending]
    exact ⟨h.plugins, h.bundle, h.pending⟩
  unfold finish
  dsimp only
  rw [hproject, hentries]
  simp only [Bool.not_true, Bool.false_eq_true, if_false]
  rw [← entryTasks]
  cases hcompile : build.compile (entryTasks build.config entries) with
  | mk after result =>
    rw [hcompile] at hplain
    cases result with
    | error error => rfl
    | ok compiled =>
      dsimp only
      rw [hplain.output]

/-- What a build without plugins has done when it succeeds. -/
structure Ran (start after : Build) (entries : List Path) (chunks : List Chunk) : Prop where
  config : after.config = start.config
  pending : after.pending = []
  found : findEntries start.config start.disk = .ok entries
  compiled :
    (Compile.compileAll start.config start.disk {} (entryTasks start.config entries)).result =
      .ok chunks
  registry : after.registry =
    (Compile.compileAll start.config start.disk {} (entryTasks start.config entries)).registry
  flushed : ∃ stats log, flush start.config.toSettings start.disk after.registry.chunks =
    (after.disk, .ok stats, log)

/-- A run leaves a plain build as plain as it was. -/
theorem Ran.plain {entries : List Path} {chunks : List Chunk}
    (hran : Ran build after entries chunks) (h : build.Plain) : after.Plain := by
  refine ⟨?_, ?_, hran.pending⟩
  · rw [hran.config]
    exact h.plugins
  · rw [hran.config]
    exact h.bundle

/-- Compiling the entries and writing all chunks. -/
theorem finish_spec (h : build.Plain) (hempty : build.registry = {}) {stats : Stats}
    (hfinish : build.finish = (after, .ok stats)) :
    ∃ entries chunks, Ran build after entries chunks := by
  cases hproject : build.disk.isFile build.config.projectFile with
  | false =>
    unfold finish at hfinish
    dsimp only at hfinish
    rw [hproject] at hfinish
    cases (Prod.mk.inj hfinish).2
  | true =>
    cases hentries : findEntries build.config build.disk with
    | error error =>
      unfold finish at hfinish
      dsimp only at hfinish
      rw [hproject, hentries] at hfinish
      cases (Prod.mk.inj hfinish).2
    | ok entries =>
      rw [finish_of_ok h hproject hentries, compile_of_pending h.pending, hempty] at hfinish
      split at hfinish
      · cases (Prod.mk.inj hfinish).2
      · next compiled chunks hcompiled =>
        obtain ⟨rfl, hresult⟩ := Prod.mk.inj hcompiled
        -- compiling changes the registry and the log alone
        have hplain : Plain { build with
            registry := (Compile.compileAll build.config build.disk {}
              (entryTasks build.config entries)).registry
            log := build.log ++ (Compile.compileAll build.config build.disk {}
              (entryTasks build.config entries)).log } := ⟨h.plugins, h.bundle, h.pending⟩
        have hwrite :=
          write_of_pending hplain.pending (Compile.compileAll build.config build.disk {}
            (entryTasks build.config entries)).registry.chunks
        obtain ⟨rfl, hstats⟩ := Prod.mk.inj (hwrite.symm.trans hfinish)
        exact ⟨entries, chunks, rfl, h.pending, hentries, hresult, rfl, stats, _,
          Prod.ext rfl (Prod.ext hstats rfl)⟩

/-- Without plugins there is nothing to start. -/
theorem Bare.start (h : build.Bare) : build.start.Bare := by
  refine ⟨h.plugins, ?_⟩
  show build.pending ++ build.config.plugins = []
  rw [h.pending, h.plugins]
  rfl

theorem Plain.start (h : build.Plain) : build.start.Plain :=
  ⟨h.plugins, h.bundle, h.bare.start.pending⟩

/-- Nothing is done before a build. -/
theorem Bare.runAllBefore (h : build.Bare) : build.runAllBefore = (build, .ok ()) := by
  unfold Build.runAllBefore
  rw [h.plugins]
  rfl

/-- A run begins with looking for the entries. -/
theorem Bare.run (h : build.Bare) : build.run = build.start.finish := by
  rw [Build.run, h.start.runAllBefore]
  dsimp only
  rw [h.start.addAllPluginChunks]

theorem run_spec (h : build.Plain) {stats : Stats} (hrun : build.run = (after, .ok stats)) :
    ∃ entries chunks, Ran build after entries chunks := by
  rw [h.bare.run] at hrun
  obtain ⟨entries, chunks, hran⟩ := finish_spec h.start rfl hrun
  exact ⟨entries, chunks, hran.config, hran.pending, hran.found, hran.compiled, hran.registry,
    hran.flushed⟩

/-! ### Compiling again -/

/-- When the pass fails nothing is written. -/
theorem recompile_of_error (h : build.Plain) {tasks : List Task} {error : Error}
    (he : (build.pass tasks).firstError = some error) :
    build.recompile tasks =
      ({ build with
          registry := (build.pass tasks).registry
          log := build.log ++ (build.pass tasks).log },
        .error error) := by
  rw [recompile, h.bare.addAllPluginChunks]
  dsimp only
  rw [h.bare.compile_of_error he]

/-- When the pass succeeds its chunks are written. -/
theorem recompile_of_none (h : build.Plain) {tasks : List Task}
    (hn : (build.pass tasks).firstError = none) :
    build.recompile tasks =
      build.written (build.pass tasks) (build.pass tasks).merged.2.chunks := by
  have hplain : Plain { build with
      registry := (build.pass tasks).merged.1
      log := build.log ++ (build.pass tasks).log } := ⟨h.plugins, h.bundle, h.pending⟩
  rw [recompile, h.bare.addAllPluginChunks]
  dsimp only
  rw [h.bare.compile_of_none hn]
  dsimp only
  rw [hplain.reoutput]
  exact write_of_pending hplain.pending (build.pass tasks).merged.2.chunks

end Build

end Minipack
