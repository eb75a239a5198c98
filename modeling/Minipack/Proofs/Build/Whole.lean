/-
Whole runs without plugins.

A run without plugins is a pass over its entries, the output that this makes, packed or not, and a
flush (`Build.Whole`).  A run that succeeds has done just that (`Build.Bare.exists_whole`), and
where its parts can be done the run comes to them (`Build.Bare.run_of_output`).
-/
import Minipack.Proofs.Build.Ready
import Minipack.Proofs.Disk.Footprint

namespace Minipack.Build

variable {start ran : Build} {entries : List Path} {compiled output : List Chunk} {stats : Stats}

/-- What is written when a build has come to a registry. -/
def outputOf (start : Build) (registry : Registry) : Except Error (List Chunk) :=
  Build.output { start with registry := registry }

/-- The pass of a run over its entries. -/
def compileEntries (start : Build) (entries : List Path) : Compile.Outcome :=
  Compile.compileAll start.config start.disk {} (entryTasks start.config entries)

/-- What a run without plugins has done when it succeeds. -/
structure Whole (start ran : Build) (entries : List Path) (compiled output : List Chunk)
    (stats : Stats) : Prop where
  config : ran.config = start.config
  pending : ran.pending = []
  project : start.disk.isFile start.config.projectFile = true
  found : findEntries start.config start.disk = .ok entries
  compiled : (start.compileEntries entries).result = .ok compiled
  registry : ran.registry = (start.compileEntries entries).registry
  packed : start.outputOf ran.registry = .ok output
  flushed : ∃ log, flush start.config.toSettings start.disk output = (ran.disk, .ok stats, log)

/-- What it writes is packed, or it is all chunks as they are. -/
theorem Whole.output_cases (h : Whole start ran entries compiled output stats) :
    start.config.bundle = true ∧ Bundle.pack start.config ran.registry.chunks = .ok output ∨
      start.config.bundle = false ∧ ran.registry.chunks = output :=
  Build.output_cases h.packed

/-- What a run has written, when no two chunks of its output share a destination. -/
theorem Whole.standing (h : Whole start ran entries compiled output stats)
    (hseparate : Separate ran.disk output) {chunk : Chunk} (hc : chunk ∈ output) :
    Standing start.config.toSettings ran.disk chunk := by
  obtain ⟨log, hflush⟩ := h.flushed
  exact standing_of_flush hflush (fun _ ho => ho) hseparate hc

theorem Whole.told (h : Whole start ran entries compiled output stats) (p : Path) :
    (∃ w ∈ stats, w.destination = p) ↔ ∃ chunk ∈ output, p ∈ chunk.destinations := by
  obtain ⟨log, hflush⟩ := h.flushed
  exact mem_stats_of_flush hflush p

/-- A run that has its project descriptor comes to the output of what it compiles. -/
theorem Bare.runReady_of_compiled (h : start.Bare)
    (hproject : start.disk.isFile start.config.projectFile = true)
    (hfound : findEntries start.config start.disk = .ok entries)
    (hcompiled : (start.compileEntries entries).result = .ok compiled) :
    start.runReady = ⟨start.start.passed (entryTasks start.config entries),
      start.outputOf (start.compileEntries entries).registry⟩ := by
  have hproject' : start.start.disk.isFile start.start.config.projectFile = true := hproject
  have hfound' : findEntries start.start.config start.start.disk = .ok entries := hfound
  have hresult : start.start.compile (entryTasks start.start.config entries) =
      (start.start.passed (entryTasks start.config entries), .ok compiled) :=
    (compile_of_pending h.start.pending _).trans (Prod.ext rfl hcompiled)
  rw [h.runReady]
  unfold finishReady
  dsimp only
  rw [hproject', hfound', Bool.not_true, if_neg Bool.false_ne_true]
  dsimp only
  rw [hresult]
  rfl

/-- Where entries are found, compiled and put out, a run comes to the flush of its output. -/
theorem Bare.run_of_output (h : start.Bare)
    (hproject : start.disk.isFile start.config.projectFile = true)
    (hfound : findEntries start.config start.disk = .ok entries)
    (hcompiled : (start.compileEntries entries).result = .ok compiled)
    (hpacked : start.outputOf (start.compileEntries entries).registry = .ok output) :
    ∃ ran, start.run = (ran, (flush start.config.toSettings start.disk output).2.1) ∧
      ran.disk = (flush start.config.toSettings start.disk output).1 ∧
      ran.config = start.config ∧ ran.pending = [] ∧
      ran.registry = (start.compileEntries entries).registry := by
  have hpending : (start.start.passed (entryTasks start.config entries)).pending = [] :=
    h.start.pending
  rw [run_eq, h.runReady_of_compiled hproject hfound hcompiled, hpacked]
  exact ⟨_, write_of_pending hpending output, rfl, rfl, h.start.pending, rfl⟩

/-- A run that succeeds has found its entries, compiled them and put them out. -/
theorem Bare.exists_whole (h : start.Bare) (hrun : start.run = (ran, .ok stats)) :
    ∃ entries compiled output, Whole start ran entries compiled output stats := by
  -- the project descriptor is there
  have hproject : start.disk.isFile start.config.projectFile = true := by
    by_contra hnone
    have hnone' : start.start.disk.isFile start.start.config.projectFile = false :=
      Bool.eq_false_iff.2 hnone
    rw [h.run] at hrun
    unfold finish at hrun
    dsimp only at hrun
    rw [hnone'] at hrun
    cases (Prod.mk.inj hrun).2
  rw [run_eq, h.runReady] at hrun
  rcases h.start.finishReady_cases with ⟨-, hnone⟩ | ⟨entries, hfound, -, hready⟩
  · unfold Ready.write at hrun
    split at hrun
    · next chunks hchunks => exact absurd hchunks (hnone chunks)
    · cases (Prod.mk.inj hrun).2
  · cases houtput : start.start.finishReady.output with
    | error error =>
      unfold Ready.write at hrun
      rw [houtput] at hrun
      cases (Prod.mk.inj hrun).2
    | ok output =>
      obtain ⟨⟨compiled, hcompiled⟩, hpacked⟩ := hready output houtput
      obtain ⟨after, hafter, hdisk, hconfig, hpending, hregistry⟩ :=
        h.run_of_output hproject hfound hcompiled hpacked
      rw [← h.runReady, ← run_eq, hafter] at hrun
      obtain ⟨rfl, hstats⟩ := Prod.mk.inj hrun
      exact ⟨entries, compiled, output, hconfig, hpending, hproject, hfound, hcompiled, hregistry,
        hregistry ▸ hpacked, _, Prod.ext hdisk.symm (Prod.ext hstats rfl)⟩

/-- A run in so many steps that succeeds has the registry and the output that its steps come to. -/
theorem Bare.exists_run_of_readyUpTo (h : start.Bare) {n : Nat} {ready : Ready}
    (hready : ready ∈ start.readyUpTo n) (hok : ready.write.2.isOk = true) :
    ∃ stats, start.run = (ready.write.1, .ok stats) ∧
      ready.write.1.registry = ready.build.registry ∧
      start.outputOf ready.build.registry = ready.output := by
  obtain ⟨stats, hrun⟩ := Build.exists_run_of_readyUpTo h hready hok
  obtain ⟨entries, compiled, output, hwhole⟩ := h.exists_whole hrun
  have hfinal := h.runReady_of_compiled hwhole.project hwhole.found hwhole.compiled
  rw [runReady_of_readyUpTo h hready] at hfinal
  have hregistry : ready.build.registry = (start.compileEntries entries).registry :=
    congrArg (·.build.registry) hfinal
  refine ⟨stats, hrun, hwhole.registry.trans hregistry.symm, ?_⟩
  rw [hregistry]
  exact (congrArg Ready.output hfinal).symm

end Minipack.Build
