/-
What a build writes.

A run and a batch compile files and write chunks.  What they come to before they write
(`Build.runReady`, `Build.batchReady`) is all that matters for where they write: when a stage fails
nothing is written, and else these chunks are (`Build.run_eq`, `Build.handleChanges_eq`).  With a
bound on the steps of its pass what a run comes to is computed (`Build.runReady_of_readyUpTo`).
-/
import Minipack.Proofs.Build.Batch
import Minipack.Proofs.Bundle.Outlets
import Minipack.Proofs.Compile.Steps
import Minipack.Proofs.Outcome

namespace Minipack.Build

/-- A build that has compiled, and the chunks that it writes or what ended it before. -/
structure Ready where
  build : Build
  output : Except Error (List Chunk)

namespace Ready

/-- Writes the chunks. -/
def write (ready : Ready) : Build × Except Error Stats :=
  match ready.output with
  | .ok chunks => ready.build.write chunks
  | .error error => (ready.build, .error error)

end Ready

/-! ### Runs -/

/-- What compiling the entries comes to. -/
def finishReady (build : Build) : Ready :=
  let project := build.config.projectFile
  if !build.disk.isFile project then ⟨build, .error (.precondition project.display)⟩
  else
    match findEntries build.config build.disk with
    | .error error => ⟨build, .error error⟩
    | .ok entries =>
      match build.compile (entryTasks build.config entries) with
      | (build, .error error) => ⟨build, .error error⟩
      | (build, .ok _) => ⟨build, build.output⟩

/-- What a run comes to before it writes. -/
def runReady (build : Build) : Ready :=
  match build.start.runAllBefore with
  | (build, .error error) => ⟨build, .error error⟩
  | (build, .ok _) =>
    match build.addAllPluginChunks with
    | (build, .error error) => ⟨build, .error error⟩
    | (build, .ok _) => build.finishReady

variable {build : Build} {changes : List Change} {tasks : List Task}

theorem finish_eq (build : Build) : build.finish = build.finishReady.write := by
  unfold finish finishReady entryTasks
  dsimp only
  cases build.disk.isFile build.config.projectFile with
  | false => rfl
  | true =>
    cases findEntries build.config build.disk with
    | error error => rfl
    | ok entries =>
      rw [Bool.not_true, if_neg Bool.false_ne_true, if_neg Bool.false_ne_true]
      dsimp only
      generalize build.compile _ = compiled
      obtain ⟨after, error | chunks⟩ := compiled
      · rfl
      · unfold Ready.write
        dsimp only
        cases after.output <;> rfl

/-- A run writes these chunks. -/
theorem run_eq (build : Build) : build.run = build.runReady.write := by
  unfold run runReady
  generalize build.start.runAllBefore = before
  obtain ⟨build, error | _⟩ := before
  · rfl
  · dsimp only
    generalize build.addAllPluginChunks = added
    obtain ⟨build, error | _⟩ := added
    · rfl
    · exact finish_eq build

theorem Bare.runReady (h : build.Bare) : build.runReady = build.start.finishReady := by
  rw [Build.runReady, h.start.runAllBefore]
  dsimp only
  rw [h.start.addAllPluginChunks]

/-! ### Batches -/

/-- What compiling files again comes to. -/
def recompileReady (build : Build) (tasks : List Task) : Ready :=
  match build.addAllPluginChunks with
  | (build, .error error) => ⟨build, .error error⟩
  | (build, .ok _) =>
    match build.compile tasks with
    | (build, .error error) => ⟨build, .error error⟩
    | (build, .ok compiled) => ⟨build, build.reoutput compiled⟩

/-- What a batch comes to before it writes. -/
def batchReady (build : Build) (changes : List Change) : Ready :=
  if (build.taken changes).2.1.isEmpty then ⟨(build.taken changes).1, .ok []⟩
  else (build.taken changes).1.recompileReady (build.taken changes).2.1

theorem recompile_eq (build : Build) (tasks : List Task) :
    build.recompile tasks = (build.recompileReady tasks).write := by
  unfold recompile recompileReady
  generalize build.addAllPluginChunks = added
  obtain ⟨build, error | _⟩ := added
  · rfl
  · dsimp only
    generalize build.compile tasks = compiled
    obtain ⟨after, error | chunks⟩ := compiled
    · rfl
    · unfold Ready.write
      dsimp only
      cases after.reoutput chunks <;> rfl

/-- Writing no chunks changes nothing. -/
theorem write_nil (build : Build) : (build.write []).1 = build := by
  show { build with disk := build.disk, log := build.log ++ [] } = build
  rw [List.append_nil]

/-- A batch writes these chunks. -/
theorem handleChanges_eq (build : Build) (changes : List Change) :
    (build.handleChanges changes).1 = (build.batchReady changes).write.1 := by
  unfold batchReady
  by_cases htasks : (build.taken changes).2.1 = []
  · rw [handleChanges_of_nil htasks, htasks]
    exact (write_nil _).symm
  · rw [handleChanges_of_ne_nil htasks, if_neg fun he => htasks (List.isEmpty_iff.1 he)]
    rw [recompile_eq]

/-! ### Compiling -/

/-- A build after a pass. -/
def passed (build : Build) (tasks : List Task) : Build :=
  { build with
    registry := (Compile.compileAll build.config build.disk build.registry tasks).registry
    log := build.log ++ (Compile.compileAll build.config build.disk build.registry tasks).log }

/-- A run without plugins that finds its entries compiles them, and writes what that puts out. -/
theorem Bare.finishReady_cases (h : build.Bare) :
    (build.finishReady.build = build ∧ ∀ chunks, build.finishReady.output ≠ .ok chunks) ∨
      ∃ entries, findEntries build.config build.disk = .ok entries ∧
        build.finishReady.build = build.passed (entryTasks build.config entries) ∧
        ∀ chunks, build.finishReady.output = .ok chunks →
          (∃ compiled, (Compile.compileAll build.config build.disk build.registry
            (entryTasks build.config entries)).result = .ok compiled) ∧
          (build.passed (entryTasks build.config entries)).output = .ok chunks := by
  unfold finishReady
  dsimp only
  cases build.disk.isFile build.config.projectFile with
  | false => exact Or.inl ⟨rfl, nofun⟩
  | true =>
    rw [Bool.not_true, if_neg Bool.false_ne_true]
    cases hentries : findEntries build.config build.disk with
    | error error => exact Or.inl ⟨rfl, nofun⟩
    | ok entries =>
      refine Or.inr ⟨entries, rfl, ?_⟩
      dsimp only
      rw [compile_of_pending h.pending]
      cases (Compile.compileAll build.config build.disk build.registry
          (entryTasks build.config entries)).result with
      | error error => exact ⟨rfl, nofun⟩
      | ok compiled => exact ⟨rfl, fun chunks houtput => ⟨⟨compiled, rfl⟩, houtput⟩⟩

/-- Compiling again without plugins. -/
theorem Bare.recompileReady_cases (h : build.Bare) (tasks : List Task) :
    (build.recompileReady tasks).build = build.passed tasks ∧
      ∀ chunks, (build.recompileReady tasks).output = .ok chunks → ∃ compiled,
        (Compile.compileAll build.config build.disk build.registry tasks).result = .ok compiled ∧
        (build.passed tasks).reoutput compiled = .ok chunks := by
  unfold recompileReady
  rw [h.addAllPluginChunks]
  dsimp only
  rw [compile_of_pending h.pending]
  cases (Compile.compileAll build.config build.disk build.registry tasks).result with
  | error error => exact ⟨rfl, nofun⟩
  | ok compiled => exact ⟨rfl, fun chunks houtput => ⟨compiled, rfl, houtput⟩⟩

/-! ### Runs in so many steps -/

/-- The pass of a run, unless it fails or takes more steps. -/
def passUpTo (n : Nat) (build : Build) : Option Compile.Pass :=
  if build.disk.isFile build.config.projectFile then
    match findEntries build.config build.disk with
    | .error _ => none
    | .ok entries =>
      (Compile.Pass.runUpTo build.config build.disk n { registry := {} }
        (entryTasks build.config entries)).filter fun pass => pass.firstError.isNone
  else none

/-- This is the pass over the entries. -/
theorem pass_of_passUpTo {n : Nat} {pass : Compile.Pass} (hpass : build.passUpTo n = some pass) :
    ∃ entries, build.disk.isFile build.config.projectFile = true ∧
      findEntries build.config build.disk = .ok entries ∧
      build.start.pass (entryTasks build.config entries) = pass ∧ pass.firstError = none := by
  unfold passUpTo at hpass
  split at hpass
  · next hproject =>
    split at hpass
    · cases hpass
    · next entries hentries =>
      obtain ⟨hpass, hnone⟩ := Option.filter_eq_some_iff.1 hpass
      exact ⟨entries, hproject, hentries, Compile.Pass.run_eq_of_runUpTo hpass,
        Option.isNone_iff_eq_none.1 hnone⟩
  · cases hpass

theorem sorted_of_passUpTo {n : Nat} {pass : Compile.Pass} (hpass : build.passUpTo n = some pass) :
    pass.merged.1.Sorted := by
  obtain ⟨entries, -, -, rfl, -⟩ := pass_of_passUpTo hpass
  exact (Compile.sorted_run Registry.Sorted.empty build.config build.disk
    (entryTasks build.config entries)).2.1

/-- A run comes to the output of what the pass has compiled. -/
theorem runReady_eq_of_passUpTo (h : build.Bare) {n : Nat} {pass : Compile.Pass}
    (hpass : build.passUpTo n = some pass) :
    build.runReady = ⟨{ build.start with
        registry := pass.merged.1, log := build.start.log ++ pass.log },
      output { build with registry := pass.merged.1 }⟩ := by
  obtain ⟨entries, hproject, hentries, rfl, hnone⟩ := pass_of_passUpTo hpass
  have hproject' : build.start.disk.isFile build.start.config.projectFile = true := hproject
  have hentries' : findEntries build.start.config build.start.disk = .ok entries := hentries
  have hcompile : build.start.compile (entryTasks build.start.config entries) = _ :=
    h.start.compile_of_none hnone
  rw [h.runReady, finishReady, hproject', hentries', Bool.not_true, if_neg Bool.false_ne_true]
  dsimp only
  rw [hcompile]
  rfl

/-! ### Chunks in order -/

/-- What is written for chunks that are in the order of their paths. -/
def outputInOrder (build : Build) : Except Error (List Chunk) :=
  if build.config.bundle then Bundle.packInOrder build.config build.registry.chunks
  else .ok build.registry.chunks

theorem output_of_sorted (h : build.registry.Sorted) : build.output = build.outputInOrder := by
  unfold output outputInOrder
  rw [Bundle.pack_of_sorted h]

/-- What a run comes to, unless it fails before or its pass takes more steps. -/
def readyUpTo (n : Nat) (build : Build) : Option Ready :=
  (build.passUpTo n).map fun pass =>
    let after : Build :=
      { build.start with registry := pass.merged.1, log := build.start.log ++ pass.log }
    ⟨after, after.outputInOrder⟩

theorem runReady_of_readyUpTo (h : build.Bare) {n : Nat} {ready : Ready}
    (hready : build.readyUpTo n = some ready) : build.runReady = ready := by
  obtain ⟨pass, hpass, rfl⟩ := Option.map_eq_some_iff.1 hready
  rw [runReady_eq_of_passUpTo h hpass]
  exact congrArg (Ready.mk _) (output_of_sorted (sorted_of_passUpTo hpass))

/-- A run in so many steps whose output can be written is a run that succeeds. -/
theorem exists_run_of_readyUpTo (h : build.Bare) {n : Nat} {ready : Ready}
    (hready : ready ∈ build.readyUpTo n) (hok : ready.write.2.isOk = true) :
    ∃ stats, build.run = (ready.write.1, .ok stats) := by
  rw [run_eq, runReady_of_readyUpTo h hready]
  cases hresult : ready.write.2 with
  | ok stats => exact ⟨stats, Prod.ext rfl hresult⟩
  | error error =>
    rw [hresult] at hok
    cases hok

/-- What is written again of chunks that are in the order of their paths. -/
def reoutputInOrder (build : Build) (compiled : List Chunk) : Except Error (List Chunk) :=
  if build.config.bundle && compiled.any Bundle.participates then
    (Bundle.packInOrder build.config build.registry.chunks).map (List.filter (isStale compiled))
  else .ok compiled

theorem reoutput_of_sorted (h : build.registry.Sorted) (compiled : List Chunk) :
    build.reoutput compiled = build.reoutputInOrder compiled := by
  unfold reoutput reoutputInOrder
  rw [Bundle.pack_of_sorted h]

/-- What a batch comes to, unless its pass takes more steps. -/
def batchReadyUpTo (n : Nat) (build : Build) (changes : List Change) : Option Ready :=
  let (build, tasks, _) := build.taken changes
  if tasks.isEmpty then some ⟨build, .ok []⟩
  else
    (Compile.Pass.runUpTo build.config build.disk n { registry := build.registry } tasks).map
      fun pass =>
        match pass.firstError with
        | some error =>
          ⟨{ build with registry := pass.registry, log := build.log ++ pass.log }, .error error⟩
        | none =>
          let after : Build :=
            { build with registry := pass.merged.1, log := build.log ++ pass.log }
          ⟨after, after.reoutputInOrder pass.merged.2.chunks⟩

theorem batchReady_of_upTo (h : build.Bare) (hs : build.registry.Sorted) {n : Nat} {ready : Ready}
    (hready : build.batchReadyUpTo n changes = some ready) : build.batchReady changes = ready := by
  have hpruned := pruned_taken h hs changes
  unfold batchReadyUpTo at hready
  unfold batchReady
  dsimp only at hready
  split at hready
  · next hempty =>
    rw [if_pos hempty]
    exact Option.some.inj hready
  · next hempty =>
    rw [if_neg hempty]
    obtain ⟨pass, hpass, rfl⟩ := Option.map_eq_some_iff.1 hready
    obtain rfl : (build.taken changes).1.pass (build.taken changes).2.1 = pass :=
      Compile.Pass.run_eq_of_runUpTo hpass
    have hsorted : ((build.taken changes).1.pass (build.taken changes).2.1).merged.1.Sorted :=
      (Compile.sorted_run (hpruned.sorted hs) _ _ _).2.1
    unfold recompileReady
    rw [(hpruned.bare h).addAllPluginChunks]
    dsimp only
    cases he : ((build.taken changes).1.pass (build.taken changes).2.1).firstError with
    | some error =>
      rw [(hpruned.bare h).compile_of_error he]
    | none =>
      rw [(hpruned.bare h).compile_of_none he]
      exact congrArg (Ready.mk _) (reoutput_of_sorted hsorted _)

/-- A batch that comes to an output and can write it has written all. -/
theorem written_of_batchReady
    (hevents : (build.taken changes).2.2.any WatchEvent.isUnwritten = false)
    (hok : (build.batchReady changes).write.2.isOk = true) :
    (build.handleChanges changes).2.any WatchEvent.isUnwritten = false := by
  by_cases hnil : (build.taken changes).2.1 = []
  · rw [handleChanges_of_nil hnil]
    exact hevents
  · have hready : build.batchReady changes =
        (build.taken changes).1.recompileReady (build.taken changes).2.1 :=
      if_neg fun hempty => hnil (List.isEmpty_iff.1 hempty)
    rw [hready, ← recompile_eq] at hok
    rw [handleChanges_of_ne_nil hnil, List.any_append, hevents]
    cases hresult : ((build.taken changes).1.recompile (build.taken changes).2.1).2 with
    | ok stats => rfl
    | error error =>
      rw [hresult] at hok
      cases hok

end Minipack.Build
