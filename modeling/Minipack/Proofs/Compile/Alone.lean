/-
Tasks that compile on their own.

Against the registry with which a pass begins, what comes of a call is decided by its task alone
(`Compile.Pass.Runs.compileFile_eq_result`).  So when each task compiles on its own, with all that
it leads to (`Compile.Compiles`), then all compile together (`Compile.compileAll_of_compiles`).  The
other way round, a pass that succeeds has compiled all its tasks
(`Compile.exists_compileFile_of_mem`), and has read every file that gained a chunk
(`Compile.has_compileAll`).
-/
import Minipack.Proofs.Compile.Reach

namespace Minipack.Compile

variable {config : Config} {disk : Disk} {registry : Registry} {tasks : List Task}

/-- What a task leads to on its own: itself, and the references, to files without a chunk, of what
compiles for a task that it leads to. -/
inductive Entails (config : Config) (disk : Disk) (registry : Registry) (task : Task) : Task → Prop
  | self : Entails config disk registry task task
  | follow {other : Task} {chunk : Chunk} {d : Dependency} :
      Entails config disk registry task other →
      compileFile config disk registry other = .ok chunk →
      d ∈ chunk.followed →
      registry.has d.target = false →
      Entails config disk registry task (.ofDependency d)

/-- A task compiles on its own when all that it leads to compiles. -/
def Compiles (config : Config) (disk : Disk) (registry : Registry) (task : Task) : Prop :=
  ∀ other, Entails config disk registry task other →
    ∃ chunk, compileFile config disk registry other = .ok chunk

/-- A file that refers to nothing compiles on its own. -/
theorem compiles_of_followed {task : Task}
    (h : (compileFile config disk registry task).toOption.any
      (fun chunk => chunk.followed.isEmpty) = true) : Compiles config disk registry task := by
  obtain ⟨chunk, hchunk, hnone⟩ := (Option.any_eq_true _ _).1 h
  have hcompiled : compileFile config disk registry task = .ok chunk := toOption_eq_some.1 hchunk
  intro other hentails
  have hself : other = task := by
    induction hentails with
    | self => rfl
    | @follow other made d _ hmade hd _ ih =>
      rw [ih, hcompiled] at hmade
      rw [← Except.ok.inj hmade, List.isEmpty_iff.1 hnone] at hd
      cases hd
  rw [hself]
  exact ⟨chunk, hcompiled⟩

/-- Compiling a file asks a registry for that file alone. -/
theorem compileFile_congr {registry' : Registry} {task : Task}
    (h : registry.get? task.file = registry'.get? task.file) :
    compileFile config disk registry task = compileFile config disk registry' task := by
  have hknown : knownDestinations registry task.file = knownDestinations registry' task.file := by
    unfold knownDestinations
    rw [h]
  rw [compileFile_eq, compileFile_eq config disk registry', hknown]

/-- A call compiles its task against the registry with which the pass began. -/
theorem Pass.Runs.compileFile_eq_result {last : Pass} {queue : List Task} {calls : List Call}
    (h : Pass.Runs config disk { registry } queue calls last) {call : Call} (hc : call ∈ calls) :
    compileFile config disk registry call.task = call.result := by
  obtain ⟨before, hbefore, hresult⟩ := h.result_eq hc
  rw [← hresult]
  exact (compileFile_congr hbefore).symm

/-- Every call is for something that a task leads to. -/
theorem Pass.Runs.entailed {last : Pass} {calls : List Call}
    (h : Pass.Runs config disk { registry } tasks calls last) :
    ∀ call ∈ calls, ∃ task ∈ tasks, Entails config disk registry task call.task := by
  apply h.called_within (P := fun other => ∃ task ∈ tasks,
    Entails config disk registry task other)
  · intro task ht
    exact ⟨task, ht, .self⟩
  · rintro call hc ⟨task, ht, hentails⟩ chunk hr d hd hnew
    exact ⟨task, ht, .follow hentails ((h.compileFile_eq_result hc).trans hr) hd hnew⟩

/-- Tasks that compile on their own compile together. -/
theorem compileAll_of_compiles (h : ∀ task ∈ tasks, Compiles config disk registry task) :
    ∃ chunks, (compileAll config disk registry tasks).result = .ok chunks := by
  obtain ⟨calls, hruns⟩ := Pass.runs_run config disk { registry } tasks
  have hnone : (({ registry } : Pass).run config disk tasks).firstError = none := by
    rw [hruns.firstError]
    show calls.findSome? Call.error? = none
    apply List.findSome?_eq_none_iff.2
    intro call hc
    obtain ⟨task, ht, hentails⟩ := hruns.entailed call hc
    obtain ⟨chunk, hchunk⟩ := h task ht _ hentails
    have hresult : call.result = .ok chunk := (hruns.compileFile_eq_result hc).symm.trans hchunk
    rw [Call.error?, hresult]
  exact ⟨_, congrArg Outcome.result (compileAll_of_none hnone)⟩

/-- The tasks of a pass that succeeds, no two for one file, compile. -/
theorem exists_compileFile_of_mem {chunks : List Chunk}
    (hok : (compileAll config disk registry tasks).result = .ok chunks)
    (hsorted : Keyed.Sorted Task.file tasks) {task : Task} (ht : task ∈ tasks) :
    ∃ chunk, compileFile config disk registry task = .ok chunk := by
  obtain ⟨calls, hruns⟩ := Pass.runs_run config disk { registry } tasks
  rcases hruns.called_of_mem_queue ht with htried | ⟨call, hc, hs⟩
  · cases htried
  · have hruns' : Pass.Runs config disk { registry } (tasks ++ []) calls
        (({ registry } : Pass).run config disk tasks) := by
      rw [List.append_nil]
      exact hruns
    have hmem : call.task ∈ tasks := hruns'.mem_tasks_of_same hc ht hs
    have hsame : compare task.file call.task.file = .eq := Path.compare_eq_iff_same.2 hs.symm
    obtain rfl : call.task = task :=
      Option.some.inj ((hsorted.find?_eq_some_iff.2 ⟨hmem, hsame⟩).symm.trans
        (hsorted.find?_of_mem ht))
    obtain ⟨chunk, hresult⟩ := ok_of_compileAll hok hruns hc
    exact ⟨chunk, (hruns.compileFile_eq_result hc).trans hresult⟩

/-- A file that has a chunk after a pass had one before, or it was read. -/
theorem has_compileAll {file : Path}
    (h : (compileAll config disk registry tasks).registry.has file = true) :
    registry.has file = true ∨ ∃ p source, p.Same file ∧ disk.read p = .ok source := by
  obtain ⟨calls, hruns⟩ := Pass.runs_run config disk { registry } tasks
  have hlast : (({ registry } : Pass).run config disk tasks).registry.has file = true := by
    cases he : (({ registry } : Pass).run config disk tasks).firstError with
    | some error =>
      rw [compileAll_of_error he] at h
      exact h
    | none =>
      rw [compileAll_of_none he] at h
      have hmerged (pass : Pass) : pass.merged.1.has file = pass.registry.has file :=
        has_merge pass.references file
      exact (hmerged _).symm.trans h
  by_cases hcalled : ∃ call ∈ calls, ∃ chunk, call.result = .ok chunk ∧ call.file.Same file
  · obtain ⟨call, hc, chunk, hr, hs⟩ := hcalled
    obtain ⟨source, resolved, transformed, hsource, -⟩ :=
      compileFile_eq_ok_iff.1 ((hruns.compileFile_eq_result hc).trans hr)
    exact Or.inr ⟨call.file, source, hs, readSource_eq_ok_iff.1 hsource⟩
  · left
    obtain ⟨chunk, hget⟩ := Registry.has_iff.1 hlast
    rw [hruns.registry_eq, get?_addCalls_of_ne] at hget
    · exact Registry.has_of_get? hget
    · intro call hc made hr hs
      rw [hruns.file_eq hc hr] at hs
      exact hcalled ⟨call, hc, made, hr, hs.symm⟩

end Minipack.Compile
