/-
Builds in so many steps.

How soon a pass ends is not known in advance, because what can compile is only bounded by the number
of short paths.  With a bound on the steps of its passes a build of a given project is computed
(`Build.runUpTo`, `Build.handleChangesUpTo`), and where the bound is large enough it is the build
(`Build.run_eq_of_runUpTo`, `Build.handleChanges_eq_of_upTo`).
-/
import Minipack.Proofs.Build.Batch
import Minipack.Proofs.Compile.Steps

namespace Minipack.Build

/-- Compiling tasks, unless that takes more steps, and writing all chunks or those that the pass
gives. -/
def writtenUpTo (n : Nat) (build : Build) (tasks : List Task) (all : Bool) :
    Option (Build × Except Error Stats) :=
  (Compile.Pass.runUpTo build.config build.disk n
      { registry := build.registry } tasks).map fun pass =>
    match pass.firstError with
    | some error =>
      ({ build with registry := pass.registry, log := build.log ++ pass.log }, .error error)
    | none => build.written pass (if all then pass.merged.1 else pass.merged.2).chunks

/-- A whole build, unless it has no entries to compile or its pass takes more steps. -/
def runUpTo (n : Nat) (build : Build) : Option (Build × Except Error Stats) :=
  if build.disk.isFile build.config.projectFile then
    match findEntries build.config build.disk with
    | .error _ => none
    | .ok entries => build.start.writtenUpTo n (entryTasks build.config entries) true
  else none

/-- A batch of changes, unless its pass takes more steps. -/
def handleChangesUpTo (n : Nat) (build : Build) (changes : List Change) :
    Option (Build × List WatchEvent) :=
  let (build, tasks, events) := build.taken changes
  if tasks.isEmpty then some (build, events)
  else (build.writtenUpTo n tasks false).map fun (build, result) =>
    (build, events ++ [lastEvent result])

variable {build : Build} {n : Nat}

theorem run_eq_of_runUpTo (h : build.Plain) {result : Build × Except Error Stats}
    (hrun : build.runUpTo n = some result) : build.run = result := by
  unfold runUpTo at hrun
  split at hrun
  · next hproject =>
    split at hrun
    · cases hrun
    · next entries hentries =>
      obtain ⟨pass, hpass, rfl⟩ := Option.map_eq_some_iff.1 hrun
      obtain rfl : build.start.pass (entryTasks build.config entries) = pass :=
        Compile.Pass.run_eq_of_runUpTo hpass
      rw [h.bare.run, finish_of_ok h.start hproject hentries]
      -- a pass that fails ends the run before anything is written
      cases he : (build.start.pass (entryTasks build.config entries)).firstError with
      | some error =>
        have hcompile : build.start.compile (entryTasks build.start.config entries) = _ :=
          h.start.bare.compile_of_error he
        rw [hcompile]
        rfl
      | none =>
        have hplain : Plain { build.start with
            registry := (build.start.pass (entryTasks build.config entries)).merged.1
            log := build.start.log ++
              (build.start.pass (entryTasks build.config entries)).log } :=
          ⟨h.start.plugins, h.start.bundle, h.start.pending⟩
        have hcompile : build.start.compile (entryTasks build.start.config entries) = _ :=
          h.start.bare.compile_of_none he
        rw [hcompile]
        exact write_of_pending hplain.pending _
  · cases hrun

/-- A run in so many steps that succeeds is a run that succeeds. -/
theorem exists_run_of_runUpTo (h : build.Plain) {result : Build × Except Error Stats}
    (hrun : result ∈ build.runUpTo n) (hok : result.2.isOk = true) :
    ∃ stats, build.run = (result.1, .ok stats) := by
  obtain ⟨after, outcome⟩ := result
  cases outcome with
  | error error => cases hok
  | ok stats => exact ⟨stats, run_eq_of_runUpTo h hrun⟩

theorem recompile_eq_of_writtenUpTo (h : build.Plain) {tasks : List Task}
    {result : Build × Except Error Stats}
    (hwritten : build.writtenUpTo n tasks false = some result) :
    build.recompile tasks = result := by
  obtain ⟨pass, hpass, rfl⟩ := Option.map_eq_some_iff.1 hwritten
  obtain rfl : build.pass tasks = pass := Compile.Pass.run_eq_of_runUpTo hpass
  cases he : (build.pass tasks).firstError with
  | some error => exact recompile_of_error h he
  | none => exact recompile_of_none h he

theorem handleChanges_eq_of_upTo (h : build.Plain) (hs : build.registry.Sorted)
    {changes : List Change} {result : Build × List WatchEvent}
    (hchanges : build.handleChangesUpTo n changes = some result) :
    build.handleChanges changes = result := by
  have hplain : (build.taken changes).1.Plain := (pruned_taken h.bare hs changes).plain h
  unfold handleChangesUpTo at hchanges
  dsimp only at hchanges
  split at hchanges
  · next hempty =>
    rw [handleChanges_of_nil (List.isEmpty_iff.1 hempty)]
    exact Option.some.inj hchanges
  · next hempty =>
    rw [handleChanges_of_ne_nil fun hnil => hempty (List.isEmpty_iff.2 hnil)]
    obtain ⟨written, hwritten, rfl⟩ := Option.map_eq_some_iff.1 hchanges
    rw [recompile_eq_of_writtenUpTo hplain hwritten]

end Minipack.Build
