/-
A pass in so many steps.

`Pass.run` ends because only finitely many files can compile, which says nothing about how soon it
ends.  `Pass.runUpTo` takes at most a given number of files from the queue, and where it ends
`Pass.run` ends as well (`Pass.run_eq_of_runUpTo`).  So a pass over a given project is computed
step by step.
-/
import Minipack.Proofs.Compile.Merge
import Minipack.Proofs.Compile.Trace

namespace Minipack.Compile

/-- The pass after the queue has been emptied, when that takes at most so many steps. -/
def Pass.runUpTo (config : Config) (disk : Disk) : Nat → Pass → List Task → Option Pass
  | _, pass, [] => some pass
  | 0, _, _ :: _ => none
  | n + 1, pass, task :: queue =>
    if pass.tried.contains task.file then runUpTo config disk n pass queue
    else
      let log := fileLog config disk task
      match compileFile config disk pass.registry task with
      | .error error => runUpTo config disk n (pass.failed task.file error log) queue
      | .ok chunk =>
        let pass := pass.finished task.file chunk log
        runUpTo config disk n pass (queue ++ pass.followUps chunk)

/-- A pass that ends after so many steps is a run. -/
theorem Pass.runs_of_runUpTo {config : Config} {disk : Disk} {n : Nat} {pass last : Pass}
    {queue : List Task} (h : runUpTo config disk n pass queue = some last) :
    ∃ calls, Runs config disk pass queue calls last := by
  -- each step of the bounded pass is a step of the run
  induction n generalizing pass queue with
  | zero =>
    cases queue with
    | nil => exact ⟨[], Option.some.inj h ▸ .done⟩
    | cons task queue => cases h
  | succ n ih =>
    cases queue with
    | nil => exact ⟨[], Option.some.inj h ▸ .done⟩
    | cons task queue =>
      rw [runUpTo] at h
      split at h
      · next htried =>
        obtain ⟨calls, hruns⟩ := ih h
        exact ⟨calls, .skip htried hruns⟩
      · next htried =>
        have hnew : pass.tried.contains task.file = false := Bool.eq_false_iff.2 htried
        dsimp only at h
        split at h
        · next error herror =>
          obtain ⟨calls, hruns⟩ := ih h
          exact ⟨_, .fail hnew herror hruns⟩
        · next chunk hchunk =>
          obtain ⟨calls, hruns⟩ := ih h
          exact ⟨_, .finish hnew hchunk hruns⟩

theorem Pass.run_eq_of_runUpTo {config : Config} {disk : Disk} {n : Nat} {pass last : Pass}
    {queue : List Task} (h : runUpTo config disk n pass queue = some last) :
    pass.run config disk queue = last := by
  obtain ⟨calls, hruns⟩ := runs_of_runUpTo h
  exact hruns.last_eq.symm

/-- A pass that ends without an error after so many steps succeeds. -/
theorem compileAll_ok_of_runUpTo {config : Config} {disk : Disk} {n : Nat} {registry : Registry}
    {tasks : List Task}
    (h : ((Pass.runUpTo config disk n { registry } tasks).any fun pass => pass.firstError.isNone) =
      true) :
    ∃ chunks, (compileAll config disk registry tasks).result = .ok chunks := by
  obtain ⟨last, hlast, hnone⟩ := (Option.any_eq_true _ _).1 h
  obtain rfl := Pass.run_eq_of_runUpTo hlast
  exact ⟨_, congrArg Outcome.result (compileAll_of_none (Option.isNone_iff_eq_none.1 hnone))⟩

end Minipack.Compile
