/-
The same pass under other circumstances.

A pass depends on the configuration and the disk only through what its calls come to.  So where
every call of a pass comes to the same, there is the same pass (`Compile.Pass.Runs.transfer`),
whatever else differs, and it leaves the same behind but for what it tells
(`Compile.compileAll_eq_of_calls`).
-/
import Minipack.Proofs.Compile.Merge
import Minipack.Proofs.Compile.Trace

namespace Minipack.Compile

variable {config config' : Config} {disk disk' : Disk} {pass pass' last : Pass} {queue : List Task}
  {calls : List Call} {registry : Registry} {tasks : List Task}

/-- Two passes that differ at most in what they tell. -/
structure Pass.Agrees (a b : Pass) : Prop where
  registry : b.registry = a.registry
  tried : b.tried = a.tried
  compiled : b.compiled = a.compiled
  firstError : b.firstError = a.firstError

/-- A task comes to the same in two places, whatever is known. -/
def SameCall (config config' : Config) (disk disk' : Disk) (task : Task) : Prop :=
  ∀ registry, compileFile config' disk' registry task = compileFile config disk registry task

/-- Where all calls of a pass come to the same, the pass makes the same calls. -/
theorem Pass.Runs.transfer (h : Runs config disk pass queue calls last)
    (hsame : ∀ call ∈ calls, SameCall config config' disk disk' call.task)
    (hagrees : pass.Agrees pass') :
    ∃ last', Runs config' disk' pass' queue calls last' ∧ last.Agrees last' := by
  induction h generalizing pass' with
  | done => exact ⟨pass', .done, hagrees⟩
  | skip htried _ ih =>
    obtain ⟨last', hruns, hlast⟩ := ih hsame hagrees
    exact ⟨last', .skip (hagrees.tried ▸ htried) hruns, hlast⟩
  | @fail pass task _ error _ _ hfresh hfile _ ih =>
    have hfile' : compileFile config' disk' pass'.registry task = .error error := by
      rw [hsame _ List.mem_cons_self, hagrees.registry]
      exact hfile
    have hnext : (pass.failed task.file error (fileLog config disk task)).Agrees
        (pass'.failed task.file error (fileLog config' disk' task)) :=
      ⟨hagrees.registry, congrArg (task.file :: ·) hagrees.tried, hagrees.compiled,
        congrArg (Option.or · (some error)) hagrees.firstError⟩
    obtain ⟨last', hruns, hlast⟩ := ih (fun call hc => hsame call (List.mem_cons_of_mem _ hc)) hnext
    exact ⟨last', .fail (hagrees.tried ▸ hfresh) hfile' hruns, hlast⟩
  | @finish pass task _ chunk _ _ hfresh hfile _ ih =>
    have hfile' : compileFile config' disk' pass'.registry task = .ok chunk := by
      rw [hsame _ List.mem_cons_self, hagrees.registry]
      exact hfile
    have hnext : (pass.finished task.file chunk (fileLog config disk task)).Agrees
        (pass'.finished task.file chunk (fileLog config' disk' task)) :=
      ⟨congrArg (Registry.add · chunk) hagrees.registry, congrArg (task.file :: ·) hagrees.tried,
        congrArg (Registry.add · chunk) hagrees.compiled, hagrees.firstError⟩
    -- what follows a chunk depends on the registry alone
    have hfollow : (pass'.finished task.file chunk (fileLog config' disk' task)).followUps chunk =
        (pass.finished task.file chunk (fileLog config disk task)).followUps chunk := by
      unfold followUps
      rw [hnext.registry]
    obtain ⟨last', hruns, hlast⟩ := ih (fun call hc => hsame call (List.mem_cons_of_mem _ hc)) hnext
    exact ⟨last', .finish (hagrees.tried ▸ hfresh) hfile' (hfollow ▸ hruns), hlast⟩

/-- Where all calls of a pass come to the same, it leaves the same behind. -/
theorem compileAll_eq_of_calls (hruns : Pass.Runs config disk { registry } tasks calls last)
    (hsame : ∀ call ∈ calls, SameCall config config' disk disk' call.task) :
    (compileAll config' disk' registry tasks).registry =
        (compileAll config disk registry tasks).registry ∧
      (compileAll config' disk' registry tasks).result =
        (compileAll config disk registry tasks).result := by
  obtain ⟨last', hruns', hagrees⟩ := hruns.transfer hsame ⟨rfl, rfl, rfl, rfl⟩
  have hlast := hruns.last_eq
  have hlast' := hruns'.last_eq
  have hmerged : last'.merged = last.merged := by
    unfold Pass.merged Pass.references
    rw [hagrees.registry, hagrees.compiled]
  have hfirst' := hagrees.firstError
  rw [hlast, hlast'] at hfirst' hmerged
  cases hfirst : (({ registry } : Pass).run config disk tasks).firstError with
  | some error =>
    rw [compileAll_of_error hfirst, compileAll_of_error (hfirst'.trans hfirst), ← hlast, ← hlast']
    exact ⟨hagrees.registry, rfl⟩
  | none =>
    rw [compileAll_of_none hfirst, compileAll_of_none (hfirst'.trans hfirst), hmerged]
    exact ⟨rfl, rfl⟩

end Minipack.Compile
