/-
Destinations after a pass.

When all has compiled, each reference gives its destination to the chunk it refers to.  In the
registry nothing else happens (`get?_merge`).  The compiled chunks are all along a part of the
registry, with the very same chunks (`within_merge`), and a chunk of an earlier pass joins them as
soon as it gains a destination (`get?_merge_of_not_joined`).
-/
import Minipack.Compile.Pass
import Minipack.Proofs.Registry

namespace Minipack

namespace Compile

variable {registry compiled : Registry}

/-! ### One reference -/

theorem mergeDestination_of_none {d : Dependency} (h : registry.get? d.target = none) :
    mergeDestination (registry, compiled) d =
      (registry, compiled.update d.target fun chunk => chunk.addDestination d.destination) := by
  rw [mergeDestination, Registry.addDestination_of_none h]
  rfl

theorem mergeDestination_of_contains {d : Dependency} {old : Chunk}
    (h : registry.get? d.target = some old) (hp : old.destinations.contains d.destination = true) :
    mergeDestination (registry, compiled) d =
      (registry, compiled.update d.target fun chunk => chunk.addDestination d.destination) := by
  rw [mergeDestination, Registry.addDestination_of_contains h hp]
  rfl

/-- A chunk with a new destination joins the compiled ones. -/
theorem mergeDestination_of_new {d : Dependency} {old : Chunk}
    (h : registry.get? d.target = some old) (hp : old.destinations.contains d.destination = false) :
    mergeDestination (registry, compiled) d =
      (registry.add (old.addDestination d.destination),
        compiled.add (old.addDestination d.destination)) := by
  have hself : (registry.add (old.addDestination d.destination)).get? d.target =
      some (old.addDestination d.destination) := by
    refine Registry.get?_add_self ?_
    rw [Chunk.addDestination_file]
    exact Registry.same_of_get? h
  simp only [mergeDestination, Registry.addDestination_of_new h hp, hself, if_true]

theorem mergeDestination_fst (d : Dependency) :
    (mergeDestination (registry, compiled) d).1 =
      (registry.addDestination d.target d.destination).1 := by
  cases hg : registry.get? d.target with
  | none => rw [mergeDestination_of_none hg, Registry.addDestination_of_none hg]
  | some old =>
    cases hp : old.destinations.contains d.destination with
    | true => rw [mergeDestination_of_contains hg hp, Registry.addDestination_of_contains hg hp]
    | false => rw [mergeDestination_of_new hg hp, Registry.addDestination_of_new hg hp]

/-- The chunks of a part of a registry stay a part of it. -/
theorem within_mergeDestination (h : compiled.Within registry) (d : Dependency) :
    (mergeDestination (registry, compiled) d).2.Within
      (mergeDestination (registry, compiled) d).1 := by
  cases hg : registry.get? d.target with
  | none =>
    -- no chunk of that file was compiled either
    have hnone : compiled.get? d.target = none := by
      cases hcomp : compiled.get? d.target with
      | none => rfl
      | some c => rw [h _ _ hcomp] at hg; cases hg
    rw [mergeDestination_of_none hg, Registry.update, hnone]
    exact h
  | some old =>
    cases hp : old.destinations.contains d.destination with
    | true =>
      rw [mergeDestination_of_contains hg hp]
      intro file chunk hc
      rw [Registry.get?_update fun _ => Chunk.addDestination_file _] at hc
      split at hc
      · next hs =>
        -- the compiled chunk is the registry's and has the destination already
        obtain ⟨c, hcomp, rfl⟩ := Option.map_eq_some_iff.1 hc
        have hget : registry.get? file = some c := h file c hcomp
        rw [← Registry.get?_congr hs] at hg
        obtain rfl : old = c := Option.some.inj (hg.symm.trans hget)
        rw [Chunk.addDestination_of_contains hp]
        exact hget
      · exact h file chunk hc
    | false =>
      rw [mergeDestination_of_new hg hp]
      exact h.add _

/-- A chunk of the compiled ones is one of them afterwards. -/
theorem has_mergeDestination_compiled (d : Dependency) {file : Path}
    (h : compiled.has file = true) :
    (mergeDestination (registry, compiled) d).2.has file = true := by
  have hupdate : (compiled.update d.target fun chunk =>
      chunk.addDestination d.destination).has file = true := by
    rw [Registry.has_update fun _ => Chunk.addDestination_file _]
    exact h
  cases hg : registry.get? d.target with
  | none => rw [mergeDestination_of_none hg]; exact hupdate
  | some old =>
    cases hp : old.destinations.contains d.destination with
    | true => rw [mergeDestination_of_contains hg hp]; exact hupdate
    | false => rw [mergeDestination_of_new hg hp]; exact Registry.has_add_of_has h

/-- A file that is not among the compiled ones afterwards has not gained a destination. -/
theorem get?_mergeDestination_of_not_joined (d : Dependency) {file : Path}
    (hn : (mergeDestination (registry, compiled) d).2.has file = false) :
    (mergeDestination (registry, compiled) d).1.get? file = registry.get? file := by
  cases hg : registry.get? d.target with
  | none => rw [mergeDestination_of_none hg]
  | some old =>
    cases hp : old.destinations.contains d.destination with
    | true => rw [mergeDestination_of_contains hg hp]
    | false =>
      rw [mergeDestination_of_new hg hp] at hn ⊢
      exact Registry.get?_add_of_ne fun hs =>
        Bool.eq_false_iff.1 hn ((Registry.has_add _ _).2 (Or.inl hs))

/-! ### All references -/

/-- The destinations that references give to a file. -/
def destinationsTo (references : List Dependency) (file : Path) : List Path :=
  (references.filter fun d => d.target == file).map Dependency.destination

theorem destinationsTo_cons (d : Dependency) (rest : List Dependency) (file : Path) :
    destinationsTo (d :: rest) file =
      if file.Same d.target then d.destination :: destinationsTo rest file
      else destinationsTo rest file := by
  rw [destinationsTo, List.filter_cons]
  split
  · next hb => rw [if_pos (Path.beq_iff_same.1 hb).symm]; rfl
  · next hb => rw [if_neg fun hs => hb (Path.beq_iff_same.2 hs.symm)]; rfl

theorem merge_fst (references : List Dependency) :
    (references.foldl mergeDestination (registry, compiled)).1 =
      references.foldl (fun r d => (r.addDestination d.target d.destination).1) registry := by
  induction references generalizing registry compiled with
  | nil => rfl
  | cons d rest ih =>
    have hstep : (mergeDestination (registry, compiled) d).1 =
        (registry.addDestination d.target d.destination).1 := mergeDestination_fst d
    rw [List.foldl_cons, List.foldl_cons, ← hstep]
    exact ih

/-- Each chunk gets the destinations of the references to it, and nothing else changes. -/
theorem get?_merge (references : List Dependency) (file : Path) :
    (references.foldl mergeDestination (registry, compiled)).1.get? file =
      (registry.get? file).map (Chunk.addDestinations · (destinationsTo references file)) := by
  rw [merge_fst]
  induction references generalizing registry with
  | nil => exact (congrFun Option.map_id (registry.get? file)).symm
  | cons d rest ih =>
    rw [List.foldl_cons, ih, Registry.get?_addDestination, destinationsTo_cons]
    split
    · rw [Option.map_map]; rfl
    · rfl

theorem has_merge (references : List Dependency) (file : Path) :
    (references.foldl mergeDestination (registry, compiled)).1.has file = registry.has file := by
  rw [Registry.has, get?_merge, Option.isSome_map]
  rfl

theorem within_merge (h : compiled.Within registry) (references : List Dependency) :
    (references.foldl mergeDestination (registry, compiled)).2.Within
      (references.foldl mergeDestination (registry, compiled)).1 := by
  induction references generalizing registry compiled with
  | nil => exact h
  | cons d rest ih => exact ih (within_mergeDestination h d)

/-- A chunk of the compiled ones is one of them in the end. -/
theorem has_merge_compiled (references : List Dependency) {file : Path}
    (h : compiled.has file = true) :
    (references.foldl mergeDestination (registry, compiled)).2.has file = true := by
  induction references generalizing registry compiled with
  | nil => exact h
  | cons d rest ih => exact ih (has_mergeDestination_compiled d h)

/-- A file that is not among the compiled ones in the end is as it was. -/
theorem get?_merge_of_not_joined (references : List Dependency) {file : Path}
    (hn : (references.foldl mergeDestination (registry, compiled)).2.has file = false) :
    (references.foldl mergeDestination (registry, compiled)).1.get? file = registry.get? file := by
  induction references generalizing registry compiled with
  | nil => rfl
  | cons d rest ih =>
    refine (ih hn).trans ?_
    refine get?_mergeDestination_of_not_joined d (Bool.eq_false_iff.2 fun ht => ?_)
    exact Bool.eq_false_iff.1 hn (has_merge_compiled rest ht)

theorem sorted_mergeDestination (hr : registry.Sorted) (hc : compiled.Sorted) (d : Dependency) :
    (mergeDestination (registry, compiled) d).1.Sorted ∧
      (mergeDestination (registry, compiled) d).2.Sorted := by
  refine ⟨mergeDestination_fst d ▸ hr.addDestination _ _, ?_⟩
  cases hg : registry.get? d.target with
  | none => rw [mergeDestination_of_none hg]; exact hc.update _ _
  | some old =>
    cases hp : old.destinations.contains d.destination with
    | true => rw [mergeDestination_of_contains hg hp]; exact hc.update _ _
    | false => rw [mergeDestination_of_new hg hp]; exact hc.add _

theorem sorted_merge (hr : registry.Sorted) (hc : compiled.Sorted) (references : List Dependency) :
    (references.foldl mergeDestination (registry, compiled)).1.Sorted ∧
      (references.foldl mergeDestination (registry, compiled)).2.Sorted := by
  induction references generalizing registry compiled with
  | nil => exact ⟨hr, hc⟩
  | cons d rest ih =>
    obtain ⟨hr', hc'⟩ := sorted_mergeDestination hr hc d
    exact ih hr' hc'

/-! ### After a pass -/

/-- The references of the compiled chunks that are followed. -/
def Pass.references (pass : Pass) : List Dependency :=
  pass.compiled.chunks.flatMap Chunk.followed

/-- The registry and the compiled chunks when the references have given their destinations. -/
def Pass.merged (pass : Pass) : Registry × Registry :=
  pass.references.foldl mergeDestination (pass.registry, pass.compiled)

variable {config : Config} {disk : Disk} {tasks : List Task}

theorem compileAll_of_error {error : Error}
    (h : (({ registry } : Pass).run config disk tasks).firstError = some error) :
    compileAll config disk registry tasks =
      ⟨(({ registry } : Pass).run config disk tasks).registry, .error error,
        (({ registry } : Pass).run config disk tasks).log⟩ := by
  simp only [compileAll, h]

theorem compileAll_of_none (h : (({ registry } : Pass).run config disk tasks).firstError = none) :
    compileAll config disk registry tasks =
      ⟨(({ registry } : Pass).run config disk tasks).merged.1,
        .ok (({ registry } : Pass).run config disk tasks).merged.2.chunks,
        (({ registry } : Pass).run config disk tasks).log⟩ := by
  simp only [compileAll, h]
  rfl

variable {chunks : List Chunk}

/-- In a successful pass no call fails. -/
theorem firstError_of_compileAll (h : (compileAll config disk registry tasks).result = .ok chunks) :
    (({ registry } : Pass).run config disk tasks).firstError = none := by
  cases he : (({ registry } : Pass).run config disk tasks).firstError with
  | none => rfl
  | some error => rw [compileAll_of_error he] at h; cases h

theorem registry_of_compileAll (h : (compileAll config disk registry tasks).result = .ok chunks) :
    (compileAll config disk registry tasks).registry =
      (({ registry } : Pass).run config disk tasks).merged.1 := by
  rw [compileAll_of_none (firstError_of_compileAll h)]

end Compile

end Minipack
