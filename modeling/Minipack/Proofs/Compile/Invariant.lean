/-
What all chunks of a registry have in common.

A property of chunks stays true of a registry over a pass when compiling a file makes chunks that
have it and destinations of references leave it (`Compile.Invariant`).  Then it is true of the
registry after the pass, whether or not the pass succeeds (`Compile.Invariant.compileAll`), and of
the chunks that are given to be written (`Compile.Invariant.result`).
-/
import Minipack.Proofs.Compile.Reach

namespace Minipack.Compile

variable {config : Config} {disk : Disk} {registry : Registry} {tasks : List Task}

/-- A property of chunks that passes keep, with what is asked of tasks and holds of references. -/
structure Invariant (config : Config) (disk : Disk) (asked : Task → Prop) (holds : Chunk → Prop)
    (leads : Dependency → Prop) : Prop where
  compiled : ∀ {registry task chunk}, asked task → (∀ c ∈ registry.chunks, holds c) →
    compileFile config disk registry task = .ok chunk → holds chunk ∧ ∀ d ∈ chunk.followed, leads d
  followed : ∀ {d}, leads d → asked (.ofDependency d)
  merged : ∀ {chunk : Chunk} {d}, holds chunk → leads d → d.target.Same chunk.file →
    holds (chunk.addDestination d.destination)

namespace Invariant

variable {asked : Task → Prop} {holds : Chunk → Prop} {leads : Dependency → Prop}

/-- The chunk of a step has the property, and its references are as they should be. -/
theorem runs (h : Invariant config disk asked holds leads) {pass last : Pass} {queue : List Task}
    {calls : List Call} (hruns : Pass.Runs config disk pass queue calls last)
    (hqueue : ∀ task ∈ queue, asked task) (hregistry : ∀ chunk ∈ pass.registry.chunks, holds chunk)
    (hcompiled : ∀ chunk ∈ pass.compiled.chunks, ∀ d ∈ chunk.followed, leads d) :
    (∀ chunk ∈ last.registry.chunks, holds chunk) ∧ ∀ d ∈ last.references, leads d := by
  induction hruns with
  | done =>
    refine ⟨hregistry, fun d hd => ?_⟩
    obtain ⟨chunk, hc, hd⟩ := List.mem_flatMap.1 hd
    exact hcompiled chunk hc d hd
  | skip _ _ ih =>
    exact ih (fun task ht => hqueue task (List.mem_cons_of_mem _ ht)) hregistry hcompiled
  | fail _ _ _ ih =>
    exact ih (fun task ht => hqueue task (List.mem_cons_of_mem _ ht)) hregistry hcompiled
  | finish _ hchunk _ ih =>
    obtain ⟨hholds, hleads⟩ := h.compiled (hqueue _ List.mem_cons_self) hregistry hchunk
    refine ih (fun task ht => ?_) (fun c hc => ?_) fun c hc => ?_
    · rcases List.mem_append.1 ht with ht | ht
      · exact hqueue task (List.mem_cons_of_mem _ ht)
      · obtain ⟨d, hd, -, rfl⟩ := Pass.mem_followUps.1 ht
        exact h.followed (hleads d hd)
    · rcases Keyed.eq_or_mem_of_mem_insert hc with rfl | hc
      · exact hholds
      · exact hregistry c hc
    · rcases Keyed.eq_or_mem_of_mem_insert hc with rfl | hc
      · exact hleads
      · exact hcompiled c hc

/-- Giving references their destinations keeps the property. -/
theorem addDestination (h : Invariant config disk asked holds leads)
    (hregistry : ∀ chunk ∈ registry.chunks, holds chunk) {d : Dependency} (hd : leads d) :
    ∀ chunk ∈ (registry.addDestination d.target d.destination).1.chunks, holds chunk := by
  cases hget : registry.get? d.target with
  | none =>
    rw [Registry.addDestination_of_none hget]
    exact hregistry
  | some old =>
    cases hold : old.destinations.contains d.destination with
    | true =>
      rw [Registry.addDestination_of_contains hget hold]
      exact hregistry
    | false =>
      rw [Registry.addDestination_of_new hget hold]
      intro chunk hc
      rcases Keyed.eq_or_mem_of_mem_insert hc with rfl | hc
      · exact h.merged (hregistry old (Registry.mem_of_get? hget)) hd (Registry.same_of_get? hget)
      · exact hregistry chunk hc

theorem merge (h : Invariant config disk asked holds leads) {compiled : Registry}
    (hregistry : ∀ chunk ∈ registry.chunks, holds chunk) {references : List Dependency}
    (hreferences : ∀ d ∈ references, leads d) :
    ∀ chunk ∈ (references.foldl mergeDestination (registry, compiled)).1.chunks, holds chunk := by
  rw [merge_fst]
  induction references generalizing registry with
  | nil => exact hregistry
  | cons d rest ih =>
    exact ih (h.addDestination hregistry (hreferences d List.mem_cons_self))
      fun d hd => hreferences d (List.mem_cons_of_mem _ hd)

/-- The property holds of all chunks after a pass. -/
theorem compileAll (h : Invariant config disk asked holds leads)
    (htasks : ∀ task ∈ tasks, asked task) (hregistry : ∀ chunk ∈ registry.chunks, holds chunk) :
    ∀ chunk ∈ (compileAll config disk registry tasks).registry.chunks, holds chunk := by
  obtain ⟨calls, hruns⟩ := Pass.runs_run config disk { registry } tasks
  obtain ⟨hlast, hreferences⟩ := h.runs hruns htasks hregistry fun _ hc => by cases hc
  cases he : (({ registry } : Pass).run config disk tasks).firstError with
  | some error =>
    rw [compileAll_of_error he]
    exact hlast
  | none =>
    rw [compileAll_of_none he]
    exact h.merge hlast hreferences

end Invariant

/-- A compiled chunk lists no destination twice. -/
theorem distinct_of_compileFile {task : Task} {chunk : Chunk}
    (h : compileFile config disk registry task = .ok chunk) : chunk.Distinct := by
  obtain ⟨source, resolved, transformed, -, -, -, rfl⟩ := compileFile_eq_ok_iff.1 h
  have hfresh : (freshChunk config task source resolved transformed).Distinct :=
    List.pairwise_singleton _ _
  exact hfresh.addDestinations _

/-- Chunks list no destination twice. -/
theorem invariant_listsOnce (config : Config) (disk : Disk) :
    Invariant config disk (fun _ => True) Chunk.Distinct fun _ => True where
  compiled := fun _ _ h => ⟨distinct_of_compileFile h, fun _ _ => trivial⟩
  followed := fun _ => trivial
  merged := fun h _ _ => h.addDestination _

/-- Chunks with a primary destination that list no destination twice. -/
theorem invariant_distinct (config : Config) (disk : Disk) :
    Invariant config disk (fun _ => True)
      (fun chunk => chunk.Distinct ∧ ∃ p, chunk.destination? = some p) fun _ => True where
  compiled := fun _ _ h =>
    ⟨⟨distinct_of_compileFile h, _, destination?_of_compileFile h⟩, fun _ _ => trivial⟩
  followed := fun _ => trivial
  merged := by
    intro chunk d h hd hs
    obtain ⟨hdistinct, p, hp⟩ := h
    exact ⟨(invariant_listsOnce config disk).merged hdistinct hd hs, p,
      Chunk.destination?_addDestinations hp [d.destination]⟩

theorem distinct_compileAll
    (h : ∀ chunk ∈ registry.chunks, chunk.Distinct ∧ ∃ p, chunk.destination? = some p)
    (config : Config) (disk : Disk) (tasks : List Task) :
    ∀ chunk ∈ (compileAll config disk registry tasks).registry.chunks,
      chunk.Distinct ∧ ∃ p, chunk.destination? = some p :=
  (invariant_distinct config disk).compileAll (fun _ _ => trivial) h

/-- The chunks that a pass gives are chunks of the registry that it leaves. -/
theorem mem_of_mem_result (hs : registry.Sorted) {chunks : List Chunk}
    (h : (compileAll config disk registry tasks).result = .ok chunks) {chunk : Chunk}
    (hc : chunk ∈ chunks) : chunk ∈ (compileAll config disk registry tasks).registry.chunks := by
  have hnone := firstError_of_compileAll h
  rw [compileAll_of_none hnone] at h ⊢
  rw [← Except.ok.inj h] at hc
  have hsorted := (sorted_run hs config disk tasks).2.2
  exact Registry.mem_of_get?
    (within_merged config disk registry tasks _ _ (hsorted.get?_of_mem hc))

/-- A pass leaves a registry in order. -/
theorem sorted_compileAll (hs : registry.Sorted) (config : Config) (disk : Disk)
    (tasks : List Task) : (compileAll config disk registry tasks).registry.Sorted := by
  obtain ⟨hrun, hmerged, -⟩ := sorted_run hs config disk tasks
  cases he : (({ registry } : Pass).run config disk tasks).firstError with
  | some error => rwa [compileAll_of_error he]
  | none => rwa [compileAll_of_none he]

end Minipack.Compile
