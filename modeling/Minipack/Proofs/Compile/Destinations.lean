/-
Which destinations a pass gives out, and which chunks it hands on to be written.

Destinations come from three sides: a compiled chunk has that of its task, takes over those that its
file had before, and in the end every reference adds its own.  None is lost on the way and none is
listed twice (`Compile.keeps_destinations`, `Compile.distinct_compileAll`).

The chunks of a pass stand in two places, in the registry and among the compiled ones.  A chunk is
among the compiled ones in the end exactly when it was compiled, or when it was there before and a
reference has brought it a new destination (`Compile.mem_result_iff`), and it is the very chunk of
the registry.

The main result is `Compile.given_of_compileAll`.
-/
import Minipack.Proofs.Compile.Current
import Minipack.Proofs.Compile.Invariant

namespace Minipack.Compile

variable {config : Config} {disk : Disk} {registry compiled : Registry} {tasks : List Task}
  {calls : List Call} {last : Pass} {chunks : List Chunk}

/-! ### Chunks that join -/

/-- A destination that a chunk has, not known to another. -/
def Gained (old new : Chunk) : Prop :=
  ∃ p ∈ new.destinations, old.destinations.contains p = false

/-- A chunk that joins the compiled ones for a reference has gained the destination of it. -/
theorem gained_of_mergeDestination (d : Dependency) {file : Path}
    (h : (mergeDestination (registry, compiled) d).2.has file = true)
    (hn : compiled.has file = false) :
    ∃ old, registry.get? file = some old ∧
      (mergeDestination (registry, compiled) d).1.get? file =
        some (old.addDestination d.destination) ∧
      old.destinations.contains d.destination = false := by
  -- an update in place lets no chunk join
  have hupdate : ¬ (compiled.update d.target fun chunk =>
      chunk.addDestination d.destination).has file = true := by
    rw [Registry.has_update fun _ => Chunk.addDestination_file _]
    exact Bool.eq_false_iff.1 hn
  cases hget : registry.get? d.target with
  | none =>
    rw [mergeDestination_of_none hget] at h
    exact absurd h hupdate
  | some old =>
    cases hp : old.destinations.contains d.destination with
    | true =>
      rw [mergeDestination_of_contains hget hp] at h
      exact absurd h hupdate
    | false =>
      rw [mergeDestination_of_new hget hp] at h ⊢
      rcases (Registry.has_add _ _).1 h with hs | hhas
      · have hsame : file.Same d.target := by
          rw [Chunk.addDestination_file] at hs
          exact hs.trans (Registry.same_of_get? hget).symm
        exact ⟨old, (Registry.get?_congr hsame).trans hget, Registry.get?_add_self hs, hp⟩
      · rw [hn] at hhas
        cases hhas

/-- A chunk that joins the compiled ones for some reference has gained a destination. -/
theorem gained_of_merge (references : List Dependency) {file : Path}
    (h : (references.foldl mergeDestination (registry, compiled)).2.has file = true)
    (hn : compiled.has file = false) :
    ∃ old new, registry.get? file = some old ∧
      (references.foldl mergeDestination (registry, compiled)).1.get? file = some new ∧
      Gained old new := by
  induction references generalizing registry compiled with
  | nil =>
    rw [List.foldl_nil, hn] at h
    cases h
  | cons d rest ih =>
    cases hstep : mergeDestination (registry, compiled) d with
    | mk r c =>
    rw [List.foldl_cons, hstep] at h ⊢
    cases hjoined : c.has file with
    | true =>
      -- the chunk joins for the first reference, and keeps its destination
      obtain ⟨old, hold, hnew, hp⟩ := gained_of_mergeDestination d
        (show (mergeDestination (registry, compiled) d).2.has file = true by rw [hstep, hjoined]) hn
      rw [hstep] at hnew
      have hall : (rest.foldl mergeDestination (r, c)).1.get? file =
          some ((old.addDestination d.destination).addDestinations
            (destinationsTo rest file)) := by
        rw [get?_merge, hnew]
        rfl
      refine ⟨old, _, hold, hall, d.destination, ?_, hp⟩
      apply (Chunk.prefix_addDestinations _).subset
      rw [Chunk.addDestination, if_neg (Bool.eq_false_iff.1 hp)]
      exact List.mem_append_right _ (List.mem_singleton_self _)
    | false =>
      -- it is still the chunk of before, so the later references bring the new destination
      obtain ⟨before, new, hbefore, hnew, hgained⟩ := ih h hjoined
      have hsame := get?_mergeDestination_of_not_joined d
        (show (mergeDestination (registry, compiled) d).2.has file = false by rw [hstep, hjoined])
      rw [hstep] at hsame
      exact ⟨before, new, hsame.symm.trans hbefore, hnew, hgained⟩

/-! ### After a pass -/

/-- A chunk is handed on when its file was compiled, or when it has gained a destination. -/
theorem has_merged_iff (hruns : Pass.Runs config disk { registry } tasks calls last)
    (hn : last.firstError = none) {file : Path} {new : Chunk}
    (hnew : last.merged.1.get? file = some new) :
    last.merged.2.has file = true ↔ (∃ call ∈ calls, call.file.Same file) ∨
      ∃ old, registry.get? file = some old ∧ Gained old new := by
  constructor
  · intro h
    by_cases hcalled : ∃ call ∈ calls, call.file.Same file
    · exact Or.inl hcalled
    · have hnone : last.compiled.has file = false := by
        rw [Registry.has, hruns.compiled_eq, get?_addCalls_of_ne]
        · rfl
        · intro call hc chunk hr hs
          rw [hruns.file_eq hc hr] at hs
          exact hcalled ⟨call, hc, hs.symm⟩
      obtain ⟨old, merged, hold, hmerged, hgained⟩ := gained_of_merge _ h hnone
      rw [hruns.get?_of_not_compiled hnone] at hold
      obtain rfl : merged = new := Option.some.inj (hmerged.symm.trans hnew)
      exact Or.inr ⟨old, hold, hgained⟩
  · rintro (⟨call, hc, hs⟩ | ⟨old, hold, p, hp, hfresh⟩)
    · obtain ⟨chunk, hr⟩ := hruns.ok_of_none hn hc
      exact has_merge_compiled _ (Registry.has_of_get? (hruns.compiled_get?_of_call hc hr hs.symm))
    · -- what is not handed on has the destinations of before
      by_contra hne
      have hnone : last.merged.2.has file = false := Bool.eq_false_iff.2 hne
      have hcompiled : last.compiled.has file = false :=
        Bool.eq_false_iff.2 fun ht => Bool.eq_false_iff.1 hnone (has_merge_compiled _ ht)
      have hsame : last.merged.1.get? file = last.registry.get? file :=
        get?_merge_of_not_joined _ hnone
      rw [hnew, hruns.get?_of_not_compiled hcompiled, hold] at hsame
      obtain rfl := Option.some.inj hsame
      exact Path.contains_eq_false_iff.1 hfresh p hp (Path.same_refl p)

/-- The chunks of a pass are the chunks of the registry that were compiled or have gained a
destination. -/
theorem mem_result_iff (hs : registry.Sorted)
    (hruns : Pass.Runs config disk { registry } tasks calls last) (hn : last.firstError = none)
    (chunk : Chunk) :
    chunk ∈ last.merged.2.chunks ↔ last.merged.1.get? chunk.file = some chunk ∧
      ((∃ call ∈ calls, call.file.Same chunk.file) ∨
        ∃ old, registry.get? chunk.file = some old ∧ Gained old chunk) := by
  obtain ⟨-, hsorted⟩ : last.merged.1.Sorted ∧ last.merged.2.Sorted := by
    rw [hruns.last_eq]
    exact (sorted_run hs config disk tasks).2
  have hwithin : last.merged.2.Within last.merged.1 :=
    within_merge (hruns.within Registry.Within.empty) _
  constructor
  · intro hc
    have hgiven := hsorted.get?_of_mem hc
    have hstored := hwithin _ _ hgiven
    exact ⟨hstored, (has_merged_iff hruns hn hstored).1 (Registry.has_of_get? hgiven)⟩
  · rintro ⟨hstored, hcause⟩
    obtain ⟨given, hgiven⟩ := Registry.has_iff.1 ((has_merged_iff hruns hn hstored).2 hcause)
    obtain rfl : given = chunk := Option.some.inj ((hwithin _ _ hgiven).symm.trans hstored)
    exact Registry.mem_of_get? hgiven

/-- No file loses a destination in a pass, whatever it is compiled for. -/
theorem keeps_destinations (hruns : Pass.Runs config disk { registry } tasks calls last)
    (hn : last.firstError = none) {file p : Path} (h : registry.Writes file p) :
    last.merged.1.Writes file p := by
  obtain ⟨old, hold, hp⟩ := h
  by_cases hcalled : ∃ call ∈ calls, call.file.Same file
  · obtain ⟨call, hc, hs⟩ := hcalled
    obtain ⟨made, hmade⟩ := hruns.ok_of_none hn hc
    obtain ⟨before, hbefore, hresult⟩ := hruns.result_eq hc
    obtain ⟨ps, hmerged⟩ := exists_get?_merged hruns hc hmade hs.symm
    refine ⟨made.addDestinations ps, hmerged, contains_addDestinations_of_contains ps ?_⟩
    apply contains_of_compileFile (hresult.trans hmade)
    · exact hbefore.trans ((Registry.get?_congr hs).trans hold)
    · exact hp
  · have hnone : last.registry.get? file = some old :=
      (hruns.get?_of_not_called fun call hc hs => hcalled ⟨call, hc, hs⟩).trans hold
    refine ⟨old.addDestinations (destinationsTo last.references file), ?_,
      contains_addDestinations_of_contains _ hp⟩
    rw [get?_merged, hnone]
    rfl

/-- What a pass hands out: destinations to the chunks of the registry, and chunks to be written. -/
structure Given (registry : Registry) (calls : List Call) (after : Registry)
    (chunks : List Chunk) : Prop where
  /-- Every call succeeds, and each reference of its chunk that is not embedded leads to a chunk
  with the destination of the reference. -/
  references : ∀ call ∈ calls, ∃ chunk, call.result = .ok chunk ∧ ∀ d ∈ chunk.dependencies,
    d.embedded = false → after.Writes d.target d.destination
  /-- No file loses a destination. -/
  kept : ∀ file p, registry.Writes file p → after.Writes file p
  /-- No destination is listed twice. -/
  distinct : ∀ chunk ∈ after.chunks, chunk.Distinct
  /-- The chunks come in the order of their paths, each once. -/
  ordered : Keyed.Sorted Chunk.file chunks
  /-- They are the chunks of the registry that were compiled or were there before and have gained a
  destination. -/
  given : ∀ chunk, chunk ∈ chunks ↔ after.get? chunk.file = some chunk ∧
    ((∃ call ∈ calls, call.file.Same chunk.file) ∨
      ∃ old, registry.get? chunk.file = some old ∧ Gained old chunk)

/-- After a pass that succeeds every reference of a compiled chunk is answered for, all destinations
are kept and listed once, and what is handed on are the chunks that were compiled or have gained a
destination. -/
theorem given_of_compileAll (hs : registry.Sorted)
    (hdistinct : ∀ chunk ∈ registry.chunks, chunk.Distinct)
    (h : (compileAll config disk registry tasks).result = .ok chunks) :
    ∃ calls, Pass.Runs config disk { registry } tasks calls
        (({ registry } : Pass).run config disk tasks) ∧
      Given registry calls (compileAll config disk registry tasks).registry chunks := by
  obtain ⟨calls, hruns⟩ := Pass.runs_run config disk { registry } tasks
  have hn := firstError_of_compileAll h
  have hchunks : (({ registry } : Pass).run config disk tasks).merged.2.chunks = chunks := by
    rw [compileAll_of_none hn] at h
    exact Except.ok.inj h
  refine ⟨calls, hruns, ?_⟩
  have hafter : ∀ chunk ∈ (compileAll config disk registry tasks).registry.chunks,
      chunk.Distinct :=
    (invariant_listsOnce config disk).compileAll (fun _ _ => trivial) hdistinct
  rw [registry_of_compileAll h] at hafter ⊢
  rw [← hchunks]
  constructor
  · intro call hc
    obtain ⟨chunk, hr⟩ := hruns.ok_of_none hn hc
    refine ⟨chunk, hr, fun d hd he => ?_⟩
    exact writes_of_followed hruns hn hc hr (Chunk.mem_followed.2 ⟨hd, he⟩)
  · intro file p hp
    exact keeps_destinations hruns hn hp
  · exact hafter
  · exact (sorted_run hs config disk tasks).2.2
  · exact mem_result_iff hs hruns hn

/-- A style that an earlier pass has published for itself. -/
def published : Registry where
  chunks := [{ file := ⟨"/src/b.wxss"⟩, kind := .entry, destinations := [⟨"/dist/static/b.wxss"⟩] }]

/-- A style that imports it is compiled, and the published style is handed on with it. -/
theorem given_of_published : ∃ chunks calls,
    (compileAll (Config.of ⟨"/"⟩) circle published [{ file := ⟨"/src/a.wxss"⟩ }]).result =
        .ok chunks ∧
      Given published calls
        (compileAll (Config.of ⟨"/"⟩) circle published [{ file := ⟨"/src/a.wxss"⟩ }]).registry
        chunks := by
  have hok : ∃ chunks, (compileAll (Config.of ⟨"/"⟩) circle published
      [{ file := ⟨"/src/a.wxss"⟩ }]).result = .ok chunks :=
    compileAll_ok_of_runUpTo (n := 4) (by decide +kernel)
  obtain ⟨chunks, h⟩ := hok
  have hdistinct : ∀ chunk ∈ published.chunks, chunk.Distinct := by
    intro chunk hc
    rw [List.mem_singleton.1 hc]
    exact List.pairwise_singleton _ _
  obtain ⟨calls, -, hgiven⟩ := given_of_compileAll (List.pairwise_singleton _ _) hdistinct h
  exact ⟨chunks, calls, h, hgiven⟩

end Minipack.Compile
