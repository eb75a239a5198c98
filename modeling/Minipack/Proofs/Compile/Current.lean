/-
Chunks that are up to date.

A chunk is *current* when compiling its file in its role gives it, whatever its destinations
(`Compile.Current`).  What it refers to does not depend on its role, because loaders only embed
files (`Compile.followed_eq`).

A registry is up to date when all its chunks are current and every reference that is followed leads
to a chunk with the destination of the reference (`Compile.UpToDate`).  A pass that succeeds leaves
such a registry, as long as its tasks are for all files whose chunks are not current
(`Compile.upToDate_of_pass`).  It keeps every chunk in its role and with its destinations
(`Compile.keeps_of_pass`).
-/
import Minipack.Flush
import Minipack.Proofs.Compile.Reach

namespace Minipack

namespace Registry

/-- The chunk of a file is written to a destination. -/
def Writes (registry : Registry) (file p : Path) : Prop :=
  ∃ chunk, registry.get? file = some chunk ∧ chunk.destinations.contains p = true

/-- Every chunk is still there, in its role and with its destinations. -/
def Keeps (old new : Registry) : Prop :=
  ∀ file chunk, old.get? file = some chunk → ∃ kept, new.get? file = some kept ∧
    kept.file = chunk.file ∧ kept.kind = chunk.kind ∧
      ∀ p, chunk.destinations.contains p = true → kept.destinations.contains p = true

/-- Every chunk is still there, in its role, with its destinations before the others. -/
def Stays (old new : Registry) : Prop :=
  ∀ file chunk, old.get? file = some chunk → ∃ kept, new.get? file = some kept ∧
    kept.kind = chunk.kind ∧ chunk.destinations <+: kept.destinations

variable {old new : Registry}

theorem Keeps.writes (h : old.Keeps new) {file p : Path} (hw : old.Writes file p) :
    new.Writes file p := by
  obtain ⟨chunk, hget, hp⟩ := hw
  obtain ⟨kept, hkept, -, -, hdestinations⟩ := h file chunk hget
  exact ⟨kept, hkept, hdestinations p hp⟩

end Registry

namespace Compile

variable {config : Config} {disk : Disk} {registry registry' : Registry} {task task' : Task}
  {chunk chunk' : Chunk} {tasks : List Task}

/-! ### Current chunks -/

/-- Compiling the file of a chunk in the role of the chunk gives the chunk, whatever its
destinations. -/
def Current (config : Config) (disk : Disk) (chunk : Chunk) : Prop :=
  compileFile config disk {} { file := chunk.file, kind := chunk.kind } =
    .ok { chunk with destinations := [config.destination chunk.file] }

theorem current_of_compileFile (h : compileFile config disk registry task = .ok chunk) :
    Current config disk chunk := by
  obtain ⟨source, resolved, transformed, hs, hr, ht, rfl⟩ := compileFile_eq_ok_iff.1 h
  rw [Current, Chunk.addDestinations_file, Chunk.addDestinations_kind, compileFile_eq_ok_iff]
  refine ⟨source, resolved, transformed, hs, hr, ht, ?_⟩
  rw [Chunk.addDestinations_eq]
  rfl

/-- Whether a chunk is current does not depend on its destinations. -/
theorem Current.addDestinations (h : Current config disk chunk) (ps : List Path) :
    Current config disk (chunk.addDestinations ps) := by
  rw [Chunk.addDestinations_eq]
  exact h

/-- Two chunks of one file in one role that are current are written as the same bytes. -/
theorem Current.render_eq (h : Current config disk chunk) (h' : Current config disk chunk')
    (hfile : chunk.file = chunk'.file) (hkind : chunk.kind = chunk'.kind) (settings : Settings) :
    Flush.render settings chunk = Flush.render settings chunk' := by
  have htask : ({ file := chunk.file, kind := chunk.kind } : Task) =
      { file := chunk'.file, kind := chunk'.kind } := by
    rw [hfile, hkind]
  unfold Current at h h'
  rw [htask, h'] at h
  -- what is rendered does not depend on the destinations
  have hrender := congrArg (Flush.render settings) (Except.ok.inj h).symm
  exact hrender

/-- Loaders only embed files. -/
theorem embedded_of_runLoaders {pass : LoaderPass} {bindings : List LoaderBinding} {file : Path}
    {kind : ChunkKind} {content : ByteArray} {map : Option String} {made : Transformed}
    (h : runLoaders config pass bindings file kind content map = .ok made) :
    ∀ d ∈ made.dependencies, d.embedded = true := by
  refine of_runLoaders (P := fun made => ∀ d ∈ made.dependencies, d.embedded = true)
    (fun d hd => nomatch hd) (fun start hstart binding _ output _ => ?_) h
  intro d hd
  rcases List.mem_append.1 hd with hd | hd
  · exact hstart d hd
  · obtain ⟨target, -, rfl⟩ := List.mem_map.1 hd
    rfl

/-- What a compiled file refers to is what was resolved. -/
theorem followed_of_compileFile (h : compileFile config disk registry task = .ok chunk) :
    ∃ source resolved, readSource disk task.file = .ok source ∧
      Resolve.resolveFile config disk task.file source = .ok resolved ∧
      chunk.followed = resolved.dependencies.filter fun d => !d.embedded := by
  obtain ⟨source, resolved, transformed, hs, hr, ht, rfl⟩ := compileFile_eq_ok_iff.1 h
  refine ⟨source, resolved, hs, hr, ?_⟩
  have hnone : transformed.dependencies.filter (fun d => !d.embedded) = [] := by
    rw [List.filter_eq_nil_iff]
    intro d hd
    rw [embedded_of_runLoaders ht d hd]
    exact Bool.false_ne_true
  rw [Chunk.followed, Chunk.addDestinations_dependencies]
  show (resolved.dependencies ++ transformed.dependencies).filter _ = _
  rw [List.filter_append, hnone, List.append_nil]

/-- Without rules no loader adds references to those of the source. -/
theorem dependencies_of_compileFile (hrules : config.rules = [])
    (h : compileFile config disk registry task = .ok chunk) :
    ∃ source resolved, readSource disk task.file = .ok source ∧
      Resolve.resolveFile config disk task.file source = .ok resolved ∧
      chunk.dependencies = resolved.dependencies := by
  obtain ⟨source, resolved, transformed, hs, hr, ht, rfl⟩ := compileFile_eq_ok_iff.1 h
  refine ⟨source, resolved, hs, hr, ?_⟩
  have hbindings : bindingsOf config task.file = [] := by
    rw [bindingsOf, Config.rule?, hrules]
    rfl
  have hnone : transformed.dependencies = [] := by
    rw [hbindings] at ht
    rw [← Except.ok.inj ht]
  rw [Chunk.addDestinations_dependencies]
  show resolved.dependencies ++ transformed.dependencies = _
  rw [hnone, List.append_nil]

/-- What a file refers to does not depend on its role. -/
theorem followed_eq (h : compileFile config disk registry task = .ok chunk)
    (h' : compileFile config disk registry' task' = .ok chunk') (hfile : task.file = task'.file) :
    chunk.followed = chunk'.followed := by
  obtain ⟨source, resolved, hs, hr, hfollowed⟩ := followed_of_compileFile h
  obtain ⟨source', resolved', hs', hr', hfollowed'⟩ := followed_of_compileFile h'
  rw [hfile, hs'] at hs
  obtain rfl := Except.ok.inj hs
  rw [hfile, hr'] at hr
  obtain rfl := Except.ok.inj hr
  rw [hfollowed, hfollowed']

/-- Compiling a chunk again keeps its destinations. -/
theorem contains_of_compileFile (h : compileFile config disk registry task = .ok chunk)
    {old : Chunk} (hold : registry.get? task.file = some old) {p : Path}
    (hp : old.destinations.contains p = true) : chunk.destinations.contains p = true := by
  have hknown : knownDestinations registry task.file = old.destinations := by
    rw [knownDestinations, hold]
    rfl
  rw [compileFile_eq, hknown] at h
  obtain ⟨made, -, rfl⟩ := map_eq_ok.1 h
  obtain ⟨q, hq, hs⟩ := Path.contains_iff.1 hp
  have hmade : (made.addDestinations old.destinations).destinations.contains q = true :=
    Chunk.contains_addDestinations hq
  obtain ⟨r, hr, hs'⟩ := Path.contains_iff.1 hmade
  exact Path.contains_iff.2 ⟨r, hr, hs'.trans hs⟩

/-- A compiled chunk has the destination of its task. -/
theorem contains_destination (h : compileFile config disk registry task = .ok chunk) :
    chunk.destinations.contains (task.destination.getD (config.destination task.file)) = true := by
  obtain ⟨source, resolved, transformed, -, -, -, rfl⟩ := compileFile_eq_ok_iff.1 h
  refine Path.contains_iff.2 ⟨_, (Chunk.prefix_addDestinations _).subset ?_, rfl⟩
  exact List.mem_singleton_self _

/-! ### Passes -/

/-- All chunks are current, and all references that are followed lead to a chunk with their
destination. -/
structure UpToDate (config : Config) (disk : Disk) (registry : Registry) : Prop where
  sorted : registry.Sorted
  current : ∀ chunk ∈ registry.chunks, Current config disk chunk
  closed : ∀ chunk ∈ registry.chunks, ∀ d ∈ chunk.followed, registry.Writes d.target d.destination

section

variable {last : Pass} {calls : List Call}

theorem get?_merged (pass : Pass) (file : Path) :
    pass.merged.1.get? file = (pass.registry.get? file).map
      (Chunk.addDestinations · (destinationsTo pass.references file)) :=
  get?_merge pass.references file

/-- A compiled file finds the chunk of its call, with more destinations. -/
theorem exists_get?_merged (hruns : Pass.Runs config disk { registry } tasks calls last)
    {call : Call} (hc : call ∈ calls) (hmade : call.result = .ok chunk) {file : Path}
    (hs : file.Same call.file) :
    ∃ ps, last.merged.1.get? file = some (chunk.addDestinations ps) := by
  refine ⟨destinationsTo last.references file, ?_⟩
  rw [get?_merged, hruns.get?_of_call hc hmade hs]
  rfl

/-- A chunk after a pass comes from a call of its file, or the file had it before and is not called.
-/
theorem called_or_kept (hruns : Pass.Runs config disk { registry } tasks calls last)
    (hn : last.firstError = none) {file : Path} (hget : last.merged.1.get? file = some chunk) :
    ∃ made ps, chunk = made.addDestinations ps ∧
      ((∃ call ∈ calls, call.file.Same file ∧ call.result = .ok made) ∨
        registry.get? file = some made ∧ ∀ call ∈ calls, ¬ call.file.Same file) := by
  rw [get?_merged] at hget
  obtain ⟨made, hmade, hadd⟩ := Option.map_eq_some_iff.1 hget
  refine ⟨made, _, hadd.symm, ?_⟩
  by_cases hcalled : ∃ call ∈ calls, call.file.Same file
  · obtain ⟨call, hcall, hs⟩ := hcalled
    obtain ⟨made', hmade'⟩ := hruns.ok_of_none hn hcall
    obtain rfl : made' = made :=
      Option.some.inj ((hruns.get?_of_call hcall hmade' hs.symm).symm.trans hmade)
    exact Or.inl ⟨call, hcall, hs, hmade'⟩
  · have hnone : ∀ call ∈ calls, ¬ call.file.Same file := fun call hcall hs =>
      hcalled ⟨call, hcall, hs⟩
    exact Or.inr ⟨(hruns.get?_of_not_called hnone).symm.trans hmade, hnone⟩

/-- After a pass the target of a reference that is followed has the destination of the reference. -/
theorem writes_of_followed (hruns : Pass.Runs config disk { registry } tasks calls last)
    (hn : last.firstError = none) {call : Call} (hc : call ∈ calls)
    (hmade : call.result = .ok chunk)
    {d : Dependency} (hd : d ∈ chunk.followed) :
    last.merged.1.Writes d.target d.destination := by
  have hreference : d ∈ last.references :=
    List.mem_flatMap.2 ⟨chunk,
      Registry.mem_of_get? (hruns.compiled_get?_of_call hc hmade (Path.same_refl _)), hd⟩
  have hdestination : d.destination ∈ destinationsTo last.references d.target :=
    List.mem_map.2 ⟨d, List.mem_filter.2 ⟨hreference, Path.beq_iff_same.2 (Path.same_refl _)⟩, rfl⟩
  have hhas : last.registry.has d.target = true := by
    rcases hruns.called_of_followed hc hmade hd with hhas | htried | ⟨other, hother, hs⟩
    · exact hruns.has_of_has hhas
    · cases htried
    · obtain ⟨c, hok⟩ := hruns.ok_of_none hn hother
      exact Registry.has_of_get? (hruns.get?_of_call hother hok hs.symm)
  obtain ⟨target, htarget⟩ := Registry.has_iff.1 hhas
  refine ⟨target.addDestinations (destinationsTo last.references d.target), ?_,
    Chunk.contains_addDestinations hdestination⟩
  rw [get?_merged, htarget]
  rfl

theorem contains_addDestinations_of_contains {p : Path} (ps : List Path)
    (h : chunk.destinations.contains p = true) :
    (chunk.addDestinations ps).destinations.contains p = true := by
  obtain ⟨q, hq, hs⟩ := Path.contains_iff.1 h
  exact Path.contains_iff.2 ⟨q, (Chunk.prefix_addDestinations ps).subset hq, hs⟩

/-- Where the tasks are known chunks in their roles, a file that had a chunk is called for it. -/
theorem task_of_get? (hruns : Pass.Runs config disk { registry } tasks calls last)
    (hsorted : registry.Sorted)
    (htasks : ∀ task ∈ tasks, registry.has task.file = true →
      ∃ chunk ∈ registry.chunks, task = .ofChunk chunk)
    {call : Call} (hc : call ∈ calls) {file : Path} (hs : call.file.Same file)
    (hget : registry.get? file = some chunk) :
    call.task = .ofChunk chunk ∧ registry.get? call.file = some chunk := by
  have hget' : registry.get? call.file = some chunk := (Registry.get?_congr hs).trans hget
  have hhas : registry.has call.file = true := Registry.has_of_get? hget'
  obtain ⟨old, hold, htask⟩ := htasks _ (hruns.mem_queue_of_has hc hhas) hhas
  have hfile : call.file = old.file := congrArg Task.file htask
  have hgot := hget'
  rw [hfile, hsorted.get?_of_mem hold] at hgot
  obtain rfl : old = chunk := Option.some.inj hgot
  exact ⟨htask, hget'⟩

/-- A pass over known chunks in their roles keeps all chunks. -/
theorem keeps_of_pass (hruns : Pass.Runs config disk { registry } tasks calls last)
    (hn : last.firstError = none) (hsorted : registry.Sorted)
    (htasks : ∀ task ∈ tasks, registry.has task.file = true →
      ∃ chunk ∈ registry.chunks, task = .ofChunk chunk) :
    registry.Keeps last.merged.1 := by
  intro file chunk hget
  by_cases hcalled : ∃ call ∈ calls, call.file.Same file
  · obtain ⟨call, hc, hs⟩ := hcalled
    obtain ⟨made, hmade⟩ := hruns.ok_of_none hn hc
    obtain ⟨htask, hget'⟩ := task_of_get? hruns hsorted htasks hc hs hget
    obtain ⟨before, hbefore, hresult⟩ := hruns.result_eq hc
    rw [hmade] at hresult
    obtain ⟨ps, hmerged⟩ := exists_get?_merged hruns hc hmade hs.symm
    refine ⟨made.addDestinations ps, hmerged, ?_, ?_, ?_⟩
    · rw [Chunk.addDestinations_file, file_of_compileFile hresult, htask]
      rfl
    · rw [Chunk.addDestinations_kind, kind_of_compileFile hresult, htask]
      rfl
    · intro p hp
      exact contains_addDestinations_of_contains _
        (contains_of_compileFile hresult (hbefore.trans hget') hp)
  · have hnone : ∀ call ∈ calls, ¬ call.file.Same file := fun call hc hs => hcalled ⟨call, hc, hs⟩
    refine ⟨chunk.addDestinations (destinationsTo last.references file), ?_,
      Chunk.addDestinations_file _, Chunk.addDestinations_kind _,
      fun p hp => contains_addDestinations_of_contains _ hp⟩
    rw [get?_merged, hruns.get?_of_not_called hnone]
    exact congrArg (Option.map _) hget

/-- Compiling a known chunk again in its role keeps its destinations at the front. -/
theorem prefix_of_compileFile {old : Chunk}
    (h : compileFile config disk registry (.ofChunk old) = .ok chunk) (hd : old.Distinct)
    (hold : registry.get? old.file = some old) : old.destinations <+: chunk.destinations := by
  obtain ⟨source, resolved, transformed, -, -, -, rfl⟩ := compileFile_eq_ok_iff.1 h
  have hknown : knownDestinations registry (Task.ofChunk old).file = old.destinations := by
    show ((registry.get? old.file).map Chunk.destinations).getD [] = old.destinations
    rw [hold]
    rfl
  rw [hknown]
  unfold Chunk.Distinct at hd
  cases hdestinations : old.destinations with
  | nil => exact List.nil_prefix
  | cons p ps =>
    rw [hdestinations] at hd
    -- the chunk starts with the primary destination
    have hfresh : (freshChunk config (.ofChunk old) source resolved transformed).destinations =
        [p] := by
      show [old.destination?.getD _] = [p]
      rw [Chunk.destination?, hdestinations]
      rfl
    have hfirst : (freshChunk config (.ofChunk old) source resolved transformed).addDestination p =
        freshChunk config (.ofChunk old) source resolved transformed := by
      apply Chunk.addDestination_of_contains
      rw [hfresh]
      exact Path.contains_iff.2 ⟨p, List.mem_singleton_self p, Path.same_refl p⟩
    rw [Chunk.addDestinations_cons, hfirst, Chunk.destinations_addDestinations, hfresh]
    · exact List.prefix_rfl
    · rw [hfresh]
      exact hd

/-- A pass over known chunks in their roles lets all chunks stay, even where it fails. -/
theorem stays_of_compileAll (hsorted : registry.Sorted)
    (htasks : ∀ task ∈ tasks, registry.has task.file = true →
      ∃ chunk ∈ registry.chunks, task = .ofChunk chunk)
    (hdistinct : ∀ chunk ∈ registry.chunks, chunk.Distinct) :
    registry.Stays (compileAll config disk registry tasks).registry := by
  obtain ⟨calls, hruns⟩ := Pass.runs_run config disk { registry } tasks
  have hstays : registry.Stays (({ registry } : Pass).run config disk tasks).registry := by
    intro file chunk hget
    -- a chunk is replaced only by a call, for a task in the role it has
    by_cases hcalled : ∃ call ∈ calls, call.file.Same file
    · obtain ⟨call, hc, hs⟩ := hcalled
      cases hresult : call.result with
      | error error =>
        exact ⟨chunk, (hruns.get?_of_failed hc hresult hs.symm).trans hget, rfl, List.prefix_rfl⟩
      | ok made =>
        obtain ⟨htask, hget'⟩ := task_of_get? hruns hsorted htasks hc hs hget
        obtain ⟨before, hbefore, hmade⟩ := hruns.result_eq hc
        have hfile : call.file = chunk.file := congrArg Task.file htask
        rw [hget', hfile] at hbefore
        rw [hresult, htask] at hmade
        refine ⟨made, hruns.get?_of_call hc hresult hs.symm, kind_of_compileFile hmade, ?_⟩
        exact prefix_of_compileFile hmade (hdistinct chunk (Registry.mem_of_get? hget)) hbefore
    · have hnone : ∀ call ∈ calls, ¬ call.file.Same file := fun call hc hs =>
        hcalled ⟨call, hc, hs⟩
      exact ⟨chunk, (hruns.get?_of_not_called hnone).trans hget, rfl, List.prefix_rfl⟩
  cases he : (({ registry } : Pass).run config disk tasks).firstError with
  | some error =>
    rw [compileAll_of_error he]
    exact hstays
  | none =>
    rw [compileAll_of_none he]
    intro file chunk hget
    obtain ⟨kept, hkept, hkind, hprefix⟩ := hstays file chunk hget
    have hmerged := get?_merged (({ registry } : Pass).run config disk tasks) file
    rw [hkept] at hmerged
    refine ⟨_, hmerged, ?_, hprefix.trans (Chunk.prefix_addDestinations _)⟩
    rw [Chunk.addDestinations_kind, hkind]

/-- A pass that takes care of the chunks that are not current leaves all up to date. -/
theorem upToDate_of_pass (hruns : Pass.Runs config disk { registry } tasks calls last)
    (hn : last.firstError = none) (hsorted : registry.Sorted)
    (htasks : ∀ task ∈ tasks, registry.has task.file = true →
      ∃ chunk ∈ registry.chunks, task = .ofChunk chunk)
    (hcurrent : ∀ chunk ∈ registry.chunks, Current config disk chunk ∨
      ∃ task ∈ tasks, task.file.Same chunk.file)
    (hclosed : ∀ chunk ∈ registry.chunks, ∀ d ∈ chunk.followed,
      registry.Writes d.target d.destination) :
    UpToDate config disk last.merged.1 := by
  have hkeeps := keeps_of_pass hruns hn hsorted htasks
  have hsorted' : last.merged.1.Sorted := by
    rw [hruns.last_eq]
    exact (sorted_run hsorted config disk tasks).2.1
  -- a chunk comes from a call, or it was there before and is current
  have hcases : ∀ chunk ∈ last.merged.1.chunks, ∃ made, ∃ ps, chunk = made.addDestinations ps ∧
      ((∃ call ∈ calls, call.result = .ok made) ∨
        made ∈ registry.chunks ∧ Current config disk made) := by
    intro chunk hc
    obtain ⟨made, ps, hadd, ⟨call, hcall, -, hmade⟩ | ⟨hold, hnone⟩⟩ :=
      called_or_kept hruns hn (hsorted'.get?_of_mem hc)
    · exact ⟨made, ps, hadd, Or.inl ⟨call, hcall, hmade⟩⟩
    · have hmem := Registry.mem_of_get? hold
      refine ⟨made, ps, hadd, Or.inr ⟨hmem, (hcurrent made hmem).resolve_right ?_⟩⟩
      rintro ⟨task, ht, hs⟩
      rcases hruns.called_of_mem_queue ht with htried | ⟨call, hcall, hs'⟩
      · cases htried
      · exact hnone call hcall (hs'.trans (hs.trans (Registry.same_of_get? hold).symm))
  refine ⟨hsorted', fun chunk hc => ?_, fun chunk hc d hd => ?_⟩
  · obtain ⟨made, ps, rfl, ⟨call, hcall, hmade⟩ | ⟨-, hmade⟩⟩ := hcases chunk hc
    · obtain ⟨before, -, hresult⟩ := hruns.result_eq hcall
      exact (current_of_compileFile (hresult.trans hmade)).addDestinations ps
    · exact hmade.addDestinations ps
  · obtain ⟨made, ps, rfl, hmade⟩ := hcases chunk hc
    rw [Chunk.followed_congr (Chunk.addDestinations_dependencies ps)] at hd
    obtain ⟨call, hcall, hmade⟩ | ⟨hmem, -⟩ := hmade
    · exact writes_of_followed hruns hn hcall hmade hd
    · exact hkeeps.writes (hclosed made hmem d hd)

end

/-- A pass that begins with no chunks leaves them up to date. -/
theorem upToDate_compileAll {chunks : List Chunk}
    (h : (compileAll config disk {} tasks).result = .ok chunks) :
    UpToDate config disk (compileAll config disk {} tasks).registry := by
  obtain ⟨calls, hruns⟩ := Pass.runs_run config disk { registry := {} } tasks
  have hnew : ∀ task ∈ tasks, ({} : Registry).has task.file = true →
      ∃ chunk ∈ ({} : Registry).chunks, task = .ofChunk chunk := fun task _ hhas => by cases hhas
  rw [registry_of_compileAll h]
  exact upToDate_of_pass hruns (firstError_of_compileAll h) Registry.Sorted.empty hnew
    (fun _ hc => by cases hc) (fun _ hc => by cases hc)

end Compile

end Minipack
