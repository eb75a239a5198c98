/-
What compiling one file gives.

A file compiles when it can be read, its references can be resolved and its loaders succeed
(`Compile.compileFile_eq_ok_iff`).  The registry is asked only for the destinations that the file
had before.  All else comes from the configuration, the disk and the task, so compiling against a
registry is compiling against the empty one and then adding the known destinations
(`Compile.compileFile_eq`).
-/
import Minipack.Compile.File
import Minipack.Proofs.Chunk
import Minipack.Proofs.Outcome

namespace Minipack

/-! ### Loaders -/

section

variable {config : Config} {pass : LoaderPass} {bindings : List LoaderBinding} {file : Path}
  {kind : ChunkKind} {content : ByteArray} {map : Option String} {made next : Transformed}

theorem Transformed.step_eq_ok_iff {binding : LoaderBinding} :
    Transformed.step config file kind made binding = .ok next ↔
      ∃ output, binding.loader.transform ⟨file, made.content, made.sourceMap, kind⟩
          (config.loaderContext binding.options) = .ok output ∧
        next = ⟨output.content, output.sourceMap.or made.sourceMap,
          made.dependencies ++ output.files.map (Transformed.embed config file)⟩ := by
  unfold Transformed.step
  dsimp only
  split
  · next heq => exact ⟨nofun, fun ⟨_, houtput, _⟩ => nomatch heq.symm.trans houtput⟩
  · next output heq =>
    rw [Except.ok.injEq]
    constructor
    · rintro rfl
      exact ⟨output, heq, rfl⟩
    · rintro ⟨output', houtput, rfl⟩
      obtain rfl := Except.ok.inj (heq.symm.trans houtput)
      rfl

/-- What holds at the start of a chain of loaders, and is kept by each of them, holds at its end. -/
theorem of_runLoaders {P : Transformed → Prop} (hstart : P ⟨content, map, []⟩)
    (hstep : ∀ made, P made → ∀ binding ∈ bindings, ∀ output,
      binding.loader.transform ⟨file, made.content, made.sourceMap, kind⟩
          (config.loaderContext binding.options) = .ok output →
        P ⟨output.content, output.sourceMap.or made.sourceMap,
          made.dependencies ++ output.files.map (Transformed.embed config file)⟩)
    (h : runLoaders config pass bindings file kind content map = .ok made) : P made := by
  unfold runLoaders at h
  have hbound : ∀ binding ∈ bindings.filter (pass.includes kind), binding ∈ bindings :=
    fun _ hb => List.mem_of_mem_filter hb
  generalize bindings.filter (pass.includes kind) = chain at h hbound
  generalize (⟨content, map, []⟩ : Transformed) = start at h hstart
  induction chain generalizing start with
  | nil =>
    rw [← pure_eq_ok.1 h]
    exact hstart
  | cons binding rest ih =>
    rw [List.foldlM_cons] at h
    obtain ⟨next, hnext, h⟩ := bind_eq_ok.1 h
    obtain ⟨output, houtput, rfl⟩ := Transformed.step_eq_ok_iff.1 hnext
    exact ih (fun b hb => hbound b (List.mem_cons_of_mem _ hb)) _ h
      (hstep start hstart binding (hbound binding List.mem_cons_self) output houtput)

end

namespace Compile

variable {config : Config} {disk : Disk} {registry : Registry} {task : Task} {chunk : Chunk}

/-- The destinations that a registry knows for a file. -/
def knownDestinations (registry : Registry) (file : Path) : List Path :=
  ((registry.get? file).map Chunk.destinations).getD []

/-- The loaders that are bound to a file. -/
def bindingsOf (config : Config) (file : Path) : List LoaderBinding :=
  ((config.rule? file).map Rule.loaders).getD []

/-- The chunk of a compiled source, with the destination of its task alone. -/
def freshChunk (config : Config) (task : Task) (source : ByteArray) (resolved : Resolve.Resolved)
    (transformed : Transformed) : Chunk where
  file := task.file
  kind := task.kind
  content := transformed.content
  sourceMap := transformed.sourceMap
  dependencies := resolved.dependencies ++ transformed.dependencies
  destinations := [task.destination.getD (config.destination task.file)]
  rule := config.rule? task.file
  hash := digest source

theorem readSource_eq_ok_iff {file : Path} {source : ByteArray} :
    readSource disk file = .ok source ↔ disk.read file = .ok source := by
  unfold readSource
  cases disk.read file with
  | ok content => simp
  | error fault => cases fault <;> simp

/-- A file compiles when it can be read, resolved and run through its loaders. -/
theorem compileFile_eq_ok_iff :
    compileFile config disk registry task = .ok chunk ↔
      ∃ source resolved transformed,
        readSource disk task.file = .ok source ∧
        Resolve.resolveFile config disk task.file source = .ok resolved ∧
        runLoaders config .compile (bindingsOf config task.file) task.file task.kind
          resolved.content none = .ok transformed ∧
        chunk = (freshChunk config task source resolved transformed).addDestinations
          (knownDestinations registry task.file) := by
  unfold compileFile
  cases hs : readSource disk task.file with
  | error error => simp
  | ok source =>
    simp only [compileSource, bind_eq_ok, pure_eq_ok]
    constructor
    · rintro ⟨resolved, hr, transformed, ht, rfl⟩
      exact ⟨source, resolved, transformed, rfl, hr, ht, rfl⟩
    · rintro ⟨source', resolved, transformed, hs', hr, ht, rfl⟩
      obtain rfl := Except.ok.inj hs'
      exact ⟨resolved, hr, transformed, ht, rfl⟩

/-- Compiling against a registry only adds the destinations it knows. -/
theorem compileFile_eq (config : Config) (disk : Disk) (registry : Registry) (task : Task) :
    compileFile config disk registry task =
      (compileFile config disk {} task).map fun chunk =>
        chunk.addDestinations (knownDestinations registry task.file) := by
  unfold compileFile
  cases readSource disk task.file with
  | error error => rfl
  | ok source =>
    simp only [compileSource, bind, Except.bind, pure, Except.pure]
    cases Resolve.resolveFile config disk task.file source with
    | error error => rfl
    | ok resolved =>
      dsimp only
      cases runLoaders config .compile (((config.rule? task.file).map Rule.loaders).getD [])
          task.file task.kind resolved.content none with
      | error error => rfl
      | ok transformed => rfl

theorem file_of_compileFile (h : compileFile config disk registry task = .ok chunk) :
    chunk.file = task.file := by
  obtain ⟨source, resolved, transformed, -, -, -, rfl⟩ := compileFile_eq_ok_iff.1 h
  exact Chunk.addDestinations_file _

theorem kind_of_compileFile (h : compileFile config disk registry task = .ok chunk) :
    chunk.kind = task.kind := by
  obtain ⟨source, resolved, transformed, -, -, -, rfl⟩ := compileFile_eq_ok_iff.1 h
  exact Chunk.addDestinations_kind _

/-- The primary destination of a compiled chunk is that of its task. -/
theorem destination?_of_compileFile (h : compileFile config disk registry task = .ok chunk) :
    chunk.destination? = some (task.destination.getD (config.destination task.file)) := by
  obtain ⟨source, resolved, transformed, -, -, -, rfl⟩ := compileFile_eq_ok_iff.1 h
  exact Chunk.destination?_addDestinations rfl _

end Compile

end Minipack
