/-
A pass compiles files and all that they refer to.

The files wait in a queue.  A file that was tried before in the pass is passed over; after a file
has been compiled its references to files without a chunk join the queue at the end, so that files
are compiled breadth first.  A failure does not stop the others, but the first one is the outcome.

Every file is tried once, and only files with short paths compile, so that a pass comes to an end.

When all has compiled, every referenced chunk gets the destination of each reference.
-/
import Minipack.Compile.File
import Minipack.Path.Short

namespace Minipack.Compile

/-- How far a pass has come. -/
structure Pass where
  registry : Registry
  /-- The files that were tried. -/
  tried : List Path := []
  /-- The chunks that were compiled. -/
  compiled : Registry := {}
  firstError : Option Error := none
  log : List LogLine := []

namespace Pass

/-- The pass after a file has failed. -/
def failed (pass : Pass) (file : Path) (error : Error) (log : List LogLine) : Pass :=
  { pass with
    tried := file :: pass.tried
    firstError := pass.firstError.or (some error)
    log := pass.log ++ log ++ [⟨.error, "parser", error.message⟩] }

/-- The pass after a file has been compiled. -/
def finished (pass : Pass) (file : Path) (chunk : Chunk) (log : List LogLine) : Pass :=
  { pass with
    registry := pass.registry.add chunk
    tried := file :: pass.tried
    compiled := pass.compiled.add chunk
    log := pass.log ++ log }

/-- The referenced files that have no chunk. -/
def followUps (pass : Pass) (chunk : Chunk) : List Task :=
  (chunk.followed.filter fun dependency => !pass.registry.has dependency.target).map
    Task.ofDependency

end Pass

/-- A file that compiles has a short path. -/
theorem size_le_of_compileFile {config : Config} {disk : Disk} {registry : Registry} {task : Task}
    {chunk : Chunk} (h : compileFile config disk registry task = .ok chunk) :
    Disk.size task.file.text.toList ≤ Disk.maxPathSize := by
  cases hread : disk.read task.file with
  | ok content => exact size_le_of_read hread
  | error fault => cases fault <;> simp [compileFile, readSource, hread] at h

/-- A file more is tried, so no more are left. -/
theorem untried_cons_le (tried : List Path) (file : Path) :
    untried (file :: tried) ≤ untried tried :=
  List.countP_mono_left fun text _ h => by
    simp only [List.contains_cons, Bool.not_or, Bool.and_eq_true] at h
    exact h.2

/-- Compiles the files of a queue and all that they refer to. -/
def Pass.run (config : Config) (disk : Disk) (pass : Pass) (queue : List Task) : Pass :=
  match queue with
  | [] => pass
  | task :: queue =>
    match _hnew : pass.tried.contains task.file with
    | true => pass.run config disk queue
    | false =>
      let log := fileLog config disk task
      match _hfile : compileFile config disk pass.registry task with
      | .error error => (pass.failed task.file error log).run config disk queue
      | .ok chunk =>
        let pass := pass.finished task.file chunk log
        pass.run config disk (queue ++ pass.followUps chunk)
termination_by (untried pass.tried, queue.length)
decreasing_by
  · exact Prod.Lex.right _ (Nat.lt_succ_self _)
  · rcases Nat.lt_or_eq_of_le (untried_cons_le pass.tried task.file) with h | h
    · exact Prod.Lex.left _ _ h
    · simp only [Pass.failed, h]
      exact Prod.Lex.right _ (Nat.lt_succ_self _)
  · exact Prod.Lex.left _ _ (untried_cons_lt (size_le_of_compileFile _hfile) _hnew)

/-- Gives a referenced chunk the destination of a reference, in the registry and among the
compiled. -/
def mergeDestination (registries : Registry × Registry) (dependency : Dependency) :
    Registry × Registry :=
  let (registry, compiled) := registries
  let (registry, added) := registry.addDestination dependency.target dependency.destination
  -- a chunk of an earlier pass joins the compiled ones when it has to be written once more
  if added then
    match registry.get? dependency.target with
    | some chunk => (registry, compiled.add chunk)
    | none => (registry, compiled)
  else
    (registry, compiled.update dependency.target fun chunk =>
      chunk.addDestination dependency.destination)

/-- What a pass leaves behind. -/
structure Outcome where
  registry : Registry
  /-- The chunks that were compiled or have a new destination, in the order of their paths. -/
  result : Except Error (List Chunk)
  log : List LogLine

/-- Compiles files and all that they refer to. -/
def compileAll (config : Config) (disk : Disk) (registry : Registry) (tasks : List Task) :
    Outcome :=
  let pass := ({ registry } : Pass).run config disk tasks
  match pass.firstError with
  | some error => ⟨pass.registry, .error error, pass.log⟩
  | none =>
    let references := pass.compiled.chunks.flatMap Chunk.followed
    let (registry, compiled) := references.foldl mergeDestination (pass.registry, pass.compiled)
    ⟨registry, .ok compiled.chunks, pass.log⟩

/-- Compiles one file and all that it refers to, and gives its chunk. -/
def compileOne (config : Config) (disk : Disk) (registry : Registry) (file : Path) :
    Registry × Except Error Chunk × List LogLine :=
  let outcome := compileAll config disk registry [{ file }]
  match outcome.result with
  | .error error => (outcome.registry, .error error, outcome.log)
  | .ok _ =>
    match outcome.registry.get? file with
    | some chunk => (outcome.registry, .ok chunk, outcome.log)
    | none => (outcome.registry, .error (.fileNotFound file.display), outcome.log)

end Minipack.Compile
