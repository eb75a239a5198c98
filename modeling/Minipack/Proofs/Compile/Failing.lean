/-
A pass with failures.

A failure does not stop a pass.  Which files are tried after it, and in which order, is told without
the registry and the queue of the pass (`Compile.InTurn`): there wait the tasks and what the calls
so far ask for, in the order in which they were asked for, less the files that were called; the next
call is for the task that has waited longest.  The queue of a pass is that line but for tasks that
would be passed over (`Compile.Pass.Follows`), so that a pass calls in turn
(`Compile.Pass.Runs.inTurn`), and no other calls do (`Compile.Attempted.eq`).

The main result is `Compile.goesOn_compileAll`: every file that is led to is tried once, the error
of a pass is that of its first call that fails, and a pass with an error has stored what compiled
and left everything else as it was.
-/
import Minipack.Proofs.Compile.Alone

namespace Minipack.Compile

variable {config : Config} {disk : Disk} {registry : Registry} {tasks : List Task}

/-! ### Waiting for a turn -/

/-- The tasks for files that were not tried. -/
def fresh (tried : List Path) (tasks : List Task) : List Task :=
  tasks.filter fun task => !tried.contains task.file

/-- What a call asks for: the targets of the references of its chunk that are followed and had no
chunk when the pass began. -/
def Call.asks (registry : Registry) (call : Call) : List Task :=
  match call.result with
  | .error _ => []
  | .ok chunk =>
    (chunk.followed.filter fun dependency => !registry.has dependency.target).map Task.ofDependency

/-- All that is asked for until some calls have been made. -/
def asked (registry : Registry) (tasks : List Task) (calls : List Call) : List Task :=
  tasks ++ calls.flatMap (Call.asks registry)

/-- What waits after some calls, that which was asked for first in front. -/
def waiting (registry : Registry) (tasks : List Task) (calls : List Call) : List Task :=
  fresh (calls.map Call.file) (asked registry tasks calls)

/-- After the calls so far come these calls, each for the task that has waited longest, until none
waits. -/
inductive InTurn (registry : Registry) (tasks : List Task) : List Call → List Call → Prop
  | done {before} : waiting registry tasks before = [] → InTurn registry tasks before []
  | next {before call later rest} :
      waiting registry tasks before = call.task :: later →
      InTurn registry tasks (before ++ [call]) rest →
      InTurn registry tasks before (call :: rest)

/-- These calls are made in turn from the beginning, and each compiles its task. -/
structure Attempted (config : Config) (disk : Disk) (registry : Registry) (tasks : List Task)
    (calls : List Call) : Prop where
  order : InTurn registry tasks [] calls
  result : ∀ call ∈ calls, call.result = compileFile config disk registry call.task

/-- What comes of each task settles which calls are made in turn. -/
theorem InTurn.eq {result : Task → Except Error Chunk} {before calls others : List Call}
    (h : InTurn registry tasks before calls)
    (hcalls : ∀ call ∈ calls, call.result = result call.task)
    (k : InTurn registry tasks before others)
    (hothers : ∀ call ∈ others, call.result = result call.task) : others = calls := by
  induction h generalizing others with
  | done hnone =>
    cases k with
    | done => rfl
    | next hfirst _ => rw [hnone] at hfirst; cases hfirst
  | @next before call later rest hfirst _ ih =>
    cases k with
    | done hnone => rw [hfirst] at hnone; cases hnone
    | @next _ other _ others hfirst' hrest =>
      have htask : other.task = call.task := by
        rw [hfirst] at hfirst'
        exact (List.cons.inj hfirst').1.symm
      have hsame : other = call := by
        have hresult : other.result = call.result := by
          rw [hothers _ List.mem_cons_self, hcalls _ List.mem_cons_self, htask]
        cases other
        cases call
        exact congrArg₂ Call.mk htask hresult
      subst hsame
      rw [ih (fun c hc => hcalls c (List.mem_cons_of_mem _ hc)) hrest
        (fun c hc => hothers c (List.mem_cons_of_mem _ hc))]

/-- There is one way to make the calls in turn. -/
theorem Attempted.eq {calls others : List Call} (h : Attempted config disk registry tasks calls)
    (k : Attempted config disk registry tasks others) : others = calls :=
  h.order.eq h.result k.order k.result

/-! ### Fresh tasks -/

theorem fresh_append (tried : List Path) (tasks more : List Task) :
    fresh tried (tasks ++ more) = fresh tried tasks ++ fresh tried more :=
  List.filter_append ..

theorem fresh_cons_of_tried {tried : List Path} {task : Task} (h : tried.contains task.file = true)
    (queue : List Task) : fresh tried (task :: queue) = fresh tried queue :=
  List.filter_cons_of_neg (by rw [h]; decide)

theorem fresh_cons_of_new {tried : List Path} {task : Task} (h : tried.contains task.file = false)
    (queue : List Task) : fresh tried (task :: queue) = task :: fresh tried queue :=
  List.filter_cons_of_pos (by rw [h]; rfl)

/-- After one file more has been tried the tasks for it are gone. -/
theorem fresh_cons (file : Path) (tried : List Path) (queue : List Task) :
    fresh (file :: tried) queue =
      (fresh tried queue).filter fun task => !task.file == file := by
  rw [fresh, fresh, List.filter_filter]
  refine List.filter_congr fun task _ => ?_
  rw [List.contains_cons, Bool.not_or]

theorem fresh_congr {tried tried' : List Path} (h : ∀ p, tried.contains p = tried'.contains p)
    (queue : List Task) : fresh tried queue = fresh tried' queue :=
  List.filter_congr fun task _ => by rw [h]

/-! ### The line of a pass -/

/-- A pass that began with these tasks and made these calls has this line before it. -/
structure Pass.Follows (registry : Registry) (tasks : List Task) (before : List Call) (pass : Pass)
    (queue : List Task) : Prop where
  /-- The files that were called are those that were tried. -/
  tried : ∀ p, pass.tried.contains p = (before.map Call.file).contains p
  /-- No chunk is lost. -/
  kept : ∀ p, registry.has p = true → pass.registry.has p = true
  /-- A file gains a chunk by being tried. -/
  gained : ∀ p, pass.registry.has p = true → registry.has p = true ∨ pass.tried.contains p = true
  /-- The queue is what waits, but for files that were tried. -/
  line : fresh pass.tried queue = fresh pass.tried (asked registry tasks before)

namespace Pass.Follows

variable {before : List Call} {pass : Pass} {queue : List Task}

/-- What waits is the queue without the files that were tried. -/
theorem waiting_eq (h : pass.Follows registry tasks before queue) :
    waiting registry tasks before = fresh pass.tried queue := by
  rw [h.line]
  exact (fresh_congr h.tried _).symm

theorem start (registry : Registry) (tasks : List Task) :
    Pass.Follows registry tasks [] { registry } tasks where
  tried _ := rfl
  kept _ h := h
  gained _ h := Or.inl h
  line := by rw [asked, List.flatMap_nil, List.append_nil]

theorem skip {task : Task} (h : pass.Follows registry tasks before (task :: queue))
    (htried : pass.tried.contains task.file = true) :
    pass.Follows registry tasks before queue :=
  { h with line := (fresh_cons_of_tried htried queue).symm.trans h.line }

/-- Once its head has been called a line goes on behind it, followed by what the call asks for. -/
theorem line_next (call : Call) (h : pass.Follows registry tasks before (call.task :: queue)) :
    fresh (call.file :: pass.tried) (queue ++ call.asks registry) =
      fresh (call.file :: pass.tried) (asked registry tasks (before ++ [call])) := by
  have hhead : (call.file :: pass.tried).contains call.task.file = true :=
    Path.contains_iff.2 ⟨call.file, List.mem_cons_self, rfl⟩
  have hqueue : fresh (call.file :: pass.tried) queue =
      fresh (call.file :: pass.tried) (asked registry tasks before) := by
    rw [← fresh_cons_of_tried hhead queue, fresh_cons, h.line, ← fresh_cons]
  have hasked : asked registry tasks (before ++ [call]) =
      asked registry tasks before ++ call.asks registry := by
    simp only [asked, List.flatMap_append, List.flatMap_singleton, List.append_assoc]
  rw [hasked, fresh_append, fresh_append, hqueue]

theorem tried_next (call : Call) {queue : List Task}
    (h : pass.Follows registry tasks before queue) (p : Path) :
    (call.file :: pass.tried).contains p = ((before ++ [call]).map Call.file).contains p := by
  rw [List.map_append, List.contains_append, List.contains_cons, h.tried, Bool.or_comm]
  simp only [List.map_cons, List.map_nil, List.contains_cons, List.contains_nil, Bool.or_false]

theorem failed {task : Task} (h : pass.Follows registry tasks before (task :: queue))
    (error : Error) (log : List LogLine) :
    (pass.failed task.file error log).Follows registry tasks (before ++ [⟨task, .error error⟩])
      queue where
  tried := h.tried_next ⟨task, .error error⟩
  kept := h.kept
  gained p hp := (h.gained p hp).imp_right fun ht => by
    show (task.file :: pass.tried).contains p = true
    rw [List.contains_cons, ht, Bool.or_true]
  line := by
    have hline := line_next ⟨task, .error error⟩ h
    rw [Call.asks, List.append_nil] at hline
    exact hline

theorem finished {task : Task} (h : pass.Follows registry tasks before (task :: queue))
    {chunk : Chunk} (hfile : chunk.file = task.file) (log : List LogLine) :
    (pass.finished task.file chunk log).Follows registry tasks (before ++ [⟨task, .ok chunk⟩])
      (queue ++ (pass.finished task.file chunk log).followUps chunk) := by
  have hgained : ∀ p, (pass.finished task.file chunk log).registry.has p = true →
      registry.has p = true ∨ (task.file :: pass.tried).contains p = true := by
    intro p hp
    rw [List.contains_cons, Bool.or_eq_true]
    rcases has_finished.1 hp with hs | hp
    · exact Or.inr (Or.inl (Path.beq_iff_same.2 (hfile ▸ hs)))
    · exact (h.gained p hp).imp_right Or.inr
  have hkept : ∀ p, registry.has p = true →
      (pass.finished task.file chunk log).registry.has p = true :=
    fun p hp => has_finished.2 (Or.inr (h.kept p hp))
  refine ⟨h.tried_next ⟨task, .ok chunk⟩, hkept, hgained, ?_⟩
  -- for a file that was not tried it is all the same which registry is asked
  have hfollow : fresh (task.file :: pass.tried)
        ((pass.finished task.file chunk log).followUps chunk) =
      fresh (task.file :: pass.tried) (Call.asks registry ⟨task, .ok chunk⟩) := by
    simp only [fresh, Pass.followUps, Call.asks, List.filter_map, List.filter_filter]
    refine congrArg (List.map Task.ofDependency) (List.filter_congr fun d _ => ?_)
    cases htried : (task.file :: pass.tried).contains d.target with
    | true =>
      have hfile : (task.file :: pass.tried).contains (Task.ofDependency d).file = true := htried
      simp only [Function.comp_apply, hfile, Bool.not_true, Bool.false_and]
    | false =>
      have hhas : (pass.finished task.file chunk log).registry.has d.target =
          registry.has d.target := by
        refine Bool.eq_iff_iff.2 ⟨fun hp => ?_, hkept d.target⟩
        refine (hgained _ hp).resolve_right fun ht => ?_
        rw [htried] at ht
        cases ht
      rw [hhas]
  show fresh (task.file :: pass.tried) _ = _
  rw [fresh_append, hfollow, ← fresh_append]
  exact line_next ⟨task, .ok chunk⟩ h

end Pass.Follows

/-- A pass makes its calls in turn. -/
theorem Pass.Runs.inTurn {pass last : Pass} {queue : List Task} {before calls : List Call}
    (h : Runs config disk pass queue calls last) (hf : pass.Follows registry tasks before queue) :
    InTurn registry tasks before calls := by
  induction h generalizing before with
  | done => exact .done hf.waiting_eq
  | skip htried _ ih => exact ih (hf.skip htried)
  | fail hnew _ _ ih =>
    exact .next (hf.waiting_eq.trans (fresh_cons_of_new hnew _)) (ih (hf.failed _ _))
  | finish hnew hchunk _ ih =>
    exact .next (hf.waiting_eq.trans (fresh_cons_of_new hnew _))
      (ih (hf.finished (file_of_compileFile hchunk) _))

theorem Pass.Runs.attempted {last : Pass} {calls : List Call}
    (h : Runs config disk { registry } tasks calls last) :
    Attempted config disk registry tasks calls where
  order := h.inTurn (.start registry tasks)
  result _ hc := (h.compileFile_eq_result hc).symm

/-! ### What a pass with an error comes to -/

/-- The first call that fails, fails with this error. -/
def FailsFirst (calls : List Call) (error : Error) : Prop :=
  ∃ before call after, calls = before ++ call :: after ∧
    (∀ other ∈ before, ∃ chunk, other.result = .ok chunk) ∧ call.result = .error error

theorem findSome?_error?_eq_some_iff {calls : List Call} {error : Error} :
    calls.findSome? Call.error? = some error ↔ FailsFirst calls error := by
  have hok {call : Call} : call.error? = none ↔ ∃ chunk, call.result = .ok chunk := by
    rw [Call.error?]
    cases call.result <;> simp
  have herror {call : Call} : call.error? = some error ↔ call.result = .error error := by
    rw [Call.error?]
    cases call.result <;> simp
  simp only [List.findSome?_eq_some_iff, hok, herror, FailsFirst]
  constructor
  · rintro ⟨before, call, after, hcalls, herr, hbefore⟩
    exact ⟨before, call, after, hcalls, hbefore, herr⟩
  · rintro ⟨before, call, after, hcalls, hbefore, herr⟩
    exact ⟨before, call, after, hcalls, herr, hbefore⟩

/-- A registry after some calls: what compiled is stored as it was compiled, and everything else is
as it was. -/
structure Salvaged (calls : List Call) (before after : Registry) : Prop where
  /-- A file that compiled has the chunk of its call. -/
  stored : ∀ call ∈ calls, ∀ chunk, call.result = .ok chunk →
    ∀ file, file.Same call.file → after.get? file = some chunk
  /-- A file that failed has the chunk it had, or has none. -/
  failed : ∀ call ∈ calls, ∀ error, call.result = .error error →
    ∀ file, file.Same call.file → after.get? file = before.get? file
  /-- So has a file that was not tried. -/
  untouched : ∀ file, (∀ call ∈ calls, ¬ call.file.Same file) →
    after.get? file = before.get? file

theorem Pass.Runs.salvaged {pass last : Pass} {queue : List Task} {calls : List Call}
    (h : Runs config disk pass queue calls last) : Salvaged calls pass.registry last.registry where
  stored _ hc _ hr _ hs := h.get?_of_call hc hr hs
  failed _ hc _ hr _ hs := h.get?_of_failed hc hr hs
  untouched _ hn := h.get?_of_not_called hn

/-- A pass goes on after a failure. -/
structure GoesOn (config : Config) (disk : Disk) (registry : Registry) (tasks : List Task)
    (calls : List Call) : Prop where
  /-- The calls are made first in, first out. -/
  attempted : Attempted config disk registry tasks calls
  /-- No file is tried twice. -/
  once : calls.Pairwise fun a b => ¬ a.file.Same b.file
  /-- What is tried is what the tasks lead to, through the files that compile. -/
  reached (file : Path) : (∃ call ∈ calls, call.file.Same file) ↔
    ∃ reached, Reached registry tasks calls reached ∧ reached.Same file
  /-- The error of the pass is that of the first call that fails. -/
  fails (error : Error) :
    (compileAll config disk registry tasks).result = .error error ↔ FailsFirst calls error
  /-- With an error the pass has stored what compiled, and nothing else has changed. -/
  salvaged (error : Error) : (compileAll config disk registry tasks).result = .error error →
    Salvaged calls registry (compileAll config disk registry tasks).registry

/-- A style that imports another one. -/
def pair : Disk where
  entries := [
    (["src"], .folder),
    (["src", "a.wxss"], .file "@import './b.wxss'".toUTF8),
    (["src", "b.wxss"], .file "".toUTF8)]
  current := []

/-- A file that is missing, and the style. -/
def missingFirst : List Task :=
  [{ file := ⟨"/src/none.wxss"⟩ }, { file := ⟨"/src/a.wxss"⟩ }]

end Minipack.Compile
