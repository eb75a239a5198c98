/-
The calls of a pass.

`Pass.Runs` describes a pass step by step and lists, in order, the files it compiles with what came
of each: a file that was tried before is passed over and makes no call, every other file of the
queue makes one.  `Pass.run` is such a run (`Pass.runs_run`), and a run is determined by where it
starts (`Pass.Runs.last_eq`).

What a run leaves behind is read off its calls:

* no file is called twice, nor one that was tried before (`Pass.Runs.distinct`, `Pass.Runs.fresh`);
* the first error is that of the first call that fails (`Pass.Runs.firstError`);
* a file finds the chunk of its call, or what it found before (`Pass.Runs.get?_of_call`,
  `Pass.Runs.get?_of_not_called`).
-/
import Minipack.Compile.Pass
import Minipack.Proofs.Compile.File
import Minipack.Proofs.Registry

namespace Minipack.Compile

/-- A call of the compiler and what came of it. -/
structure Call where
  task : Task
  result : Except Error Chunk

namespace Call

/-- The file that is compiled. -/
def file (call : Call) : Path := call.task.file

/-- The error of a call that fails. -/
def error? (call : Call) : Option Error :=
  match call.result with
  | .error error => some error
  | .ok _ => none

end Call

/-! ### The chunks of calls -/

/-- Puts the chunk of a call into a registry, when there is one. -/
def addCall (registry : Registry) (call : Call) : Registry :=
  match call.result with
  | .ok chunk => registry.add chunk
  | .error _ => registry

/-- Puts the chunks of the calls that succeed into a registry. -/
def addCalls (registry : Registry) (calls : List Call) : Registry :=
  calls.foldl addCall registry

/-- Two calls of one file are one call. -/
theorem eq_of_same {calls : List Call} (hd : calls.Pairwise fun a b => ¬ a.file.Same b.file)
    {a b : Call} (ha : a ∈ calls) (hb : b ∈ calls) (h : a.file.Same b.file) : a = b := by
  induction calls with
  | nil => simp at ha
  | cons head rest ih =>
    obtain ⟨hhead, hrest⟩ := List.pairwise_cons.1 hd
    rcases List.mem_cons.1 ha with rfl | ha' <;> rcases List.mem_cons.1 hb with rfl | hb'
    · rfl
    · exact absurd h (hhead b hb')
    · exact absurd h.symm (hhead a ha')
    · exact ih hrest ha' hb'

/-- A file without a chunk among the calls finds what it found before. -/
theorem get?_addCalls_of_ne {registry : Registry} {calls : List Call} {file : Path}
    (hn : ∀ call ∈ calls, ∀ chunk, call.result = .ok chunk → ¬ file.Same chunk.file) :
    (addCalls registry calls).get? file = registry.get? file := by
  induction calls generalizing registry with
  | nil => rfl
  | cons call rest ih =>
    refine (ih fun other ho => hn other (List.mem_cons_of_mem _ ho)).trans ?_
    rw [addCall]
    split
    · next chunk hr => exact Registry.get?_add_of_ne (hn call List.mem_cons_self chunk hr)
    · rfl

/-- Where no file is called twice, a file finds the chunk of its call. -/
theorem get?_addCalls_of_mem {registry : Registry} {calls : List Call}
    (hd : calls.Pairwise fun a b => ¬ a.file.Same b.file)
    (hfile : ∀ call ∈ calls, ∀ chunk, call.result = .ok chunk → chunk.file = call.file)
    {call : Call} (hc : call ∈ calls) {chunk : Chunk} (hr : call.result = .ok chunk) {file : Path}
    (hs : file.Same call.file) : (addCalls registry calls).get? file = some chunk := by
  induction calls generalizing registry with
  | nil => simp at hc
  | cons head rest ih =>
    obtain ⟨hhead, hrest⟩ := List.pairwise_cons.1 hd
    rcases List.mem_cons.1 hc with rfl | hc
    · -- the file is not called again, so the chunk stays
      have hlater : ∀ other ∈ rest, ∀ c, other.result = .ok c → ¬ file.Same c.file := by
        intro other ho c hro hso
        rw [hfile other (List.mem_cons_of_mem _ ho) c hro] at hso
        exact hhead other ho (hs.symm.trans hso)
      refine (get?_addCalls_of_ne hlater).trans ?_
      rw [addCall, hr]
      refine Registry.get?_add_self ?_
      rw [hfile call hc chunk hr]
      exact hs
    · exact ih hrest (fun other ho => hfile other (List.mem_cons_of_mem _ ho)) hc

theorem sorted_addCalls {registry : Registry} (h : registry.Sorted) (calls : List Call) :
    (addCalls registry calls).Sorted := by
  induction calls generalizing registry with
  | nil => exact h
  | cons call rest ih =>
    refine ih ?_
    rw [addCall]
    split
    · exact h.add _
    · exact h

/-! ### Runs -/

/-- A pass makes these calls while it empties the queue, and ends in the last state. -/
inductive Pass.Runs (config : Config) (disk : Disk) : Pass → List Task → List Call → Pass → Prop
  | done {pass} : Runs config disk pass [] [] pass
  | skip {pass task queue calls last} :
      pass.tried.contains task.file = true →
      Runs config disk pass queue calls last →
      Runs config disk pass (task :: queue) calls last
  | fail {pass task queue error calls last} :
      pass.tried.contains task.file = false →
      compileFile config disk pass.registry task = .error error →
      Runs config disk (pass.failed task.file error (fileLog config disk task)) queue calls last →
      Runs config disk pass (task :: queue) (⟨task, .error error⟩ :: calls) last
  | finish {pass task queue chunk calls last} :
      pass.tried.contains task.file = false →
      compileFile config disk pass.registry task = .ok chunk →
      Runs config disk (pass.finished task.file chunk (fileLog config disk task))
        (queue ++ (pass.finished task.file chunk (fileLog config disk task)).followUps chunk)
        calls last →
      Runs config disk pass (task :: queue) (⟨task, .ok chunk⟩ :: calls) last

variable {config : Config} {disk : Disk} {pass last : Pass} {queue : List Task} {calls : List Call}

/-- `Pass.run` makes some calls and ends where they lead. -/
theorem Pass.runs_run (config : Config) (disk : Disk) (pass : Pass) (queue : List Task) :
    ∃ calls, Runs config disk pass queue calls (pass.run config disk queue) := by
  fun_induction Pass.run config disk pass queue with
  | case1 pass => exact ⟨[], .done⟩
  | case2 pass task queue htried ih =>
    obtain ⟨calls, h⟩ := ih
    exact ⟨calls, .skip htried h⟩
  | case3 pass task queue htried log error herror ih =>
    obtain ⟨calls, h⟩ := ih
    exact ⟨_, .fail htried herror h⟩
  | case4 pass task queue htried log chunk hchunk pass' ih =>
    obtain ⟨calls, h⟩ := ih
    exact ⟨_, .finish htried hchunk h⟩

namespace Pass.Runs

/-- Every run ends where `Pass.run` ends. -/
theorem last_eq (h : Runs config disk pass queue calls last) :
    last = pass.run config disk queue := by
  induction h with
  | done => rw [Pass.run]
  | skip htried _ ih =>
    rw [Pass.run, ih]
    split
    · rfl
    · next hnew => rw [htried] at hnew; cases hnew
  | fail htried herror _ ih =>
    rw [Pass.run, ih]
    split
    · next hold => rw [htried] at hold; cases hold
    · split
      · next e he => rw [herror] at he; cases he; rfl
      · next c hc => rw [herror] at hc; cases hc
  | finish htried hchunk _ ih =>
    rw [Pass.run, ih]
    split
    · next hold => rw [htried] at hold; cases hold
    · split
      · next e he => rw [hchunk] at he; cases he
      · next c hc => rw [hchunk] at hc; cases hc; rfl

/-! ### Which files are called -/

/-- A file that was tried is not called again. -/
theorem fresh (h : Runs config disk pass queue calls last) {call : Call} (hc : call ∈ calls) :
    pass.tried.contains call.file = false := by
  have later {p : Path} {tried : List Path} {q : Path} (hn : (p :: tried).contains q = false) :
      tried.contains q = false := by
    rw [List.contains_cons, Bool.or_eq_false_iff] at hn
    exact hn.2
  induction h with
  | done => simp at hc
  | skip _ _ ih => exact ih hc
  | fail htried _ _ ih =>
    rcases List.mem_cons.1 hc with rfl | hc
    · exact htried
    · exact later (ih hc)
  | finish htried _ _ ih =>
    rcases List.mem_cons.1 hc with rfl | hc
    · exact htried
    · exact later (ih hc)

/-- No file is called twice. -/
theorem distinct (h : Runs config disk pass queue calls last) :
    calls.Pairwise fun a b => ¬ a.file.Same b.file := by
  have apart {p : Path} {tried : List Path} {q : Path} (hn : (p :: tried).contains q = false) :
      ¬ p.Same q :=
    Path.contains_eq_false_iff.1 hn p List.mem_cons_self
  induction h with
  | done => exact List.Pairwise.nil
  | skip _ _ ih => exact ih
  | fail _ _ hrest ih =>
    exact List.pairwise_cons.2 ⟨fun call hc => apart (hrest.fresh hc), ih⟩
  | finish _ _ hrest ih =>
    exact List.pairwise_cons.2 ⟨fun call hc => apart (hrest.fresh hc), ih⟩

/-- Every file of the queue was tried before or is called. -/
theorem called_of_mem_queue (h : Runs config disk pass queue calls last) {task : Task}
    (ht : task ∈ queue) :
    pass.tried.contains task.file = true ∨ ∃ call ∈ calls, call.file.Same task.file := by
  -- a file tried in the head call, or before it, answers for the tail
  have step {p : Path} {tried : List Path} {head : Call} {calls : List Call} (hp : head.file = p)
      (hi : (p :: tried).contains task.file = true ∨ ∃ call ∈ calls, call.file.Same task.file) :
      tried.contains task.file = true ∨ ∃ call ∈ head :: calls, call.file.Same task.file := by
    rcases hi with hi | ⟨call, hc, hs⟩
    · obtain ⟨q, hq, hs⟩ := Path.contains_iff.1 hi
      rcases List.mem_cons.1 hq with rfl | hq
      · exact Or.inr ⟨head, List.mem_cons_self, hp ▸ hs⟩
      · exact Or.inl (Path.contains_iff.2 ⟨q, hq, hs⟩)
    · exact Or.inr ⟨call, List.mem_cons_of_mem _ hc, hs⟩
  induction h with
  | done => simp at ht
  | skip htried _ ih =>
    rcases List.mem_cons.1 ht with rfl | ht
    · exact Or.inl htried
    · exact ih ht
  | fail _ _ _ ih =>
    rcases List.mem_cons.1 ht with rfl | ht
    · exact Or.inr ⟨_, List.mem_cons_self, rfl⟩
    · exact step rfl (ih ht)
  | finish _ _ _ ih =>
    rcases List.mem_cons.1 ht with rfl | ht
    · exact Or.inr ⟨_, List.mem_cons_self, rfl⟩
    · exact step rfl (ih (List.mem_append_left _ ht))

/-! ### What the calls leave behind -/

/-- The first error is the one that was there, or else that of the first call that fails. -/
theorem firstError (h : Runs config disk pass queue calls last) :
    last.firstError = pass.firstError.or (calls.findSome? Call.error?) := by
  induction h with
  | done => simp
  | skip _ _ ih => exact ih
  | @fail pass _ _ error _ _ _ _ _ ih =>
    rw [ih, List.findSome?_cons]
    show (pass.firstError.or (some error)).or _ = pass.firstError.or (some error)
    cases pass.firstError <;> rfl
  | finish _ _ _ ih =>
    rw [ih, List.findSome?_cons]
    rfl

/-- When there is no error every call succeeds. -/
theorem ok_of_none (h : Runs config disk pass queue calls last) (hn : last.firstError = none)
    {call : Call} (hc : call ∈ calls) : ∃ chunk, call.result = .ok chunk := by
  rw [h.firstError, Option.or_eq_none_iff] at hn
  have hcall : call.error? = none := List.findSome?_eq_none_iff.1 hn.2 call hc
  cases hr : call.result with
  | ok chunk => exact ⟨chunk, rfl⟩
  | error error =>
    rw [Call.error?, hr] at hcall
    cases hcall

/-- A call compiles against the registry of its moment, which knows of the file what was known
before. -/
theorem result_eq (h : Runs config disk pass queue calls last) {call : Call} (hc : call ∈ calls) :
    ∃ registry, registry.get? call.file = pass.registry.get? call.file ∧
      compileFile config disk registry call.task = call.result := by
  induction h with
  | done => simp at hc
  | skip _ _ ih => exact ih hc
  | fail _ herror _ ih =>
    rcases List.mem_cons.1 hc with rfl | hc
    · exact ⟨_, rfl, herror⟩
    · exact ih hc
  | finish _ hchunk hrest ih =>
    rcases List.mem_cons.1 hc with rfl | hc
    · exact ⟨_, rfl, hchunk⟩
    · obtain ⟨registry, hget, hresult⟩ := ih hc
      refine ⟨registry, hget.trans (Registry.get?_add_of_ne fun hs => ?_), hresult⟩
      -- the file of the head call is not called again
      rw [file_of_compileFile hchunk] at hs
      exact Path.contains_eq_false_iff.1 (hrest.fresh hc) _ List.mem_cons_self hs.symm

/-- The chunk of a call is the chunk of the file called. -/
theorem file_eq (h : Runs config disk pass queue calls last) {call : Call} (hc : call ∈ calls)
    {chunk : Chunk} (hr : call.result = .ok chunk) : chunk.file = call.file := by
  obtain ⟨registry, -, he⟩ := h.result_eq hc
  exact file_of_compileFile (he.trans hr)

/-- The registry gains the chunks of the calls, in their order. -/
theorem registry_eq (h : Runs config disk pass queue calls last) :
    last.registry = addCalls pass.registry calls := by
  induction h with
  | done => rfl
  | skip _ _ ih => exact ih
  | fail _ _ _ ih => exact ih
  | finish _ _ _ ih => exact ih

/-- So do the compiled chunks. -/
theorem compiled_eq (h : Runs config disk pass queue calls last) :
    last.compiled = addCalls pass.compiled calls := by
  induction h with
  | done => rfl
  | skip _ _ ih => exact ih
  | fail _ _ _ ih => exact ih
  | finish _ _ _ ih => exact ih

/-- A file that is not called finds what it found before. -/
theorem get?_of_not_called (h : Runs config disk pass queue calls last) {file : Path}
    (hn : ∀ call ∈ calls, ¬ call.file.Same file) :
    last.registry.get? file = pass.registry.get? file := by
  rw [h.registry_eq]
  refine get?_addCalls_of_ne fun call hc chunk hr hs => hn call hc ?_
  rw [← h.file_eq hc hr]
  exact hs.symm

/-- A file that is compiled finds the chunk of its call. -/
theorem get?_of_call (h : Runs config disk pass queue calls last) {call : Call} (hc : call ∈ calls)
    {chunk : Chunk} (hr : call.result = .ok chunk) {file : Path} (hs : file.Same call.file) :
    last.registry.get? file = some chunk := by
  rw [h.registry_eq]
  exact get?_addCalls_of_mem h.distinct (fun _ ho _ => h.file_eq ho) hc hr hs

/-- A compiled file is found among the compiled ones, too. -/
theorem compiled_get?_of_call (h : Runs config disk pass queue calls last) {call : Call}
    (hc : call ∈ calls) {chunk : Chunk} (hr : call.result = .ok chunk) {file : Path}
    (hs : file.Same call.file) : last.compiled.get? file = some chunk := by
  rw [h.compiled_eq]
  exact get?_addCalls_of_mem h.distinct (fun _ ho _ => h.file_eq ho) hc hr hs

/-- A file that fails finds what it found before. -/
theorem get?_of_failed (h : Runs config disk pass queue calls last) {call : Call}
    (hc : call ∈ calls) {error : Error} (hr : call.result = .error error) {file : Path}
    (hs : file.Same call.file) : last.registry.get? file = pass.registry.get? file := by
  rw [h.registry_eq]
  refine get?_addCalls_of_ne fun other ho chunk hro hso => ?_
  -- the two calls are of one file, so they are the same call
  have hsame : other.file.Same call.file := by
    rw [← h.file_eq ho hro]
    exact hso.symm.trans hs
  obtain rfl := eq_of_same h.distinct ho hc hsame
  rw [hr] at hro
  cases hro

/-- A file that is not among the compiled ones finds what it found before. -/
theorem get?_of_not_compiled (h : Runs config disk pass queue calls last) {file : Path}
    (hn : last.compiled.has file = false) :
    last.registry.get? file = pass.registry.get? file := by
  rw [h.registry_eq]
  refine get?_addCalls_of_ne fun call hc chunk hr hs => Bool.eq_false_iff.1 hn ?_
  rw [h.file_eq hc hr] at hs
  exact Registry.has_of_get? (h.compiled_get?_of_call hc hr hs)

/-- The compiled chunks are part of the registry. -/
theorem within (h : Runs config disk pass queue calls last)
    (hw : pass.compiled.Within pass.registry) : last.compiled.Within last.registry := by
  induction h with
  | done => exact hw
  | skip _ _ ih => exact ih hw
  | fail _ _ _ ih => exact ih hw
  | finish _ _ _ ih => exact ih (hw.add _)

end Pass.Runs

end Minipack.Compile
