/-
What a pass compiles.

The files of a successful pass are the files of its tasks and what they refer to, directly or
through other files of the pass, where the way does not enter a file that had a chunk before
(`Compile.Reached`).  One direction is soundness: whatever the calls are, they stay within any set
of files that holds the tasks and is closed under such references (`Pass.Runs.called_within`).  The
other one is closedness: a reference of a compiled chunk leads to a chunk that was there before or
to a call (`Pass.Runs.called_of_followed`).  As no file is called twice, cycles and diamonds make no
difference.

The main result is `Compile.calls_of_compileAll`.
-/
import Minipack.Proofs.Compile.Merge
import Minipack.Proofs.Compile.Steps

namespace Minipack.Compile

/-- What the tasks lead to: their own files, and the targets of the references of compiled files
that are followed and had no chunk when the pass began. -/
inductive Reached (registry : Registry) (tasks : List Task) (calls : List Call) : Path → Prop
  | task {task} : task ∈ tasks → Reached registry tasks calls task.file
  | follow {file call chunk dependency} :
      Reached registry tasks calls file →
      call ∈ calls →
      call.file.Same file →
      call.result = .ok chunk →
      dependency ∈ chunk.followed →
      registry.has dependency.target = false →
      Reached registry tasks calls dependency.target

variable {config : Config} {disk : Disk} {pass last : Pass} {queue : List Task} {calls : List Call}

namespace Pass

theorem mem_followUps {chunk : Chunk} {task : Task} :
    task ∈ pass.followUps chunk ↔
      ∃ d ∈ chunk.followed, pass.registry.has d.target = false ∧ Task.ofDependency d = task := by
  simp only [followUps, List.mem_map, List.mem_filter, Bool.not_eq_true', and_assoc]

theorem has_finished {file p : Path} {chunk : Chunk} {log : List LogLine} :
    (pass.finished file chunk log).registry.has p = true ↔
      p.Same chunk.file ∨ pass.registry.has p = true :=
  Registry.has_add chunk p

namespace Runs

/-! ### Soundness -/

/-- The calls stay within every set of tasks that holds the queue and is closed under the references
to files without a chunk. -/
theorem called_within (h : Runs config disk pass queue calls last) {P : Task → Prop}
    (hqueue : ∀ task ∈ queue, P task)
    (hclosed : ∀ call ∈ calls, P call.task → ∀ chunk, call.result = .ok chunk →
      ∀ d ∈ chunk.followed, pass.registry.has d.target = false → P (.ofDependency d)) :
    ∀ call ∈ calls, P call.task := by
  induction h with
  | done => intro call hc; simp at hc
  | skip _ _ ih => exact ih (fun task ht => hqueue task (List.mem_cons_of_mem _ ht)) hclosed
  | fail _ _ _ ih =>
    intro call hc
    rcases List.mem_cons.1 hc with rfl | hc
    · exact hqueue _ List.mem_cons_self
    · exact ih (fun task ht => hqueue task (List.mem_cons_of_mem _ ht))
        (fun call hc => hclosed call (List.mem_cons_of_mem _ hc)) call hc
  | @finish pass task queue chunk calls last htried hchunk _ ih =>
    have hhead : P task := hqueue task List.mem_cons_self
    -- what has no chunk later had none before
    have hless : ∀ p, (pass.finished task.file chunk (fileLog config disk task)).registry.has p =
        false → pass.registry.has p = false := by
      intro p hp
      exact Bool.eq_false_iff.2 fun ht => Bool.eq_false_iff.1 hp (has_finished.2 (Or.inr ht))
    intro call hc
    rcases List.mem_cons.1 hc with rfl | hc
    · exact hhead
    · refine ih ?_ ?_ call hc
      · intro next hn
        rcases List.mem_append.1 hn with hn | hn
        · exact hqueue next (List.mem_cons_of_mem _ hn)
        · obtain ⟨d, hd, hnew, rfl⟩ := mem_followUps.1 hn
          exact hclosed _ List.mem_cons_self hhead chunk rfl d hd (hless _ hnew)
      · intro other ho hp c hr d hd hnew
        exact hclosed other (List.mem_cons_of_mem _ ho) hp c hr d hd (hless _ hnew)

/-- A file that had a chunk is only called for a task of the queue. -/
theorem mem_queue_of_has (h : Runs config disk pass queue calls last) {call : Call}
    (hc : call ∈ calls) (hhas : pass.registry.has call.file = true) : call.task ∈ queue := by
  have hcause : call.task ∈ queue ∨ pass.registry.has call.task.file = false :=
    h.called_within (P := fun task => task ∈ queue ∨ pass.registry.has task.file = false)
      (fun _ ht => Or.inl ht) (fun _ _ _ _ _ _ _ hnew => Or.inr hnew) call hc
  refine hcause.resolve_right fun hnew => ?_
  rw [Call.file, hnew] at hhas
  cases hhas

/-- A file is called for a task of the queue, or for a reference of a file that was compiled. -/
theorem caused (h : Runs config disk pass queue calls last) {call : Call} (hc : call ∈ calls) :
    call.task ∈ queue ∨ ∃ other ∈ calls, ∃ chunk, other.result = .ok chunk ∧
      ∃ e ∈ chunk.followed, call.task = .ofDependency e :=
  h.called_within (P := fun task => task ∈ queue ∨ ∃ other ∈ calls, ∃ chunk,
      other.result = .ok chunk ∧ ∃ e ∈ chunk.followed, task = .ofDependency e)
    (fun _ ht => Or.inl ht)
    (fun other ho _ chunk hr e he _ => Or.inr ⟨other, ho, chunk, hr, e, he, rfl⟩) call hc

/-- A file that the queue asks for first is called for that task. -/
theorem mem_tasks_of_same {tasks rest : List Task}
    (h : Runs config disk pass (tasks ++ rest) calls last) {call : Call} (hc : call ∈ calls)
    {task : Task} (ht : task ∈ tasks) (hs : call.file.Same task.file) : call.task ∈ tasks := by
  generalize hqueue : tasks ++ rest = queue at h
  induction h generalizing tasks rest with
  | done => simp at hc
  | @skip _ _ _ _ _ htried hrest ih =>
    cases tasks with
    | nil => cases ht
    | cons first tasks =>
      obtain ⟨rfl, htail⟩ := List.cons.inj hqueue
      rcases List.mem_cons.1 ht with rfl | ht'
      · -- a file that was tried is not called
        obtain ⟨file, hfile, hsame⟩ := Path.contains_iff.1 htried
        exact absurd (hsame.trans hs.symm)
          (Path.contains_eq_false_iff.1 (hrest.fresh hc) file hfile)
      · exact List.mem_cons_of_mem _ (ih hc ht' htail)
  | fail htried _ hrest ih =>
    cases tasks with
    | nil => cases ht
    | cons first tasks =>
      obtain ⟨rfl, htail⟩ := List.cons.inj hqueue
      rcases List.mem_cons.1 hc with rfl | hc'
      · exact List.mem_cons_self
      · rcases List.mem_cons.1 ht with rfl | ht'
        · exact absurd hs.symm (Path.contains_eq_false_iff.1 (hrest.fresh hc') _ List.mem_cons_self)
        · exact List.mem_cons_of_mem _ (ih hc' ht' htail)
  | @finish _ _ waiting _ _ _ htried _ hrest ih =>
    cases tasks with
    | nil => cases ht
    | cons first tasks =>
      obtain ⟨rfl, htail⟩ := List.cons.inj hqueue
      rcases List.mem_cons.1 hc with rfl | hc'
      · exact List.mem_cons_self
      · rcases List.mem_cons.1 ht with rfl | ht'
        · exact absurd hs.symm (Path.contains_eq_false_iff.1 (hrest.fresh hc') _ List.mem_cons_self)
        · have hlater (more : List Task) : tasks ++ (rest ++ more) = waiting ++ more := by
            rw [← List.append_assoc]
            exact congrArg (· ++ more) htail
          exact List.mem_cons_of_mem _ (ih hc' ht' (hlater _))

/-! ### Closedness -/

/-- A reference that is followed leads to a chunk that was there, to a file tried before, or to a
call. -/
theorem called_of_followed (h : Runs config disk pass queue calls last) {call : Call}
    (hc : call ∈ calls) {chunk : Chunk} (hr : call.result = .ok chunk) {d : Dependency}
    (hd : d ∈ chunk.followed) :
    pass.registry.has d.target = true ∨ pass.tried.contains d.target = true ∨
      ∃ other ∈ calls, other.file.Same d.target := by
  -- a file that the head call tried is called by it
  have step (head : Call) {tried : List Path} {calls : List Call}
      (hi : (head.file :: tried).contains d.target = true ∨
        ∃ other ∈ calls, other.file.Same d.target) :
      tried.contains d.target = true ∨ ∃ other ∈ head :: calls, other.file.Same d.target := by
    rcases hi with hi | ⟨other, ho, hs⟩
    · obtain ⟨q, hq, hs⟩ := Path.contains_iff.1 hi
      rcases List.mem_cons.1 hq with rfl | hq
      · exact Or.inr ⟨head, List.mem_cons_self, hs⟩
      · exact Or.inl (Path.contains_iff.2 ⟨q, hq, hs⟩)
    · exact Or.inr ⟨other, List.mem_cons_of_mem _ ho, hs⟩
  induction h with
  | done => simp at hc
  | skip _ _ ih => exact ih hc
  | @fail pass task _ error _ _ _ _ _ ih =>
    rcases List.mem_cons.1 hc with rfl | hc
    · cases hr
    · exact (ih hc).imp_right (step ⟨task, .error error⟩)
  | @finish pass task queue chunk' calls last htried hchunk hrest ih =>
    -- the registry has grown by the file of the head call alone
    have hgrown :
        (pass.finished task.file chunk' (fileLog config disk task)).registry.has d.target =
          true → pass.registry.has d.target = true ∨
            ∃ other ∈ ⟨task, .ok chunk'⟩ :: calls, other.file.Same d.target := by
      intro hh
      rcases has_finished.1 hh with hs | hh
      · rw [file_of_compileFile hchunk] at hs
        exact Or.inr ⟨⟨task, .ok chunk'⟩, List.mem_cons_self, hs.symm⟩
      · exact Or.inl hh
    have hfinish : (pass.finished task.file chunk' (fileLog config disk task)).registry.has
          d.target = true ∨
        (task.file :: pass.tried).contains d.target = true ∨
          (∃ other ∈ calls, other.file.Same d.target) := by
      rcases List.mem_cons.1 hc with rfl | hc
      · obtain rfl := Except.ok.inj hr
        by_cases hh : (pass.finished task.file chunk' (fileLog config disk task)).registry.has
            d.target = true
        · exact Or.inl hh
        · have hnew : Task.ofDependency d ∈
              (pass.finished task.file chunk' (fileLog config disk task)).followUps chunk' :=
            mem_followUps.2 ⟨d, hd, Bool.eq_false_iff.2 hh, rfl⟩
          have hcalled := hrest.called_of_mem_queue (List.mem_append_right queue hnew)
          exact Or.inr hcalled
      · exact ih hc
    rcases hfinish with hh | hi
    · exact (hgrown hh).imp_right Or.inr
    · exact Or.inr (step ⟨task, .ok chunk'⟩ hi)

/-- A file with a chunk keeps having one. -/
theorem has_of_has (h : Runs config disk pass queue calls last) {file : Path}
    (hf : pass.registry.has file = true) : last.registry.has file = true := by
  induction h with
  | done => exact hf
  | skip _ _ ih => exact ih hf
  | fail _ _ _ ih => exact ih hf
  | finish _ _ _ ih => exact ih (has_finished.2 (Or.inr hf))

end Runs

end Pass

/-! ### A whole pass -/

section

variable {registry : Registry} {tasks : List Task} {chunks : List Chunk}

/-- The registries that a pass leaves behind are sorted. -/
theorem sorted_run (h : registry.Sorted) (config : Config) (disk : Disk) (tasks : List Task) :
    (({ registry } : Pass).run config disk tasks).registry.Sorted ∧
      (({ registry } : Pass).run config disk tasks).merged.1.Sorted ∧
      (({ registry } : Pass).run config disk tasks).merged.2.Sorted := by
  obtain ⟨calls, hruns⟩ := Pass.runs_run config disk { registry } tasks
  have hregistry : (({ registry } : Pass).run config disk tasks).registry.Sorted := by
    rw [hruns.registry_eq]
    exact sorted_addCalls h calls
  have hcompiled : (({ registry } : Pass).run config disk tasks).compiled.Sorted := by
    rw [hruns.compiled_eq]
    exact sorted_addCalls Registry.Sorted.empty calls
  exact ⟨hregistry, sorted_merge hregistry hcompiled _⟩

/-- The chunks that a pass gives are chunks of its registry. -/
theorem within_merged (config : Config) (disk : Disk) (registry : Registry) (tasks : List Task) :
    (({ registry } : Pass).run config disk tasks).merged.2.Within
      (({ registry } : Pass).run config disk tasks).merged.1 := by
  obtain ⟨calls, hruns⟩ := Pass.runs_run config disk { registry } tasks
  exact within_merge (hruns.within Registry.Within.empty) _

/-- The files that are called are what the tasks lead to. -/
theorem called_iff_reached (h : Pass.Runs config disk { registry } tasks calls last) (file : Path) :
    (∃ call ∈ calls, call.file.Same file) ↔
      ∃ reached, Reached registry tasks calls reached ∧ reached.Same file := by
  constructor
  · rintro ⟨call, hc, hs⟩
    refine ⟨call.file, ?_, hs⟩
    exact h.called_within (P := fun task => Reached registry tasks calls task.file)
      (fun _ ht => .task ht)
      (fun call hc hp _ hr _ hd hnew => .follow hp hc rfl hr hd hnew) call hc
  · rintro ⟨reached, hr, hs⟩
    suffices hcalled : ∃ call ∈ calls, call.file.Same reached by
      obtain ⟨call, hc, hsame⟩ := hcalled
      exact ⟨call, hc, hsame.trans hs⟩
    cases hr with
    | task ht =>
      rcases h.called_of_mem_queue ht with htried | hcalled
      · cases htried
      · exact hcalled
    | follow _ hc _ hok hd hnew =>
      rcases h.called_of_followed hc hok hd with hhas | htried | hcalled
      · exact absurd hhas (Bool.eq_false_iff.1 hnew)
      · cases htried
      · exact hcalled

/-- In a successful pass every call succeeds. -/
theorem ok_of_compileAll (hok : (compileAll config disk registry tasks).result = .ok chunks)
    (h : Pass.Runs config disk { registry } tasks calls last) {call : Call} (hc : call ∈ calls) :
    ∃ chunk, call.result = .ok chunk := by
  have hnone := firstError_of_compileAll hok
  rw [← h.last_eq] at hnone
  exact h.ok_of_none hnone hc

/-- Afterwards a compiled file is found in the registry and among the chunks of the pass, with the
references it was compiled with, and a reference that is followed finds a chunk. -/
theorem stored_of_compileAll (hok : (compileAll config disk registry tasks).result = .ok chunks)
    (h : Pass.Runs config disk { registry } tasks calls last) {call : Call} (hc : call ∈ calls)
    {chunk : Chunk} (hr : call.result = .ok chunk) :
    (∃ stored ∈ chunks,
      (compileAll config disk registry tasks).registry.get? call.file = some stored ∧
        stored.dependencies = chunk.dependencies) ∧
    ∀ d ∈ chunk.followed, (compileAll config disk registry tasks).registry.has d.target = true := by
  have hall := compileAll_of_none (firstError_of_compileAll hok)
  rw [← h.last_eq] at hall
  have hchunks : last.merged.2.chunks = chunks := by
    rw [hall] at hok
    exact Except.ok.inj hok
  have hregistry : (compileAll config disk registry tasks).registry = last.merged.1 := by
    rw [hall]
  rw [hregistry, ← hchunks]
  have hget : last.merged.1.get? call.file =
      some (chunk.addDestinations (destinationsTo last.references call.file)) := by
    rw [Pass.merged, get?_merge, h.get?_of_call hc hr rfl]
    rfl
  constructor
  · -- the compiled chunks are part of the registry, and the file is one of theirs
    have hcompiled : last.merged.2.has call.file = true :=
      has_merge_compiled _ (Registry.has_of_get? (h.compiled_get?_of_call hc hr rfl))
    obtain ⟨stored, hstored⟩ := Registry.has_iff.1 hcompiled
    have hwithin : last.merged.2.Within last.merged.1 :=
      within_merge (h.within Registry.Within.empty) _
    obtain rfl := Option.some.inj (hget.symm.trans (hwithin _ _ hstored))
    exact ⟨_, Registry.mem_of_get? hstored, hget, Chunk.addDestinations_dependencies _⟩
  · intro d hd
    refine (has_merge _ _).trans ?_
    rcases h.called_of_followed hc hr hd with hhas | htried | ⟨other, ho, hs⟩
    · exact h.has_of_has hhas
    · cases htried
    · obtain ⟨c, hrc⟩ := ok_of_compileAll hok h ho
      exact Registry.has_of_get? (h.get?_of_call ho hrc hs.symm)

/-- The calls are for exactly the files that the tasks lead to, and their chunks are complete. -/
structure Exact (registry : Registry) (tasks : List Task) (calls : List Call) (after : Registry)
    (chunks : List Chunk) : Prop where
  /-- What is called is what the tasks lead to. -/
  reached (file : Path) : (∃ call ∈ calls, call.file.Same file) ↔
    ∃ reached, Reached registry tasks calls reached ∧ reached.Same file
  /-- No file is called twice. -/
  once : calls.Pairwise fun a b => ¬ a.file.Same b.file
  /-- Every call succeeds, and its chunk is stored with its references. -/
  stored : ∀ call ∈ calls, ∃ chunk, call.result = .ok chunk ∧ ∃ stored ∈ chunks,
    after.get? call.file = some stored ∧ stored.dependencies = chunk.dependencies
  /-- A reference that is not embedded finds a chunk afterwards. -/
  found : ∀ call ∈ calls, ∀ chunk, call.result = .ok chunk → ∀ d ∈ chunk.dependencies,
    d.embedded = false → after.has d.target = true
  /-- A file is called for a task, or for a reference that is not embedded and found no chunk. -/
  caused : ∀ call ∈ calls, (∃ task ∈ tasks, task.file.Same call.file) ∨
    ∃ other ∈ calls, ∃ chunk, other.result = .ok chunk ∧ ∃ d ∈ chunk.dependencies,
      d.embedded = false ∧ d.target.Same call.file ∧ registry.has d.target = false

/-- A successful pass compiles exactly the files that its tasks lead to, each of them once, and
afterwards every reference that is not embedded finds a chunk. -/
theorem calls_of_compileAll (h : (compileAll config disk registry tasks).result = .ok chunks) :
    ∃ calls, Pass.Runs config disk { registry } tasks calls
        (({ registry } : Pass).run config disk tasks) ∧
      Exact registry tasks calls (compileAll config disk registry tasks).registry chunks := by
  obtain ⟨calls, hruns⟩ := Pass.runs_run config disk { registry } tasks
  have hreached := called_iff_reached hruns
  refine ⟨calls, hruns, hreached, hruns.distinct, ?_, ?_, ?_⟩
  · intro call hc
    obtain ⟨chunk, hr⟩ := ok_of_compileAll h hruns hc
    exact ⟨chunk, hr, (stored_of_compileAll h hruns hc hr).1⟩
  · intro call hc chunk hr d hd he
    exact (stored_of_compileAll h hruns hc hr).2 d (Chunk.mem_followed.2 ⟨hd, he⟩)
  · intro call hc
    obtain ⟨reached, hr, hs⟩ := (hreached call.file).1 ⟨call, hc, rfl⟩
    cases hr with
    | task ht => exact Or.inl ⟨_, ht, hs⟩
    | follow _ ho _ hok hd hnew =>
      obtain ⟨hmem, he⟩ := Chunk.mem_followed.1 hd
      exact Or.inr ⟨_, ho, _, hok, _, hmem, he, hs, hnew⟩

end

/-- Two styles that import each other. -/
def circle : Disk where
  entries := [
    (["src"], .folder),
    (["src", "a.wxss"], .file "@import './b.wxss'".toUTF8),
    (["src", "b.wxss"], .file "@import './a.wxss'".toUTF8)]
  current := []

/-- Styles that import each other compile when one of them is asked for. -/
theorem calls_of_circle : ∃ chunks calls,
    (compileAll (Config.of ⟨"/"⟩) circle {} [{ file := ⟨"/src/a.wxss"⟩ }]).result = .ok chunks ∧
      Exact {} [{ file := ⟨"/src/a.wxss"⟩ }] calls
        (compileAll (Config.of ⟨"/"⟩) circle {} [{ file := ⟨"/src/a.wxss"⟩ }]).registry chunks := by
  have hok : ∃ chunks, (compileAll (Config.of ⟨"/"⟩) circle {}
      [{ file := ⟨"/src/a.wxss"⟩ }]).result = .ok chunks :=
    compileAll_ok_of_runUpTo (n := 4) (by decide +kernel)
  obtain ⟨chunks, h⟩ := hok
  obtain ⟨calls, -, hexact⟩ := calls_of_compileAll h
  exact ⟨chunks, calls, h, hexact⟩

end Minipack.Compile
