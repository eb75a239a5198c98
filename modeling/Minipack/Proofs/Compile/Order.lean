/-
The order of tasks.

A file without a task of its own is compiled for the first reference that comes upon it, so the
order of the tasks decides on its role and on which of its destinations comes first.  Nothing else
depends on the order: the files that are called are the same, what comes of them is the same up to
role and destinations (`Compile.matched_of_mem`), and in the end each file has the destinations that
it had before, that of its task, and those of the references to it (`Compile.writes_merged_iff`),
whoever came first.

This takes two things.  The loaders must not ask for roles (`Config.KindFree`), and every file must
go by one spelling of its path (`Compile.OneSpelling`), since rules read the spelling and a file is
compiled in the spelling in which it is met first.

The main result is `Compile.sameOutcome_of_perm`; with two spellings of one file the order shows
(`Compile.turned_by_spelling`).
-/
import Mathlib.Data.List.Pairwise
import Minipack.Proofs.Compile.Alone
import Minipack.Proofs.Compile.Destinations

namespace Minipack

variable {config : Config} {disk : Disk} {registry : Registry} {chunk : Chunk}

/-- No loader is bound to roles or asks for them. -/
structure Config.KindFree (config : Config) : Prop where
  bindings : ∀ rule ∈ config.rules, ∀ binding ∈ rule.loaders, ∀ kind kind',
    binding.appliesTo kind = binding.appliesTo kind'
  loaders : ∀ rule ∈ config.rules, ∀ binding ∈ rule.loaders, ∀ input kind context,
    binding.loader.transform { input with kind := kind } context =
      binding.loader.transform input context

namespace Chunk

/-- The chunk apart from its role and its destinations. -/
def body (chunk : Chunk) : Chunk :=
  { chunk with kind := .entry, destinations := [] }

@[simp] theorem body_addDestinations (ps : List Path) :
    (chunk.addDestinations ps).body = chunk.body := by
  rw [addDestinations_eq]
  rfl

theorem followed_body : chunk.body.followed = chunk.followed := rfl

end Chunk

namespace Compile

/-! ### Loaders that do not ask for roles -/

/-- The loaders that are bound to a file are those of a rule. -/
theorem exists_rule_of_mem_bindingsOf {file : Path} {binding : LoaderBinding}
    (h : binding ∈ bindingsOf config file) : ∃ rule ∈ config.rules, binding ∈ rule.loaders := by
  unfold bindingsOf at h
  cases hrule : config.rule? file with
  | none =>
    rw [hrule] at h
    cases h
  | some rule =>
    rw [hrule] at h
    exact ⟨rule, List.mem_of_find?_eq_some hrule, h⟩

/-- Loaders that do not ask for roles do the same in all of them. -/
theorem foldlM_step_of_kindFree {bindings : List LoaderBinding} {file : Path}
    {kind kind' : ChunkKind} (h : ∀ binding ∈ bindings, ∀ input kind context,
      binding.loader.transform { input with kind := kind } context =
        binding.loader.transform input context) (made : Transformed) :
    bindings.foldlM (Transformed.step config file kind) made =
      bindings.foldlM (Transformed.step config file kind') made := by
  induction bindings generalizing made with
  | nil => rfl
  | cons binding rest ih =>
    have hstep : Transformed.step config file kind made binding =
        Transformed.step config file kind' made binding := by
      unfold Transformed.step
      dsimp only
      rw [h binding List.mem_cons_self ⟨file, made.content, made.sourceMap, kind'⟩ kind]
    rw [List.foldlM_cons, List.foldlM_cons, hstep]
    exact bind_congr fun next => ih (fun b hb => h b (List.mem_cons_of_mem _ hb)) next

theorem runLoaders_of_kindFree (h : config.KindFree) (file : Path) (kind kind' : ChunkKind)
    (content : ByteArray) (map : Option String) :
    runLoaders config .compile (bindingsOf config file) file kind content map =
      runLoaders config .compile (bindingsOf config file) file kind' content map := by
  have hfilter : (bindingsOf config file).filter (LoaderPass.compile.includes kind) =
      (bindingsOf config file).filter (LoaderPass.compile.includes kind') := by
    refine List.filter_congr fun binding hb => ?_
    obtain ⟨rule, hrule, hbinding⟩ := exists_rule_of_mem_bindingsOf hb
    exact h.bindings rule hrule binding hbinding kind kind'
  unfold runLoaders
  rw [hfilter]
  refine foldlM_step_of_kindFree (fun binding hb => ?_) _
  obtain ⟨rule, hrule, hbinding⟩ := exists_rule_of_mem_bindingsOf (List.mem_of_mem_filter hb)
  exact h.loaders rule hrule binding hbinding

/-- What comes of a file does not depend on the task that it is compiled for, up to its role and its
destinations. -/
theorem body_compileFile (h : config.KindFree) {task task' : Task} (hfile : task.file = task'.file)
    (registry registry' : Registry) :
    (compileFile config disk registry task).map Chunk.body =
      (compileFile config disk registry' task').map Chunk.body := by
  rw [compileFile_eq config disk registry, compileFile_eq config disk registry']
  unfold compileFile
  rw [← hfile]
  cases readSource disk task.file with
  | error error => rfl
  | ok source =>
    simp only [compileSource, bind, Except.bind, pure, Except.pure, ← hfile]
    cases Resolve.resolveFile config disk task.file source with
    | error error => rfl
    | ok resolved =>
      have hloaders := runLoaders_of_kindFree h task.file task.kind task'.kind resolved.content none
      unfold bindingsOf at hloaders
      dsimp only
      rw [hloaders]
      cases runLoaders config .compile (((config.rule? task.file).map Rule.loaders).getD [])
          task.file task'.kind resolved.content none with
      | error error => rfl
      | ok transformed =>
        simp only [Except.map, Chunk.body_addDestinations]
        rfl

/-! ### One spelling -/

/-- All that the tasks lead to goes by one spelling of its path. -/
def OneSpelling (config : Config) (disk : Disk) (registry : Registry) (tasks : List Task) : Prop :=
  ∀ a ∈ tasks, ∀ b ∈ tasks, ∀ t u, Entails config disk registry a t →
    Entails config disk registry b u → t.file.Same u.file → t.file = u.file

variable {tasks tasks' : List Task} {calls calls' : List Call} {last last' : Pass}

/-- Whether a list of files has, in the same spelling, all that they refer to. -/
def closed (config : Config) (disk : Disk) (files : List Path) : Bool :=
  files.all fun file =>
    ((readSource disk file).toOption.bind fun source =>
      (Resolve.resolveFile config disk file source).toOption).all fun resolved =>
        resolved.dependencies.all fun d => files.any fun target => target.text == d.target.text

/-- The tasks lead to nothing outside of a closed list. -/
theorem mem_of_closed {files : List Path} (hclosed : closed config disk files = true)
    {task other : Task} (htask : task.file ∈ files)
    (h : Entails config disk registry task other) : other.file ∈ files := by
  induction h with
  | self => exact htask
  | @follow other chunk d _ hchunk hd _ ih =>
    obtain ⟨source, resolved, hs, hr, hfollowed⟩ := followed_of_compileFile hchunk
    rw [hfollowed] at hd
    have hfile := List.all_eq_true.1 hclosed _ ih
    rw [hs] at hfile
    simp only [Except.toOption, Option.bind_some, hr, Option.all_some] at hfile
    obtain ⟨target, ht, htext⟩ :=
      List.any_eq_true.1 (List.all_eq_true.1 hfile d (List.mem_of_mem_filter hd))
    obtain rfl : target = d.target := by
      cases target
      exact congrArg Path.mk (beq_iff_eq.1 htext)
    exact ht

/-- Where a closed list has no file twice, the tasks lead to each file in one spelling. -/
theorem oneSpelling_of_closed {files : List Path} (hclosed : closed config disk files = true)
    (htasks : ∀ task ∈ tasks, task.file ∈ files)
    (hdistinct : files.Pairwise fun p q => ¬ p.Same q) :
    OneSpelling config disk registry tasks := by
  have : Std.Symm fun p q : Path => ¬ p.Same q := ⟨fun _ _ hn hs => hn hs.symm⟩
  intro a ha b hb t u ht hu hs
  by_contra hne
  apply hdistinct.forall _ _ hne hs
  · exact mem_of_closed hclosed (htasks a ha) ht
  · exact mem_of_closed hclosed (htasks b hb) hu

/-! ### The calls of two passes -/

/-- Every call has a match, a call of the same file that comes to the same up to role and
destinations. -/
def Matched (calls calls' : List Call) : Prop :=
  ∀ call ∈ calls, ∃ call' ∈ calls', call'.file = call.file ∧
    call'.result.map Chunk.body = call.result.map Chunk.body

theorem exists_ok_of_body {result result' : Except Error Chunk}
    (h : result'.map Chunk.body = result.map Chunk.body) (hr : result = .ok chunk) :
    ∃ chunk', result' = .ok chunk' ∧ chunk'.body = chunk.body := by
  rw [hr] at h
  exact map_eq_ok.1 h

/-- A pass over the same tasks matches all calls. -/
theorem matched_of_mem (hfree : config.KindFree)
    (hspelled : OneSpelling config disk registry tasks)
    (hruns : Pass.Runs config disk { registry } tasks calls last)
    (hruns' : Pass.Runs config disk { registry } tasks' calls' last')
    (hmem : ∀ task, task ∈ tasks ↔ task ∈ tasks') : Matched calls calls' := by
  have hbody {call call' : Call} (hc : call ∈ calls) (hc' : call' ∈ calls')
      (hfile : call'.file = call.file) :
      call'.result.map Chunk.body = call.result.map Chunk.body := by
    rw [← hruns.compileFile_eq_result hc, ← hruns'.compileFile_eq_result hc']
    exact body_compileFile hfree hfile registry registry
  -- the file of a call of either pass has the spelling in which the tasks lead to it
  have hspelling {task other : Task} (ht : task ∈ tasks)
      (hentails : Entails config disk registry task other) {call' : Call} (hc' : call' ∈ calls')
      (hs : call'.file.Same other.file) : call'.file = other.file := by
    obtain ⟨b, hb, hentails'⟩ := hruns'.entailed call' hc'
    exact hspelled b ((hmem b).2 hb) task ht _ _ hentails' hentails hs
  have hcalled : ∀ call ∈ calls, (∃ task ∈ tasks, Entails config disk registry task call.task) ∧
      ∃ call' ∈ calls', call'.file = call.task.file := by
    apply hruns.called_within (P := fun other =>
      (∃ task ∈ tasks, Entails config disk registry task other) ∧
        ∃ call' ∈ calls', call'.file = other.file)
    · intro task ht
      rcases hruns'.called_of_mem_queue ((hmem task).1 ht) with htried | ⟨call', hc', hs⟩
      · cases htried
      · exact ⟨⟨task, ht, .self⟩, call', hc', hspelling ht .self hc' hs⟩
    · rintro call hc ⟨⟨task, ht, hentails⟩, call', hc', hfile⟩ chunk hr d hd hnew
      have hentails' : Entails config disk registry task (.ofDependency d) :=
        .follow hentails ((hruns.compileFile_eq_result hc).trans hr) hd hnew
      -- the other pass has compiled the file, too, and goes on to the same reference
      obtain ⟨chunk', hr', hsame⟩ := exists_ok_of_body (hbody hc hc' hfile) hr
      have hd' : d ∈ chunk'.followed := by
        rw [← Chunk.followed_body, hsame, Chunk.followed_body]
        exact hd
      rcases hruns'.called_of_followed hc' hr' hd' with hhas | htried | ⟨other, ho, hs⟩
      · exact absurd hhas (Bool.eq_false_iff.1 hnew)
      · cases htried
      · exact ⟨⟨task, ht, hentails'⟩, other, ho, hspelling ht hentails' ho hs⟩
  intro call hc
  obtain ⟨-, call', hc', hfile⟩ := hcalled call hc
  exact ⟨call', hc', hfile, hbody hc hc' hfile⟩

theorem Matched.called_iff (h : Matched calls calls') (h' : Matched calls' calls) (file : Path) :
    (∃ call ∈ calls, call.file.Same file) ↔ ∃ call ∈ calls', call.file.Same file := by
  constructor
  · rintro ⟨call, hc, hs⟩
    obtain ⟨call', hc', hfile, -⟩ := h call hc
    exact ⟨call', hc', hfile ▸ hs⟩
  · rintro ⟨call', hc', hs⟩
    obtain ⟨call, hc, hfile, -⟩ := h' call' hc'
    exact ⟨call, hc, hfile ▸ hs⟩

/-- When all calls are matched by calls that succeed, all succeed. -/
theorem Matched.firstError (h : Matched calls calls')
    (hruns : Pass.Runs config disk { registry } tasks calls last)
    (hruns' : Pass.Runs config disk { registry } tasks' calls' last')
    (hn : last'.firstError = none) : last.firstError = none := by
  rw [hruns.firstError]
  show calls.findSome? Call.error? = none
  apply List.findSome?_eq_none_iff.2
  intro call hc
  obtain ⟨call', hc', -, hsame⟩ := h call hc
  obtain ⟨chunk', hr'⟩ := hruns'.ok_of_none hn hc'
  obtain ⟨chunk, hr, -⟩ := exists_ok_of_body hsame.symm hr'
  rw [Call.error?, hr]

/-- The chunks of matched calls are the same up to role and destinations, in whatever registry they
are put. -/
theorem Matched.get?_addCalls (h : Matched calls calls') (h' : Matched calls' calls)
    (hruns : Pass.Runs config disk { registry } tasks calls last)
    (hruns' : Pass.Runs config disk { registry } tasks' calls' last') (start : Registry)
    (file : Path) :
    ((addCalls start calls).get? file).map Chunk.body =
      ((addCalls start calls').get? file).map Chunk.body := by
  by_cases hcalled : ∃ call ∈ calls, file.Same call.file ∧ ∃ chunk, call.result = .ok chunk
  · obtain ⟨call, hc, hs, chunk, hr⟩ := hcalled
    obtain ⟨call', hc', hfile, hsame⟩ := h call hc
    obtain ⟨chunk', hr', hbody⟩ := exists_ok_of_body hsame hr
    rw [get?_addCalls_of_mem hruns.distinct (fun _ ho _ => hruns.file_eq ho) hc hr hs,
      get?_addCalls_of_mem hruns'.distinct (fun _ ho _ => hruns'.file_eq ho) hc' hr'
        (hfile ▸ hs)]
    show some chunk.body = some chunk'.body
    rw [hbody]
  · -- then no call of the other pass has compiled the file either
    rw [get?_addCalls_of_ne, get?_addCalls_of_ne]
    · intro call' hc' chunk' hr' hs
      obtain ⟨call, hc, hfile, hsame⟩ := h' call' hc'
      obtain ⟨chunk, hr, -⟩ := exists_ok_of_body hsame hr'
      rw [hruns'.file_eq hc' hr', ← hfile] at hs
      exact hcalled ⟨call, hc, hs, chunk, hr⟩
    · intro call hc chunk hr hs
      rw [hruns.file_eq hc hr] at hs
      exact hcalled ⟨call, hc, hs, chunk, hr⟩

/-- Registries in which every file finds the same up to role and destinations list the same. -/
theorem map_body_eq {old new : Registry} (hold : old.Sorted) (hnew : new.Sorted)
    (h : ∀ file, (old.get? file).map Chunk.body = (new.get? file).map Chunk.body) :
    old.chunks.map Chunk.body = new.chunks.map Chunk.body := by
  have hsorted {r : Registry} (hr : r.Sorted) :
      Keyed.Sorted Chunk.file (r.chunks.map Chunk.body) := by
    apply List.pairwise_map.2
    exact hr
  apply (hsorted hold).eq_of_find? (hsorted hnew)
  intro file
  have hmap (r : Registry) : Keyed.find? Chunk.file file (r.chunks.map Chunk.body) =
      (r.get? file).map Chunk.body :=
    Keyed.find?_map (fun _ => rfl) file r.chunks
  rw [hmap, hmap]
  exact h file

/-- Matched passes follow the same references in the same order, that of the paths of the files that
have them. -/
theorem Matched.references (h : Matched calls calls') (h' : Matched calls' calls)
    (hruns : Pass.Runs config disk { registry } tasks calls last)
    (hruns' : Pass.Runs config disk { registry } tasks' calls' last') :
    last.references = last'.references := by
  have hfollowed (pass : Pass) : pass.references =
      (pass.compiled.chunks.map Chunk.body).flatMap Chunk.followed := by
    rw [Pass.references, List.flatMap_map]
    rfl
  rw [hfollowed, hfollowed, hruns.compiled_eq, hruns'.compiled_eq]
  rw [map_body_eq (sorted_addCalls Registry.Sorted.empty calls)
    (sorted_addCalls Registry.Sorted.empty calls')]
  exact h.get?_addCalls h' hruns hruns' {}

/-- References give destinations only. -/
theorem body_get?_merged (pass : Pass) (file : Path) :
    (pass.merged.1.get? file).map Chunk.body = (pass.registry.get? file).map Chunk.body := by
  rw [get?_merged, Option.map_map]
  exact congrArg (Option.map · _) (funext fun chunk => Chunk.body_addDestinations _)

/-- After a pass a file finds what it finds when the queue is empty, up to destinations. -/
theorem body_get?_compileAll (registry : Registry) (tasks : List Task) (file : Path) :
    ((compileAll config disk registry tasks).registry.get? file).map Chunk.body =
      ((({ registry } : Pass).run config disk tasks).registry.get? file).map Chunk.body := by
  cases he : (({ registry } : Pass).run config disk tasks).firstError with
  | some error => rw [compileAll_of_error he]
  | none =>
    rw [compileAll_of_none he]
    exact body_get?_merged _ file

/-! ### Destinations -/

/-- A compiled chunk has the destination of its task and those that its file had before. -/
theorem writes_of_compileFile {task : Task}
    (h : compileFile config disk registry task = .ok chunk) {p : Path}
    (hp : chunk.destinations.contains p = true) :
    (task.destination.getD (config.destination task.file)).Same p ∨
      registry.Writes task.file p := by
  obtain ⟨source, resolved, transformed, -, -, -, rfl⟩ := compileFile_eq_ok_iff.1 h
  rcases Chunk.contains_addDestinations_iff.1 hp with hp | ⟨q, hq, hs⟩
  · obtain ⟨q, hq, hs⟩ := Path.contains_iff.1 hp
    rw [List.mem_singleton.1 hq] at hs
    exact Or.inl hs
  · cases hget : registry.get? task.file with
    | none =>
      rw [knownDestinations, hget] at hq
      cases hq
    | some old =>
      rw [knownDestinations, hget] at hq
      exact Or.inr ⟨old, hget, Path.contains_iff.2 ⟨q, hq, hs⟩⟩

/-- What a call follows is a reference of the pass. -/
theorem mem_references (hruns : Pass.Runs config disk { registry } tasks calls last) {call : Call}
    (hc : call ∈ calls) (hr : call.result = .ok chunk) {d : Dependency} (hd : d ∈ chunk.followed) :
    d ∈ last.references :=
  List.mem_flatMap.2
    ⟨chunk, Registry.mem_of_get? (hruns.compiled_get?_of_call hc hr (Path.same_refl _)), hd⟩

/-- A reference of a pass is followed from a file that it has compiled. -/
theorem exists_call_of_mem_references
    (hruns : Pass.Runs config disk { registry } tasks calls last) {d : Dependency}
    (hd : d ∈ last.references) :
    ∃ call ∈ calls, ∃ chunk, call.result = .ok chunk ∧ d ∈ chunk.followed := by
  obtain ⟨chunk, hc, hd⟩ := List.mem_flatMap.1 hd
  have hsorted : last.compiled.Sorted := by
    rw [hruns.compiled_eq]
    exact sorted_addCalls Registry.Sorted.empty calls
  have hget := hsorted.get?_of_mem hc
  by_contra hnone
  rw [hruns.compiled_eq, get?_addCalls_of_ne] at hget
  · cases hget
  · intro call hcall made hr hs
    obtain rfl : made = chunk := Option.some.inj
      ((hruns.compiled_get?_of_call hcall hr (hruns.file_eq hcall hr ▸ hs)).symm.trans
        (hsorted.get?_of_mem hc))
    exact hnone ⟨call, hcall, made, hr, hd⟩

/-- A file that has a task is called for this task, when no other is for the same file. -/
theorem task_eq_of_same (hruns : Pass.Runs config disk { registry } tasks calls last)
    (hdistinct : tasks.Pairwise fun a b => ¬ a.file.Same b.file) {call : Call} (hc : call ∈ calls)
    {task : Task} (ht : task ∈ tasks) (hs : call.file.Same task.file) : call.task = task := by
  have hruns' : Pass.Runs config disk { registry } (tasks ++ []) calls last := by
    rw [List.append_nil]
    exact hruns
  have hmem : call.task ∈ tasks := hruns'.mem_tasks_of_same hc ht hs
  have : Std.Symm fun a b : Task => ¬ a.file.Same b.file := ⟨fun _ _ hn hs => hn hs.symm⟩
  by_contra hne
  exact hdistinct.forall hmem ht hne hs

/-- A destination that a file has after a pass it had before, or it is that of a task for the file
or of a reference to it. -/
theorem cause_of_writes (hruns : Pass.Runs config disk { registry } tasks calls last)
    (hn : last.firstError = none) {file p : Path} (h : last.merged.1.Writes file p) :
    registry.Writes file p ∨
      (∃ task ∈ tasks, task.file.Same file ∧
        (task.destination.getD (config.destination task.file)).Same p) ∨
      ∃ d ∈ last.references, d.target.Same file ∧ d.destination.Same p := by
  obtain ⟨chunk, hget, hp⟩ := h
  rw [get?_merged] at hget
  obtain ⟨made, hmade, rfl⟩ := Option.map_eq_some_iff.1 hget
  rcases Chunk.contains_addDestinations_iff.1 hp with hp | ⟨q, hq, hqp⟩
  · by_cases hcalled : ∃ call ∈ calls, call.file.Same file
    · obtain ⟨call, hc, hs⟩ := hcalled
      obtain ⟨chunk, hr⟩ := hruns.ok_of_none hn hc
      obtain rfl : chunk = made :=
        Option.some.inj ((hruns.get?_of_call hc hr hs.symm).symm.trans hmade)
      rcases writes_of_compileFile ((hruns.compileFile_eq_result hc).trans hr) hp with hown | hold
      · -- the destination of the call is that of a task or of a reference
        rcases hruns.caused hc with ht | ⟨other, ho, made, hmade, d, hd, htask⟩
        · exact Or.inr (Or.inl ⟨call.task, ht, hs, hown⟩)
        · rw [htask] at hown
          refine Or.inr (Or.inr ⟨d, mem_references hruns ho hmade hd, ?_, hown⟩)
          have hfile : call.file = d.target := congrArg Task.file htask
          exact hfile ▸ hs
      · obtain ⟨old, hget, hcontains⟩ := hold
        exact Or.inl ⟨old, (Registry.get?_congr hs.symm).trans hget, hcontains⟩
    · left
      refine ⟨made, ?_, hp⟩
      rw [← hmade]
      exact (hruns.get?_of_not_called fun call hc hs => hcalled ⟨call, hc, hs⟩).symm
  · obtain ⟨d, hd, rfl⟩ := List.mem_map.1 hq
    obtain ⟨hd, hb⟩ := List.mem_filter.1 hd
    exact Or.inr (Or.inr ⟨d, hd, Path.beq_iff_same.1 hb, hqp⟩)

/-- After a pass a file has the destinations that it had before, that of its task, and those of the
references to it. -/
theorem writes_merged_iff (hruns : Pass.Runs config disk { registry } tasks calls last)
    (hn : last.firstError = none)
    (hdistinct : tasks.Pairwise fun a b => ¬ a.file.Same b.file) {file p : Path} :
    last.merged.1.Writes file p ↔ registry.Writes file p ∨
      (∃ task ∈ tasks, task.file.Same file ∧
        (task.destination.getD (config.destination task.file)).Same p) ∨
      ∃ d ∈ last.references, d.target.Same file ∧ d.destination.Same p := by
  refine ⟨cause_of_writes hruns hn, ?_⟩
  rintro (hold | ⟨task, ht, hs, hp⟩ | ⟨d, hd, hs, hp⟩)
  · exact keeps_destinations hruns hn hold
  · rcases hruns.called_of_mem_queue ht with htried | ⟨call, hc, hsame⟩
    · cases htried
    · obtain ⟨chunk, hr⟩ := hruns.ok_of_none hn hc
      have htask := task_eq_of_same hruns hdistinct hc ht hsame
      obtain ⟨ps, hmerged⟩ := exists_get?_merged hruns hc hr (hsame.trans hs).symm
      have hown := contains_destination ((hruns.compileFile_eq_result hc).trans hr)
      rw [htask] at hown
      obtain ⟨q, hq, hqs⟩ := Path.contains_iff.1 (contains_addDestinations_of_contains ps hown)
      exact ⟨_, hmerged, Path.contains_iff.2 ⟨q, hq, hqs.trans hp⟩⟩
  · obtain ⟨call, hc, chunk, hr, hd⟩ := exists_call_of_mem_references hruns hd
    obtain ⟨target, hget, hcontains⟩ := writes_of_followed hruns hn hc hr hd
    obtain ⟨q, hq, hqs⟩ := Path.contains_iff.1 hcontains
    exact ⟨target, (Registry.get?_congr hs.symm).trans hget,
      Path.contains_iff.2 ⟨q, hq, hqs.trans hp⟩⟩

/-- A pass hands on a file when it calls it, or when the file had a chunk and has gained a
destination. -/
theorem has_merged_iff_writes (hruns : Pass.Runs config disk { registry } tasks calls last)
    (hn : last.firstError = none) (file : Path) :
    last.merged.2.has file = true ↔ (∃ call ∈ calls, call.file.Same file) ∨
      registry.has file = true ∧ ∃ p, last.merged.1.Writes file p ∧ ¬ registry.Writes file p := by
  have hwithin : last.merged.2.Within last.merged.1 :=
    within_merge (hruns.within Registry.Within.empty) _
  -- what is handed on but not compiled has gained a destination
  constructor
  · intro h
    obtain ⟨new, hnew⟩ := Registry.has_iff.1 h
    have hstored := hwithin _ _ hnew
    rcases (has_merged_iff hruns hn hstored).1 h with hcalled | ⟨old, hold, p, hp, hfresh⟩
    · exact Or.inl hcalled
    · refine Or.inr ⟨Registry.has_of_get? hold, p, ⟨new, hstored, ?_⟩, ?_⟩
      · exact Path.contains_iff.2 ⟨p, hp, Path.same_refl p⟩
      · rintro ⟨other, hother, hcontains⟩
        obtain rfl : other = old := Option.some.inj (hother.symm.trans hold)
        rw [hfresh] at hcontains
        cases hcontains
  · rintro (⟨call, hc, hs⟩ | ⟨hhas, p, ⟨new, hnew, hp⟩, hfresh⟩)
    · obtain ⟨chunk, hr⟩ := hruns.ok_of_none hn hc
      exact has_merge_compiled _ (Registry.has_of_get? (hruns.compiled_get?_of_call hc hr hs.symm))
    · obtain ⟨old, hold⟩ := Registry.has_iff.1 hhas
      obtain ⟨q, hq, hs⟩ := Path.contains_iff.1 hp
      refine (has_merged_iff hruns hn hnew).2 (Or.inr ⟨old, hold, q, hq, ?_⟩)
      apply Bool.eq_false_iff.2
      intro hcontains
      obtain ⟨r, hr, hrs⟩ := Path.contains_iff.1 hcontains
      exact hfresh ⟨old, hold, Path.contains_iff.2 ⟨r, hr, hrs.trans hs⟩⟩

/-! ### Both orders -/

/-- Two passes leave the same behind, but for the role and the order of the destinations of files
that have got their first chunk by a reference. -/
structure SameOutcome (registry : Registry) (tasks : List Task) (first second : Outcome) :
    Prop where
  succeeds : (∃ chunks, first.result = .ok chunks) ↔ ∃ chunks, second.result = .ok chunks
  /-- The same files have chunks, and these are the same up to role and destinations. -/
  bodies : ∀ file, (first.registry.get? file).map Chunk.body =
    (second.registry.get? file).map Chunk.body
  /-- Files that had a chunk or have a task have the very same one. -/
  settled : ∀ file, (registry.has file = true ∨ ∃ task ∈ tasks, task.file.Same file) →
    first.registry.get? file = second.registry.get? file
  /-- When they succeed each file has the same destinations. -/
  writes : ∀ chunks, first.result = .ok chunks → ∀ file p,
    first.registry.Writes file p ↔ second.registry.Writes file p
  /-- When they succeed the same files are handed on. -/
  given : ∀ chunks chunks', first.result = .ok chunks → second.result = .ok chunks' → ∀ file,
    (∃ chunk ∈ chunks, chunk.file.Same file) ↔ ∃ chunk ∈ chunks', chunk.file.Same file

/-- A file that had a chunk or has a task finds the same after both runs. -/
theorem get?_of_settled (h' : Matched calls' calls)
    (hruns : Pass.Runs config disk { registry } tasks calls last)
    (hruns' : Pass.Runs config disk { registry } tasks' calls' last')
    (hdistinct : tasks.Pairwise fun a b => ¬ a.file.Same b.file) (hperm : tasks.Perm tasks')
    {file : Path} (hfile : registry.has file = true ∨ ∃ task ∈ tasks, task.file.Same file) :
    last.registry.get? file = last'.registry.get? file := by
  have hdistinct' : tasks'.Pairwise fun a b => ¬ a.file.Same b.file :=
    hperm.pairwise hdistinct fun hn hs => hn hs.symm
  by_cases hcalled : ∃ call ∈ calls, call.file.Same file
  · obtain ⟨call, hc, hs⟩ := hcalled
    -- both passes call the file for its task
    have htask : call.task ∈ tasks := by
      rcases hfile with hhas | ⟨task, ht, hs'⟩
      · exact hruns.mem_queue_of_has hc ((Registry.has_congr hs).trans hhas)
      · rw [task_eq_of_same hruns hdistinct hc ht (hs.trans hs'.symm)]
        exact ht
    rcases hruns'.called_of_mem_queue (hperm.mem_iff.1 htask) with htried | ⟨call', hc', hs'⟩
    · cases htried
    have hresult : call'.result = call.result := by
      rw [← hruns.compileFile_eq_result hc, ← hruns'.compileFile_eq_result hc',
        task_eq_of_same hruns' hdistinct' hc' (hperm.mem_iff.1 htask) hs']
    have hsame : file.Same call'.file := (hs'.trans hs).symm
    cases hr : call.result with
    | error error =>
      rw [hruns.get?_of_failed hc hr hs.symm, hruns'.get?_of_failed hc' (hresult.trans hr) hsame]
    | ok chunk =>
      rw [hruns.get?_of_call hc hr hs.symm, hruns'.get?_of_call hc' (hresult.trans hr) hsame]
  · rw [hruns.get?_of_not_called, hruns'.get?_of_not_called]
    · intro call' hc' hs
      obtain ⟨call, hc, hsame, -⟩ := h' call' hc'
      exact hcalled ⟨call, hc, hsame ▸ hs⟩
    · intro call hc hs
      exact hcalled ⟨call, hc, hs⟩

/-- In what order a pass gets its tasks makes no difference, when loaders do not ask for roles and
every file goes by one spelling, but for the roles and the order of the destinations of files that
have no task. -/
theorem sameOutcome_of_perm (hs : registry.Sorted) (hfree : config.KindFree)
    (hdistinct : tasks.Pairwise fun a b => ¬ a.file.Same b.file) (hperm : tasks.Perm tasks')
    (hspelled : OneSpelling config disk registry tasks) :
    SameOutcome registry tasks (compileAll config disk registry tasks)
      (compileAll config disk registry tasks') := by
  have hmem (task : Task) : task ∈ tasks ↔ task ∈ tasks' := hperm.mem_iff
  have hspelled' : OneSpelling config disk registry tasks' := by
    intro a ha b hb
    exact hspelled a ((hmem a).2 ha) b ((hmem b).2 hb)
  have hdistinct' : tasks'.Pairwise fun a b => ¬ a.file.Same b.file :=
    hperm.pairwise hdistinct fun hn hs => hn hs.symm
  obtain ⟨calls, hruns⟩ := Pass.runs_run config disk { registry } tasks
  obtain ⟨calls', hruns'⟩ := Pass.runs_run config disk { registry } tasks'
  have h := matched_of_mem hfree hspelled hruns hruns' hmem
  have h' := matched_of_mem hfree hspelled' hruns' hruns fun task => (hmem task).symm
  have hnone := h.firstError hruns hruns'
  have hnone' := h'.firstError hruns' hruns
  have hreferences := h.references h' hruns hruns'
  have hbodies (file : Path) := h.get?_addCalls h' hruns hruns' registry file
  have hlast (file : Path)
      (hfile : registry.has file = true ∨ ∃ task ∈ tasks, task.file.Same file) :=
    get?_of_settled h' hruns hruns' hdistinct hperm hfile
  rw [← hruns.registry_eq, ← hruns'.registry_eq] at hbodies
  simp only [← body_get?_compileAll] at hbodies
  cases he : (({ registry } : Pass).run config disk tasks).firstError with
  | some error =>
    obtain ⟨error', he'⟩ := Option.ne_none_iff_exists'.1 fun hn => by
      rw [hnone hn] at he
      cases he
    rw [compileAll_of_error he, compileAll_of_error he'] at hbodies ⊢
    constructor
    · constructor
      · rintro ⟨chunks, hr⟩
        cases hr
      · rintro ⟨chunks, hr⟩
        cases hr
    · exact hbodies
    · exact hlast
    · intro chunks hr
      cases hr
    · intro chunks chunks' hr
      cases hr
  | none =>
    have he' := hnone' he
    rw [compileAll_of_none he, compileAll_of_none he'] at hbodies ⊢
    have hwrites (file p : Path) :
        (({ registry } : Pass).run config disk tasks).merged.1.Writes file p ↔
          (({ registry } : Pass).run config disk tasks').merged.1.Writes file p := by
      rw [writes_merged_iff hruns he hdistinct, writes_merged_iff hruns' he' hdistinct',
        hreferences]
      simp only [hmem]
    constructor
    · exact ⟨fun _ => ⟨_, rfl⟩, fun _ => ⟨_, rfl⟩⟩
    · exact hbodies
    · intro file hfile
      show (Pass.merged _).1.get? file = (Pass.merged _).1.get? file
      rw [get?_merged, get?_merged, hlast file hfile, hreferences]
    · intro chunks _
      exact hwrites
    · intro chunks chunks' hr hr' file
      rw [← Except.ok.inj hr, ← Except.ok.inj hr']
      rw [(sorted_run hs config disk tasks).2.2.exists_same_iff,
        (sorted_run hs config disk tasks').2.2.exists_same_iff,
        has_merged_iff_writes hruns he, has_merged_iff_writes hruns' he']
      simp only [hwrites, h.called_iff h']

/-- Styles that import each other compile to the same in either order. -/
theorem sameOutcome_of_circle :
    SameOutcome {} [{ file := ⟨"/src/a.wxss"⟩ }, { file := ⟨"/src/b.wxss"⟩ }]
      (compileAll (Config.of ⟨"/"⟩) circle {}
        [{ file := ⟨"/src/a.wxss"⟩ }, { file := ⟨"/src/b.wxss"⟩ }])
      (compileAll (Config.of ⟨"/"⟩) circle {}
        [{ file := ⟨"/src/b.wxss"⟩ }, { file := ⟨"/src/a.wxss"⟩ }]) := by
  have hfree : (Config.of ⟨"/"⟩).KindFree := by
    constructor
    · intro rule hrule
      cases hrule
    · intro rule hrule
      cases hrule
  have hclosed : closed (Config.of ⟨"/"⟩) circle [⟨"/src/a.wxss"⟩, ⟨"/src/b.wxss"⟩] = true := by
    decide +kernel
  have hspelled : OneSpelling (Config.of ⟨"/"⟩) circle {}
      [{ file := ⟨"/src/a.wxss"⟩ }, { file := ⟨"/src/b.wxss"⟩ }] :=
    oneSpelling_of_closed hclosed (by simp) (by decide +kernel)
  exact sameOutcome_of_perm Registry.Sorted.empty hfree (by decide +kernel) (List.Perm.swap _ _ _)
    hspelled

/-! ### Two spellings of one file -/

namespace Spellings

/-- Two styles that import one of a package, each by a spelling of its own. -/
def tree : Disk where
  entries := [
    (["src"], .folder),
    (["src", "a.wxss"], .file "@import '~c'".toUTF8),
    (["src", "b.wxss"], .file "@import '~./c'".toUTF8),
    (["src", "node_modules"], .folder),
    (["src", "node_modules", "c"], .file "c".toUTF8)]
  current := []

/-- A loader that leaves a mark. -/
def mark : Loader where
  name := "mark"
  transform := fun input _ => .ok { content := input.content ++ "!".toUTF8 }

/-- The loader is for paths with a `.` step. -/
def stepped : Rule where
  test := ⟨"\\./", .sequence (.char (.one '.')) (.char (.one '/'))⟩
  loaders := [{ loader := mark }]

def settings : Config :=
  { Config.of ⟨"/"⟩ with rules := [stepped] }

theorem kindFree : settings.KindFree where
  bindings := by
    intro rule hrule binding hbinding kind kind'
    rw [List.mem_singleton.1 hrule] at hbinding
    rw [List.mem_singleton.1 hbinding]
    rfl
  loaders := by
    intro rule hrule binding hbinding input kind context
    rw [List.mem_singleton.1 hrule] at hbinding
    rw [List.mem_singleton.1 hbinding]
    rfl

/-- The style that imports without a `.` step. -/
def plain : Task := { file := ⟨"/src/a.wxss"⟩ }

/-- The style whose import has one. -/
def dotted : Task := { file := ⟨"/src/b.wxss"⟩ }

/-- The file of the package. -/
def shared : Path := ⟨"/src/node_modules/c"⟩

/-- The content of the file after a pass. -/
def outcome (tasks : List Task) : Option (Option ByteArray) :=
  (Pass.runUpTo settings tree 5 { registry := {} } tasks).map fun last =>
    (last.registry.get? shared).map Chunk.content

theorem content_of_outcome {tasks : List Task} {content : ByteArray}
    (h : outcome tasks = some (some content)) :
    (((compileAll settings tree {} tasks).registry.get? shared).map Chunk.body).map
      Chunk.content = some content := by
  obtain ⟨last, hlast, hcontent⟩ := Option.map_eq_some_iff.1 h
  rw [body_get?_compileAll, Pass.run_eq_of_runUpTo hlast, Option.map_map]
  exact hcontent

theorem outcome_plain : outcome [plain, dotted] = some (some "c".toUTF8) := by
  decide +kernel

theorem outcome_dotted : outcome [dotted, plain] = some (some "c!".toUTF8) := by
  decide +kernel

end Spellings

/-- With two spellings of one file, of which one has a rule, the order of the tasks decides on the
content of the file. -/
theorem turned_by_spelling : Spellings.settings.KindFree ∧
    [Spellings.plain, Spellings.dotted].Pairwise (fun a b => ¬ a.file.Same b.file) ∧
    [Spellings.plain, Spellings.dotted].Perm [Spellings.dotted, Spellings.plain] ∧
    ¬ SameOutcome {} [Spellings.plain, Spellings.dotted]
      (compileAll Spellings.settings Spellings.tree {} [Spellings.plain, Spellings.dotted])
      (compileAll Spellings.settings Spellings.tree {} [Spellings.dotted, Spellings.plain]) := by
  refine ⟨Spellings.kindFree, by decide +kernel, List.Perm.swap _ _ _, fun h => ?_⟩
  have hplain := Spellings.content_of_outcome Spellings.outcome_plain
  rw [h.bodies Spellings.shared, Spellings.content_of_outcome Spellings.outcome_dotted] at hplain
  exact absurd hplain (by decide +kernel)

end Compile
end Minipack
