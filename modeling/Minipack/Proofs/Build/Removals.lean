/-
Batches that remove files.

A file that is removed has a task when it refers to a changed file that comes before it
(`Build.mem_tasks_taken`), and then the batch fails, because the file cannot be read.

The main result is `Build.weeded_of_run`: after a run, whatever has happened to the disk, a batch
drops every file that it removes, and if its tasks compile on their own (`Compile.Compiles`) and can
be written it completes exactly when the files of all its tasks are there.
-/
import Minipack.Proofs.Build.Gathering
import Minipack.Proofs.Build.Plugins
import Minipack.Proofs.Build.Steps
import Minipack.Proofs.Compile.Alone

namespace Minipack.Build

variable {build start : Build} {tasks : List Task} {file : Path}

/-! ### Compiling again -/

/-- What compiling tasks again takes besides their files: no plugin fails, each task whose file is
there compiles on its own, and what has been compiled is packed and written. -/
structure Able (build : Build) (tasks : List Task) : Prop where
  plugins : build.addAllPluginChunks.2 = .ok ()
  compiles : ∀ task ∈ tasks, build.disk.has task.file = true →
    Compile.Compiles build.config build.disk build.addAllPluginChunks.1.registry task
  writes : ∀ compiled, (build.addAllPluginChunks.1.compile tasks).2 = .ok compiled →
    ∃ chunks, (build.addAllPluginChunks.1.compile tasks).1.reoutput compiled = .ok chunks ∧
      ∃ stats, ((build.addAllPluginChunks.1.compile tasks).1.write chunks).2 = .ok stats

/-- Compiling tasks again succeeds when all their files are there. -/
theorem recompile_eq_ok_iff (hp : build.pending = []) (hs : Keyed.Sorted Task.file tasks)
    (h : build.Able tasks) : (∃ stats, (build.recompile tasks).2 = .ok stats) ↔
      ∀ task ∈ tasks, build.disk.has task.file = true := by
  obtain ⟨hplugins, hcompiles, hwrites⟩ := h
  obtain ⟨registry, log, hadd, -⟩ := exists_addAllPluginChunks build
  unfold recompile
  generalize build.addAllPluginChunks = added at hplugins hadd hcompiles hwrites ⊢
  obtain ⟨after, result⟩ := added
  change after = _ at hadd
  change result = .ok () at hplugins
  subst hplugins
  dsimp only at hcompiles hwrites ⊢
  have hpending : after.pending = [] := by rw [hadd]; exact hp
  have hcompile := compile_of_pending hpending tasks
  have hconfig : after.config = build.config := by rw [hadd]
  have hdisk : after.disk = build.disk := by rw [hadd]
  rw [hcompile] at hwrites ⊢
  dsimp only at hwrites ⊢
  constructor
  · rintro ⟨stats, hstats⟩ task ht
    split at hstats
    · cases hstats
    · next compiled hresult =>
      -- the task was compiled, so its file was read
      obtain ⟨chunk, hchunk⟩ :=
        Compile.exists_compileFile_of_mem (Prod.mk.inj hresult).2 hs ht
      obtain ⟨source, resolved, transformed, hsource, -⟩ := Compile.compileFile_eq_ok_iff.1 hchunk
      rw [← hdisk]
      exact Disk.has_of_read (Compile.readSource_eq_ok_iff.1 hsource)
  · intro hthere
    have hall : ∀ task ∈ tasks, Compile.Compiles after.config after.disk after.registry task := by
      intro task ht
      rw [hconfig, hdisk]
      exact hcompiles task ht (hthere task ht)
    obtain ⟨compiled, hcompiled⟩ := Compile.compileAll_of_compiles hall
    obtain ⟨chunks, houtput, stats, hstats⟩ := hwrites compiled hcompiled
    rw [hcompiled]
    dsimp only
    rw [houtput]
    exact ⟨stats, hstats⟩

/-- Where tasks were compiled again, what was compiled was packed and written. -/
theorem writes_of_recompile (h : ∃ stats, (build.recompile tasks).2 = .ok stats) :
    ∀ compiled, (build.addAllPluginChunks.1.compile tasks).2 = .ok compiled →
      ∃ chunks, (build.addAllPluginChunks.1.compile tasks).1.reoutput compiled = .ok chunks ∧
        ∃ stats, ((build.addAllPluginChunks.1.compile tasks).1.write chunks).2 = .ok stats := by
  unfold recompile at h
  intro compiled hcompiled
  generalize build.addAllPluginChunks = added at h hcompiled ⊢
  obtain ⟨after, error | _⟩ := added
  · obtain ⟨stats, hstats⟩ := h
    cases hstats
  · dsimp only at h hcompiled ⊢
    generalize after.compile tasks = result at h hcompiled ⊢
    obtain ⟨done, outcome⟩ := result
    change outcome = .ok compiled at hcompiled
    subst hcompiled
    dsimp only at h ⊢
    cases houtput : done.reoutput compiled with
    | error error =>
      rw [houtput] at h
      obtain ⟨stats, hstats⟩ := h
      cases hstats
    | ok chunks =>
      rw [houtput] at h
      exact ⟨chunks, rfl, h⟩

/-- A file that has a chunk after tasks were compiled again had one before, was read, or is supplied
by a plugin. -/
theorem has_recompile (hp : build.pending = [])
    (h : (build.recompile tasks).1.registry.has file = true) :
    build.registry.has file = true ∨ build.Supplies file ∨
      ∃ p, p.Same file ∧ build.disk.has p = true := by
  obtain ⟨registry, log, hadd, -, hhas⟩ := exists_addAllPluginChunks build
  have hadded (hfile : registry.has file = true) : build.registry.has file = true ∨
      build.Supplies file ∨ ∃ p, p.Same file ∧ build.disk.has p = true :=
    (hhas file hfile).imp_right Or.inl
  unfold recompile at h
  generalize build.addAllPluginChunks = added at hadd h
  obtain ⟨after, error | _⟩ := added
  · change after = _ at hadd
    subst hadd
    exact hadded h
  · change after = _ at hadd
    have hpending : after.pending = [] := by rw [hadd]; exact hp
    dsimp only at h
    -- nothing after the pass changes what has a chunk
    have hpass :
        (Compile.compileAll after.config after.disk after.registry tasks).registry.has file =
          true := by
      rw [compile_of_pending hpending] at h
      split at h
      · next heq =>
        rw [← (Prod.mk.inj heq).1] at h
        exact h
      · next compiled heq =>
        rw [← (Prod.mk.inj heq).1] at h
        split at h
        · exact h
        · rw [registry_write] at h
          exact h
    rw [hadd] at hpass
    rcases Compile.has_compileAll hpass with hfile | ⟨p, source, hsame, hread⟩
    · exact hadded hfile
    · exact Or.inr (Or.inr ⟨p, hsame, Disk.has_of_read hread⟩)

/-! ### Batches after a run -/

/-- What comes of a batch of changes. -/
structure Weeded (build : Build) (changes : List Change) : Prop where
  /-- The files that the batch removes have no chunk once its changes are taken, and all others keep
  theirs. -/
  dropped : ∀ file, (build.taken changes).1.registry.get? file =
    if build.removes changes file then none else build.registry.get? file
  /-- A file that the batch removes and that is not there has no chunk in the end, unless a plugin
  supplies it. -/
  absent : ∀ file, build.removes changes file = true →
    (∀ p, p.Same file → build.disk.has p = false) → ¬ build.Supplies file →
    (build.handleChanges changes).1.registry.has file = false
  /-- What is compiled again are the chunks that a change touches, but not a removed one, unless the
  change comes before its removal. -/
  tasks : ∀ task, task ∈ (build.taken changes).2.1 ↔ ∃ chunk ∈ build.registry.chunks,
    task = .ofChunk chunk ∧ ∃ change ∈ latest changes, build.Touches change chunk ∧
      (build.removes changes chunk.file = true → compare change.path chunk.file = .lt)
  /-- When that can be compiled and written, the batch completes if all its files are there. -/
  completed : (build.taken changes).1.Able (build.taken changes).2.1 →
    ((build.handleChanges changes).2.any WatchEvent.isCompleted = true ↔
      (build.taken changes).2.1 ≠ [] ∧
        ∀ task ∈ (build.taken changes).2.1, build.disk.has task.file = true)

theorem weeded (hp : build.pending = []) (hs : build.registry.Sorted) (changes : List Change) :
    Weeded build changes := by
  have hgathered := gathered_foldl hp hs (sorted_latest changes)
  obtain ⟨registry, manifest, htaken⟩ := hgathered.build
  change (build.taken changes).1 = _ at htaken
  have hpending : (build.taken changes).1.pending = [] := by
    rw [htaken]
    exact hp
  have hdisk : (build.taken changes).1.disk = build.disk := by rw [htaken]
  refine ⟨get?_taken hp hs changes, fun file hremoves hgone hsupplies => ?_,
    mem_tasks_taken hp hs changes, fun hable => ?_⟩
  · have hdropped : (build.taken changes).1.registry.has file = false := by
      unfold Registry.has
      rw [get?_taken hp hs, hremoves, if_pos rfl]
      rfl
    -- what compiling brings back is supplied by a plugin or stands on the disk
    by_cases htasks : (build.taken changes).2.1 = []
    · rw [handleChanges_of_nil htasks]
      exact hdropped
    · rw [handleChanges_of_ne_nil htasks]
      refine Bool.eq_false_iff.2 fun hhas => ?_
      rcases has_recompile hpending hhas with hfile | hsupplied | ⟨p, hsame, hthere⟩
      · rw [hdropped] at hfile
        cases hfile
      · apply hsupplies
        rw [htaken] at hsupplied
        exact hsupplied
      · rw [hdisk, hgone p hsame] at hthere
        cases hthere
  · have hiff : (∃ stats, ((build.taken changes).1.recompile (build.taken changes).2.1).2 =
        .ok stats) ↔ ∀ task ∈ (build.taken changes).2.1, build.disk.has task.file = true := by
      rw [← hdisk]
      exact recompile_eq_ok_iff hpending hgathered.ordered hable
    constructor
    · intro hcompleted
      obtain ⟨htasks, hstats⟩ := exists_of_isCompleted hcompleted
      exact ⟨htasks, hiff.1 hstats⟩
    · rintro ⟨htasks, hthere⟩
      obtain ⟨stats, hstats⟩ := hiff.2 hthere
      rw [handleChanges_of_ne_nil htasks]
      dsimp only
      rw [hstats, List.any_append]
      exact Bool.or_true _

/-- After a run, whatever has happened to the disk, a batch drops every file that it removes, and
when its tasks can be compiled and written it completes exactly when the files of all its tasks are
there. -/
theorem weeded_of_run {ran : Build} {stats : Stats} (hrun : start.run = (ran, .ok stats))
    (disk : Disk) (changes : List Change) : Weeded { ran with disk := disk } changes := by
  obtain ⟨hpending, hsorted⟩ := idle_of_run hrun
  have hpending' : ({ ran with disk := disk } : Build).pending = [] := hpending
  have hsorted' : ({ ran with disk := disk } : Build).registry.Sorted := hsorted
  exact weeded hpending' hsorted' changes

/-! ### A sheet that is removed -/

namespace Thinning

/-- The style sheet of the app. -/
def sheet : Path := ⟨"/p/src/app.wxss"⟩

/-- A sheet that comes before that of the app. -/
def early : Path := ⟨"/p/src/a.wxss"⟩

/-- A sheet that comes behind that of the app. -/
def late : Path := ⟨"/p/src/b.wxss"⟩

/-- An app whose style sheet imports the two others. -/
def app : Build where
  config := { Config.of ⟨"/p"⟩ with
    publicPath := some "http://a"
    manifest := { pages := ["p"] } }
  disk := {
    entries := [
      (["p"], .folder),
      (["p", "project.config.json"], .file "\x7b\x7d".toUTF8),
      (["p", "src"], .folder),
      (["p", "src", "a.wxss"], .file "1".toUTF8),
      (["p", "src", "app.json"], .file "\x7b\"pages\":[\"p\"]\x7d".toUTF8),
      (["p", "src", "app.wxss"], .file "@import './a.wxss';@import './b.wxss'".toUTF8),
      (["p", "src", "b.wxss"], .file "1".toUTF8)]
    current := [] }

/-- The build when an imported sheet has been changed and that of the app removed. -/
def thinned (ran : Build) (changed : Path) : Build :=
  { ran with disk := ((ran.disk.write changed "2".toUTF8).1.removeFile sheet).1 }

/-- The changes that tell of it. -/
def batch (changed : Path) : List Change := [⟨changed, .modified⟩, ⟨sheet, .removed⟩]

/-- Whether all tasks whose files are there compile without a reference. -/
def compiles (build : Build) (tasks : List Task) : Bool :=
  tasks.all fun task => !build.disk.has task.file ||
    (Compile.compileFile build.config build.disk build.registry task).toOption.any fun chunk =>
      chunk.followed.isEmpty

/-- What happens after a run when one or the other sheet has been changed. -/
theorem session : ∃ ran ∈ app.runUpTo 12, ran.2.isOk = true ∧
    ((thinned ran.1 early).registry.has sheet = true ∧
      (thinned ran.1 early).disk.has sheet = false ∧
      (thinned ran.1 early).removes (batch early) sheet = true ∧
      asksFor ((thinned ran.1 early).taken (batch early)).2.1 sheet = true ∧
      compiles ((thinned ran.1 early).taken (batch early)).1
        ((thinned ran.1 early).taken (batch early)).2.1 = true ∧
      ∃ failed ∈ (thinned ran.1 early).handleChangesUpTo 8 (batch early),
        failed.2.any WatchEvent.isCompleted = false ∧
        failed.2.any WatchEvent.isUnwritten = false) ∧
    compiles ((thinned ran.1 late).taken (batch late)).1
      ((thinned ran.1 late).taken (batch late)).2.1 = true ∧
    ∃ done ∈ (thinned ran.1 late).handleChangesUpTo 8 (batch late),
      done.2.any WatchEvent.isCompleted = true := by
  decide +kernel

theorem compiles_spec {build : Build} (h : compiles build tasks = true) :
    ∀ task ∈ tasks, build.disk.has task.file = true →
      Compile.Compiles build.config build.disk build.registry task := by
  intro task ht hthere
  have htask := List.all_eq_true.1 h task ht
  rw [hthere, Bool.not_true, Bool.false_or] at htask
  exact Compile.compiles_of_followed htask

/-- A run of the app, after which nothing is pending. -/
theorem run_spec {ran : Build × Except Error Stats} (hran : ran ∈ app.runUpTo 12)
    (hok : ran.2.isOk = true) : (∃ stats, app.run = (ran.1, .ok stats)) ∧
      ∀ changed, (thinned ran.1 changed).Plain ∧ (thinned ran.1 changed).registry.Sorted := by
  have hplain : app.Plain := ⟨rfl, rfl, rfl⟩
  obtain ⟨stats, hdone⟩ := exists_run_of_runUpTo hplain hran hok
  obtain ⟨entries, chunks, hspec⟩ := Build.run_spec hplain hdone
  refine ⟨⟨stats, hdone⟩, fun changed => ⟨?_, (idle_of_run hdone).2⟩⟩
  have hafter := hspec.plain hplain
  exact ⟨hafter.plugins, hafter.bundle, hafter.pending⟩

end Thinning

/-- The sheet of the app is removed and gone, and all that is left compiles on its own, but the
removed sheet has a task, and the batch does not complete. -/
theorem unfinished_of_early : ∃ ran stats, Thinning.app.run = (ran, .ok stats) ∧
    (Thinning.thinned ran Thinning.early).registry.has Thinning.sheet = true ∧
    (Thinning.thinned ran Thinning.early).disk.has Thinning.sheet = false ∧
    (Thinning.thinned ran Thinning.early).removes (Thinning.batch Thinning.early)
      Thinning.sheet = true ∧
    asksFor ((Thinning.thinned ran Thinning.early).taken (Thinning.batch Thinning.early)).2.1
      Thinning.sheet = true ∧
    (∀ task ∈ ((Thinning.thinned ran Thinning.early).taken (Thinning.batch Thinning.early)).2.1,
      ((Thinning.thinned ran Thinning.early).taken
          (Thinning.batch Thinning.early)).1.disk.has task.file = true →
        Compile.Compiles
          ((Thinning.thinned ran Thinning.early).taken (Thinning.batch Thinning.early)).1.config
          ((Thinning.thinned ran Thinning.early).taken (Thinning.batch Thinning.early)).1.disk
          ((Thinning.thinned ran Thinning.early).taken (Thinning.batch Thinning.early)).1.registry
          task) ∧
    ((Thinning.thinned ran Thinning.early).handleChanges
      (Thinning.batch Thinning.early)).2.any WatchEvent.isUnwritten = false ∧
    ((Thinning.thinned ran Thinning.early).handleChanges
      (Thinning.batch Thinning.early)).2.any WatchEvent.isCompleted = false := by
  obtain ⟨ran, hran, hok, ⟨hhas, hgone, hremoves, hasks, hcompiles, failed, hfailed, hcompleted,
    hwrites⟩, -⟩ := Thinning.session
  obtain ⟨⟨stats, hrun⟩, hthinned⟩ := Thinning.run_spec hran hok
  obtain ⟨hplain, hsorted⟩ := hthinned Thinning.early
  refine ⟨ran.1, stats, hrun, hhas, hgone, hremoves, hasks,
    Thinning.compiles_spec hcompiles, ?_, ?_⟩
  · rw [handleChanges_eq_of_upTo hplain hsorted hfailed]
    exact hwrites
  · rw [handleChanges_eq_of_upTo hplain hsorted hfailed]
    exact hcompleted

/-- The sheet of the app is removed and comes before the changed one, so the batch completes. -/
theorem weeded_of_late : ∃ ran stats, Thinning.app.run = (ran, .ok stats) ∧
    Weeded (Thinning.thinned ran Thinning.late) (Thinning.batch Thinning.late) ∧
    ((Thinning.thinned ran Thinning.late).taken (Thinning.batch Thinning.late)).1.Able
      ((Thinning.thinned ran Thinning.late).taken (Thinning.batch Thinning.late)).2.1 ∧
    ∀ task ∈ ((Thinning.thinned ran Thinning.late).taken (Thinning.batch Thinning.late)).2.1,
      (Thinning.thinned ran Thinning.late).disk.has task.file = true := by
  obtain ⟨ran, hran, hok, -, hcompiles, done, hdone, hcompleted⟩ := Thinning.session
  obtain ⟨⟨stats, hrun⟩, hthinned⟩ := Thinning.run_spec hran hok
  obtain ⟨hplain, hsorted⟩ := hthinned Thinning.late
  have hweeded : Weeded (Thinning.thinned ran.1 Thinning.late) (Thinning.batch Thinning.late) :=
    weeded_of_run hrun _ _
  have hbare :=
    ((pruned_taken hplain.bare hsorted (Thinning.batch Thinning.late)).plain hplain).bare
  rw [← handleChanges_eq_of_upTo hplain hsorted hdone] at hcompleted
  have hable : ((Thinning.thinned ran.1 Thinning.late).taken (Thinning.batch Thinning.late)).1.Able
      ((Thinning.thinned ran.1 Thinning.late).taken (Thinning.batch Thinning.late)).2.1 := by
    obtain ⟨-, hrecompiled⟩ := exists_of_isCompleted hcompleted
    refine ⟨?_, ?_, writes_of_recompile hrecompiled⟩
    · rw [hbare.addAllPluginChunks]
    · rw [hbare.addAllPluginChunks]
      exact Thinning.compiles_spec hcompiles
  exact ⟨ran.1, stats, hrun, hweeded, hable, ((hweeded.completed hable).1 hcompleted).2⟩

end Minipack.Build
