/-
What stands on the disk while files are watched.

A pass stores each chunk as soon as it is compiled, but a batch writes only when its whole pass has
succeeded.  So a file that compiles in a batch that fails is *forgotten*: its chunk has changed, its
destinations have not, and as the chunk has the digest of the new content, later batches do not
compile the file for its own sake.  It is remembered when a later batch writes it for another reason
(`Build.forgottenAfter`).

Every other chunk stands at its destinations at all times (`Build.Watched.remembers`).  So when a
batch has completed, all chunks stand exactly when the forgotten ones do
(`Build.standing_iff_of_completed`), which need not be so (`Build.not_standing_after_repair`).
-/
import Minipack.Proofs.Build.Steps
import Minipack.Proofs.Flush

namespace Minipack.Build

/-! ### Forgotten files -/

/-- The files that were compiled and not written since, after a batch. -/
def forgottenAfter (build : Build) (changes : List Change) (forgotten : List Path) : List Path :=
  let (build, tasks, _) := build.taken changes
  let pass := build.pass tasks
  match pass.firstError with
  | some _ => forgotten ++ pass.compiled.chunks.map Chunk.file
  | none => forgotten.filter fun file => !pass.merged.2.has file

/-- A build that is watched after it has run: others may change the disk, though not what stands at
the destinations of chunks, and batches are taken in which no write fails.  At no time do two chunks
share a destination. -/
inductive Watched : Build → List Path → Prop
  | run {start build : Build} {stats : Stats} :
      start.Plain →
      start.run = (build, .ok stats) →
      Separate build.disk build.registry.chunks →
      Watched build []
  | edit {build : Build} {forgotten : List Path} {disk : Disk} :
      Watched build forgotten →
      (∀ chunk ∈ build.registry.chunks, ∀ p ∈ chunk.destinations,
        disk.read p = build.disk.read p) →
      Watched { build with disk := disk } forgotten
  | batch {build : Build} {forgotten : List Path} (changes : List Change) :
      Watched build forgotten →
      (build.handleChanges changes).2.any WatchEvent.isUnwritten = false →
      Separate (build.handleChanges changes).1.disk
        (build.handleChanges changes).1.registry.chunks →
      Watched (build.handleChanges changes).1 (build.forgottenAfter changes forgotten)

/-- What holds at all times: the chunks that are not forgotten stand on the disk. -/
structure Remembers (build : Build) (forgotten : List Path) : Prop where
  plain : build.Plain
  sorted : build.registry.Sorted
  standing : ∀ chunk ∈ build.registry.chunks, forgotten.contains chunk.file = false →
    Standing build.config.toSettings build.disk chunk

variable {build after : Build} {forgotten : List Path} {changes : List Change}

theorem remembers_run {start : Build} (hp : start.Plain) {stats : Stats}
    (hrun : start.run = (build, .ok stats)) (hs : Separate build.disk build.registry.chunks) :
    build.Remembers [] := by
  obtain ⟨entries, chunks, hran⟩ := run_spec hp hrun
  obtain ⟨stats', log, hflush⟩ := hran.flushed
  refine ⟨hran.plain hp, ?_, fun chunk hc _ => ?_⟩
  · rw [hran.registry, Compile.registry_of_compileAll hran.compiled]
    exact (Compile.sorted_run Registry.Sorted.empty _ _ _).2.1
  · rw [hran.config]
    exact standing_of_flush hflush (fun _ h => h) hs hc

theorem Remembers.edit (h : build.Remembers forgotten) {disk : Disk}
    (hd : ∀ chunk ∈ build.registry.chunks, ∀ p ∈ chunk.destinations,
      disk.read p = build.disk.read p) :
    Remembers { build with disk := disk } forgotten where
  plain := ⟨h.plain.plugins, h.plain.bundle, h.plain.pending⟩
  sorted := h.sorted
  standing := fun chunk hc hf p hp => (hd chunk hc p hp).trans (h.standing chunk hc hf p hp)

theorem Remembers.pruned (h : build.Remembers forgotten) (hp : build.Pruned after) :
    after.Remembers forgotten where
  plain := hp.plain h.plain
  sorted := hp.sorted h.sorted
  standing := by
    intro chunk hc hf
    rw [hp.toSettings, hp.disk]
    exact h.standing chunk (hp.mem h.sorted hc) hf

/-! ### Compiling again -/

section

variable {tasks : List Task}

/-- The files that a failed pass has compiled are forgotten. -/
theorem Remembers.recompile_of_error (h : build.Remembers forgotten) {error : Error}
    (he : (build.pass tasks).firstError = some error) :
    (build.recompile tasks).1.Remembers
      (forgotten ++ (build.pass tasks).compiled.chunks.map Chunk.file) := by
  obtain ⟨calls, hruns⟩ := Compile.Pass.runs_run build.config build.disk
    { registry := build.registry } tasks
  have hsorted : (build.pass tasks).registry.Sorted :=
    (Compile.sorted_run h.sorted build.config build.disk tasks).1
  rw [Build.recompile_of_error h.plain he]
  refine ⟨⟨h.plain.plugins, h.plain.bundle, h.plain.pending⟩, hsorted, fun chunk hc hf => ?_⟩
  rw [List.contains_append, Bool.or_eq_false_iff] at hf
  -- a chunk that was not compiled is that of before
  have hcompiled : (build.pass tasks).compiled.has chunk.file = false :=
    Bool.eq_false_iff.2 fun ht => Bool.eq_false_iff.1 hf.2 (Registry.contains_of_has ht)
  have hget : (build.pass tasks).registry.get? chunk.file = build.registry.get? chunk.file :=
    hruns.get?_of_not_compiled hcompiled
  rw [hsorted.get?_of_mem hc] at hget
  exact h.standing chunk (Registry.mem_of_get? hget.symm) hf.1

/-- A pass that succeeds and is written remembers what it has compiled. -/
theorem Remembers.recompile_of_none (h : build.Remembers forgotten)
    (hn : (build.pass tasks).firstError = none)
    {stats : Stats} (hstats : (build.recompile tasks).2 = .ok stats)
    (hseparate : Separate (build.recompile tasks).1.disk
      (build.recompile tasks).1.registry.chunks) :
    (build.recompile tasks).1.Remembers
      (forgotten.filter fun file => !(build.pass tasks).merged.2.has file) := by
  obtain ⟨calls, hruns⟩ := Compile.Pass.runs_run build.config build.disk
    { registry := build.registry } tasks
  obtain ⟨-, hsorted, hsorted'⟩ :
      (build.pass tasks).registry.Sorted ∧ (build.pass tasks).merged.1.Sorted ∧
        (build.pass tasks).merged.2.Sorted :=
    Compile.sorted_run h.sorted build.config build.disk tasks
  have hwithin : (build.pass tasks).merged.2.Within (build.pass tasks).merged.1 :=
    Compile.within_merged build.config build.disk build.registry tasks
  have hwritten : ∀ chunk ∈ (build.pass tasks).merged.2.chunks,
      chunk ∈ (build.pass tasks).merged.1.chunks := fun chunk hc =>
    Registry.mem_of_get? (hwithin _ _ (hsorted'.get?_of_mem hc))
  rw [Build.recompile_of_none h.plain hn] at hstats hseparate ⊢
  have hflush : flush build.config.toSettings build.disk (build.pass tasks).merged.2.chunks =
      (_, .ok stats, _) := Prod.ext rfl (Prod.ext hstats rfl)
  refine ⟨⟨h.plain.plugins, h.plain.bundle, h.plain.pending⟩, hsorted, fun chunk hc hf => ?_⟩
  cases hhas : (build.pass tasks).merged.2.has chunk.file with
  | true =>
    -- the chunk was written
    obtain ⟨written, hget⟩ := Registry.has_iff.1 hhas
    obtain rfl : chunk = written :=
      Option.some.inj ((hsorted.get?_of_mem hc).symm.trans (hwithin _ _ hget))
    exact standing_of_flush hflush hwritten hseparate (Registry.mem_of_get? hget)
  | false =>
    -- neither compiled nor given a destination, it is that of before
    have hget : (build.pass tasks).merged.1.get? chunk.file = build.registry.get? chunk.file :=
      (Compile.get?_merge_of_not_joined _ hhas).trans (hruns.get?_of_not_compiled
        (Bool.eq_false_iff.2 fun ht => Bool.eq_false_iff.1 hhas (Compile.has_merge_compiled _ ht)))
    rw [hsorted.get?_of_mem hc] at hget
    have hold : forgotten.contains chunk.file = false := by
      refine Bool.eq_false_iff.2 fun ht => Bool.eq_false_iff.1 hf ?_
      obtain ⟨file, hfile, hsame⟩ := Path.contains_iff.1 ht
      refine Path.contains_iff.2 ⟨file, List.mem_filter.2 ⟨hfile, ?_⟩, hsame⟩
      rw [Registry.has_congr hsame, hhas]
      rfl
    refine standing_of_flush_of_not_mem hflush hwritten hseparate hc ?_
      (h.standing chunk (Registry.mem_of_get? hget.symm) hold)
    intro hmem
    rw [Registry.has_of_get? (hsorted'.get?_of_mem hmem)] at hhas
    cases hhas

end

/-! ### Batches -/

/-- What is forgotten after a pass over no tasks. -/
theorem forgottenAfter_of_nil (htasks : (build.taken changes).2.1 = []) :
    build.forgottenAfter changes forgotten = forgotten := by
  have hpass : (build.taken changes).1.pass [] =
      ({ registry := (build.taken changes).1.registry } : Compile.Pass) := by
    rw [pass, Compile.Pass.run]
  unfold forgottenAfter
  dsimp only
  rw [htasks, hpass]
  exact List.filter_eq_self.2 fun _ _ => rfl

theorem forgottenAfter_of_error {error : Error}
    (he : ((build.taken changes).1.pass (build.taken changes).2.1).firstError = some error) :
    build.forgottenAfter changes forgotten = forgotten ++
      ((build.taken changes).1.pass (build.taken changes).2.1).compiled.chunks.map Chunk.file := by
  unfold forgottenAfter
  dsimp only
  rw [he]

theorem forgottenAfter_of_none
    (hn : ((build.taken changes).1.pass (build.taken changes).2.1).firstError = none) :
    build.forgottenAfter changes forgotten = forgotten.filter fun file =>
      !((build.taken changes).1.pass (build.taken changes).2.1).merged.2.has file := by
  unfold forgottenAfter
  dsimp only
  rw [hn]

/-- A batch that is written remembers what it has compiled. -/
theorem Remembers.written (h : build.Remembers forgotten)
    (htasks : (build.taken changes).2.1 ≠ []) {stats : Stats}
    (hstats : ((build.taken changes).1.recompile (build.taken changes).2.1).2 = .ok stats)
    (hseparate : Separate (build.handleChanges changes).1.disk
      (build.handleChanges changes).1.registry.chunks) :
    ((build.taken changes).1.pass (build.taken changes).2.1).firstError = none ∧
      (build.handleChanges changes).1.Remembers (build.forgottenAfter changes forgotten) := by
  have htaken : (build.taken changes).1.Remembers forgotten :=
    h.pruned (pruned_taken h.plain.bare h.sorted changes)
  rw [handleChanges_of_ne_nil htasks] at hseparate ⊢
  cases he : ((build.taken changes).1.pass (build.taken changes).2.1).firstError with
  | some error =>
    rw [Build.recompile_of_error htaken.plain he] at hstats
    cases hstats
  | none =>
    rw [forgottenAfter_of_none he]
    exact ⟨rfl, htaken.recompile_of_none he hstats hseparate⟩

/-- A batch in which no write fails remembers what it has not forgotten. -/
theorem Remembers.batch (h : build.Remembers forgotten)
    (hwrites : (build.handleChanges changes).2.any WatchEvent.isUnwritten = false)
    (hseparate : Separate (build.handleChanges changes).1.disk
      (build.handleChanges changes).1.registry.chunks) :
    (build.handleChanges changes).1.Remembers (build.forgottenAfter changes forgotten) := by
  have htaken : (build.taken changes).1.Remembers forgotten :=
    h.pruned (pruned_taken h.plain.bare h.sorted changes)
  by_cases htasks : (build.taken changes).2.1 = []
  · rw [handleChanges_of_nil htasks, forgottenAfter_of_nil htasks]
    exact htaken
  · cases hresult : ((build.taken changes).1.recompile (build.taken changes).2.1).2 with
    | ok stats => exact (h.written htasks hresult hseparate).2
    | error error =>
      rw [handleChanges_of_ne_nil htasks] at hwrites ⊢
      cases he : ((build.taken changes).1.pass (build.taken changes).2.1).firstError with
      | some error =>
        rw [forgottenAfter_of_error he]
        exact htaken.recompile_of_error he
      | none =>
        -- the pass has succeeded, so a write has failed
        exfalso
        have hflush := hresult
        rw [Build.recompile_of_none htaken.plain he] at hflush
        obtain ⟨n, cause, rfl⟩ := exists_flush_error hflush
        rw [hresult, List.any_append, Bool.or_eq_false_iff] at hwrites
        cases hwrites.2

/-- The chunks that are not forgotten stand on the disk, at all times. -/
theorem Watched.remembers (h : Watched build forgotten) : build.Remembers forgotten := by
  induction h with
  | run hp hrun hs => exact remembers_run hp hrun hs
  | edit _ hd ih => exact ih.edit hd
  | batch changes _ hwrites hs ih => exact ih.batch hwrites hs

/-- A batch leaves the settings alone. -/
theorem toSettings_handleChanges (h : build.Remembers forgotten) (changes : List Change) :
    (build.handleChanges changes).1.config.toSettings = build.config.toSettings := by
  have hpruned := pruned_taken h.plain.bare h.sorted changes
  by_cases htasks : (build.taken changes).2.1 = []
  · rw [handleChanges_of_nil htasks]
    exact hpruned.toSettings
  · rw [handleChanges_of_ne_nil htasks]
    cases he : ((build.taken changes).1.pass (build.taken changes).2.1).firstError with
    | none =>
      rw [Build.recompile_of_none (hpruned.plain h.plain) he]
      exact hpruned.toSettings
    | some error =>
      rw [Build.recompile_of_error (hpruned.plain h.plain) he]
      exact hpruned.toSettings

/-- When a batch has completed, all chunks stand exactly when those stand that were compiled in a
failed batch and have not been written since. -/
theorem standing_iff_of_completed (h : Watched build forgotten)
    (hcompleted : (build.handleChanges changes).2.any WatchEvent.isCompleted = true)
    (hseparate : Separate (build.handleChanges changes).1.disk
      (build.handleChanges changes).1.registry.chunks) :
    (∀ chunk ∈ (build.handleChanges changes).1.registry.chunks,
      Standing build.config.toSettings (build.handleChanges changes).1.disk chunk) ↔
    ∀ chunk ∈ (build.handleChanges changes).1.registry.chunks,
      forgotten.contains chunk.file = true →
        ((build.taken changes).1.pass (build.taken changes).2.1).merged.2.has chunk.file = false →
          Standing build.config.toSettings (build.handleChanges changes).1.disk chunk := by
  obtain ⟨htasks, stats, hstats⟩ := exists_of_isCompleted hcompleted
  obtain ⟨hnone, hafter⟩ := h.remembers.written htasks hstats hseparate
  have hsettings := toSettings_handleChanges h.remembers changes
  constructor
  · exact fun hall chunk hc _ _ => hall chunk hc
  · intro hforgotten chunk hc
    cases hf : (build.forgottenAfter changes forgotten).contains chunk.file with
    | false =>
      have hstanding := hafter.standing chunk hc hf
      rwa [hsettings] at hstanding
    | true =>
      rw [forgottenAfter_of_none hnone] at hf
      obtain ⟨file, hfile, hsame⟩ := Path.contains_iff.1 hf
      obtain ⟨hmem, hhas⟩ := List.mem_filter.1 hfile
      rw [Registry.has_congr hsame, Bool.not_eq_true'] at hhas
      exact hforgotten chunk hc (Path.contains_iff.2 ⟨file, hmem, hsame⟩) hhas

/-! ### A file that is forgotten -/

/-- A build after someone else has written a file. -/
def edited (build : Build) (file : Path) (content : String) : Build :=
  { build with disk := (build.disk.write file content.toUTF8).1 }

namespace Repair

/-- The script of the app. -/
def script : Path := ⟨"/p/src/app.js"⟩

/-- The style sheet of the app. -/
def style : Path := ⟨"/p/src/app.wxss"⟩

/-- An app of a script and a style sheet. -/
def app : Build where
  config := { Config.of ⟨"/p"⟩ with
    publicPath := some "http://a"
    manifest := { pages := ["p"] } }
  disk := {
    entries := [
      (["p"], .folder),
      (["p", "project.config.json"], .file "\x7b\x7d".toUTF8),
      (["p", "src"], .folder),
      (["p", "src", "app.js"], .file "1".toUTF8),
      (["p", "src", "app.json"], .file "\x7b\"pages\":[\"p\"]\x7d".toUTF8),
      (["p", "src", "app.wxss"], .file "a".toUTF8)]
    current := [] }

/-- After a run both files are edited, and the style sheet refers to a file that is not there. -/
def breaking (ran : Build) : Build :=
  (ran.edited script "2").edited style "a\x7bb:url(x)\x7d"

/-- Both files have changed. -/
def bothChanged : List Change := [⟨script, .modified⟩, ⟨style, .modified⟩]

/-- Then the style sheet is repaired. -/
def repairing (failed : Build) : Build :=
  failed.edited style "b"

/-- Only the style sheet has changed. -/
def styleChanged : List Change := [⟨style, .modified⟩]

/-- The build before the last batch. -/
def repaired : Build :=
  repairing ((breaking app.run.1).handleChanges bothChanged).1

/-- What happens from the run to the last batch. -/
theorem session : ∃ ran ∈ app.runUpTo 8,
    ran.2.isOk = true ∧
    Separate ran.1.disk ran.1.registry.chunks ∧
    (∀ chunk ∈ ran.1.registry.chunks, ∀ p ∈ chunk.destinations,
      (breaking ran.1).disk.read p = ran.1.disk.read p) ∧
    ∃ failed ∈ (breaking ran.1).handleChangesUpTo 8 bothChanged,
      failed.2.any WatchEvent.isUnwritten = false ∧
      Separate failed.1.disk failed.1.registry.chunks ∧
      (∀ chunk ∈ failed.1.registry.chunks, ∀ p ∈ chunk.destinations,
        (repairing failed.1).disk.read p = failed.1.disk.read p) ∧
      ∃ done ∈ (repairing failed.1).handleChangesUpTo 8 styleChanged,
        done.2.any WatchEvent.isCompleted = true ∧
        Separate done.1.disk done.1.registry.chunks ∧
        ¬ ∀ chunk ∈ done.1.registry.chunks,
          Standing (repairing failed.1).config.toSettings done.1.disk chunk := by
  decide +kernel

/-- The build is watched up to the last batch, which completes though not all chunks stand. -/
theorem repaired_spec :
    (∃ forgotten, Watched repaired forgotten) ∧
      (repaired.handleChanges styleChanged).2.any WatchEvent.isCompleted = true ∧
      Separate (repaired.handleChanges styleChanged).1.disk
        (repaired.handleChanges styleChanged).1.registry.chunks ∧
      ¬ ∀ chunk ∈ (repaired.handleChanges styleChanged).1.registry.chunks,
        Standing repaired.config.toSettings (repaired.handleChanges styleChanged).1.disk chunk := by
  obtain ⟨ran, hran, hok, hseparate, hkept, failed, hfailed, hwrites, hseparate', hkept',
    done, hdone, hcompleted, hseparate'', hstanding⟩ := session
  have hplain : app.Plain := ⟨rfl, rfl, rfl⟩
  obtain ⟨stats, hrun⟩ := exists_run_of_runUpTo hplain hran hok
  have hwatchedRan : Watched ran.1 [] := .run hplain hrun hseparate
  have hwatched : Watched (breaking ran.1) [] := by
    show Watched { ran.1 with disk := (breaking ran.1).disk } []
    exact .edit hwatchedRan hkept
  have hbatch : (breaking ran.1).handleChanges bothChanged = failed :=
    handleChanges_eq_of_upTo hwatched.remembers.plain hwatched.remembers.sorted hfailed
  have hwatchedFailed : Watched failed.1 ((breaking ran.1).forgottenAfter bothChanged []) := by
    rw [← hbatch] at hwrites hseparate' ⊢
    exact .batch bothChanged hwatched hwrites hseparate'
  have hwatched' :
      Watched (repairing failed.1) ((breaking ran.1).forgottenAfter bothChanged []) := by
    show Watched { failed.1 with disk := (repairing failed.1).disk } _
    exact .edit hwatchedFailed hkept'
  have hlast : (repairing failed.1).handleChanges styleChanged = done :=
    handleChanges_eq_of_upTo hwatched'.remembers.plain hwatched'.remembers.sorted hdone
  have hrepaired : repaired = repairing failed.1 := by
    rw [repaired, hrun, hbatch]
  rw [hrepaired, hlast]
  exact ⟨⟨_, hwatched'⟩, hcompleted, hseparate'', hstanding⟩

end Repair

/-- A batch completes though a script that was compiled in a failed batch does not stand. -/
theorem not_standing_after_repair :
    ∃ forgotten, Watched Repair.repaired forgotten ∧
      (Repair.repaired.handleChanges Repair.styleChanged).2.any WatchEvent.isCompleted = true ∧
      Separate (Repair.repaired.handleChanges Repair.styleChanged).1.disk
        (Repair.repaired.handleChanges Repair.styleChanged).1.registry.chunks ∧
      ¬ ∀ chunk ∈ (Repair.repaired.handleChanges Repair.styleChanged).1.registry.chunks,
        Standing Repair.repaired.config.toSettings
          (Repair.repaired.handleChanges Repair.styleChanged).1.disk chunk := by
  obtain ⟨⟨forgotten, hwatched⟩, hrest⟩ := Repair.repaired_spec
  exact ⟨forgotten, hwatched, hrest⟩

/-- After the repair some forgotten chunk does not stand. -/
theorem forgotten_after_repair :
    ∃ forgotten, Watched Repair.repaired forgotten ∧
      ∃ chunk ∈ (Repair.repaired.handleChanges Repair.styleChanged).1.registry.chunks,
        forgotten.contains chunk.file = true ∧
          ¬ Standing Repair.repaired.config.toSettings
            (Repair.repaired.handleChanges Repair.styleChanged).1.disk chunk := by
  obtain ⟨⟨forgotten, hwatched⟩, hcompleted, hseparate, hnot⟩ := Repair.repaired_spec
  refine ⟨forgotten, hwatched, Classical.byContradiction fun hnone => hnot ?_⟩
  refine (standing_iff_of_completed hwatched hcompleted hseparate).2 fun chunk hc hf _ => ?_
  exact Classical.byContradiction fun hstanding => hnone ⟨chunk, hc, hf, hstanding⟩

end Minipack.Build
