/-
Removing a file and restoring it.

A batch that tells of the removal of a known file drops its chunk and does nothing else
(`Build.handleChanges_removal`).  When the file is created again it is not known, so only the chunks
that refer to it are compiled, and the file with them when one of their references is followed
(`Registry.Wants`).  Then it is known as it is now, and written wherever a chunk of another file
refers to it (`Build.restored_of_run`).  Where its own place is not among these, that is not written
again; and a file that no other refers to stays unknown, such as the style sheet of the app
(`Build.forgotten_of_recreated`).
-/
import Minipack.Proofs.Build.Gathering
import Minipack.Proofs.Build.Settled
import Minipack.Proofs.Build.Steps
import Minipack.Proofs.Compile.Order
import Minipack.Proofs.Flush

namespace Minipack

variable {config : Config} {disk back : Disk} {registry : Registry} {file p : Path} {chunk : Chunk}
  {d : Dependency} {content : ByteArray}

namespace Registry

/-- The chunk of another file has a reference to a file that is followed. -/
def Wants (registry : Registry) (file : Path) (d : Dependency) : Prop :=
  ∃ chunk ∈ registry.chunks, ¬ chunk.file.Same file ∧ d ∈ chunk.followed ∧ d.target.Same file

theorem Sorted.mem_delete_iff (h : registry.Sorted) :
    chunk ∈ (registry.delete file).chunks ↔ chunk ∈ registry.chunks ∧ ¬ chunk.file.Same file := by
  have hdeleted : chunk ∈ (registry.delete file).chunks ↔
      (registry.delete file).get? chunk.file = some chunk :=
    ⟨(h.delete file).get?_of_mem, mem_of_get?⟩
  rw [hdeleted, h.get?_delete]
  split
  · next hs => simp [hs]
  · next hs =>
    constructor
    · exact fun hget => ⟨mem_of_get? hget, hs⟩
    · exact fun hmem => h.get?_of_mem hmem.1

theorem Sorted.has_delete (h : registry.Sorted) (file : Path) :
    (registry.delete file).has file = false := by
  rw [has, h.get?_delete, if_pos (Path.same_refl file)]
  rfl

end Registry

namespace Compile

/-- A current chunk compiles again in its role, against any registry. -/
theorem Current.exists_compileFile (h : Current config disk chunk) (registry : Registry) :
    ∃ made, compileFile config disk registry (.ofChunk chunk) = .ok made := by
  obtain ⟨source, resolved, transformed, hs, hr, ht, -⟩ := compileFile_eq_ok_iff.1 h
  exact ⟨_, compileFile_eq_ok_iff.2 ⟨source, resolved, transformed, hs, hr, ht, rfl⟩⟩

/-- A compiled chunk has the digest of its source. -/
theorem hash_of_compileFile {task : Task} (h : compileFile config disk registry task = .ok chunk) :
    ∃ source, disk.read task.file = .ok source ∧ chunk.hash = digest source := by
  obtain ⟨source, resolved, transformed, hs, -, -, rfl⟩ := compileFile_eq_ok_iff.1 h
  refine ⟨source, readSource_eq_ok_iff.1 hs, ?_⟩
  rw [Chunk.addDestinations_eq]
  rfl

end Compile

namespace Build

variable {build start ran : Build} {stats : Stats}

/-! ### The two batches -/

/-- A batch that tells of a removal. -/
def removal (file : Path) : List Change := [⟨file, .removed⟩]

/-- A batch that tells of a creation. -/
def creation (file : Path) : List Change := [⟨file, .created⟩]

/-- What comes of the creation of a file after its removal, on the disks that the two batches find.
-/
def restoring (build : Build) (file : Path) (gone back : Disk) : Build × List WatchEvent :=
  handleChanges
    { (handleChanges { build with disk := gone } (removal file)).1 with disk := back }
      (creation file)

/-- The build without the chunk of a file. -/
def without (build : Build) (file : Path) (disk : Disk) : Build :=
  { build with disk := disk, registry := build.registry.delete file }

/-- The removal of a known file drops its chunk, and nothing else happens. -/
theorem handleChanges_removal (hhas : build.registry.has file = true)
    (hignored : build.config.isIgnored file = false) (gone : Disk) :
    handleChanges { build with disk := gone } (removal file) =
      (build.without file gone, [.unlinked file]) := by
  have htaken : taken { build with disk := gone } (removal file) =
      (build.without file gone, [], [.unlinked file]) := by
    have hkept : ({ build with disk := gone } : Build).config.isIgnored
        (Change.path ⟨file, .removed⟩) = false := hignored
    have hremoval : ({ build with disk := gone } : Build).isRemoval ⟨file, .removed⟩ = true := rfl
    exact (takeChange_of_removal hkept hremoval [] []).trans (if_pos hhas)
  have hnone : (taken { build with disk := gone } (removal file)).2.1 = [] := by rw [htaken]
  rw [handleChanges_of_nil hnone, htaken]

/-- A file that is not known affects the chunks that refer to it. -/
theorem affectedBy_of_unknown (hnew : build.registry.has file = false)
    (hother : ¬ file.Same build.config.manifestFile) :
    build.affectedBy file = (build, .ok ((build.registry.dependents file).map Task.ofChunk)) := by
  have hmanifest : ¬ (file == build.config.manifestFile) = true := fun h =>
    hother (Path.beq_iff_same.1 h)
  have hget : build.registry.get? file = none := by
    rw [Registry.has] at hnew
    exact Option.not_isSome_iff_eq_none.1 (Bool.eq_false_iff.1 hnew)
  unfold affectedBy
  rw [if_neg hmanifest]
  dsimp only
  rw [hget]

/-- What the creation of a file asks for that is not known. -/
theorem taken_creation (hnew : build.registry.has file = false)
    (hignored : build.config.isIgnored file = false) (hthere : build.disk.has file = true)
    (hother : ¬ file.Same build.config.manifestFile) :
    build.taken (creation file) =
      match build.registry.dependents file with
      | [] => (build, [], [.notRequired file])
      | dependents => (build, (dependents.map Task.ofChunk).foldl addTask [],
          [.changed file (dependents.map Chunk.file)]) := by
  show takeChange (build, [], []) ⟨file, .created⟩ = _
  have hremoval : build.isRemoval ⟨file, .created⟩ = false := by
    unfold isRemoval
    rw [hthere]
    rfl
  have hkept : build.config.isIgnored (Change.path ⟨file, .created⟩) = false := hignored
  rw [takeChange_of_there hkept hremoval]
  unfold asked told
  rw [affectedBy_of_unknown hnew hother]
  cases build.registry.dependents file with
  | nil => rfl
  | cons first rest =>
    simp only [List.map_cons, List.map_map, List.nil_append]
    rfl

/-! ### The pass -/

/-- A file is there again, with a content that compiles wherever another file refers to it, and the
files that refer to it are as they were on the old disk. -/
structure Replaced (config : Config) (registry : Registry) (old back : Disk) (file : Path)
    (content : ByteArray) : Prop where
  read : back.read file = .ok content
  sources : ∀ chunk ∈ registry.chunks, ¬ chunk.file.Same file → chunk.dependsOn file = true →
    Compile.SameSource config old back chunk.file
  compiles : ∀ d, registry.Wants file d →
    Compile.Compiles config back (registry.delete file) (.ofDependency d)

/-- A chunk that refers to the file leads to nothing new but the file and what this leads to. -/
theorem Replaced.entailed (h : Replaced config registry disk back file content)
    (hup : Compile.UpToDate config disk registry) (hc : chunk ∈ registry.chunks)
    (hne : ¬ chunk.file.Same file) (hrefers : chunk.dependsOn file = true) {other : Task}
    (hentails : Compile.Entails config back (registry.delete file) (.ofChunk chunk) other) :
    other = .ofChunk chunk ∨ ∃ d, registry.Wants file d ∧
      Compile.Entails config back (registry.delete file) (.ofDependency d) other := by
  have hcurrent : Compile.Current config back chunk :=
    (hup.current chunk hc).of_sameSource (h.sources chunk hc hne hrefers)
  induction hentails with
  | self => exact Or.inl rfl
  | @follow other made d _ hmade hd hnew ih =>
    right
    rcases ih with rfl | ⟨wanted, hwanted, hbefore⟩
    · -- what the chunk refers to is known, but for the file
      have hfollowed : made.followed = chunk.followed :=
        (Compile.followed_eq hmade hcurrent rfl).trans (Chunk.followed_congr rfl)
      rw [hfollowed] at hd
      obtain ⟨target, hget, -⟩ := hup.closed chunk hc d hd
      have hsame : d.target.Same file := by
        by_contra hother
        rw [Registry.has, hup.sorted.get?_delete, if_neg hother, hget] at hnew
        cases hnew
      exact ⟨d, ⟨chunk, hc, hne, hd, hsame⟩, .self⟩
    · exact ⟨wanted, hwanted, .follow hbefore hmade hd hnew⟩

/-- All chunks that refer to the file compile. -/
theorem Replaced.compiles_dependent (h : Replaced config registry disk back file content)
    (hup : Compile.UpToDate config disk registry) (hc : chunk ∈ registry.chunks)
    (hne : ¬ chunk.file.Same file) (hrefers : chunk.dependsOn file = true) :
    Compile.Compiles config back (registry.delete file) (.ofChunk chunk) := by
  intro other hentails
  rcases h.entailed hup hc hne hrefers hentails with rfl | ⟨d, hd, hled⟩
  · have hcurrent := (hup.current chunk hc).of_sameSource (h.sources chunk hc hne hrefers)
    exact hcurrent.exists_compileFile _
  · exact h.compiles d hd other hled

/-- A batch compiles all chunks that refer to a file. -/
structure Asks (registry : Registry) (file : Path) (tasks : List Task) : Prop where
  mem : ∀ task, task ∈ tasks ↔ ∃ chunk ∈ registry.chunks,
    (¬ chunk.file.Same file ∧ chunk.dependsOn file = true) ∧ task = .ofChunk chunk

/-- The chunks that refer to a file that is not known are asked for. -/
theorem asks_dependents (h : registry.Sorted) (file : Path) : Asks registry file
    ((((registry.delete file).dependents file).map Task.ofChunk).foldl addTask []) where
  mem := by
    intro task
    have hknown : ∀ task ∈ ((registry.delete file).dependents file).map Task.ofChunk,
        ∃ chunk ∈ (registry.delete file).chunks, task = .ofChunk chunk := by
      intro task ht
      obtain ⟨chunk, hc, rfl⟩ := List.mem_map.1 ht
      exact ⟨chunk, (List.mem_filter.1 hc).1, rfl⟩
    rw [mem_foldl_addTask_iff (h.delete file) .nil nofun hknown]
    constructor
    · rintro (ht | ht)
      · obtain ⟨chunk, hc, rfl⟩ := List.mem_map.1 ht
        obtain ⟨hmem, hrefers⟩ := List.mem_filter.1 hc
        obtain ⟨hmem, hne⟩ := h.mem_delete_iff.1 hmem
        exact ⟨chunk, hmem, ⟨hne, hrefers⟩, rfl⟩
      · cases ht
    · rintro ⟨chunk, hmem, ⟨hne, hrefers⟩, rfl⟩
      left
      exact List.mem_map.2 ⟨chunk, List.mem_filter.2 ⟨h.mem_delete_iff.2 ⟨hmem, hne⟩, hrefers⟩, rfl⟩

/-- A reference that is followed is a reference. -/
theorem dependsOn_of_followed (hd : d ∈ chunk.followed) (hs : d.target.Same file) :
    chunk.dependsOn file = true :=
  List.any_eq_true.2 ⟨d, (Chunk.mem_followed.1 hd).1, Path.beq_iff_same.2 hs⟩

section

variable {tasks : List Task} {calls : List Compile.Call} {last : Compile.Pass}

/-- The pass over the chunks that refer to the file succeeds. -/
theorem Replaced.succeeds (h : Replaced config registry disk back file content)
    (hup : Compile.UpToDate config disk registry) (hasks : Asks registry file tasks) :
    (({ registry := registry.delete file } : Compile.Pass).run config back tasks).firstError =
      none := by
  obtain ⟨chunks, hchunks⟩ := Compile.compileAll_of_compiles fun task ht => by
    obtain ⟨chunk, hc, ⟨hne, hrefers⟩, rfl⟩ := (hasks.mem task).1 ht
    exact h.compiles_dependent hup hc hne hrefers
  exact Compile.firstError_of_compileAll hchunks

/-- After the pass the file is written wherever another file refers to it. -/
theorem Replaced.writes (h : Replaced config registry disk back file content)
    (hup : Compile.UpToDate config disk registry) (hasks : Asks registry file tasks)
    (hruns : Compile.Pass.Runs config back { registry := registry.delete file } tasks calls last)
    (hn : last.firstError = none) (hd : registry.Wants file d) :
    last.merged.1.Writes file d.destination := by
  obtain ⟨chunk, hc, hne, hfollowed, hs⟩ := hd
  have hrefers := dependsOn_of_followed hfollowed hs
  have hleft : chunk ∈ (registry.delete file).chunks := hup.sorted.mem_delete_iff.2 ⟨hc, hne⟩
  have htask : Task.ofChunk chunk ∈ tasks := (hasks.mem _).2 ⟨chunk, hc, ⟨hne, hrefers⟩, rfl⟩
  have hknown : ∀ task ∈ tasks, (registry.delete file).has task.file = true →
      ∃ chunk ∈ (registry.delete file).chunks, task = .ofChunk chunk := by
    intro task ht _
    obtain ⟨other, ho, ⟨hother, -⟩, rfl⟩ := (hasks.mem task).1 ht
    exact ⟨other, hup.sorted.mem_delete_iff.2 ⟨ho, hother⟩, rfl⟩
  -- the chunk is called, and follows the same references as before
  rcases hruns.called_of_mem_queue htask with htried | ⟨call, hcall, hsame⟩
  · cases htried
  · obtain ⟨made, hmade⟩ := hruns.ok_of_none hn hcall
    have hsorted := hup.sorted.delete file
    obtain ⟨hcallTask, -⟩ := Compile.task_of_get? hruns hsorted hknown hcall hsame
      (hsorted.get?_of_mem hleft)
    have hcompiled := (hruns.compileFile_eq_result hcall).trans hmade
    rw [hcallTask] at hcompiled
    have hcurrent := (hup.current chunk hc).of_sameSource (h.sources chunk hc hne hrefers)
    have hreferences : made.followed = chunk.followed :=
      (Compile.followed_eq hcompiled hcurrent rfl).trans (Chunk.followed_congr rfl)
    obtain ⟨target, hget, hp⟩ :=
      Compile.writes_of_followed hruns hn hcall hmade (hreferences.symm ▸ hfollowed)
    exact ⟨target, (Registry.get?_congr hs.symm).trans hget, hp⟩

/-- The chunk that the file has after the pass was made from its content, and is handed on. -/
theorem Replaced.made (h : Replaced config registry disk back file content)
    (hs : registry.Sorted)
    (hruns : Compile.Pass.Runs config back { registry := registry.delete file } tasks calls last)
    (hn : last.firstError = none) (hget : last.merged.1.get? file = some chunk) :
    Compile.Current config back chunk ∧ chunk.hash = digest content ∧
      last.merged.2.get? file = some chunk := by
  obtain ⟨made, ps, rfl, ⟨call, hcall, hsame, hmade⟩ | ⟨hold, -⟩⟩ :=
    Compile.called_or_kept hruns hn hget
  · have hcompiled := (hruns.compileFile_eq_result hcall).trans hmade
    refine ⟨(Compile.current_of_compileFile hcompiled).addDestinations ps, ?_, ?_⟩
    · obtain ⟨source, hread, hhash⟩ := Compile.hash_of_compileFile hcompiled
      rw [Chunk.addDestinations_eq]
      show made.hash = digest content
      rw [hhash, Disk.read_eq_of_same hsame hread h.read]
    · have hhas : last.merged.2.has file = true := Compile.has_merge_compiled _
        (Registry.has_of_get? (hruns.compiled_get?_of_call hcall hmade hsame.symm))
      obtain ⟨given, hgiven⟩ := Registry.has_iff.1 hhas
      have hwithin : last.merged.2.Within last.merged.1 :=
        Compile.within_merge (hruns.within Registry.Within.empty) _
      rw [hgiven, ← hwithin _ _ hgiven, hget]
  · -- the file was not known before the pass
    have hnone := hs.has_delete file
    rw [Registry.has_of_get? hold] at hnone
    cases hnone

end

/-! ### Restoring -/

/-- What comes of a file that is created again: it is known as it is now, with all destinations that
other files give it, and is written there. -/
structure Restored (ran : Build) (back : Disk) (file : Path) (content : ByteArray)
    (after : Build × List WatchEvent) (chunk : Chunk) : Prop where
  known : after.1.registry.get? file = some chunk
  current : Compile.Current ran.config back chunk
  hash : chunk.hash = digest content
  destinations : ∀ d, ran.registry.Wants file d → chunk.destinations.contains d.destination = true
  /-- The batch is completed, or tells of files that could not be written. -/
  told : ∃ affected, (∃ stats, after.2 = [.changed file affected, .completed stats]) ∨
    ∃ n cause, after.2 = [.changed file affected, .failed (.flush n cause)]
  /-- Where the batch found a file the chunk is written in any case. -/
  written : Separate after.1.disk after.1.registry.chunks → ∀ p ∈ chunk.destinations,
    after.2.any WatchEvent.isCompleted = true ∨ back.isFile p = true →
      after.1.disk.read p = .ok (Flush.render ran.config.toSettings chunk)

/-- Where another file refers to the file, its creation asks for the chunks that do. -/
theorem exists_taken_creation (hsorted : ran.registry.Sorted)
    (hignored : ran.config.isIgnored file = false) (hthere : back.has file = true)
    (hother : ¬ file.Same ran.config.manifestFile) (hwanted : ran.registry.Wants file d) :
    ∃ tasks affected, Asks ran.registry file tasks ∧ tasks ≠ [] ∧
      (ran.without file back).taken (creation file) =
        (ran.without file back, tasks, [.changed file affected]) := by
  have hnew : (ran.without file back).registry.has file = false := hsorted.has_delete file
  have htaken := taken_creation hnew hignored hthere hother
  have hasks := asks_dependents hsorted file
  obtain ⟨referring, hreferring, hne, hfollowed, hs⟩ := hwanted
  have hrefers := dependsOn_of_followed hfollowed hs
  have hdependents : (ran.without file back).registry.dependents file ≠ [] :=
    List.ne_nil_of_mem
      (List.mem_filter.2 ⟨hsorted.mem_delete_iff.2 ⟨hreferring, hne⟩, hrefers⟩)
  refine ⟨_, ((ran.without file back).registry.dependents file).map Chunk.file, hasks, ?_, ?_⟩
  · exact List.ne_nil_of_mem ((hasks.mem _).2 ⟨referring, hreferring, ⟨hne, hrefers⟩, rfl⟩)
  · rw [htaken]
    split
    · next hnil => exact absurd hnil hdependents
    · rfl

/-- What a pass hands on is written if nothing fails, and in any case where a file is found. -/
theorem read_of_written {pass : Compile.Pass} {handed : List Chunk}
    (hall : ∀ c ∈ handed, c ∈ pass.merged.1.chunks)
    (hseparate : Separate (build.written pass handed).1.disk pass.merged.1.chunks)
    (hc : chunk ∈ handed) (hp : p ∈ chunk.destinations)
    (hfound : (∃ stats, (build.written pass handed).2 = .ok stats) ∨ build.disk.isFile p = true) :
    (build.written pass handed).1.disk.read p =
      .ok (Flush.render build.config.toSettings chunk) := by
  rcases hfound with ⟨stats, hstats⟩ | hfile
  · have hflush : flush build.config.toSettings build.disk handed = (_, .ok stats, _) :=
      Prod.ext rfl (Prod.ext hstats rfl)
    exact standing_of_flush hflush hall hseparate hc p hp
  · have hflush : flush build.config.toSettings build.disk handed = (_, _, _) := rfl
    exact read_of_flush_of_isFile hflush hall hseparate hc hp hfile

/-- A file that a chunk of another file refers to is restored by its creation. -/
theorem Replaced.restored (h : Replaced ran.config ran.registry disk back file content)
    (hp : ran.Plain) (hup : Compile.UpToDate ran.config disk ran.registry)
    (hignored : ran.config.isIgnored file = false)
    (hother : ¬ file.Same ran.config.manifestFile) (hwanted : ∃ d, ran.registry.Wants file d) :
    ∃ chunk, Restored ran back file content
      ((ran.without file back).handleChanges (creation file)) chunk := by
  have hplain : (ran.without file back).Plain := ⟨hp.plugins, hp.bundle, hp.pending⟩
  obtain ⟨wanted, hwanted⟩ := hwanted
  obtain ⟨tasks, affected, hasks, hne, htaken⟩ :=
    exists_taken_creation hup.sorted hignored (Disk.has_of_read h.read) hother hwanted
  have htasks : (taken (ran.without file back) (creation file)).2.1 ≠ [] := by rwa [htaken]
  rw [handleChanges_of_ne_nil htasks, htaken]
  dsimp only
  -- the pass succeeds, and the file is among what it hands on
  have hnone := h.succeeds hup hasks
  obtain ⟨calls, hruns⟩ := Compile.Pass.runs_run ran.config back
    { registry := ran.registry.delete file } tasks
  rw [recompile_of_none hplain hnone]
  obtain ⟨chunk, hget, -⟩ := h.writes hup hasks hruns hnone hwanted
  obtain ⟨hcurrent, hhash, hgiven⟩ := h.made hup.sorted hruns hnone hget
  have hwithin := Compile.within_merged ran.config back (ran.registry.delete file) tasks
  obtain ⟨-, -, hsorted⟩ := Compile.sorted_run (hup.sorted.delete file) ran.config back tasks
  have hall : ∀ c ∈ (pass (ran.without file back) tasks).merged.2.chunks,
      c ∈ (pass (ran.without file back) tasks).merged.1.chunks := fun c hc =>
    Registry.mem_of_get? (hwithin _ _ (hsorted.get?_of_mem hc))
  refine ⟨chunk, hget, hcurrent, hhash, fun d hd => ?_, ⟨affected, ?_⟩, ?_⟩
  · obtain ⟨target, htarget, hcontains⟩ := h.writes hup hasks hruns hnone hd
    obtain rfl : target = chunk := Option.some.inj (htarget.symm.trans hget)
    exact hcontains
  · cases hresult : (written (ran.without file back) (pass (ran.without file back) tasks)
      (pass (ran.without file back) tasks).merged.2.chunks).2 with
    | ok stats => exact Or.inl ⟨stats, rfl⟩
    | error error =>
      obtain ⟨n, cause, rfl⟩ := exists_flush_error hresult
      exact Or.inr ⟨n, cause, rfl⟩
  · intro hseparate p hp hfound
    refine read_of_written hall hseparate (Registry.mem_of_get? hgiven) hp ?_
    refine hfound.imp_left fun hcompleted => ?_
    cases hresult : (written (ran.without file back) (pass (ran.without file back) tasks)
      (pass (ran.without file back) tasks).merged.2.chunks).2 with
    | ok stats => exact ⟨stats, rfl⟩
    | error error =>
      rw [hresult] at hcompleted
      cases hcompleted

/-- The place of a file with which a build begins. -/
def OwnPlace (start : Build) (file p : Path) : Prop :=
  ∃ entries, findEntries start.config start.disk = .ok entries ∧
    ∃ entry ∈ start.config.projectFile :: entries, entry.Same file ∧
      (start.config.destination entry).Same p

/-- After a run a file is written to its own place if the run begins with it, and wherever a file
refers to it. -/
theorem cause_of_ran {entries : List Path} {chunks : List Chunk}
    (hran : Ran start ran entries chunks) (hw : ran.registry.Writes file p) :
    OwnPlace start file p ∨ ∃ chunk ∈ ran.registry.chunks, ∃ d ∈ chunk.followed,
      d.target.Same file ∧ d.destination.Same p := by
  obtain ⟨calls, hruns⟩ := Compile.Pass.runs_run start.config start.disk { registry := {} }
    (entryTasks start.config entries)
  have hnone := Compile.firstError_of_compileAll hran.compiled
  rw [hran.registry, Compile.registry_of_compileAll hran.compiled] at hw ⊢
  rcases Compile.cause_of_writes hruns hnone hw with ⟨old, hold, -⟩ | ⟨task, ht, hs, hp⟩ |
    ⟨d, hd, hs, hp⟩
  · cases hold
  · obtain ⟨entry, hentry, rfl⟩ := List.mem_map.1 ht
    exact Or.inl ⟨entries, hran.found, entry, hentry, hs, hp⟩
  · obtain ⟨call, hcall, made, hmade, hd⟩ := Compile.exists_call_of_mem_references hruns hd
    obtain ⟨ps, hmerged⟩ := Compile.exists_get?_merged hruns hcall hmade (Path.same_refl _)
    refine Or.inr ⟨_, Registry.mem_of_get? hmerged, d, ?_, hs, hp⟩
    rw [Chunk.followed_congr (Chunk.addDestinations_dependencies ps)]
    exact hd

/-- The second batch finds the build without the chunk of the file. -/
theorem restoring_eq (hhas : build.registry.has file = true)
    (hignored : build.config.isIgnored file = false) (gone back : Disk) :
    build.restoring file gone back = (build.without file back).handleChanges (creation file) := by
  unfold restoring
  rw [handleChanges_removal hhas hignored]
  rfl

/-- A file that no other refers to stays unknown when it is created again. -/
theorem restoring_of_alone (hs : build.registry.Sorted) (hhas : build.registry.has file = true)
    (hignored : build.config.isIgnored file = false)
    (hother : ¬ file.Same build.config.manifestFile) (gone : Disk) (hthere : back.has file = true)
    (halone : ∀ chunk ∈ build.registry.chunks, chunk.dependsOn file = true → chunk.file.Same file) :
    build.restoring file gone back = (build.without file back, [.notRequired file]) := by
  have hnew : (build.without file back).registry.has file = false := hs.has_delete file
  have hnone : (build.without file back).registry.dependents file = [] := by
    refine List.filter_eq_nil_iff.2 fun chunk hc hrefers => ?_
    obtain ⟨hmem, hne⟩ := hs.mem_delete_iff.1 hc
    exact hne (halone chunk hmem hrefers)
  have htaken := taken_creation hnew hignored hthere hother
  rw [hnone] at htaken
  rw [restoring_eq hhas hignored, handleChanges_of_nil (by rw [htaken]), htaken]

/-- After a run, the removal of a known file drops its chunk alone.  When the file is created again,
no chunk refers to it and it stays unknown, or a chunk of another file does and it is known and
written again, at all destinations that it had but its own place and those that it gave itself. -/
theorem restored_of_run (hp : start.Plain) (hrun : start.run = (ran, .ok stats))
    (hhas : ran.registry.has file = true) (hignored : ran.config.isIgnored file = false)
    (hother : ¬ file.Same ran.config.manifestFile)
    (hback : Replaced ran.config ran.registry start.disk back file content) (gone : Disk) :
    handleChanges { ran with disk := gone } (removal file) =
        (ran.without file gone, [.unlinked file]) ∧
      (ran.without file gone).registry.has file = false ∧
      ((∀ chunk ∈ ran.registry.chunks, chunk.dependsOn file = true → chunk.file.Same file) →
        ran.restoring file gone back = (ran.without file back, [.notRequired file])) ∧
      ((∃ d, ran.registry.Wants file d) →
        ∃ chunk, Restored ran back file content (ran.restoring file gone back) chunk) ∧
      ∀ p, ran.registry.Writes file p → (∃ d, ran.registry.Wants file d ∧ d.destination.Same p) ∨
        OwnPlace start file p ∨ ∃ chunk, ran.registry.get? file = some chunk ∧
          ∃ d ∈ chunk.followed, d.target.Same file ∧ d.destination.Same p := by
  obtain ⟨entries, chunks, hran⟩ := run_spec hp hrun
  have hup : Compile.UpToDate ran.config start.disk ran.registry := by
    rw [hran.config]
    exact upToDate_of_ran hran
  refine ⟨handleChanges_removal hhas hignored gone, hup.sorted.has_delete file, fun halone => ?_,
    fun hwanted => ?_, fun p hw => ?_⟩
  · have hthere := Disk.has_of_read hback.read
    exact restoring_of_alone hup.sorted hhas hignored hother gone hthere halone
  · rw [restoring_eq hhas hignored]
    exact hback.restored (hran.plain hp) hup hignored hother hwanted
  · rcases cause_of_ran hran hw with hown | ⟨chunk, hc, d, hd, hs, hdestination⟩
    · exact Or.inr (Or.inl hown)
    · by_cases hself : chunk.file.Same file
      · refine Or.inr (Or.inr ⟨chunk, ?_, d, hd, hs, hdestination⟩)
        rw [← Registry.get?_congr hself]
        exact hup.sorted.get?_of_mem hc
      · exact Or.inl ⟨d, ⟨chunk, hc, hself, hd, hs⟩, hdestination⟩

/-! ### A style sheet that is imported, and one that is not -/

namespace Recreation

/-- An app whose style sheet imports another. -/
def app : Build where
  config := { Config.of ⟨"/"⟩ with
    publicPath := some "http://a"
    manifest := { pages := ["p"] } }
  disk := {
    entries := [
      (["project.config.json"], .file "\x7b\x7d".toUTF8),
      (["src"], .folder),
      (["src", "a.wxss"], .file "b".toUTF8),
      (["src", "app.json"], .file "\x7b\"pages\":[\"p\"]\x7d".toUTF8),
      (["src", "app.wxss"], .file "@import './a.wxss'".toUTF8)]
    current := [] }

/-- The style sheet of the app. -/
def own : Path := ⟨"/src/app.wxss"⟩

/-- The style sheet that it imports. -/
def part : Path := ⟨"/src/a.wxss"⟩

/-- The new content. -/
def renewed : ByteArray := "c".toUTF8

/-- The disk without a file. -/
def removed (build : Build) (file : Path) : Disk :=
  (build.disk.removeFile file).1

/-- The disk with the new content in the file. -/
def rewritten (build : Build) (file : Path) : Disk :=
  ((removed build file).write file renewed).1

/-- A file is known, is removed from the disk, and is there again with the new content. -/
def Returns (build : Build) (file : Path) : Prop :=
  build.registry.has file = true ∧ build.config.isIgnored file = false ∧
    (file == build.config.manifestFile) = false ∧ (removed build file).has file = false ∧
    (rewritten build file).read file = .ok renewed

instance (build : Build) (file : Path) : Decidable (Returns build file) :=
  have : DecidableEq ByteArray := ByteArray.instDecidableEq
  inferInstanceAs (Decidable (_ ∧ _))

theorem session : ∃ ran ∈ app.runUpTo 12, ran.2.isOk = true ∧
    (Returns ran.1 part ∧
      (∀ chunk ∈ ran.1.registry.chunks, chunk.dependsOn part = true →
        Compile.SameSource ran.1.config app.disk (rewritten ran.1 part) chunk.file) ∧
      (∀ chunk ∈ ran.1.registry.chunks, ∀ d ∈ chunk.followed, (d.target == part) = true →
        (Compile.compileFile ran.1.config (rewritten ran.1 part) (ran.1.registry.delete part)
          (.ofDependency d)).toOption.any (fun made => made.followed.isEmpty) = true) ∧
      ∃ chunk ∈ ran.1.registry.chunks, (chunk.file == part) = false ∧
        ∃ d ∈ chunk.followed, (d.target == part) = true) ∧
    Returns ran.1 own ∧
      (∀ chunk ∈ ran.1.registry.chunks, chunk.dependsOn own = false) ∧
      (Compile.compileFile ran.1.config (rewritten ran.1 own) (ran.1.registry.delete own)
        { file := own }).toOption.any (fun made => made.followed.isEmpty) = true := by
  decide +kernel

/-- The content that a file is given refers to nothing, so it compiles on its own. -/
theorem replaced {ran : Build} (hreturns : Returns ran part)
    (hsources : ∀ chunk ∈ ran.registry.chunks, chunk.dependsOn part = true →
      Compile.SameSource ran.config app.disk (rewritten ran part) chunk.file)
    (hcompiles : ∀ chunk ∈ ran.registry.chunks, ∀ d ∈ chunk.followed, (d.target == part) = true →
      (Compile.compileFile ran.config (rewritten ran part) (ran.registry.delete part)
        (.ofDependency d)).toOption.any (fun made => made.followed.isEmpty) = true) :
    Replaced ran.config ran.registry app.disk (rewritten ran part) part renewed where
  read := hreturns.2.2.2.2
  sources := fun chunk hc _ hrefers => hsources chunk hc hrefers
  compiles := by
    rintro d ⟨chunk, hc, -, hd, hs⟩
    exact Compile.compiles_of_followed (hcompiles chunk hc d hd (Path.beq_iff_same.2 hs))

theorem Returns.not_same {ran : Build} {file : Path} (h : Returns ran file) :
    ¬ file.Same ran.config.manifestFile := by
  intro hs
  have hmanifest := h.2.2.1
  rw [Path.beq_iff_same.2 hs] at hmanifest
  cases hmanifest

end Recreation

/-- The style sheet that the app's imports is removed and created again, and it is restored. -/
theorem restored_of_import : ∃ ran stats, Recreation.app.run = (ran, .ok stats) ∧
    ∃ chunk, Restored ran (Recreation.rewritten ran Recreation.part) Recreation.part
      Recreation.renewed (ran.restoring Recreation.part (Recreation.removed ran Recreation.part)
        (Recreation.rewritten ran Recreation.part)) chunk := by
  obtain ⟨⟨ran, result⟩, hran, hok,
    ⟨hreturns, hsources, hcompiles, chunk, hc, hne, d, hd, hs⟩, -⟩ := Recreation.session
  have hplain : Recreation.app.Plain := ⟨rfl, rfl, rfl⟩
  obtain ⟨stats, hrun⟩ := exists_run_of_runUpTo hplain hran hok
  have hback := Recreation.replaced hreturns hsources hcompiles
  have hwanted : ran.registry.Wants Recreation.part d := by
    refine ⟨chunk, hc, fun hself => ?_, hd, Path.beq_iff_same.1 hs⟩
    rw [Path.beq_iff_same.2 hself] at hne
    cases hne
  obtain ⟨-, -, -, hrestored, -⟩ := restored_of_run hplain hrun hreturns.1 hreturns.2.1
    hreturns.not_same hback (Recreation.removed ran Recreation.part)
  exact ⟨ran, stats, hrun, hrestored ⟨d, hwanted⟩⟩

/-- The style sheet of the app is removed and created again with a content that compiles, and it
stays unknown. -/
theorem forgotten_of_recreated : ∃ ran stats, Recreation.app.run = (ran, .ok stats) ∧
    Recreation.app.Plain ∧ Recreation.Returns ran Recreation.own ∧
    Compile.Compiles ran.config (Recreation.rewritten ran Recreation.own)
      (ran.registry.delete Recreation.own) { file := Recreation.own } ∧
    (ran.restoring Recreation.own (Recreation.removed ran Recreation.own)
      (Recreation.rewritten ran Recreation.own)).2 = [.notRequired Recreation.own] ∧
    (ran.restoring Recreation.own (Recreation.removed ran Recreation.own)
      (Recreation.rewritten ran Recreation.own)).1.registry.has Recreation.own = false := by
  obtain ⟨⟨ran, result⟩, hran, hok, -, hreturns, halone, hcompiles⟩ := Recreation.session
  have hplain : Recreation.app.Plain := ⟨rfl, rfl, rfl⟩
  obtain ⟨stats, hrun⟩ := exists_run_of_runUpTo hplain hran hok
  obtain ⟨entries, chunks, hspec⟩ := run_spec hplain hrun
  have hsorted := (upToDate_of_ran hspec).sorted
  -- no chunk refers to the style sheet
  have hnone : ∀ chunk ∈ ran.registry.chunks, chunk.dependsOn Recreation.own = true →
      chunk.file.Same Recreation.own := by
    intro chunk hc hrefers
    rw [halone chunk hc] at hrefers
    cases hrefers
  have hrestoring := restoring_of_alone hsorted hreturns.1 hreturns.2.1 hreturns.not_same
    (Recreation.removed ran Recreation.own) (Disk.has_of_read hreturns.2.2.2.2) hnone
  refine ⟨ran, stats, hrun, hplain, hreturns, Compile.compiles_of_followed hcompiles, ?_, ?_⟩
  · rw [hrestoring]
  · rw [hrestoring]
    exact hsorted.has_delete Recreation.own

end Build

end Minipack
