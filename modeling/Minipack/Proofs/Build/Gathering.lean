/-
What the changes of a batch ask for.

The changes are taken one by one, in the order of their paths.  A change of a file that is gone
drops the chunk of the file (`Build.removes`).  A change of a file that stays asks for the chunks
that it touches (`Build.Touches`): its own and those that refer to it, as far as they are known at
that moment (`Build.mem_asked`).  What is asked for is not taken back, so a file that is removed is
compiled again exactly when it refers to a changed file that comes before it in the order of the
paths.

`Build.Gathered` is the invariant of this: one change keeps it (`Build.Gathered.takeChange`),
whether its file stays or is gone, so it holds of all changes of a batch (`Build.get?_taken`,
`Build.mem_tasks_taken`).
-/
import Minipack.Proofs.Build.Tasks
import Mathlib.Data.List.Induction

namespace Minipack.Build

variable {build start after : Build} {changes : List Change} {tasks : List Task} {file : Path}

/-! ### What a change asks for -/

/-- A change of a file asks for a chunk: the manifest can be read if it is the file, the content is
not that of the file's own chunk, and the chunk is of the file or refers to it. -/
structure Stirs (build : Build) (file : Path) (chunk : Chunk) : Prop where
  loads : file.Same build.config.manifestFile →
    ∃ manifest, Config.loadManifest build.disk build.config.manifestFile = .ok manifest
  differs : ∀ known, build.registry.get? file = some known →
    ∃ source, build.disk.read file = .ok source ∧ digest source ≠ known.hash
  refers : file.Same chunk.file ∨ chunk.dependsOn file = true

/-- What a change asks for is told by the disk and by what the registry knows of the file. -/
theorem stirs_congr {chunk : Chunk}
    (hmanifest : build.config.manifestFile = start.config.manifestFile)
    (hdisk : build.disk = start.disk)
    (hget : build.registry.get? file = start.registry.get? file) :
    build.Stirs file chunk ↔ start.Stirs file chunk := by
  constructor
  · rintro ⟨hloads, hdiffers, hrefers⟩
    rw [hmanifest, hdisk] at hloads
    rw [hget, hdisk] at hdiffers
    exact ⟨hloads, hdiffers, hrefers⟩
  · rintro ⟨hloads, hdiffers, hrefers⟩
    rw [← hmanifest, ← hdisk] at hloads
    rw [← hget, ← hdisk] at hdiffers
    exact ⟨hloads, hdiffers, hrefers⟩

/-- A file that has been looked at asks for its own chunk and those that refer to it, unless its
content is that of its own chunk. -/
theorem mem_affectedAt (hs : build.registry.Sorted) {task : Task} :
    task ∈ (build.affectedAt file).toOption.getD [] ↔
      ∃ chunk ∈ build.registry.chunks, task = .ofChunk chunk ∧
        (∀ known, build.registry.get? file = some known →
          ∃ source, build.disk.read file = .ok source ∧ digest source ≠ known.hash) ∧
        (file.Same chunk.file ∨ chunk.dependsOn file = true) := by
  have hdependents : task ∈ (build.registry.dependents file).map Task.ofChunk ↔
      ∃ chunk ∈ build.registry.chunks, task = .ofChunk chunk ∧ chunk.dependsOn file = true := by
    simp only [Registry.dependents, List.mem_map, List.mem_filter, and_assoc, and_comm, eq_comm]
  constructor
  · intro h
    cases haffected : build.affectedAt file with
    | error error =>
      rw [haffected] at h
      cases h
    | ok affected =>
      rw [haffected] at h
      change task ∈ affected at h
      rcases affectedAt_eq_ok_iff.1 haffected with ⟨hget, rfl⟩ | ⟨own, source, hget, hread, rfl⟩
      · obtain ⟨chunk, hc, rfl, hrefers⟩ := hdependents.1 h
        refine ⟨chunk, hc, rfl, fun known hknown => ?_, Or.inr hrefers⟩
        rw [hget] at hknown
        cases hknown
      · split at h
        · cases h
        · next hdigest =>
          have hdiffers : ∀ known, build.registry.get? file = some known →
              ∃ source, build.disk.read file = .ok source ∧ digest source ≠ known.hash := by
            intro known hknown
            obtain rfl := Option.some.inj (hget.symm.trans hknown)
            exact ⟨source, hread, hdigest⟩
          rcases List.mem_cons.1 h with rfl | h
          · exact ⟨own, Registry.mem_of_get? hget, rfl, hdiffers,
              Or.inl (Registry.same_of_get? hget)⟩
          · obtain ⟨chunk, hc, rfl, hrefers⟩ := hdependents.1 h
            exact ⟨chunk, hc, rfl, hdiffers, Or.inr hrefers⟩
  -- a file without a chunk can only be referred to
  · rintro ⟨chunk, hc, rfl, hdiffers, hrefers⟩
    cases hget : build.registry.get? file with
    | none =>
      rw [affectedAt_eq_ok_iff.2 (Or.inl ⟨hget, rfl⟩)]
      refine hdependents.2 ⟨chunk, hc, rfl, hrefers.resolve_left fun hsame => ?_⟩
      rw [Registry.get?_congr hsame, hs.get?_of_mem hc] at hget
      cases hget
    | some known =>
      obtain ⟨source, hread, hdigest⟩ := hdiffers known hget
      rw [affectedAt_eq_ok_iff.2 (Or.inr ⟨known, source, hget, hread, rfl⟩), if_neg hdigest]
      rcases hrefers with hsame | hrefers
      · rw [Registry.get?_congr hsame, hs.get?_of_mem hc] at hget
        obtain rfl := Option.some.inj hget
        exact List.mem_cons_self
      · exact List.mem_cons_of_mem _ (hdependents.2 ⟨chunk, hc, rfl, hrefers⟩)

/-- A change asks for the chunks that it stirs, in their roles. -/
theorem mem_asked (hp : build.pending = []) (hs : build.registry.Sorted) {task : Task} :
    task ∈ build.asked file ↔
      ∃ chunk ∈ build.registry.chunks, task = .ofChunk chunk ∧ build.Stirs file chunk := by
  unfold asked
  rw [affectedBy_eq hp]
  cases hfailure : (build.reloaded file).2 with
  | some error =>
    refine ⟨fun h => (by cases h), ?_⟩
    rintro ⟨chunk, -, -, hstirs⟩
    rw [snd_reloaded_eq_none_iff.2 hstirs.loads] at hfailure
    cases hfailure
  | none =>
    have hloads := snd_reloaded_eq_none_iff.1 hfailure
    refine (mem_affectedAt hs).trans
      (exists_congr fun chunk => and_congr_right fun _ => and_congr_right fun _ => ?_)
    exact ⟨fun ⟨hdiffers, hrefers⟩ => ⟨hloads, hdiffers, hrefers⟩,
      fun h => ⟨h.differs, h.refers⟩⟩

/-! ### Taking changes -/

/-- Whether a change drops the chunk of its file: it is not ignored, and the file is gone. -/
def isGone (build : Build) (change : Change) : Bool :=
  !build.config.isIgnored change.path && build.isRemoval change

/-- Whether one of some changes drops the chunk of a file. -/
def drops (build : Build) (changes : List Change) (file : Path) : Bool :=
  changes.any fun change => change.path == file && build.isGone change

/-- Whether a batch removes a file. -/
def removes (build : Build) (changes : List Change) (file : Path) : Bool :=
  build.drops (latest changes) file

/-- A change of a file that stays asks for a chunk. -/
structure Touches (build : Build) (change : Change) (chunk : Chunk) : Prop where
  takes : build.Takes change
  stirs : build.Stirs change.path chunk

theorem drops_eq_true_iff :
    build.drops changes file = true ↔
      ∃ change ∈ changes, change.path.Same file ∧ build.isGone change = true := by
  simp only [drops, List.any_eq_true, Bool.and_eq_true, Path.beq_iff_same]

theorem drops_concat (change : Change) :
    build.drops (changes ++ [change]) file =
      (build.drops changes file || (change.path == file && build.isGone change)) := by
  simp only [drops, List.any_append, List.any_cons, List.any_nil, Bool.or_false]

/-- A change that can be taken drops nothing. -/
theorem Takes.isGone {change : Change} (h : build.Takes change) : build.isGone change = false := by
  unfold Build.isGone
  rw [h.2, Bool.and_false]

/-- Adding a task that is not there. -/
theorem mem_addTask_iff (hs : Keyed.Sorted Task.file tasks) {task added : Task}
    (hone : ∀ old ∈ tasks, old.file.Same added.file → old = added) :
    task ∈ addTask tasks added ↔ task = added ∨ task ∈ tasks := by
  refine ⟨mem_addTask, fun h => ?_⟩
  unfold addTask
  cases hfind : Keyed.find? Task.file added.file tasks with
  | some old =>
    obtain ⟨hold, hsame⟩ := hs.find?_eq_some_iff.1 hfind
    rcases h with rfl | h
    · rw [← hone old hold (Path.compare_eq_iff_same.1 hsame).symm]
      exact hold
    · exact h
  | none =>
    rcases h with rfl | h
    · exact Keyed.mem_insert_self _ _
    · apply Keyed.mem_insert_of_ne h
      intro hsame
      rw [hs.find?_eq_some_iff.2 ⟨h, hsame⟩] at hfind
      cases hfind

theorem sorted_addTask (hs : Keyed.Sorted Task.file tasks) (task : Task) :
    Keyed.Sorted Task.file (addTask tasks task) := by
  unfold addTask
  split
  · exact hs
  · exact hs.insert task

theorem sorted_foldl_addTask (hs : Keyed.Sorted Task.file tasks) (more : List Task) :
    Keyed.Sorted Task.file (more.foldl addTask tasks) := by
  induction more generalizing tasks with
  | nil => exact hs
  | cons task rest ih => exact ih (sorted_addTask hs task)

/-- Adding tasks that come from chunks of one registry. -/
theorem mem_foldl_addTask_iff {registry : Registry} (hr : registry.Sorted)
    (hs : Keyed.Sorted Task.file tasks)
    (hold : ∀ task ∈ tasks, ∃ chunk ∈ registry.chunks, task = .ofChunk chunk) {more : List Task}
    (hnew : ∀ task ∈ more, ∃ chunk ∈ registry.chunks, task = .ofChunk chunk) {task : Task} :
    task ∈ more.foldl addTask tasks ↔ task ∈ more ∨ task ∈ tasks := by
  induction more generalizing tasks with
  | nil => simp
  | cons added rest ih =>
    obtain ⟨chunk, hc, hadded⟩ := hnew added List.mem_cons_self
    -- tasks for one file are the task for its chunk
    have hone : ∀ old ∈ tasks, old.file.Same added.file → old = added := by
      intro old ho hsame
      obtain ⟨chunk', hc', rfl⟩ := hold old ho
      subst hadded
      have hfile : chunk'.file.Same chunk.file := hsame
      have hget : registry.get? chunk.file = some chunk' := by
        rw [← Registry.get?_congr hfile]
        exact hr.get?_of_mem hc'
      rw [hr.get?_of_mem hc] at hget
      rw [Option.some.inj hget]
    rw [List.foldl_cons, ih (sorted_addTask hs added), mem_addTask_iff hs hone, List.mem_cons]
    · constructor
      · rintro (h | h | h)
        · exact Or.inl (Or.inr h)
        · exact Or.inl (Or.inl h)
        · exact Or.inr h
      · rintro ((h | h) | h)
        · exact Or.inr (Or.inl h)
        · exact Or.inl h
        · exact Or.inr (Or.inr h)
    · intro old ho
      rcases mem_addTask ho with rfl | ho
      · exact ⟨chunk, hc, hadded⟩
      · exact hold old ho
    · exact fun t ht => hnew t (List.mem_cons_of_mem _ ht)

/-- A change of a file that is gone drops its chunk. -/
theorem takeChange_of_gone {change : Change} (hs : build.registry.Sorted)
    (h : build.isGone change = true) (tasks : List Task) (events : List WatchEvent) :
    ∃ registry, (takeChange (build, tasks, events) change).1 = { build with registry := registry } ∧
      (takeChange (build, tasks, events) change).2.1 = tasks ∧ registry.Sorted ∧
      ∀ file, registry.get? file =
        if file.Same change.path then none else build.registry.get? file := by
  unfold isGone at h
  obtain ⟨hkept, hremoval⟩ := Bool.and_eq_true_iff.1 h
  rw [Bool.not_eq_true'] at hkept
  rw [takeChange_of_removal hkept hremoval]
  by_cases hhas : build.registry.has change.path = true
  · rw [if_pos hhas]
    exact ⟨_, rfl, rfl, hs.delete _, hs.get?_delete change.path⟩
  · rw [if_neg hhas]
    refine ⟨build.registry, rfl, rfl, hs, fun file => ?_⟩
    split
    · next hsame =>
      rw [Registry.get?_congr hsame]
      exact Option.not_isSome_iff_eq_none.1 hhas
    · rfl

/-- What a batch has come to when some of its changes have been taken: the chunks of the files that
they drop are gone, and there is a task for each chunk that a change touches before its file is
dropped. -/
structure Gathered (start : Build) (done : List Change)
    (state : Build × List Task × List WatchEvent) : Prop where
  build : ∃ registry manifest, state.1 =
    { start with registry := registry, config := { start.config with manifest := manifest } }
  sorted : state.1.registry.Sorted
  registry : ∀ file, state.1.registry.get? file =
    if start.drops done file then none else start.registry.get? file
  ordered : Keyed.Sorted Task.file state.2.1
  tasks : ∀ task, task ∈ state.2.1 ↔ ∃ chunk ∈ start.registry.chunks, task = .ofChunk chunk ∧
    ∃ before change, before ++ [change] <+: done ∧ start.Touches change chunk ∧
      start.drops before chunk.file = false

variable {change : Change} {state : Build × List Task × List WatchEvent}

/-- A chunk that is left is one that was there and has not been dropped. -/
theorem Gathered.mem_chunks_iff (h : Gathered start changes state) (hs : start.registry.Sorted)
    {chunk : Chunk} : chunk ∈ state.1.registry.chunks ↔
      chunk ∈ start.registry.chunks ∧ start.drops changes chunk.file = false := by
  have hleft : chunk ∈ state.1.registry.chunks ↔
      state.1.registry.get? chunk.file = some chunk :=
    ⟨h.sorted.get?_of_mem, Registry.mem_of_get?⟩
  have hthere : chunk ∈ start.registry.chunks ↔ start.registry.get? chunk.file = some chunk :=
    ⟨hs.get?_of_mem, Registry.mem_of_get?⟩
  rw [hleft, hthere, h.registry]
  cases start.drops changes chunk.file <;> simp

/-- A change that touches nothing asks for nothing more. -/
theorem Gathered.tasks_concat (h : Gathered start changes state)
    (hnone : ∀ chunk, start.drops changes chunk.file = false → ¬ start.Touches change chunk)
    (task : Task) :
    task ∈ state.2.1 ↔ ∃ chunk ∈ start.registry.chunks, task = .ofChunk chunk ∧
      ∃ before c, before ++ [c] <+: changes ++ [change] ∧ start.Touches c chunk ∧
        start.drops before chunk.file = false := by
  rw [h.tasks]
  constructor
  · rintro ⟨chunk, hc, rfl, before, c, hbefore, htouches, hdrops⟩
    exact ⟨chunk, hc, rfl, before, c, List.prefix_concat_iff.2 (Or.inr hbefore), htouches, hdrops⟩
  · rintro ⟨chunk, hc, rfl, before, c, hbefore, htouches, hdrops⟩
    refine ⟨chunk, hc, rfl, before, c, ?_, htouches, hdrops⟩
    rcases List.prefix_concat_iff.1 hbefore with heq | hbefore
    · obtain ⟨rfl, hlast⟩ := List.append_inj' heq rfl
      obtain rfl := List.head_eq_of_cons_eq hlast
      exact absurd htouches (hnone chunk hdrops)
    · exact hbefore

/-- The patterns to ignore and the disk stay as they are. -/
theorem Gathered.isIgnored (h : Gathered start changes state) (p : Path) :
    state.1.config.isIgnored p = start.config.isIgnored p := by
  obtain ⟨registry, manifest, hbuild⟩ := h.build
  rw [hbuild]
  rfl

theorem Gathered.isRemoval (h : Gathered start changes state) (change : Change) :
    state.1.isRemoval change = start.isRemoval change := by
  obtain ⟨registry, manifest, hbuild⟩ := h.build
  rw [hbuild]
  rfl

theorem Gathered.pending (h : Gathered start changes state) (hp : start.pending = []) :
    state.1.pending = [] := by
  obtain ⟨registry, manifest, hbuild⟩ := h.build
  rw [hbuild]
  exact hp

/-- A change of a file that stays and was not dropped asks for the chunks that are left and that it
touches. -/
theorem Gathered.asked_iff (h : Gathered start changes state) (hp : start.pending = [])
    (hs : start.registry.Sorted) (hnew : start.drops changes change.path = false)
    (htakes : start.Takes change) (task : Task) :
    task ∈ state.1.asked change.path ↔ ∃ chunk ∈ start.registry.chunks, task = .ofChunk chunk ∧
      start.Touches change chunk ∧ start.drops changes chunk.file = false := by
  have hget : state.1.registry.get? change.path = start.registry.get? change.path := by
    rw [h.registry, hnew, if_neg Bool.false_ne_true]
  have hstirs (chunk : Chunk) :
      state.1.Stirs change.path chunk ↔ start.Stirs change.path chunk := by
    obtain ⟨registry, manifest, hbuild⟩ := h.build
    exact stirs_congr (by rw [hbuild]) (by rw [hbuild]) hget
  rw [mem_asked (h.pending hp) h.sorted]
  constructor
  · rintro ⟨chunk, hc, rfl, htouched⟩
    obtain ⟨hthere, hleft⟩ := (h.mem_chunks_iff hs).1 hc
    exact ⟨chunk, hthere, rfl, ⟨htakes, (hstirs chunk).1 htouched⟩, hleft⟩
  · rintro ⟨chunk, hthere, rfl, htouched, hleft⟩
    exact ⟨chunk, (h.mem_chunks_iff hs).2 ⟨hthere, hleft⟩, rfl, (hstirs chunk).2 htouched.stirs⟩

/-- Taking one change more, of a file that stays and was not dropped. -/
theorem Gathered.takeChange_of_takes (h : Gathered start changes state) (hp : start.pending = [])
    (hs : start.registry.Sorted) (hnew : start.drops changes change.path = false)
    (htakes : start.Takes change) :
    Gathered start (changes ++ [change]) (takeChange state change) := by
  have hasked := h.asked_iff hp hs hnew htakes
  obtain ⟨build, tasks, events⟩ := state
  obtain ⟨registry, manifest, hbuild⟩ := h.build
  change build = _ at hbuild
  have hbuildTakes : build.Takes change :=
    ⟨(h.isIgnored _).trans htakes.1, (h.isRemoval _).trans htakes.2⟩
  obtain ⟨manifest', haffected⟩ := exists_affectedBy (h.pending hp) change.path
  rw [takeChange_of_there hbuildTakes.1 hbuildTakes.2, haffected]
  have hdrops (file : Path) : start.drops (changes ++ [change]) file =
      start.drops changes file := by
    rw [drops_concat, htakes.isGone, Bool.and_false, Bool.or_false]
  refine ⟨⟨registry, manifest', ?_⟩, ?_, fun file => ?_, ?_, fun task => ?_⟩
  · rw [hbuild]
  · exact h.sorted
  · rw [hdrops]
    exact h.registry file
  · exact sorted_foldl_addTask h.ordered _
  -- a task was asked for before, or this change asks for it
  · have hold : ∀ t ∈ tasks, ∃ chunk ∈ start.registry.chunks, t = .ofChunk chunk := by
      intro t ht
      obtain ⟨chunk, hc, heq, -⟩ := (h.tasks t).1 ht
      exact ⟨chunk, hc, heq⟩
    have hmore : ∀ t ∈ build.asked change.path, ∃ chunk ∈ start.registry.chunks,
        t = .ofChunk chunk := by
      intro t ht
      obtain ⟨chunk, hc, heq, -⟩ := (hasked t).1 ht
      exact ⟨chunk, hc, heq⟩
    rw [mem_foldl_addTask_iff hs h.ordered hold hmore, hasked]
    constructor
    · rintro (⟨chunk, hc, rfl, htouches, hleft⟩ | hbefore)
      · exact ⟨chunk, hc, rfl, changes, change, List.prefix_rfl, htouches, hleft⟩
      · obtain ⟨chunk, hc, rfl, before, c, hbefore, hrest⟩ := (h.tasks task).1 hbefore
        exact ⟨chunk, hc, rfl, before, c, List.prefix_concat_iff.2 (Or.inr hbefore), hrest⟩
    · rintro ⟨chunk, hc, rfl, before, c, hbefore, htouches, hleft⟩
      rcases List.prefix_concat_iff.1 hbefore with heq | hbefore
      · obtain ⟨rfl, hlast⟩ := List.append_inj' heq rfl
        obtain rfl := List.head_eq_of_cons_eq hlast
        exact Or.inl ⟨chunk, hc, rfl, htouches, hleft⟩
      · exact Or.inr ((h.tasks _).2 ⟨chunk, hc, rfl, before, c, hbefore, htouches, hleft⟩)

/-- Taking one change more, of a file that is gone. -/
theorem Gathered.takeChange_of_gone (h : Gathered start changes state)
    (hgone : start.isGone change = true) :
    Gathered start (changes ++ [change]) (takeChange state change) := by
  have hnone : ∀ chunk, start.drops changes chunk.file = false →
      ¬ start.Touches change chunk := by
    intro chunk _ htouches
    rw [htouches.takes.isGone] at hgone
    cases hgone
  obtain ⟨build, tasks, events⟩ := state
  obtain ⟨registry, manifest, hbuild⟩ := h.build
  change build = _ at hbuild
  have hbuildGone : build.isGone change = true := by
    unfold isGone at hgone ⊢
    rw [h.isIgnored, h.isRemoval]
    exact hgone
  -- only the chunk of the file goes
  obtain ⟨registry', hbuild', htasks', hsorted', hget'⟩ :=
    Build.takeChange_of_gone h.sorted hbuildGone tasks events
  refine ⟨⟨registry', manifest, ?_⟩, ?_, fun file => ?_, ?_, fun task => ?_⟩
  · rw [hbuild', hbuild]
  · rw [hbuild']
    exact hsorted'
  · rw [hbuild', drops_concat, hgone, Bool.and_true]
    show registry'.get? file = _
    rw [hget', h.registry]
    by_cases hsame : file.Same change.path
    · rw [if_pos hsame, Path.beq_iff_same.2 hsame.symm, Bool.or_true]
      rfl
    · have hother : (change.path == file) = false :=
        Path.beq_eq_false_iff.2 fun hs => hsame hs.symm
      rw [if_neg hsame, hother, Bool.or_false]
  · rw [htasks']
    exact h.ordered
  · rw [htasks']
    exact h.tasks_concat hnone task

/-- Taking one change more, of a file that was not dropped. -/
theorem Gathered.takeChange (h : Gathered start changes state) (hp : start.pending = [])
    (hs : start.registry.Sorted) (hnew : start.drops changes change.path = false) :
    Gathered start (changes ++ [change]) (takeChange state change) := by
  by_cases htakes : start.Takes change
  · exact h.takeChange_of_takes hp hs hnew htakes
  · by_cases hgone : start.isGone change = true
    · exact h.takeChange_of_gone hgone
    · -- the change is ignored
      have hkept : start.isGone change = false := Bool.eq_false_iff.2 hgone
      have hignored : start.config.isIgnored change.path = true := by
        apply Bool.of_not_eq_false
        refine fun hfalse => htakes ⟨hfalse, ?_⟩
        unfold isGone at hkept
        rw [hfalse, Bool.not_false, Bool.true_and] at hkept
        exact hkept
      have hnone : ∀ chunk, start.drops changes chunk.file = false →
          ¬ start.Touches change chunk := fun chunk _ htouches => htakes htouches.takes
      obtain ⟨build, tasks, events⟩ := state
      rw [takeChange_of_ignored ((h.isIgnored _).trans hignored)]
      refine ⟨h.build, h.sorted, fun file => ?_, h.ordered, h.tasks_concat hnone⟩
      rw [drops_concat, hkept, Bool.and_false, Bool.or_false]
      exact h.registry file

/-! ### All changes -/

/-- The changes that a batch comes to are in the order of their paths. -/
theorem sorted_latest (changes : List Change) : Keyed.Sorted Change.path (latest changes) := by
  have hfold : ∀ (changes known : List Change), Keyed.Sorted Change.path known →
      Keyed.Sorted Change.path (changes.foldl keepChange known) := by
    intro changes
    induction changes with
    | nil => exact fun known h => h
    | cons change rest ih => exact fun known h => ih _ (h.insert _)
  rw [latest_eq]
  exact hfold changes [] Keyed.Sorted.nil

theorem gathered_foldl (hp : build.pending = []) (hs : build.registry.Sorted)
    (hsorted : Keyed.Sorted Change.path changes) :
    Gathered build changes (changes.foldl takeChange (build, [], [])) := by
  induction changes using List.reverseRecOn with
  | nil =>
    refine ⟨⟨build.registry, build.config.manifest, rfl⟩, hs, fun file => rfl, Keyed.Sorted.nil,
      fun task => ⟨fun h => (by cases h), ?_⟩⟩
    rintro ⟨chunk, -, -, before, change, hbefore, -⟩
    have hnil := List.prefix_nil.1 hbefore
    cases before <;> cases hnil
  | append_singleton changes change ih =>
    rw [List.foldl_concat]
    obtain ⟨hsorted, -, hbefore⟩ := List.pairwise_append.1 hsorted
    refine (ih hsorted).takeChange hp hs (Bool.eq_false_iff.2 fun hdrops => ?_)
    -- no two changes are of one path
    obtain ⟨c, hc, hsame, -⟩ := drops_eq_true_iff.1 hdrops
    have hlt : compare c.path change.path = .lt := hbefore c hc change (List.mem_singleton_self _)
    rw [Path.compare_eq_iff_same.2 hsame] at hlt
    cases hlt

/-- After the changes of a batch the files that it removes have no chunk, and all else is as it was.
-/
theorem get?_taken (hp : build.pending = []) (hs : build.registry.Sorted) (changes : List Change)
    (file : Path) : (build.taken changes).1.registry.get? file =
      if build.removes changes file then none else build.registry.get? file :=
  (gathered_foldl hp hs (sorted_latest changes)).registry file

/-- The tasks of a batch: the chunks that a change touches, unless the batch has removed their file
before. -/
theorem mem_tasks_taken (hp : build.pending = []) (hs : build.registry.Sorted)
    (changes : List Change) (task : Task) :
    task ∈ (build.taken changes).2.1 ↔ ∃ chunk ∈ build.registry.chunks, task = .ofChunk chunk ∧
      ∃ change ∈ latest changes, build.Touches change chunk ∧
        (build.removes changes chunk.file = true → compare change.path chunk.file = .lt) := by
  have hsorted := sorted_latest changes
  have htasks := (gathered_foldl hp hs hsorted).tasks task
  refine htasks.trans (exists_congr fun chunk => and_congr_right fun _ =>
    and_congr_right fun _ => ?_)
  constructor
  · rintro ⟨before, change, ⟨rest, heq⟩, htouches, hdrops⟩
    have hmem : change ∈ latest changes := by
      rw [← heq]
      simp
    refine ⟨change, hmem, htouches, fun hremoves => ?_⟩
    -- the file is removed by a change that comes later
    obtain ⟨gone, hgone, hsame, hisGone⟩ := drops_eq_true_iff.1 hremoves
    have hlater : gone ∈ rest := by
      rw [← heq] at hgone
      rcases List.mem_append.1 hgone with hgone | hgone
      · rcases List.mem_append.1 hgone with hgone | hgone
        · rw [drops_eq_true_iff.2 ⟨gone, hgone, hsame, hisGone⟩] at hdrops
          cases hdrops
        · rw [List.mem_singleton.1 hgone, htouches.takes.isGone] at hisGone
          cases hisGone
      · exact hgone
    rw [← heq] at hsorted
    have hlt : compare change.path gone.path = .lt :=
      (List.pairwise_append.1 hsorted).2.2 change (by simp) gone hlater
    rwa [Std.TransCmp.congr_right (Path.compare_eq_iff_same.2 hsame)] at hlt
  · rintro ⟨change, hmem, htouches, hlt⟩
    obtain ⟨before, rest, heq⟩ := List.append_of_mem hmem
    refine ⟨before, change, ⟨rest, by rw [heq, List.append_assoc]; rfl⟩, htouches,
      Bool.eq_false_iff.2 fun hdrops => ?_⟩
    obtain ⟨gone, hgone, hsame, hisGone⟩ := drops_eq_true_iff.1 hdrops
    rw [heq] at hsorted
    have hbefore : compare gone.path change.path = .lt :=
      (List.pairwise_append.1 hsorted).2.2 gone hgone change List.mem_cons_self
    have hgone' : gone ∈ latest changes := by
      rw [heq]
      exact List.mem_append_left _ hgone
    have hafter := hlt (drops_eq_true_iff.2 ⟨gone, hgone', hsame, hisGone⟩)
    rw [← Std.TransCmp.congr_right (Path.compare_eq_iff_same.2 hsame)] at hafter
    have hswap : compare gone.path change.path = (compare change.path gone.path).swap :=
      Std.OrientedCmp.eq_swap
    rw [hswap, hafter] at hbefore
    cases hbefore

end Minipack.Build
