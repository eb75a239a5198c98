/-
The tasks of a batch.

The changes of a batch are taken path by path (`Build.condenses_latest`), and each path adds the
tasks of the chunks that it affects.  In a batch that removes no known file and has no failure the
registry stays as it is, every task compiles a known chunk in its role, a known file that is listed
has a task unless it has the digest of its chunk, and the manifest is read again when it is listed
(`Build.collected_taken`).
-/
import Minipack.Proofs.Build.Batch

namespace Minipack

namespace Build

variable {build after : Build} {file : Path} {tasks : List Task} {changes : List Change}

/-! ### The last change of each path -/

/-- Puts a change in under the path that its file was first listed with. -/
def keepChange (known : List Change) (change : Change) : List Change :=
  let old := Keyed.find? Change.path change.path known
  Keyed.insert Change.path ⟨(old.map Change.path).getD change.path, change.kind⟩ known

theorem latest_eq (changes : List Change) : latest changes = changes.foldl keepChange [] := by
  unfold latest
  congr 1
  funext known change
  unfold keepChange
  cases Keyed.find? Change.path change.path known <;> rfl

/-- The changes of one list tell what the changes of another come to: they have the paths and kinds
of its changes, and there is one for every path. -/
structure Condenses (changes known : List Change) : Prop where
  mem : ∀ change ∈ known, ∃ first ∈ changes, ∃ last ∈ changes,
    change.path = first.path ∧ last.path.Same change.path ∧ change.kind = last.kind
  found : ∀ change ∈ changes, (Keyed.find? Change.path change.path known).isSome = true

theorem Condenses.keepChange {known : List Change} (h : Condenses changes known)
    (change : Change) : Condenses (changes ++ [change]) (keepChange known change) := by
  have hlast : change ∈ changes ++ [change] :=
    List.mem_append_right _ (List.mem_singleton_self _)
  -- the path under which the change is kept
  obtain ⟨path, hpath, hsame, first, hfirst, heq⟩ : ∃ path,
      ((Keyed.find? Change.path change.path known).map Change.path).getD change.path = path ∧
        change.path.Same path ∧ ∃ first ∈ changes ++ [change], path = first.path := by
    cases hf : Keyed.find? Change.path change.path known with
    | none => exact ⟨_, rfl, Path.same_refl _, change, hlast, rfl⟩
    | some old =>
      obtain ⟨first, hfirst, -, -, heq, -⟩ := h.mem old (Keyed.mem_of_find? hf)
      exact ⟨old.path, rfl, Path.compare_eq_iff_same.1 (Keyed.compare_of_find? hf), first,
        List.mem_append_left _ hfirst, heq⟩
  unfold Build.keepChange
  dsimp only
  rw [hpath]
  refine ⟨fun c hc => ?_, fun c hc => ?_⟩
  · rcases Keyed.eq_or_mem_of_mem_insert hc with rfl | hc
    · exact ⟨first, hfirst, change, hlast, heq, hsame, rfl⟩
    · obtain ⟨first, hfirst, last, hlast, hrest⟩ := h.mem c hc
      exact ⟨first, List.mem_append_left _ hfirst, last, List.mem_append_left _ hlast, hrest⟩
  · by_cases hs : compare c.path path = .eq
    · rw [Keyed.find?_insert_self hs]
      rfl
    · rw [Keyed.find?_insert_of_ne hs]
      rcases List.mem_append.1 hc with hc | hc
      · exact h.found c hc
      · rw [List.mem_singleton.1 hc] at hs
        exact absurd (Path.compare_eq_iff_same.2 hsame) hs

/-- There is a change for every path. -/
theorem Condenses.exists_same {known : List Change} (h : Condenses changes known) {change : Change}
    (hc : change ∈ changes) : ∃ found ∈ known, found.path.Same change.path := by
  obtain ⟨found, hf⟩ := Option.isSome_iff_exists.1 (h.found change hc)
  exact ⟨found, Keyed.mem_of_find? hf,
    (Path.compare_eq_iff_same.1 (Keyed.compare_of_find? hf)).symm⟩

theorem condenses_latest (changes : List Change) : Condenses changes (latest changes) := by
  have hfold : ∀ (todo done known : List Change), Condenses done known →
      Condenses (done ++ todo) (todo.foldl keepChange known) := by
    intro todo
    induction todo with
    | nil =>
      intro done known h
      rw [List.append_nil]
      exact h
    | cons change rest ih =>
      intro done known h
      rw [List.append_cons]
      exact ih _ _ (h.keepChange change)
  rw [latest_eq]
  exact hfold changes [] [] ⟨fun _ hc => (by cases hc), fun _ hc => (by cases hc)⟩

/-! ### Adding tasks -/

/-- Whether there is a task for a file. -/
def asksFor (tasks : List Task) (file : Path) : Bool :=
  (Keyed.find? Task.file file tasks).isSome

theorem exists_of_asksFor (h : asksFor tasks file = true) :
    ∃ task ∈ tasks, task.file.Same file := by
  obtain ⟨task, hf⟩ := Option.isSome_iff_exists.1 h
  exact ⟨task, Keyed.mem_of_find? hf,
    (Path.compare_eq_iff_same.1 (Keyed.compare_of_find? hf)).symm⟩

/-- A task that is added is asked for, and so is what was asked for before. -/
theorem asksFor_addTask {task : Task} (h : file.Same task.file ∨ asksFor tasks file = true) :
    asksFor (addTask tasks task) file = true := by
  unfold addTask
  split
  · next old hf =>
    rcases h with hs | h
    · show (Keyed.find? Task.file file tasks).isSome = true
      rw [Keyed.find?_congr (Path.compare_eq_iff_same.2 hs), hf]
      rfl
    · exact h
  · show (Keyed.find? Task.file file (Keyed.insert Task.file task tasks)).isSome = true
    by_cases hs : compare file task.file = .eq
    · rw [Keyed.find?_insert_self hs]
      rfl
    · rw [Keyed.find?_insert_of_ne hs]
      exact h.resolve_left fun hsame => hs (Path.compare_eq_iff_same.2 hsame)

theorem mem_addTask {task added : Task} (h : task ∈ addTask tasks added) :
    task = added ∨ task ∈ tasks := by
  unfold addTask at h
  split at h
  · exact Or.inr h
  · exact Keyed.eq_or_mem_of_mem_insert h

theorem asksFor_foldl_addTask {affected : List Task}
    (h : (∃ task ∈ affected, file.Same task.file) ∨ asksFor tasks file = true) :
    asksFor (affected.foldl addTask tasks) file = true := by
  induction affected generalizing tasks with
  | nil =>
    rcases h with ⟨task, ht, -⟩ | h
    · cases ht
    · exact h
  | cons first rest ih =>
    rw [List.foldl_cons]
    apply ih
    rcases h with ⟨task, ht, hs⟩ | h
    · rcases List.mem_cons.1 ht with rfl | ht
      · exact Or.inr (asksFor_addTask (Or.inl hs))
      · exact Or.inl ⟨task, ht, hs⟩
    · exact Or.inr (asksFor_addTask (Or.inr h))

theorem mem_foldl_addTask {affected : List Task} {task : Task}
    (h : task ∈ affected.foldl addTask tasks) : task ∈ affected ∨ task ∈ tasks := by
  induction affected generalizing tasks with
  | nil => exact Or.inr h
  | cons first rest ih =>
    rcases ih h with h | h
    · exact Or.inl (List.mem_cons_of_mem _ h)
    · rcases mem_addTask h with rfl | h
      · exact Or.inl List.mem_cons_self
      · exact Or.inr h

/-! ### One change -/

/-- What a change affects when nothing fails: known chunks in their roles, among them that of its
own file unless its content has the digest of the chunk.  The manifest is read again if it is its
file. -/
structure Affects (build after : Build) (file : Path) (affected : List Task) : Prop where
  after : ∃ manifest, after = { build with config := { build.config with manifest := manifest } } ∧
    (file.Same build.config.manifestFile →
      Config.loadManifest build.disk build.config.manifestFile = .ok manifest) ∧
    (¬ file.Same build.config.manifestFile → manifest = build.config.manifest)
  known : ∀ task ∈ affected, ∃ chunk ∈ build.registry.chunks, task = .ofChunk chunk
  own : ∀ chunk, build.registry.get? file = some chunk → ∃ source,
    build.disk.read file = .ok source ∧ (digest source = chunk.hash ∨ .ofChunk chunk ∈ affected)

theorem affectedBy_spec (hp : build.Bare) {affected : List Task}
    (h : build.affectedBy file = (after, .ok affected)) : Affects build after file affected := by
  obtain ⟨manifest, hbuild, hother, hloads⟩ := build.exists_reloaded file
  rw [affectedBy_eq hp.pending] at h
  obtain ⟨hafter, hresult⟩ := Prod.mk.inj h
  rw [hbuild] at hafter
  have hdependents : ∀ task ∈ (build.registry.dependents file).map Task.ofChunk,
      ∃ chunk ∈ build.registry.chunks, task = .ofChunk chunk := by
    intro task ht
    obtain ⟨chunk, hc, rfl⟩ := List.mem_map.1 ht
    exact ⟨chunk, (List.mem_filter.1 hc).1, rfl⟩
  -- a manifest that cannot be read again fails the change
  cases hfailure : (build.reloaded file).2 with
  | some error =>
    rw [hfailure] at hresult
    cases hresult
  | none =>
    rw [hfailure] at hresult
    refine ⟨⟨manifest, hafter.symm, hloads hfailure, hother⟩, ?_, ?_⟩
    · intro task ht
      rcases affectedAt_eq_ok_iff.1 hresult with ⟨-, rfl⟩ | ⟨chunk, source, hget, -, rfl⟩
      · exact hdependents task ht
      · split at ht
        · cases ht
        · rcases List.mem_cons.1 ht with rfl | ht
          · exact ⟨chunk, Registry.mem_of_get? hget, rfl⟩
          · exact hdependents task ht
    · intro known hknown
      rcases affectedAt_eq_ok_iff.1 hresult with ⟨hget, -⟩ | ⟨chunk, source, hget, hread, rfl⟩
      · rw [hknown] at hget
        cases hget
      · obtain rfl := Option.some.inj (hknown.symm.trans hget)
        refine ⟨source, hread, ?_⟩
        split
        · next hdigest => exact Or.inl hdigest
        · exact Or.inr List.mem_cons_self

theorem known_asked (hp : build.Bare) :
    ∀ task ∈ build.asked file, ∃ chunk ∈ build.registry.chunks, task = .ofChunk chunk := by
  intro task ht
  unfold asked at ht
  cases haffected : build.affectedBy file with
  | mk after result =>
    rw [haffected] at ht
    cases result with
    | error error => cases ht
    | ok affected => exact (affectedBy_spec hp haffected).known task ht

/-! ### All changes -/

/-- A change that can be taken: it is not ignored, and its file is there. -/
def Takes (build : Build) (change : Change) : Prop :=
  build.config.isIgnored change.path = false ∧ build.isRemoval change = false

instance (build : Build) (change : Change) : Decidable (build.Takes change) :=
  inferInstanceAs (Decidable (_ ∧ _))

/-- What a batch has come to after some of its changes, when none has failed or removed a known
file. -/
structure Collected (start : Build) (changes : List Change)
    (state : Build × List Task × List WatchEvent) : Prop where
  build : ∃ manifest,
    state.1 = { start with config := { start.config with manifest := manifest } } ∧
    ((∃ change ∈ changes, change.path.Same start.config.manifestFile) →
      Config.loadManifest start.disk start.config.manifestFile = .ok manifest) ∧
    ((∀ change ∈ changes, ¬ change.path.Same start.config.manifestFile) →
      manifest = start.config.manifest)
  known : ∀ task ∈ state.2.1, ∃ chunk ∈ start.registry.chunks, task = .ofChunk chunk
  asked : ∀ change ∈ changes, ∀ chunk, start.registry.get? change.path = some chunk →
    ∃ source, start.disk.read change.path = .ok source ∧
      (digest source = chunk.hash ∨ asksFor state.2.1 chunk.file = true)

variable {start : Build} {change : Change} {events : List WatchEvent}

/-- A change of a file that is not known is passed over. -/
theorem Collected.skip {state : Build × List Task × List WatchEvent}
    (h : Collected start changes state)
    (hmanifest : start.registry.has start.config.manifestFile = true)
    (hnew : start.registry.has change.path = false) :
    Collected start (changes ++ [change]) state := by
  have hother : ¬ change.path.Same start.config.manifestFile := by
    intro hs
    rw [Registry.has_congr hs, hmanifest] at hnew
    cases hnew
  obtain ⟨manifest, hstate, hlisted, hunlisted⟩ := h.build
  refine ⟨⟨manifest, hstate, ?_, ?_⟩, h.known, ?_⟩
  · rintro ⟨c, hc, hs⟩
    rcases List.mem_append.1 hc with hc | hc
    · exact hlisted ⟨c, hc, hs⟩
    · rw [List.mem_singleton.1 hc] at hs
      exact absurd hs hother
  · exact fun hnone => hunlisted fun c hc => hnone c (List.mem_append_left _ hc)
  · intro c hc chunk hget
    rcases List.mem_append.1 hc with hc | hc
    · exact h.asked c hc chunk hget
    · rw [List.mem_singleton.1 hc] at hget
      rw [Registry.has_of_get? hget] at hnew
      cases hnew

/-- A change that affects something adds its tasks. -/
theorem Collected.affects (h : Collected start changes (build, tasks, events))
    {affected : List Task} (ha : Affects build after change.path affected)
    (events' : List WatchEvent) :
    Collected start (changes ++ [change]) (after, affected.foldl addTask tasks, events') := by
  obtain ⟨manifest, hbuild, hlisted, hunlisted⟩ := h.build
  change build = _ at hbuild
  subst hbuild
  obtain ⟨manifest', rfl, hsame, hother⟩ := ha.after
  change change.path.Same start.config.manifestFile → _ at hsame
  change ¬ change.path.Same start.config.manifestFile → manifest' = manifest at hother
  refine ⟨⟨manifest', rfl, ?_, ?_⟩, ?_, ?_⟩
  -- the manifest was read again now, or is the one read before
  · rintro ⟨c, hc, hs⟩
    by_cases hs' : change.path.Same start.config.manifestFile
    · exact hsame hs'
    · rcases List.mem_append.1 hc with hc | hc
      · rw [hother hs']
        exact hlisted ⟨c, hc, hs⟩
      · rw [List.mem_singleton.1 hc] at hs
        exact absurd hs hs'
  · intro hnone
    rw [hother (hnone change (List.mem_append_right _ (List.mem_singleton_self _)))]
    exact hunlisted fun c hc => hnone c (List.mem_append_left _ hc)
  · intro task ht
    rcases mem_foldl_addTask ht with ht | ht
    · exact ha.known task ht
    · exact h.known task ht
  · intro c hc chunk hget
    rcases List.mem_append.1 hc with hc | hc
    · obtain ⟨source, hread, hsource⟩ := h.asked c hc chunk hget
      exact ⟨source, hread, hsource.imp_right fun hold => asksFor_foldl_addTask (Or.inr hold)⟩
    · rw [List.mem_singleton.1 hc] at hget ⊢
      obtain ⟨source, hread, hsource⟩ := ha.own chunk hget
      refine ⟨source, hread, hsource.imp_right fun hmem => ?_⟩
      exact asksFor_foldl_addTask (Or.inl ⟨_, hmem, Path.same_refl _⟩)

/-- Taking one change more. -/
theorem Collected.takeChange {state : Build × List Task × List WatchEvent}
    (h : Collected start changes state) (hp : start.Bare)
    (hmanifest : start.registry.has start.config.manifestFile = true)
    (htakes : start.registry.has change.path = true → start.Takes change)
    (hok : ∀ event ∈ (takeChange state change).2.2, event.isFailed = false) :
    Collected start (changes ++ [change]) (takeChange state change) := by
  obtain ⟨build, tasks, events⟩ := state
  obtain ⟨manifest, hbuild, -⟩ := h.build
  change build = _ at hbuild
  subst hbuild
  have hbare : Bare { start with config := { start.config with manifest := manifest } } :=
    ⟨hp.plugins, hp.pending⟩
  -- a change that is not taken is not of a known file
  have hnew (hn : ¬ start.Takes change) : start.registry.has change.path = false :=
    Bool.eq_false_iff.2 fun hhas => hn (htakes hhas)
  rcases takeChange_cases { start with config := { start.config with manifest := manifest } } tasks
    events change with ⟨heq, hpassed⟩ | ⟨-, hremoval, hhas⟩ | ⟨heq, -⟩
  · rw [heq]
    refine h.skip hmanifest ?_
    rcases hpassed with hignored | ⟨-, hhas⟩
    · refine hnew fun ht => ?_
      exact Bool.false_ne_true (ht.1.symm.trans hignored)
    · exact hhas
  · -- no known file is removed
    exact absurd ((htakes hhas).2.symm.trans hremoval) Bool.false_ne_true
  · rw [heq] at hok ⊢
    have htold := affectedBy_of_told (hok _ (List.mem_append_right _ (List.mem_singleton_self _)))
    exact h.affects (affectedBy_spec hbare htold) _

/-- What was told stays told. -/
theorem mem_events_foldl {state : Build × List Task × List WatchEvent} {event : WatchEvent}
    (h : event ∈ state.2.2) : event ∈ (changes.foldl takeChange state).2.2 := by
  induction changes generalizing state with
  | nil => exact h
  | cons change rest ih =>
    apply ih
    obtain ⟨build, tasks, events⟩ := state
    rcases takeChange_cases build tasks events change with ⟨heq, -⟩ | ⟨heq, -⟩ | ⟨heq, -⟩ <;>
      rw [heq]
    · exact h
    · exact List.mem_append_left _ h
    · exact List.mem_append_left _ h

/-- Taking all changes of a batch that has no failure and removes no known file. -/
theorem collected_taken (hp : build.Bare)
    (hmanifest : build.registry.has build.config.manifestFile = true)
    (htakes : ∀ change ∈ latest changes, build.registry.has change.path = true →
      build.Takes change)
    (hok : ∀ event ∈ (build.taken changes).2.2, event.isFailed = false) :
    Collected build (latest changes) (build.taken changes) := by
  -- the changes that are done and those to do make up the batch
  have hfold : ∀ (todo done : List Change) (state : Build × List Task × List WatchEvent),
      Collected build done state →
      (∀ change ∈ todo, build.registry.has change.path = true → build.Takes change) →
      (∀ event ∈ (todo.foldl takeChange state).2.2, event.isFailed = false) →
      Collected build (done ++ todo) (todo.foldl takeChange state) := by
    intro todo
    induction todo with
    | nil =>
      intro done state h _ _
      rw [List.append_nil]
      exact h
    | cons change rest ih =>
      intro done state h htakes hok
      rw [List.append_cons]
      refine ih _ _ ?_ (fun c hc => htakes c (List.mem_cons_of_mem _ hc)) hok
      refine h.takeChange hp hmanifest (htakes change List.mem_cons_self) fun event he => ?_
      have hlater : event ∈ (rest.foldl takeChange (takeChange state change)).2.2 :=
        mem_events_foldl he
      exact hok event hlater
  have hnothing : Collected build [] (build, [], []) := by
    refine ⟨⟨build.config.manifest, rfl, ?_, fun _ => rfl⟩, fun _ ht => (by cases ht),
      fun _ hc => (by cases hc)⟩
    rintro ⟨change, hc, -⟩
    cases hc
  exact hfold (latest changes) [] (build, [], []) hnothing htakes hok

end Build

end Minipack
