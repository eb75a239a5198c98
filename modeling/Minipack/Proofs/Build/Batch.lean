/-
Taking a batch of changes.

Before anything is compiled again the changes are taken one by one.  This only forgets chunks of
removed files and reads the manifest again (`Build.Pruned`); the disk is as it was
(`Build.pruned_taken`).  Then a batch without tasks is over, and any other compiles them
(`Build.handleChanges_of_nil`, `Build.handleChanges_of_ne_nil`).
-/
import Minipack.Proofs.Build.Stages

namespace Minipack

/-- Whether an event tells that a batch has been written. -/
def WatchEvent.isCompleted : WatchEvent → Bool
  | completed _ => true
  | _ => false

/-- Whether an event tells of a failure. -/
def WatchEvent.isFailed : WatchEvent → Bool
  | failed _ => true
  | _ => false

/-- Whether an event tells that files could not be written. -/
def WatchEvent.isUnwritten : WatchEvent → Bool
  | failed (.flush _ _) => true
  | _ => false

namespace Build

/-- What taking changes does to a build. -/
structure Pruned (old new : Build) : Prop where
  disk : new.disk = old.disk
  config : ∃ manifest, new.config = { old.config with manifest := manifest }
  pending : new.pending = old.pending
  within : new.registry.Within old.registry
  sorted : old.registry.Sorted → new.registry.Sorted

variable {build old new : Build} {file : Path}

theorem Pruned.refl (build : Build) : build.Pruned build :=
  ⟨rfl, ⟨build.config.manifest, rfl⟩, rfl, fun _ _ h => h, fun h => h⟩

theorem Pruned.trans {between : Build} (h : old.Pruned between) (k : between.Pruned new) :
    old.Pruned new where
  disk := k.disk.trans h.disk
  config := by
    obtain ⟨m, hm⟩ := h.config
    obtain ⟨m', hm'⟩ := k.config
    exact ⟨m', by rw [hm', hm]⟩
  pending := k.pending.trans h.pending
  within := fun file chunk hc => h.within file chunk (k.within file chunk hc)
  sorted := fun hs => k.sorted (h.sorted hs)

theorem Pruned.bare (h : old.Pruned new) (hp : old.Bare) : new.Bare where
  plugins := by
    obtain ⟨m, hm⟩ := h.config
    rw [hm]
    exact hp.plugins
  pending := h.pending.trans hp.pending

theorem Pruned.plain (h : old.Pruned new) (hp : old.Plain) : new.Plain where
  plugins := (h.bare hp.bare).plugins
  bundle := by
    obtain ⟨m, hm⟩ := h.config
    rw [hm]
    exact hp.bundle
  pending := (h.bare hp.bare).pending

theorem Pruned.toSettings (h : old.Pruned new) :
    new.config.toSettings = old.config.toSettings := by
  obtain ⟨m, hm⟩ := h.config
  rw [hm]

theorem Pruned.mem (h : old.Pruned new) (hs : old.registry.Sorted) {chunk : Chunk}
    (hc : chunk ∈ new.registry.chunks) : chunk ∈ old.registry.chunks :=
  Registry.mem_of_get? (h.within _ _ ((h.sorted hs).get?_of_mem hc))

/-! ### One change -/

theorem pruned_of_manifest (build : Build) (manifest : Manifest) :
    build.Pruned { build with config := { build.config with manifest := manifest } } :=
  ⟨rfl, ⟨manifest, rfl⟩, rfl, fun _ _ h => h, fun h => h⟩

theorem pruned_delete (hs : build.registry.Sorted) (file : Path) :
    build.Pruned { build with registry := build.registry.delete file } where
  disk := rfl
  config := ⟨build.config.manifest, rfl⟩
  pending := rfl
  within := by
    intro p chunk hc
    change (build.registry.delete file).get? p = some chunk at hc
    rw [hs.get?_delete] at hc
    split at hc
    · cases hc
    · exact hc
  sorted := fun hs => hs.delete file

/-- The build when the manifest has been read again, if it is the file, and what went wrong. -/
def reloaded (build : Build) (file : Path) : Build × Option Error :=
  if file == build.config.manifestFile then
    let (config, failure) := build.config.reloadManifest build.disk
    ({ build with config := config }, failure)
  else (build, none)

/-- Another file than the manifest is not read. -/
theorem reloaded_of_other (h : ¬ file.Same build.config.manifestFile) :
    build.reloaded file = (build, none) :=
  if_neg fun hsame => h (Path.beq_iff_same.1 hsame)

theorem reloaded_of_ok (h : file.Same build.config.manifestFile) {manifest : Manifest}
    (hload : Config.loadManifest build.disk build.config.manifestFile = .ok manifest) :
    build.reloaded file =
      (({ build with config := { build.config with manifest := manifest } } : Build), none) := by
  unfold reloaded Config.reloadManifest
  rw [if_pos (Path.beq_iff_same.2 h), hload]

/-- A manifest that cannot be read leaves the build as it was. -/
theorem reloaded_of_error (h : file.Same build.config.manifestFile) {error : Error}
    (hload : Config.loadManifest build.disk build.config.manifestFile = .error error) :
    build.reloaded file = (build, some error) := by
  unfold reloaded Config.reloadManifest
  rw [if_pos (Path.beq_iff_same.2 h), hload]

/-- Nothing goes wrong unless the file is the manifest and cannot be read. -/
theorem snd_reloaded_eq_none_iff :
    (build.reloaded file).2 = none ↔ (file.Same build.config.manifestFile →
      ∃ manifest, Config.loadManifest build.disk build.config.manifestFile = .ok manifest) := by
  by_cases hsame : file.Same build.config.manifestFile
  · cases hload : Config.loadManifest build.disk build.config.manifestFile with
    | ok manifest => simp [reloaded_of_ok hsame hload]
    | error error => simp [reloaded_of_error hsame hload, hsame]
  · simp [reloaded_of_other hsame, hsame]

/-- The manifest is the one that is read, if it is the file and can be read, and else the one that
was there. -/
theorem exists_reloaded (build : Build) (file : Path) : ∃ manifest,
    (build.reloaded file).1 = { build with config := { build.config with manifest := manifest } } ∧
    (¬ file.Same build.config.manifestFile → manifest = build.config.manifest) ∧
    ((build.reloaded file).2 = none → file.Same build.config.manifestFile →
      Config.loadManifest build.disk build.config.manifestFile = .ok manifest) := by
  by_cases hsame : file.Same build.config.manifestFile
  · cases hload : Config.loadManifest build.disk build.config.manifestFile with
    | ok manifest =>
      rw [reloaded_of_ok hsame hload]
      exact ⟨manifest, rfl, fun hother => absurd hsame hother, fun _ _ => rfl⟩
    | error error =>
      rw [reloaded_of_error hsame hload]
      exact ⟨build.config.manifest, rfl, fun _ => rfl, nofun⟩
  · rw [reloaded_of_other hsame]
    exact ⟨build.config.manifest, rfl, fun _ => rfl, fun _ h => absurd h hsame⟩

/-- The tasks for a changed file once the manifest has been read: none when the content is that of
the file's chunk, else that chunk and those that refer to the file. -/
def affectedAt (build : Build) (file : Path) : Except Error (List Task) :=
  let dependents := (build.registry.dependents file).map Task.ofChunk
  match build.registry.get? file with
  | none => .ok dependents
  | some chunk =>
    match build.disk.read file with
    | .error fault => .error (.system (.disk fault))
    | .ok source =>
      if digest source = chunk.hash then .ok [] else .ok (.ofChunk chunk :: dependents)

/-- Looking for what a change affects reads the manifest again, if it is the file, and then looks
for the tasks of the file. -/
theorem affectedBy_eq (hp : build.pending = []) (file : Path) :
    build.affectedBy file = ((build.reloaded file).1,
      match (build.reloaded file).2 with
      | some error => .error error
      | none => build.affectedAt file) := by
  obtain ⟨manifest, hbuild, -⟩ := build.exists_reloaded file
  have hwait : wait { build with config := { build.config with manifest := manifest } } =
      { build with config := { build.config with manifest := manifest } } := wait_of_pending hp
  have hreloaded : build.reloaded file =
      ({ build with config := { build.config with manifest := manifest } },
        (build.reloaded file).2) := Prod.ext hbuild rfl
  generalize (build.reloaded file).2 = failure at hreloaded
  rw [hreloaded]
  unfold affectedBy
  unfold reloaded at hreloaded
  rw [hreloaded]
  cases failure with
  | some error => rfl
  | none =>
    unfold affectedAt
    dsimp only
    cases build.registry.get? file with
    | none => rfl
    | some chunk =>
      dsimp only
      rw [hwait]
      split
      · next fault hread =>
        change build.disk.read file = .error fault at hread
        rw [hread]
      · next source hread =>
        change build.disk.read file = .ok source at hread
        rw [hread]
        dsimp only
        split <;> rfl

/-- A file affects something when it has no chunk, or when it can be read and its content is or is
not that of its chunk. -/
theorem affectedAt_eq_ok_iff {affected : List Task} :
    build.affectedAt file = .ok affected ↔
      (build.registry.get? file = none ∧
        affected = (build.registry.dependents file).map Task.ofChunk) ∨
      ∃ chunk source, build.registry.get? file = some chunk ∧ build.disk.read file = .ok source ∧
        affected = if digest source = chunk.hash then []
          else .ofChunk chunk :: (build.registry.dependents file).map Task.ofChunk := by
  unfold affectedAt
  cases hget : build.registry.get? file with
  | none => simp [eq_comm]
  | some chunk =>
    cases hread : build.disk.read file with
    | error fault => simp
    | ok source =>
      dsimp only
      rw [← apply_ite Except.ok, Except.ok.injEq]
      simp [eq_comm]

/-- Looking for what a change affects reads the manifest again at most. -/
theorem exists_affectedBy (hp : build.pending = []) (file : Path) : ∃ manifest,
    (build.affectedBy file).1 =
      { build with config := { build.config with manifest := manifest } } := by
  obtain ⟨manifest, hbuild, -⟩ := build.exists_reloaded file
  rw [affectedBy_eq hp]
  exact ⟨manifest, hbuild⟩

theorem pruned_affectedBy (hp : build.Bare) (file : Path) :
    build.Pruned (build.affectedBy file).1 := by
  obtain ⟨manifest, heq⟩ := exists_affectedBy hp.pending file
  rw [heq]
  exact pruned_of_manifest build manifest

/-! ### One change -/

/-- The tasks that a change of a file asks for. -/
def asked (build : Build) (file : Path) : List Task :=
  (build.affectedBy file).2.toOption.getD []

/-- What is told of a file that has changed: what it affects, if anything, or why this cannot be
said. -/
def told (build : Build) (file : Path) : WatchEvent :=
  match (build.affectedBy file).2 with
  | .error error => .failed error
  | .ok [] => .notRequired file
  | .ok affected => .changed file (affected.map Task.file)

theorem isCompleted_told (build : Build) (file : Path) : (build.told file).isCompleted = false := by
  unfold told
  split <;> rfl

theorem affectedBy_of_told (h : (build.told file).isFailed = false) :
    build.affectedBy file = ((build.affectedBy file).1, .ok (build.asked file)) := by
  unfold asked
  cases haffected : build.affectedBy file with
  | mk after result =>
    cases result with
    | ok affected => rfl
    | error error =>
      rw [told, haffected] at h
      cases h

variable {change : Change}

theorem takeChange_of_ignored (h : build.config.isIgnored change.path = true)
    (tasks : List Task) (events : List WatchEvent) :
    takeChange (build, tasks, events) change = (build, tasks, events) :=
  if_pos h

/-- A file that is gone is forgotten, if it was known. -/
theorem takeChange_of_removal (hkept : build.config.isIgnored change.path = false)
    (hremoval : build.isRemoval change = true) (tasks : List Task) (events : List WatchEvent) :
    takeChange (build, tasks, events) change =
      if build.registry.has change.path then
        ({ build with registry := build.registry.delete change.path }, tasks,
          events ++ [.unlinked change.path])
      else (build, tasks, events) := by
  unfold takeChange
  dsimp only
  rw [hkept, hremoval, if_neg Bool.false_ne_true, if_pos rfl]

/-- A file that is there asks for what it affects. -/
theorem takeChange_of_there (hkept : build.config.isIgnored change.path = false)
    (hremoval : build.isRemoval change = false) (tasks : List Task) (events : List WatchEvent) :
    takeChange (build, tasks, events) change =
      ((build.affectedBy change.path).1, (build.asked change.path).foldl addTask tasks,
        events ++ [build.told change.path]) := by
  unfold takeChange asked told
  dsimp only
  rw [hkept, hremoval, if_neg Bool.false_ne_true, if_neg Bool.false_ne_true]
  rcases build.affectedBy change.path with ⟨after, error | affected⟩
  · rfl
  · cases affected <;> rfl

/-- A change is passed over, makes a known file be forgotten, or asks for what its file affects. -/
theorem takeChange_cases (build : Build) (tasks : List Task) (events : List WatchEvent)
    (change : Change) :
    (takeChange (build, tasks, events) change = (build, tasks, events) ∧
      (build.config.isIgnored change.path = true ∨
        build.isRemoval change = true ∧ build.registry.has change.path = false)) ∨
    (takeChange (build, tasks, events) change =
        ({ build with registry := build.registry.delete change.path }, tasks,
          events ++ [.unlinked change.path]) ∧
      build.isRemoval change = true ∧ build.registry.has change.path = true) ∨
    takeChange (build, tasks, events) change =
        ((build.affectedBy change.path).1, (build.asked change.path).foldl addTask tasks,
          events ++ [build.told change.path]) ∧
      build.config.isIgnored change.path = false ∧ build.isRemoval change = false := by
  cases hignored : build.config.isIgnored change.path with
  | true => exact Or.inl ⟨takeChange_of_ignored hignored tasks events, Or.inl rfl⟩
  | false =>
    cases hremoval : build.isRemoval change with
    | false =>
      exact Or.inr (Or.inr ⟨takeChange_of_there hignored hremoval tasks events, rfl, rfl⟩)
    | true =>
      have htaken := takeChange_of_removal hignored hremoval tasks events
      cases hhas : build.registry.has change.path with
      | false =>
        rw [hhas, if_neg Bool.false_ne_true] at htaken
        exact Or.inl ⟨htaken, Or.inr ⟨rfl, rfl⟩⟩
      | true =>
        rw [hhas, if_pos rfl] at htaken
        exact Or.inr (Or.inl ⟨htaken, rfl, rfl⟩)

theorem pruned_takeChange (hp : build.Bare) (hs : build.registry.Sorted) (tasks : List Task)
    (events : List WatchEvent) (change : Change) :
    build.Pruned (takeChange (build, tasks, events) change).1 := by
  rcases takeChange_cases build tasks events change with ⟨heq, -⟩ | ⟨heq, -⟩ | ⟨heq, -⟩ <;> rw [heq]
  · exact .refl build
  · exact pruned_delete hs change.path
  · exact pruned_affectedBy hp change.path

/-! ### All changes -/

/-- A build with its changes taken, the tasks they ask for and what is told. -/
def taken (build : Build) (changes : List Change) : Build × List Task × List WatchEvent :=
  (latest changes).foldl takeChange (build, [], [])

theorem pruned_foldl (hp : build.Bare) (hs : build.registry.Sorted) (tasks : List Task)
    (events : List WatchEvent) (changes : List Change) :
    build.Pruned (changes.foldl takeChange (build, tasks, events)).1 := by
  induction changes generalizing build tasks events with
  | nil => exact .refl build
  | cons change rest ih =>
    have hfirst := pruned_takeChange hp hs tasks events change
    exact hfirst.trans (ih (hfirst.bare hp) (hfirst.sorted hs) _ _)

/-- Taking changes forgets chunks and reads the manifest again, and does nothing else. -/
theorem pruned_taken (hp : build.Bare) (hs : build.registry.Sorted) (changes : List Change) :
    build.Pruned (build.taken changes).1 :=
  pruned_foldl hp hs [] [] (latest changes)

/-- Taking changes completes nothing. -/
theorem isCompleted_of_mem_taken {changes : List Change} {event : WatchEvent}
    (h : event ∈ (build.taken changes).2.2) : event.isCompleted = false := by
  have hfold : ∀ (changes : List Change) (state : Build × List Task × List WatchEvent),
      (∀ event ∈ state.2.2, event.isCompleted = false) →
        ∀ event ∈ (changes.foldl takeChange state).2.2, event.isCompleted = false := by
    intro changes
    induction changes with
    | nil => exact fun state h => h
    | cons change rest ih =>
      rintro ⟨build, tasks, events⟩ h
      have hmore {event : WatchEvent} (he : event.isCompleted = false) :
          ∀ e ∈ events ++ [event], e.isCompleted = false := by
        intro e hmem
        rcases List.mem_append.1 hmem with hm | hm
        · exact h e hm
        · rw [List.mem_singleton.1 hm]
          exact he
      refine ih _ ?_
      rcases takeChange_cases build tasks events change with ⟨heq, -⟩ | ⟨heq, -⟩ | ⟨heq, -⟩ <;>
        rw [heq]
      · exact h
      · exact hmore rfl
      · exact hmore (build.isCompleted_told change.path)
  exact hfold _ _ (fun _ hm => by cases hm) event h

/-- Without tasks the batch is over. -/
theorem handleChanges_of_nil {changes : List Change} (h : (build.taken changes).2.1 = []) :
    build.handleChanges changes = ((build.taken changes).1, (build.taken changes).2.2) := by
  have hempty : (build.taken changes).2.1.isEmpty = true := by rw [h]; rfl
  unfold handleChanges
  exact if_pos hempty

/-- The last event of a batch with tasks. -/
def lastEvent : Except Error Stats → WatchEvent
  | .ok stats => .completed stats
  | .error error => .failed error

/-- With tasks the batch compiles them again. -/
theorem handleChanges_of_ne_nil {changes : List Change} (h : (build.taken changes).2.1 ≠ []) :
    build.handleChanges changes =
      (((build.taken changes).1.recompile (build.taken changes).2.1).1,
        (build.taken changes).2.2 ++
          [lastEvent ((build.taken changes).1.recompile (build.taken changes).2.1).2]) := by
  have hempty : ¬ (build.taken changes).2.1.isEmpty = true := fun he => h (List.isEmpty_iff.1 he)
  unfold handleChanges
  refine (if_neg hempty).trans ?_
  split <;> next heq => rw [taken, heq]; rfl

/-- What is told of the changes is told of the batch. -/
theorem mem_handleChanges {changes : List Change} {event : WatchEvent}
    (h : event ∈ (build.taken changes).2.2) : event ∈ (build.handleChanges changes).2 := by
  by_cases htasks : (build.taken changes).2.1 = []
  · rw [handleChanges_of_nil htasks]
    exact h
  · rw [handleChanges_of_ne_nil htasks]
    exact List.mem_append_left _ h

/-- A batch that has completed has compiled its tasks and written them. -/
theorem exists_of_isCompleted {changes : List Change}
    (h : (build.handleChanges changes).2.any WatchEvent.isCompleted = true) :
    (build.taken changes).2.1 ≠ [] ∧
      ∃ stats, ((build.taken changes).1.recompile (build.taken changes).2.1).2 = .ok stats := by
  obtain ⟨event, hevent, hcompleted⟩ := List.any_eq_true.1 h
  have hnone : event ∉ (build.taken changes).2.2 := by
    intro hm
    rw [isCompleted_of_mem_taken hm] at hcompleted
    cases hcompleted
  by_cases htasks : (build.taken changes).2.1 = []
  · rw [handleChanges_of_nil htasks] at hevent
    exact absurd hevent hnone
  · refine ⟨htasks, ?_⟩
    rw [handleChanges_of_ne_nil htasks] at hevent
    rcases List.mem_append.1 hevent with hm | hm
    · exact absurd hm hnone
    · rw [List.mem_singleton.1 hm] at hcompleted
      cases hresult : ((build.taken changes).1.recompile (build.taken changes).2.1).2 with
      | ok stats => exact ⟨stats, rfl⟩
      | error error =>
        rw [hresult] at hcompleted
        cases hcompleted

end Build

end Minipack
