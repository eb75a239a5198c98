/-
What a batch of edits compiles again, and what it leaves alone.

A chunk is due when the batch holds its own file with another content, or a file to which it refers
that has another content or no chunk at all (`Build.Due`).  The tasks of a batch of edits are the
due chunks (`Build.mem_tasks_of_edits`).  The pass calls each of them once, and besides them only
files without a chunk that the calls lead to (`Build.recompiled_of_edits`).

The main result is `Build.rebuilds_of_run`: after a run, a batch of edits compiles just that, and
when it completes it has written the destinations of what was compiled and of what has gained a
destination, while all else on the disk and in the registry is as it was (`Build.Confined`).
-/
import Minipack.Proofs.Build.Restoring
import Minipack.Proofs.Compile.Destinations
import Minipack.Proofs.Disk.Footprint

namespace Minipack

open Compile (Call Gained Pass Reached)

/-- A chunk that gains no destination with those that it is given is as it was. -/
theorem Compile.addDestinations_of_not_gained {chunk : Chunk} {ps : List Path}
    (h : ¬ Gained chunk (chunk.addDestinations ps)) : chunk.addDestinations ps = chunk := by
  have hknown : ∀ p ∈ ps, chunk.destinations.contains p = true := by
    intro p hp
    by_contra hnew
    obtain ⟨q, hq, hs⟩ := List.contains_iff_exists_mem_beq.1 (Chunk.contains_addDestinations hp)
    refine h ⟨q, hq, Bool.eq_false_iff.2 fun hc => hnew ?_⟩
    obtain ⟨r, hr, hqr⟩ := List.contains_iff_exists_mem_beq.1 hc
    exact List.contains_iff_exists_mem_beq.2 ⟨r, hr, Path.beq_iff_same.2
      ((Path.beq_iff_same.1 hs).trans (Path.beq_iff_same.1 hqr))⟩
  clear h
  induction ps with
  | nil => rfl
  | cons p rest ih =>
    rw [Chunk.addDestinations_cons, Chunk.addDestination_of_contains (hknown p List.mem_cons_self)]
    exact ih fun q hq => hknown q (List.mem_cons_of_mem _ hq)

namespace Build

variable {build after start ran : Build} {changes : List Change} {stats : Stats} {file : Path}
  {chunk : Chunk}

/-! ### What is due -/

/-- A change of a file that stays: it is not ignored, not told to be removed, and a file is there.
-/
structure IsEdit (build : Build) (change : Change) : Prop where
  watched : build.config.isIgnored change.path = false
  stays : change.kind ≠ .removed
  there : build.disk.isFile change.path = true

/-- The file has another content than that of its chunk. -/
def Differs (build : Build) (file : Path) : Prop :=
  ∃ known, build.registry.get? file = some known ∧
    ∃ source, build.disk.read file = .ok source ∧ digest source ≠ known.hash

/-- An edit of a file concerns a chunk: the chunk is of the file, which has another content, or one
of its references, embedded or not, leads to the file, which has another content or no chunk. -/
def Concerns (build : Build) (file : Path) (chunk : Chunk) : Prop :=
  (file.Same chunk.file ∧ build.Differs file) ∨
    ∃ d ∈ chunk.dependencies, file.Same d.target ∧
      (build.registry.has file = false ∨ build.Differs file)

/-- A chunk is due when an edit of the batch concerns it. -/
def Due (build : Build) (changes : List Change) (chunk : Chunk) : Prop :=
  ∃ change ∈ changes, build.Concerns change.path chunk

theorem differs_of_same {p q : Path} (hs : p.Same q) (hq : build.disk.isFile q = true)
    (h : build.Differs p) : build.Differs q := by
  obtain ⟨known, hget, source, hread, hne⟩ := h
  obtain ⟨other, hother⟩ := Disk.isFile_iff_read.1 hq
  obtain rfl : source = other := Disk.read_eq_of_same hs hread hother
  exact ⟨known, Registry.get?_congr hs ▸ hget, source, hother, hne⟩

theorem concerns_of_same {p q : Path} (hs : p.Same q) (hq : build.disk.isFile q = true)
    (h : build.Concerns p chunk) : build.Concerns q chunk := by
  rcases h with ⟨hown, hd⟩ | ⟨d, hd, htarget, hchanged⟩
  · exact Or.inl ⟨hs.symm.trans hown, differs_of_same hs hq hd⟩
  · refine Or.inr ⟨d, hd, hs.symm.trans htarget, hchanged.imp (fun hnew => ?_)
      (differs_of_same hs hq)⟩
    rwa [← Registry.has_congr hs]

/-- An edit can be taken. -/
theorem IsEdit.takes {change : Change} (h : build.IsEdit change) : build.Takes change := by
  obtain ⟨content, hread⟩ := Disk.isFile_iff_read.1 h.there
  refine ⟨h.watched, ?_⟩
  have hkind : (change.kind == .removed) = false := by
    cases hk : change.kind with
    | removed => exact absurd hk h.stays
    | created => rfl
    | modified => rfl
  unfold isRemoval
  rw [hkind, Disk.has_of_read hread]
  rfl

/-- What a batch of edits comes to are edits. -/
theorem isEdit_latest (h : ∀ change ∈ changes, build.IsEdit change) :
    ∀ change ∈ latest changes, build.IsEdit change := by
  intro change hc
  obtain ⟨first, hfirst, last, hlast, hpath, -, hkind⟩ := (condenses_latest changes).mem change hc
  exact ⟨hpath ▸ (h first hfirst).watched, hkind ▸ (h last hlast).stays,
    hpath ▸ (h first hfirst).there⟩

/-- A chunk is due for a batch of edits when it is due for what the batch comes to. -/
theorem due_latest (h : ∀ change ∈ changes, build.IsEdit change) :
    build.Due (latest changes) chunk ↔ build.Due changes chunk := by
  have hcondenses := condenses_latest changes
  constructor
  · rintro ⟨change, hc, hconcerns⟩
    obtain ⟨first, hfirst, -, -, hpath, -⟩ := hcondenses.mem change hc
    exact ⟨first, hfirst, hpath ▸ hconcerns⟩
  · rintro ⟨change, hc, hconcerns⟩
    obtain ⟨found, hfound, hs⟩ := hcondenses.exists_same hc
    exact ⟨found, hfound, concerns_of_same hs.symm (isEdit_latest h found hfound).there hconcerns⟩

/-- An edit touches the chunks that it concerns. -/
theorem touches_iff {change : Change} (h : build.IsEdit change)
    (hloads : change.path.Same build.config.manifestFile →
      ∃ manifest, Config.loadManifest build.disk build.config.manifestFile = .ok manifest)
    (hs : build.registry.Sorted) (hc : chunk ∈ build.registry.chunks) :
    build.Touches change chunk ↔ build.Concerns change.path chunk := by
  -- what stirs is a file that is not known or is known to differ
  have hdiffers : (∀ known, build.registry.get? change.path = some known →
      ∃ source, build.disk.read change.path = .ok source ∧ digest source ≠ known.hash) ↔
      build.registry.has change.path = false ∨ build.Differs change.path := by
    constructor
    · intro hstirs
      by_cases hhas : build.registry.has change.path = true
      · obtain ⟨known, hget⟩ := Registry.has_iff.1 hhas
        exact Or.inr ⟨known, hget, hstirs known hget⟩
      · exact Or.inl (Bool.eq_false_iff.2 hhas)
    · rintro (hnew | ⟨known, hget, hsource⟩) other hother
      · rw [Registry.has_of_get? hother] at hnew
        cases hnew
      · obtain rfl : known = other := Option.some.inj (hget.symm.trans hother)
        exact hsource
  constructor
  · rintro ⟨-, hstirs⟩
    rcases hstirs.refers with hown | hrefers
    · have hknown : build.registry.get? change.path = some chunk :=
        (Registry.get?_congr hown).trans (hs.get?_of_mem hc)
      exact Or.inl ⟨hown, chunk, hknown, hstirs.differs chunk hknown⟩
    · obtain ⟨d, hd, htarget⟩ := List.any_eq_true.1 hrefers
      exact Or.inr ⟨d, hd, (Path.beq_iff_same.1 htarget).symm, hdiffers.1 hstirs.differs⟩
  · rintro (⟨hown, hd⟩ | ⟨d, hd, htarget, hchanged⟩)
    · exact ⟨h.takes, hloads, hdiffers.2 (Or.inr hd), Or.inl hown⟩
    · refine ⟨h.takes, hloads, hdiffers.2 hchanged, Or.inr ?_⟩
      exact List.any_eq_true.2 ⟨d, hd, Path.beq_iff_same.2 htarget.symm⟩

/-- The edits of a batch can be taken: when the manifest is among them, it can be read. -/
def Readable (build : Build) (changes : List Change) : Prop :=
  ∀ change ∈ changes, change.path.Same build.config.manifestFile →
    ∃ manifest, Config.loadManifest build.disk build.config.manifestFile = .ok manifest

/-- A batch of edits removes nothing. -/
theorem removes_of_edits (h : ∀ change ∈ changes, build.IsEdit change) (file : Path) :
    build.removes changes file = false := by
  rw [Bool.eq_false_iff]
  intro hremoves
  obtain ⟨change, hc, -, hgone⟩ := drops_eq_true_iff.1 hremoves
  rw [(isEdit_latest h change hc).takes.isGone] at hgone
  cases hgone

/-- The tasks of a batch of edits are the chunks that are due. -/
theorem mem_tasks_of_edits (hp : build.pending = []) (hs : build.registry.Sorted)
    (h : ∀ change ∈ changes, build.IsEdit change) (hloads : build.Readable changes) (task : Task) :
    task ∈ (build.taken changes).2.1 ↔
      ∃ chunk ∈ build.registry.chunks, task = .ofChunk chunk ∧ build.Due changes chunk := by
  rw [mem_tasks_taken hp hs changes task]
  -- each change that touches a chunk makes it due
  have htouches (chunk : Chunk) (hc : chunk ∈ build.registry.chunks) :
      (∃ change ∈ latest changes, build.Touches change chunk ∧
        (build.removes changes chunk.file = true → compare change.path chunk.file = .lt)) ↔
        build.Due changes chunk := by
    rw [← due_latest h]
    refine exists_congr fun change => and_congr_right fun hchange => ?_
    have hedit := isEdit_latest h change hchange
    have hmanifest : change.path.Same build.config.manifestFile →
        ∃ manifest, Config.loadManifest build.disk build.config.manifestFile = .ok manifest := by
      intro hsame
      obtain ⟨first, hfirst, -, -, hpath, -⟩ := (condenses_latest changes).mem change hchange
      exact hloads first hfirst (hpath ▸ hsame)
    rw [touches_iff hedit hmanifest hs hc, removes_of_edits h]
    exact and_iff_left fun hn => by cases hn
  constructor
  · rintro ⟨chunk, hc, htask, hrest⟩
    exact ⟨chunk, hc, htask, (htouches chunk hc).1 hrest⟩
  · rintro ⟨chunk, hc, htask, hdue⟩
    exact ⟨chunk, hc, htask, (htouches chunk hc).2 hdue⟩

/-! ### What is compiled -/

/-- What the pass of a batch calls: each chunk that is due once, in its role, and besides these only
files without a chunk that they lead to. -/
structure Recompiled (build : Build) (changes : List Change) (calls : List Call) : Prop where
  once : calls.Pairwise fun a b => ¬ a.file.Same b.file
  due : ∀ chunk ∈ build.registry.chunks,
    (∃ call ∈ calls, call.file.Same chunk.file) ↔ build.Due changes chunk
  role : ∀ chunk ∈ build.registry.chunks, ∀ call ∈ calls, call.file.Same chunk.file →
    call.task = .ofChunk chunk
  reached : ∀ call ∈ calls, ∃ file,
    Reached build.registry (build.taken changes).2.1 calls file ∧ file.Same call.file

theorem recompiled_of_edits (hp : build.pending = []) (hs : build.registry.Sorted)
    (h : ∀ change ∈ changes, build.IsEdit change) (hloads : build.Readable changes)
    {config : Config} {disk : Disk} {calls : List Call} {last : Pass}
    (hruns : Pass.Runs config disk { registry := build.registry } (build.taken changes).2.1 calls
      last) : build.Recompiled changes calls := by
  have htasks := mem_tasks_of_edits hp hs h hloads
  -- the call of a known file is one of the tasks
  have htask {chunk : Chunk} (hc : chunk ∈ build.registry.chunks) {call : Call}
      (hcall : call ∈ calls) (hsame : call.file.Same chunk.file) :
      call.task = .ofChunk chunk ∧ build.Due changes chunk := by
    have hget : build.registry.get? call.file = some chunk :=
      (Registry.get?_congr hsame).trans (hs.get?_of_mem hc)
    have hqueued := hruns.mem_queue_of_has hcall (Registry.has_of_get? hget)
    obtain ⟨other, ho, heq, hdue⟩ := (htasks call.task).1 hqueued
    have hfile : call.file = other.file := congrArg Task.file heq
    rw [hfile, hs.get?_of_mem ho] at hget
    obtain rfl := Option.some.inj hget
    exact ⟨heq, hdue⟩
  refine ⟨hruns.distinct, fun chunk hc => ⟨?_, fun hdue => ?_⟩, ?_, fun call hcall => ?_⟩
  · rintro ⟨call, hcall, hsame⟩
    exact (htask hc hcall hsame).2
  · have hqueued := (htasks (.ofChunk chunk)).2 ⟨chunk, hc, rfl, hdue⟩
    exact (hruns.called_of_mem_queue hqueued).resolve_left fun htried => by cases htried
  · exact fun chunk hc call hcall hsame => (htask hc hcall hsame).1
  · exact (Compile.called_iff_reached hruns call.file).1 ⟨call, hcall, Path.same_refl _⟩

/-! ### What is written -/

/-- A chunk that a pass hands on: its file was compiled, or it was known and has gained a
destination. -/
def HandedOn (registry : Registry) (calls : List Call) (chunk : Chunk) : Prop :=
  (∃ call ∈ calls, call.file.Same chunk.file) ∨
    ∃ old, registry.get? chunk.file = some old ∧ Gained old chunk

/-- What a batch that completes has done with calls: it has written the chunks that were compiled or
have gained a destination, and nothing else. -/
structure Confined (build after : Build) (calls : List Call) (stats : Stats) : Prop where
  /-- What is told are the destinations of the chunks that are handed on. -/
  told : ∀ p, (∃ w ∈ stats, w.destination = p) ↔
    ∃ chunk ∈ after.registry.chunks, HandedOn build.registry calls chunk ∧ p ∈ chunk.destinations
  /-- At each of them stands what is written for such a chunk. -/
  written : ∀ w ∈ stats, ∃ chunk ∈ after.registry.chunks, HandedOn build.registry calls chunk ∧
    (∃ p ∈ chunk.destinations, after.disk.place? p = after.disk.place? w.destination) ∧
    after.disk.read w.destination = .ok (Flush.render build.config.toSettings chunk)
  /-- Where none of them leads, all is as it was, but for new folders. -/
  disk : ∀ place, (∀ w ∈ stats, after.disk.place? w.destination ≠ some place) →
    after.disk.entryAt? place = build.disk.entryAt? place ∨
      build.disk.entryAt? place = none ∧ after.disk.entryAt? place = some .folder
  /-- A file that was neither compiled nor has gained a destination has the chunk that it had. -/
  registry : ∀ file, (∀ call ∈ calls, ¬ call.file.Same file) →
    (∀ old new, build.registry.get? file = some old → after.registry.get? file = some new →
      ¬ Gained old new) →
    after.registry.get? file = build.registry.get? file

/-- A file that is not called and has no chunk that gains a destination finds what it found. -/
theorem get?_of_not_handedOn {config : Config} {disk : Disk} {registry : Registry}
    {tasks : List Task}
    {calls : List Call} {last : Pass} (hruns : Pass.Runs config disk { registry } tasks calls last)
    (hcalls : ∀ call ∈ calls, ¬ call.file.Same file)
    (hgained : ∀ old new, registry.get? file = some old → last.merged.1.get? file = some new →
      ¬ Gained old new) : last.merged.1.get? file = registry.get? file := by
  have hmerged := Compile.get?_merged last file
  rw [hruns.get?_of_not_called hcalls] at hmerged
  change _ = (registry.get? file).map _ at hmerged
  cases hget : registry.get? file with
  | none => rw [hmerged, hget]; rfl
  | some old =>
    rw [hget] at hmerged
    rw [hmerged]
    exact congrArg some (Compile.addDestinations_of_not_gained (hgained old _ hget hmerged))

/-- A pass of a plain build whose chunks are written is confined. -/
theorem confined_written (hs : build.registry.Sorted) {tasks : List Task} {calls : List Call}
    (hruns : Pass.Runs build.config build.disk { registry := build.registry } tasks calls
      (build.pass tasks))
    (hn : (build.pass tasks).firstError = none)
    (hwritten : build.written (build.pass tasks) (build.pass tasks).merged.2.chunks =
      (after, .ok stats)) : Confined build after calls stats := by
  obtain ⟨rfl, hresult⟩ := Prod.mk.inj hwritten
  have hflush : flush build.config.toSettings build.disk (build.pass tasks).merged.2.chunks =
      ((flush build.config.toSettings build.disk (build.pass tasks).merged.2.chunks).1, .ok stats,
        (flush build.config.toSettings build.disk (build.pass tasks).merged.2.chunks).2.2) :=
    Prod.ext rfl (Prod.ext hresult rfl)
  have hsorted := (Compile.sorted_run hs build.config build.disk tasks).2.1
  -- the chunks that are written are those that are handed on
  have hchunks (chunk : Chunk) : chunk ∈ (build.pass tasks).merged.2.chunks ↔
      chunk ∈ (build.pass tasks).merged.1.chunks ∧ HandedOn build.registry calls chunk := by
    rw [Compile.mem_result_iff hs hruns hn chunk]
    refine and_congr_left fun _ => ⟨Registry.mem_of_get?, hsorted.get?_of_mem⟩
  have htold := mem_stats_of_flush hflush
  have houtput {output : Flush.Output} (ho : output ∈ Flush.outputs build.config.toSettings
      (build.pass tasks).merged.2.chunks) : ∃ chunk ∈ (build.pass tasks).merged.1.chunks,
        HandedOn build.registry calls chunk ∧ output.destination ∈ chunk.destinations ∧
        output.content = Flush.render build.config.toSettings chunk := by
    obtain ⟨chunk, hc, p, hp, rfl⟩ := Flush.mem_outputs.1 ho
    exact ⟨chunk, ((hchunks chunk).1 hc).1, ((hchunks chunk).1 hc).2, hp, rfl⟩
  refine ⟨fun p => ?_, fun w hw => ?_, fun place hfree => ?_, fun file hcalls hgained => ?_⟩
  · rw [htold p]
    constructor
    · rintro ⟨chunk, hc, hp⟩
      exact ⟨chunk, ((hchunks chunk).1 hc).1, ((hchunks chunk).1 hc).2, hp⟩
    · rintro ⟨chunk, hc, hhanded, hp⟩
      exact ⟨chunk, (hchunks chunk).2 ⟨hc, hhanded⟩, hp⟩
  · obtain ⟨chunk, hc, hp⟩ := (htold w.destination).1 ⟨w, hw, rfl⟩
    obtain ⟨place, hplace, output, ho, hfind, hentry⟩ := (flush_spec hflush).2.1
      ⟨w.destination, Flush.render build.config.toSettings chunk⟩
      (Flush.mem_outputs.2 ⟨chunk, hc, w.destination, hp, rfl⟩)
    obtain ⟨other, hother, hhanded, hq, hcontent⟩ := houtput ho
    refine ⟨other, hother, hhanded, ⟨output.destination, hq, ?_⟩, ?_⟩
    · exact (Disk.place?_eq_some_iff.2 hfind).trans (Disk.place?_eq_some_iff.2 hplace).symm
    · exact Disk.read_eq_ok_iff.2 ⟨place, hplace, hcontent ▸ hentry⟩
  · rcases footprint_of_flush hflush place with hsame | hmade | ⟨output, ho, hfind, -⟩
    · exact Or.inl hsame
    · exact Or.inr hmade
    · obtain ⟨chunk, hc, p, hp, rfl⟩ := Flush.mem_outputs.1 ho
      obtain ⟨w, hw, rfl⟩ := (htold p).2 ⟨chunk, hc, hp⟩
      exact absurd (Disk.place?_eq_some_iff.2 hfind) (hfree w hw)
  · exact get?_of_not_handedOn hruns hcalls hgained

/-! ### A batch after a run -/

/-- What a batch of edits does. -/
structure Rebuilds (build : Build) (changes : List Change) : Prop where
  /-- The tasks are the chunks that are due, in their roles, one for each. -/
  scheduled : ∀ task, task ∈ (build.taken changes).2.1 ↔
    ∃ chunk ∈ build.registry.chunks, task = .ofChunk chunk ∧ build.Due changes chunk
  ordered : Keyed.Sorted Task.file (build.taken changes).2.1
  /-- Collecting them at most reads the manifest again. -/
  taken : ∃ manifest, (build.taken changes).1 =
    { build with config := { build.config with manifest := manifest } }
  /-- They are compiled in one pass, of which the batch makes its registry.  When it completes, it
  has written what the pass hands on. -/
  compiled : ∃ calls, build.Recompiled changes calls ∧
    Pass.Runs (build.taken changes).1.config build.disk { registry := build.registry }
      (build.taken changes).2.1 calls ((build.taken changes).1.pass (build.taken changes).2.1) ∧
    (build.handleChanges changes).1.registry =
      (Compile.compileAll (build.taken changes).1.config build.disk build.registry
        (build.taken changes).2.1).registry ∧
    ∀ stats, .completed stats ∈ (build.handleChanges changes).2 →
      Confined build (build.handleChanges changes).1 calls stats
  /-- Without a due chunk nothing happens. -/
  idle : (∀ chunk ∈ build.registry.chunks, ¬ build.Due changes chunk) →
    (build.handleChanges changes).1.disk = build.disk ∧
      (build.handleChanges changes).1.registry = build.registry

/-- Taking changes that can be taken reads the manifest again at most. -/
theorem exists_taken_of_takes (hp : build.pending = []) (tasks : List Task)
    (events : List WatchEvent) (h : ∀ change ∈ changes, build.Takes change) :
    ∃ manifest, (changes.foldl takeChange (build, tasks, events)).1 =
      { build with config := { build.config with manifest := manifest } } := by
  induction changes generalizing build tasks events with
  | nil => exact ⟨build.config.manifest, rfl⟩
  | cons change rest ih =>
    obtain ⟨hkept, hthere⟩ := h change List.mem_cons_self
    obtain ⟨manifest, haffected⟩ := exists_affectedBy hp change.path
    rw [List.foldl_cons, takeChange_of_there hkept hthere, haffected]
    have hp' :
        ({ build with config := { build.config with manifest := manifest } } : Build).pending =
          [] := hp
    obtain ⟨manifest', hrest⟩ := ih hp' _ _ fun c hc => h c (List.mem_cons_of_mem _ hc)
    exact ⟨manifest', hrest⟩

/-- Compiling the tasks of a batch again makes the registry of their pass. -/
theorem registry_recompile (hp : build.Plain) (tasks : List Task) :
    (build.recompile tasks).1.registry =
      (Compile.compileAll build.config build.disk build.registry tasks).registry := by
  cases hfirst : (build.pass tasks).firstError with
  | some error =>
    rw [recompile_of_error hp hfirst, Compile.compileAll_of_error hfirst]
    rfl
  | none =>
    rw [recompile_of_none hp hfirst, Compile.compileAll_of_none hfirst]
    rfl

/-- A batch that completes has compiled its tasks again. -/
theorem recompile_of_completed (h : .completed stats ∈ (build.handleChanges changes).2) :
    (build.taken changes).2.1 ≠ [] ∧
      (build.taken changes).1.recompile (build.taken changes).2.1 =
        ((build.handleChanges changes).1, .ok stats) := by
  have hnone : .completed stats ∉ (build.taken changes).2.2 := fun hm => by
    cases isCompleted_of_mem_taken hm
  by_cases htasks : (build.taken changes).2.1 = []
  · rw [handleChanges_of_nil htasks] at h
    exact absurd h hnone
  · refine ⟨htasks, ?_⟩
    rw [handleChanges_of_ne_nil htasks] at h ⊢
    have hlast := List.mem_singleton.1 ((List.mem_append.1 h).resolve_left hnone)
    refine Prod.ext rfl ?_
    cases hresult : ((build.taken changes).1.recompile (build.taken changes).2.1).2 with
    | ok told =>
      rw [hresult] at hlast
      rw [WatchEvent.completed.inj hlast]
    | error error =>
      rw [hresult] at hlast
      cases hlast

theorem rebuilds (hp : build.Plain) (hs : build.registry.Sorted)
    (h : ∀ change ∈ changes, build.IsEdit change) (hloads : build.Readable changes) :
    build.Rebuilds changes := by
  have hpending := hp.pending
  have htasks := mem_tasks_of_edits hpending hs h hloads
  obtain ⟨manifest, htaken⟩ := exists_taken_of_takes hpending [] []
    fun change hc => (isEdit_latest h change hc).takes
  change (build.taken changes).1 = _ at htaken
  have hplain : (build.taken changes).1.Plain := (pruned_taken hp.bare hs changes).plain hp
  have hdisk : (build.taken changes).1.disk = build.disk := by rw [htaken]
  have hregistry : (build.taken changes).1.registry = build.registry := by rw [htaken]
  obtain ⟨calls, hruns⟩ := Pass.runs_run (build.taken changes).1.config build.disk
    { registry := build.registry } (build.taken changes).2.1
  have hpass : (build.taken changes).1.pass (build.taken changes).2.1 =
      ({ registry := build.registry } : Pass).run (build.taken changes).1.config build.disk
        (build.taken changes).2.1 := by
    rw [pass, hdisk, hregistry]
  rw [← hpass] at hruns
  -- without tasks the pass makes no difference
  have hempty (hnil : (build.taken changes).2.1 = []) :
      (build.handleChanges changes).1 = (build.taken changes).1 := by
    rw [handleChanges_of_nil hnil]
  refine ⟨htasks, (gathered_foldl hpending hs (sorted_latest changes)).ordered, ⟨manifest, htaken⟩,
    ⟨calls, recompiled_of_edits hpending hs h hloads hruns, hruns, ?_, fun stats hcompleted => ?_⟩,
    fun hidle => ?_⟩
  · by_cases hnil : (build.taken changes).2.1 = []
    · rw [hempty hnil, hregistry, hnil]
      simp [Compile.compileAll, Pass.run]
    · rw [handleChanges_of_ne_nil hnil, registry_recompile hplain, hdisk, hregistry]
  · obtain ⟨-, hrecompile⟩ := recompile_of_completed hcompleted
    cases hfirst : ((build.taken changes).1.pass (build.taken changes).2.1).firstError with
    | some error =>
      rw [recompile_of_error hplain hfirst] at hrecompile
      cases (Prod.mk.inj hrecompile).2
    | none =>
      rw [recompile_of_none hplain hfirst] at hrecompile
      rw [← hdisk, ← hregistry] at hruns
      have hconfined := confined_written (hregistry.symm ▸ hs) hruns hfirst hrecompile
      rw [htaken] at hconfined
      exact ⟨hconfined.told, hconfined.written, hconfined.disk, hconfined.registry⟩
  · have hnil : (build.taken changes).2.1 = [] := by
      refine List.eq_nil_iff_forall_not_mem.2 fun task ht => ?_
      obtain ⟨chunk, hc, -, hdue⟩ := (htasks task).1 ht
      exact hidle chunk hc hdue
    rw [hempty hnil]
    exact ⟨hdisk, hregistry⟩

/-- After a run, whatever has happened to the disk, a batch of edits compiles each chunk that is due
once, and besides these only new files that they lead to.  When it completes it has written what was
compiled or has gained a destination, and changed nothing else. -/
theorem rebuilds_of_run (hp : start.Plain) (hrun : start.run = (ran, .ok stats)) (disk : Disk)
    (changes : List Change) (h : ∀ change ∈ changes, IsEdit { ran with disk := disk } change)
    (hloads : Readable { ran with disk := disk } changes) :
    Rebuilds { ran with disk := disk } changes := by
  obtain ⟨entries, chunks, hran⟩ := run_spec hp hrun
  have hplain := hran.plain hp
  exact rebuilds ⟨hplain.plugins, hplain.bundle, hplain.pending⟩ (upToDate_of_ran hran).sorted
    h hloads

/-- The style sheet that the app's imports has another content, and a batch tells of it. -/
theorem rebuilds_of_rewritten : ∃ ran stats, Recreation.app.run = (ran, .ok stats) ∧
    Rebuilds { ran with disk := Recreation.rewritten ran Recreation.part }
      (creation Recreation.part) := by
  obtain ⟨⟨ran, result⟩, hran, hok, ⟨hreturns, -⟩, -⟩ := Recreation.session
  have hplain : Recreation.app.Plain := ⟨rfl, rfl, rfl⟩
  obtain ⟨stats, hrun⟩ := exists_run_of_runUpTo hplain hran hok
  refine ⟨ran, stats, hrun, rebuilds_of_run hplain hrun _ _ (fun change hc => ?_)
    fun change hc hsame => ?_⟩
  · obtain rfl := List.mem_singleton.1 hc
    exact ⟨hreturns.2.1, nofun, Disk.isFile_iff_read.2 ⟨_, hreturns.2.2.2.2⟩⟩
  · obtain rfl := List.mem_singleton.1 hc
    exact absurd hsame hreturns.not_same

end Build

end Minipack
