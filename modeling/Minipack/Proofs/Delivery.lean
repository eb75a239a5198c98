/-
Each destination on its own.

Where no destination lies at or below another, the writes of a flush do not meet: making the folders
of one destination and writing it changes nothing that another depends on.  So whether a destination
fails, and with what, is settled by the disk before the flush (`Flush.fault?`), and a flush comes to
what these faults tell (`delivered_of_flush`).  A destination fails where a folder stands at its
place or a file at a place above, or when the system does not take its spelling
(`Flush.fault?_eq_none_iff`).
-/
import Minipack.Proofs.Disk.Paving

namespace Minipack

namespace Path

/-- Neither of two paths lies at or below the other. -/
def Aside (p q : Path) : Prop :=
  p.startsWith q = false ∧ q.startsWith p = false

instance (p q : Path) : Decidable (p.Aside q) :=
  inferInstanceAs (Decidable (_ ∧ _))

instance : Std.Symm Aside :=
  ⟨fun _ _ h => ⟨h.2, h.1⟩⟩

theorem Aside.not_below {p q : Path} (h : p.Aside q) (hp : p.Straight) (hq : q.Straight) :
    ¬ p.place <+: q.place := by
  rw [← hq.startsWith_iff hp, h.2]
  exact Bool.false_ne_true

theorem Aside.not_same {p q : Path} (h : p.Aside q) : ¬ p.Same q := by
  intro hsame
  have hself : p.startsWith q = true := by
    rw [startsWith, show p.components = q.components from hsame]
    exact List.isPrefixOf_iff_prefix.2 List.prefix_rfl
  rw [h.1] at hself
  cases hself

end Path

namespace Flush

open Disk

variable {disk made : Disk} {p : Path}

/-! ### One destination -/

/-- Why a destination cannot be written, were it the only one. -/
def fault? (disk : Disk) (p : Path) : Option DiskFault :=
  match disk.makeAbove p with
  | (_, some fault) => some fault
  | (made, none) => (made.write p .empty).2

theorem fault?_eq (hlinks : disk.Unlinked) (hp : p.Straight) :
    fault? disk p = (disk.aboveFault? p).or (disk.fileFault? p) := by
  have hprepares := prepares_makeAbove hlinks hp
  have hfile := hprepares.fileFault?
  obtain ⟨hmade, hfault, hpaved, -⟩ := hprepares
  unfold fault?
  rcases hchanged : disk.makeAbove p with ⟨made, fault⟩
  rw [hchanged] at hfile hmade hfault hpaved
  rw [← hfault]
  cases fault with
  | some fault => rfl
  | none =>
    dsimp only
    rw [write_of_paved (hmade.unlinked hlinks) hp (hpaved rfl), hfile]
    cases disk.fileFault? p <;> rfl

/-- A destination is written unless a folder stands at its place, a file stands above, or the system
does not take its spelling. -/
theorem fault?_eq_none_iff (hlinks : disk.Unlinked) (hp : p.Straight) :
    fault? disk p = none ↔ ¬ disk.Blocked p ∧ Takes p := by
  have hancestors : (∀ a ∈ p.ancestors, spellingFault? a = none) ↔
      spellingFault? p = none ∧ ∀ a ∈ p.ancestors.tail, spellingFault? a = none :=
    List.forall_mem_cons
  have hspelling := hancestors.symm.trans (spelling_ancestors_iff hp)
  rw [fault?_eq hlinks hp, Option.or_eq_none_iff, aboveFault?_eq_none_iff hp,
    fileFault?_eq_none_iff hlinks]
  constructor
  · rintro ⟨⟨habove, hfiles⟩, hself, htrail, hfolder⟩
    obtain ⟨hopen, hnames⟩ := hspelling.1 ⟨hself, habove⟩
    refine ⟨?_, hopen, hnames, htrail⟩
    rintro (hstands | ⟨front, content, hfront, hne, hfile⟩)
    · rw [hfolder] at hstands
      cases hstands
    · exact hfiles front hfront hne content hfile
  · rintro ⟨hfree, hopen, hnames, htrail⟩
    obtain ⟨hself, habove⟩ := hspelling.2 ⟨hopen, hnames⟩
    exact ⟨⟨habove, fun front hfront hne content hfile =>
      hfree (Or.inr ⟨front, content, hfront, hne, hfile⟩)⟩, hself, htrail,
      Bool.eq_false_iff.2 fun hfolder => hfree (Or.inl hfolder)⟩

/-! ### The folders of all destinations -/

theorem makeFolders_cons (disk : Disk) (output : Output) (rest : List Output) :
    makeFolders disk (output :: rest) =
      ((makeFolders (disk.makeAbove output.destination).1 rest).1,
        (output, (disk.makeAbove output.destination).2) ::
          (makeFolders (disk.makeAbove output.destination).1 rest).2) := by
  rw [makeFolders]
  rfl

/-- What making the folders of all destinations comes to: for each what it comes to alone. -/
theorem makeFolders_of_straight {outputs : List Output} (hlinks : disk.Unlinked)
    (hstraight : ∀ output ∈ outputs, output.destination.Straight) :
    (makeFolders disk outputs).2 =
        outputs.map (fun output => (output, disk.aboveFault? output.destination)) ∧
      (∀ output ∈ outputs, disk.aboveFault? output.destination = none →
        (makeFolders disk outputs).1.Paved output.destination.place.dropLast) ∧
      ∀ place, (makeFolders disk outputs).1.entryAt? place = disk.entryAt? place ∨
        ∃ output ∈ outputs, place <+: output.destination.place.dropLast := by
  induction outputs generalizing disk with
  | nil => exact ⟨rfl, List.forall_mem_nil _, fun _ => Or.inl rfl⟩
  | cons output rest ih =>
    obtain ⟨hmade, hfault, hpaved, hchanges⟩ :=
      prepares_makeAbove hlinks (hstraight output List.mem_cons_self)
    rw [makeFolders_cons]
    generalize disk.makeAbove output.destination = changed at hmade hfault hpaved hchanges
    obtain ⟨hfaults, hpaveds, hmore⟩ := ih (hmade.unlinked hlinks) fun other hother =>
      hstraight other (List.mem_cons_of_mem _ hother)
    refine ⟨?_, fun other hother hnone => ?_, fun place => ?_⟩
    · simp only [List.map_cons, hfault, hfaults, hmade.aboveFault?]
    · rcases List.mem_cons.1 hother with rfl | hother
      · -- folders stay folders when more are made
        have hgrows := made_makeFolders changed.1 rest
        refine (hpaved (hfault.trans hnone)).mono fun front _ hfolder => ?_
        rw [hasFolderAt_iff] at hfolder ⊢
        rcases hgrows front with hsame | ⟨hfree, -⟩
        · exact hsame.trans hfolder
        · cases hfree.symm.trans hfolder
      · exact hpaveds other hother ((hmade.aboveFault? _).trans hnone)
    · rcases hmore place with hsame | ⟨other, hother, habove⟩
      · rcases hchanges place with hsame' | habove
        · exact Or.inl (hsame.trans hsame')
        · exact Or.inr ⟨output, List.mem_cons_self, habove⟩
      · exact Or.inr ⟨other, List.mem_cons_of_mem _ hother, habove⟩

/-! ### All files -/

/-- What becomes of a file whose folder was made, or was not. -/
def outcome? (disk : Disk) (made : Output × Option DiskFault) : Option DiskFault :=
  made.2.or (disk.fileFault? made.1.destination)

/-- A file was written at its place, or it failed and nothing happened. -/
def Tried (disk : Disk) (first : Output × Option DiskFault) (next : Disk) : Prop :=
  next = disk ∧ outcome? disk first ≠ none ∨
    next = disk.set first.1.destination.place (.file first.1.content) ∧
      outcome? disk first = none ∧ first.1.destination.place ≠ []

section

variable {next : Disk} {first other : Output × Option DiskFault} {place : Place}

theorem Tried.unlinked (h : Tried disk first next) (hlinks : disk.Unlinked) : next.Unlinked := by
  rcases h with ⟨rfl, -⟩ | ⟨rfl, -, hne⟩
  · exact hlinks
  · exact hlinks.set hne rfl

theorem Tried.entryAt? (h : Tried disk first next) (place : Place) :
    next.entryAt? place = disk.entryAt? place ∨
      outcome? disk first = none ∧ first.1.destination.place = place := by
  rcases h with ⟨rfl, -⟩ | ⟨rfl, hnone, -⟩
  · exact Or.inl rfl
  · by_cases hplace : place = first.1.destination.place
    · exact Or.inr ⟨hnone, hplace.symm⟩
    · exact Or.inl (entryAt?_set_of_ne hplace _)

/-- The folders on a way that does not lead through the place of the file stay. -/
theorem Tried.paved (h : Tried disk first next) (hplace : ¬ first.1.destination.place <+: place)
    (hpaved : disk.Paved place) : next.Paved place := by
  rcases h with ⟨rfl, -⟩ | ⟨rfl, -, -⟩
  · exact hpaved
  · exact hpaved.set hplace _

/-- What becomes of a file elsewhere does not change. -/
theorem Tried.outcome?_eq (h : Tried disk first next)
    (hplace : ¬ first.1.destination.place <+: other.1.destination.place) :
    outcome? next other = outcome? disk other := by
  rcases h.entryAt? other.1.destination.place with hsame | ⟨-, heq⟩
  · rw [outcome?, outcome?, fileFault?_congr hsame]
  · exact absurd (heq ▸ List.prefix_rfl) hplace

/-- A file that did not fail stands at its place. -/
theorem Tried.written (h : Tried disk first next) (hnone : outcome? disk first = none)
    (hpaved : disk.Paved first.1.destination.place.dropLast) :
    next.Paved first.1.destination.place.dropLast ∧
      next.entryAt? first.1.destination.place = some (.file first.1.content) := by
  obtain ⟨rfl, -, hne⟩ := h.resolve_left fun h => h.2 hnone
  exact ⟨hpaved.set (not_prefix_dropLast hne) _, entryAt?_set_self hne _⟩

/-- The first file is tried, and then the others are written. -/
theorem writeFiles_cons (hlinks : disk.Unlinked) (hp : first.1.destination.Straight)
    (hpaved : first.2 = none → disk.Paved first.1.destination.place.dropLast)
    (rest : List (Output × Option DiskFault)) : ∃ next : Disk,
      writeFiles disk (first :: rest) =
        ((writeFiles next rest).1, (first.1, outcome? disk first) :: (writeFiles next rest).2) ∧
      Tried disk first next := by
  obtain ⟨output, fault⟩ := first
  cases fault with
  | some fault => exact ⟨disk, rfl, Or.inl ⟨rfl, Option.some_ne_none _⟩⟩
  | none =>
    rw [writeFiles, write_of_paved hlinks hp (hpaved rfl), outcome?]
    dsimp only
    rw [Option.none_or]
    cases hfault : disk.fileFault? output.destination with
    | some fault =>
      refine ⟨disk, rfl, Or.inl ⟨rfl, ?_⟩⟩
      rw [outcome?, Option.none_or, hfault]
      exact Option.some_ne_none _
    | none =>
      refine ⟨_, rfl, Or.inr ⟨rfl, ?_, fun hroot => ?_⟩⟩
      · rw [outcome?, Option.none_or, hfault]
      -- the root is a folder
      · obtain ⟨-, -, hfolder⟩ := (fileFault?_eq_none_iff hlinks).1 hfault
        rw [hroot] at hfolder
        cases hfolder

end

/-- What writing all files comes to: for each what it comes to alone. -/
theorem writeFiles_of_straight {made : List (Output × Option DiskFault)} (hlinks : disk.Unlinked)
    (hstraight : ∀ w ∈ made, w.1.destination.Straight)
    (haside : made.Pairwise fun a b => a.1.destination.Aside b.1.destination)
    (hpaved : ∀ w ∈ made, w.2 = none → disk.Paved w.1.destination.place.dropLast) :
    (writeFiles disk made).1.Unlinked ∧
      (writeFiles disk made).2 = made.map (fun w => (w.1, outcome? disk w)) ∧
      (∀ w ∈ made, outcome? disk w = none →
        (writeFiles disk made).1.Paved w.1.destination.place.dropLast ∧
        (writeFiles disk made).1.entryAt? w.1.destination.place = some (.file w.1.content)) ∧
      ∀ place, (writeFiles disk made).1.entryAt? place = disk.entryAt? place ∨
        ∃ w ∈ made, outcome? disk w = none ∧ w.1.destination.place = place := by
  induction made generalizing disk with
  | nil => exact ⟨hlinks, rfl, List.forall_mem_nil _, fun _ => Or.inl rfl⟩
  | cons first rest ih =>
    obtain ⟨hfirst, haside⟩ := List.pairwise_cons.1 haside
    obtain ⟨hp, hrest⟩ := List.forall_mem_cons.1 hstraight
    obtain ⟨hpavedFirst, hpavedRest⟩ := List.forall_mem_cons.1 hpaved
    obtain ⟨next, hwrite, hnext⟩ := writeFiles_cons hlinks hp hpavedFirst rest
    have hnot : ∀ w ∈ rest, ¬ first.1.destination.place <+: w.1.destination.place :=
      fun w hw => (hfirst w hw).not_below hp (hrest w hw)
    have hnot' : ∀ w ∈ rest, ¬ w.1.destination.place <+: first.1.destination.place :=
      fun w hw => (symm (hfirst w hw)).not_below (hrest w hw) hp
    -- the first file, if it is written, is in nobody's way
    have houtcome : ∀ w ∈ rest, outcome? next w = outcome? disk w :=
      fun w hw => hnext.outcome?_eq (hnot w hw)
    obtain ⟨hlinked, hfaults, hwritten, hplaces⟩ := ih (hnext.unlinked hlinks) hrest haside
      fun w hw hnone => hnext.paved (fun h => hnot w hw (h.trans (List.dropLast_prefix _)))
        (hpavedRest w hw hnone)
    rw [hwrite]
    refine ⟨hlinked, ?_, fun w hw hnone => ?_, fun place => ?_⟩
    · rw [List.map_cons, hfaults]
      exact congrArg (_ :: ·) (List.map_congr_left fun w hw => by rw [houtcome w hw])
    · rcases List.mem_cons.1 hw with rfl | hw
      · -- and none of the others is in its way
        obtain ⟨hfolders, hentry⟩ :=
          hnext.written hnone (hpavedFirst (Option.or_eq_none_iff.1 hnone).1)
        refine ⟨hfolders.mono fun front hfront hfolder => ?_, ?_⟩
        · rcases hplaces front with hsame | ⟨other, hother, -, rfl⟩
          · rw [hasFolderAt_iff] at hfolder ⊢
            exact hsame.trans hfolder
          · exact absurd (hfront.trans (List.dropLast_prefix _)) (hnot' other hother)
        · rcases hplaces w.1.destination.place with hsame | ⟨other, hother, -, hplace⟩
          · exact hsame.trans hentry
          · exact absurd (hplace ▸ List.prefix_rfl) (hnot other hother)
      · exact hwritten w hw ((houtcome w hw).trans hnone)
    · rcases hplaces place with hsame | ⟨w, hw, hnone, hplace⟩
      · rcases hnext.entryAt? place with hsame' | hself
        · exact Or.inl (hsame.trans hsame')
        · exact Or.inr ⟨first, List.mem_cons_self, hself⟩
      · exact Or.inr ⟨w, List.mem_cons_of_mem _ hw, (houtcome w hw).symm.trans hnone, hplace⟩

/-- No destination is touched by the folders that are made for all of them. -/
theorem fileFault?_makeFolders {outputs : List Output} (hlinks : disk.Unlinked)
    (hstraight : ∀ output ∈ outputs, output.destination.Straight)
    (haside : outputs.Pairwise fun a b => a.destination.Aside b.destination) {output : Output}
    (ho : output ∈ outputs) :
    (makeFolders disk outputs).1.fileFault? output.destination =
      disk.fileFault? output.destination := by
  have : Std.Symm fun a b : Output => a.destination.Aside b.destination :=
    ⟨fun _ _ h => symm h⟩
  obtain ⟨-, -, hchanges⟩ := makeFolders_of_straight hlinks hstraight
  refine fileFault?_congr ?_
  rcases hchanges output.destination.place with hsame | ⟨other, hother, habove⟩
  · exact hsame
  · by_cases heq : output = other
    · subst heq
      have hroot : output.destination.place = [] :=
        Classical.byContradiction fun hne => not_prefix_dropLast hne habove
      rw [hroot]
      rfl
    · have hapart : output.destination.Aside other.destination :=
        haside.forall ho hother heq
      exact absurd (habove.trans (List.dropLast_prefix _))
        (hapart.not_below (hstraight output ho) (hstraight other hother))

/-- Each file of a flush comes to what it comes to alone. -/
theorem writeFiles_makeFolders {outputs : List Output} (hlinks : disk.Unlinked)
    (hstraight : ∀ output ∈ outputs, output.destination.Straight)
    (haside : outputs.Pairwise fun a b => a.destination.Aside b.destination) {disk' : Disk}
    {written : List (Output × Option DiskFault)}
    (h : writeFiles (makeFolders disk outputs).1 (makeFolders disk outputs).2 = (disk', written)) :
    written = outputs.map (fun output => (output, fault? disk output.destination)) ∧
      (∀ output ∈ outputs, fault? disk output.destination = none →
        disk'.read output.destination = .ok output.content) ∧
      ∀ place, disk'.entryAt? place = (makeFolders disk outputs).1.entryAt? place ∨
        ∃ output ∈ outputs, fault? disk output.destination = none ∧
          output.destination.place = place := by
  obtain ⟨hfaults, hpaved, -⟩ := makeFolders_of_straight hlinks hstraight
  have hmade := made_makeFolders disk outputs
  -- the folders that are made leave the places of all files alone
  have houtcome : ∀ output ∈ outputs, outcome? (makeFolders disk outputs).1
      (output, disk.aboveFault? output.destination) = fault? disk output.destination := by
    intro output ho
    rw [outcome?, fileFault?_makeFolders hlinks hstraight haside ho,
      fault?_eq hlinks (hstraight output ho)]
  rw [hfaults] at h
  have hstraight' : ∀ w ∈ outputs.map (fun output => (output, disk.aboveFault? output.destination)),
      w.1.destination.Straight := List.forall_mem_map.2 hstraight
  have hpaved' : ∀ w ∈ outputs.map (fun output => (output, disk.aboveFault? output.destination)),
      w.2 = none → (makeFolders disk outputs).1.Paved w.1.destination.place.dropLast :=
    List.forall_mem_map.2 hpaved
  have hall := writeFiles_of_straight (hmade.unlinked hlinks) hstraight'
    (List.pairwise_map.2 haside) hpaved'
  rw [h, List.map_map] at hall
  obtain ⟨hlinked, hwritten, hread, hplaces⟩ := hall
  refine ⟨hwritten.trans ?_, fun output ho hnone => ?_, fun place => ?_⟩
  · refine List.map_congr_left fun output ho => ?_
    exact congrArg (Prod.mk output) (houtcome output ho)
  · obtain ⟨hfolders, hentry⟩ :=
      hread _ (List.mem_map_of_mem ho) ((houtcome output ho).trans hnone)
    have hp := hstraight output ho
    obtain ⟨-, htakes⟩ := (fault?_eq_none_iff hlinks hp).1 hnone
    have hspelling : spellingFault? output.destination = none :=
      (spelling_ancestors_iff hp).2 ⟨htakes.text, htakes.names⟩ _ (Path.mem_ancestors _)
    exact read_of_paved hlinked hp hfolders hspelling htakes.trail hentry
  · refine (hplaces place).imp_right ?_
    rintro ⟨w, hw, hnone, hplace⟩
    obtain ⟨output, ho, rfl⟩ := List.mem_map.1 hw
    exact ⟨output, ho, (houtcome output ho).symm.trans hnone, hplace⟩

/-- When nothing has failed, all is told in the order of paths. -/
theorem report_of_none {outputs : List Output} {fault : Output → Option DiskFault}
    (h : ∀ output ∈ outputs, fault output = none)
    (haside : outputs.Pairwise fun a b => a.destination.Aside b.destination) :
    ∃ stats : List Written, report (outputs.map fun output => (output, fault output)) = .ok stats ∧
      stats.Perm (outputs.map fun output => ⟨output.destination, output.content.size⟩) ∧
      stats.Pairwise fun a b => compare a.destination b.destination = .lt := by
  have hnil : (outputs.map fun output => (output, fault output)).filterMap Prod.snd = [] := by
    rw [List.filterMap_map, List.filterMap_eq_nil_iff]
    exact h
  have hdistinct : (outputs.map fun output =>
      (⟨output.destination, output.content.size⟩ : Written)).Pairwise
        fun a b => ¬ a.destination.Same b.destination :=
    List.pairwise_map.2 (haside.imp fun hab => hab.not_same)
  refine ⟨_, ?_, List.mergeSort_perm _ _, Path.pairwise_mergeSort Written.destination hdistinct⟩
  unfold report
  rw [hnil, List.map_map]
  rfl

theorem map_destination_outputs (settings : Settings) (chunks : List Chunk) :
    (outputs settings chunks).map Output.destination = chunks.flatMap Chunk.destinations := by
  rw [outputs, List.map_flatMap]
  simp only [List.map_map]
  exact congrArg (List.flatMap · chunks) (funext fun chunk => List.map_id _)

/-- What a flush comes to, destination by destination. -/
structure Delivered (settings : Settings) (disk : Disk) (chunks : List Chunk) (disk' : Disk)
    (result : Except Error (List Written)) : Prop where
  /-- A destination fails where a folder stands at its place, where a file stands above, or when the
  system does not take its spelling. -/
  fails : ∀ p ∈ chunks.flatMap Chunk.destinations,
    fault? disk p ≠ none ↔ disk.Blocked p ∨ ¬ Takes p
  /-- Every other destination holds what is rendered for its chunk. -/
  written : ∀ chunk ∈ chunks, ∀ p ∈ chunk.destinations, fault? disk p = none →
    disk'.read p = .ok (render settings chunk)
  /-- Every other file has the content it had. -/
  kept : ∀ place content, disk.entryAt? place = some (.file content) →
    (∀ p ∈ chunks.flatMap Chunk.destinations, fault? disk p = none → p.place ≠ place) →
      disk'.entryAt? place = some (.file content)
  /-- When none has failed, all are told with their sizes, in the order of paths. -/
  told : (∀ p ∈ chunks.flatMap Chunk.destinations, fault? disk p = none) →
    ∃ stats : List Written, result = .ok stats ∧
      stats.Perm ((outputs settings chunks).map fun output =>
        ⟨output.destination, output.content.size⟩) ∧
      stats.Pairwise fun a b => compare a.destination b.destination = .lt
  /-- Else the error has their number and the fault of the first. -/
  failed : ∀ fault rest,
    (chunks.flatMap Chunk.destinations).filterMap (fault? disk) = fault :: rest →
      result = .error (.flush (rest.length + 1) (.system (.disk fault)))

end Flush

/-- A flush writes each destination as if it were the only one, on a disk without links and for
destinations without `..` steps of which none lies at or below another. -/
theorem delivered_of_flush {settings : Settings} {disk : Disk} {chunks : List Chunk}
    (hlinkless : disk.Linkless)
    (hstraight : ∀ p ∈ chunks.flatMap Chunk.destinations, p.Straight)
    (haside : (chunks.flatMap Chunk.destinations).Pairwise Path.Aside) :
    Flush.Delivered settings disk chunks (flush settings disk chunks).1
      (flush settings disk chunks).2.1 := by
  rcases hflush : flush settings disk chunks with ⟨disk', result, log⟩
  obtain ⟨made, written, rfl, hwrites, rfl, -⟩ := exists_flush hflush
  have hlinks := hlinkless.unlinked
  have hdestinations := Flush.map_destination_outputs settings chunks
  have hstraight' : ∀ output ∈ Flush.outputs settings chunks, output.destination.Straight := by
    intro output ho
    have hmem : output.destination ∈ chunks.flatMap Chunk.destinations :=
      hdestinations ▸ List.mem_map_of_mem ho
    exact hstraight output.destination hmem
  have haside' : (Flush.outputs settings chunks).Pairwise fun a b =>
      a.destination.Aside b.destination := by
    rw [← hdestinations] at haside
    exact List.pairwise_map.1 haside
  obtain ⟨rfl, hread, hplaces⟩ :=
    Flush.writeFiles_makeFolders hlinks hstraight' haside' hwrites
  have hfaults : ((Flush.outputs settings chunks).map fun output =>
      (output, Flush.fault? disk output.destination)).filterMap Prod.snd =
        (chunks.flatMap Chunk.destinations).filterMap (Flush.fault? disk) := by
    rw [← hdestinations, List.filterMap_map, List.filterMap_map]
    rfl
  refine ⟨fun p hp => ?_, fun chunk hc p hp hnone => ?_, fun place content hfile hfree => ?_,
    fun hnone => ?_, fun fault rest hfails => ?_⟩
  · rw [ne_eq, Flush.fault?_eq_none_iff hlinks (hstraight p hp)]
    tauto
  · exact hread ⟨p, Flush.render settings chunk⟩
      (Flush.mem_outputs.2 ⟨chunk, hc, p, hp, rfl⟩) hnone
  · rcases hplaces place with hsame | ⟨output, ho, hnone, hplace⟩
    · rcases Flush.made_makeFolders disk (Flush.outputs settings chunks) place with
        hkept | ⟨hfree, -⟩
      · exact hsame.trans (hkept.trans hfile)
      · cases hfree.symm.trans hfile
    · have hmem : output.destination ∈ chunks.flatMap Chunk.destinations :=
        hdestinations ▸ List.mem_map_of_mem ho
      exact absurd hplace (hfree output.destination hmem hnone)
  · refine Flush.report_of_none (fun output ho => ?_) haside'
    have hmem : output.destination ∈ chunks.flatMap Chunk.destinations :=
      hdestinations ▸ List.mem_map_of_mem ho
    exact hnone output.destination hmem
  · unfold Flush.report
    rw [hfaults, hfails]

namespace Flush

namespace Mixed

/-- A file in the way of a folder, and a folder in the way of a file. -/
def volume : Disk where
  entries := [(["p"], .folder), (["p", "app"], .folder), (["p", "app", "b"], .folder),
    (["p", "f"], .file .empty)]
  current := []

/-- A chunk of which one destination is a folder. -/
def first : Chunk where
  file := ⟨"/p/src/a"⟩
  kind := .entry
  content := "a".toUTF8
  destinations := [⟨"/p/app/a"⟩, ⟨"/p/app/b"⟩]

/-- A chunk of which one destination lies below a file, and two share a new folder. -/
def second : Chunk where
  file := ⟨"/p/src/c"⟩
  kind := .entry
  content := "c".toUTF8
  destinations := [⟨"/p/f/c"⟩, ⟨"/p/app/d/e/f"⟩, ⟨"/p//app/./d/e/g"⟩]

end Mixed

/-- Of five destinations two fail, and the others are written. -/
theorem delivered_mixed :
    [Mixed.first, Mixed.second].flatMap
        (fun chunk => chunk.destinations.map (fault? Mixed.volume)) =
        [none, some .isFolder, some .occupied, none, none] ∧
      Delivered (.of ⟨"/p"⟩) Mixed.volume [Mixed.first, Mixed.second]
        (flush (.of ⟨"/p"⟩) Mixed.volume [Mixed.first, Mixed.second]).1
        (flush (.of ⟨"/p"⟩) Mixed.volume [Mixed.first, Mixed.second]).2.1 :=
  ⟨by decide +kernel,
    delivered_of_flush (by decide +kernel) (by decide +kernel) (by decide +kernel)⟩

namespace Meeting

/-- A file that is written in the folder of the output. -/
def direct : Chunk where
  file := ⟨"/p/src/a"⟩
  kind := .entry
  content := "1".toUTF8
  destinations := [⟨"/p/app/a"⟩]

/-- A file that is written there by way of another folder. -/
def around : Chunk where
  file := ⟨"/p/src/b"⟩
  kind := .entry
  content := "2".toUTF8
  destinations := [⟨"/p/app/x/../a"⟩]

/-- A destination that ends in a slash. -/
def slashed : Path := ⟨"/p/app/a/"⟩

end Meeting

/-- With a `..` step two destinations that are aside can be one file: both are written without a
fault, and only one is left.  And a destination that ends in a slash fails though nothing stands in
its way. -/
theorem around_overwrites_direct :
    ([Meeting.direct, Meeting.around].flatMap Chunk.destinations).Pairwise Path.Aside ∧
      (flush (.of ⟨"/p"⟩) .empty [Meeting.direct, Meeting.around]).2.1.isOk = true ∧
      (flush (.of ⟨"/p"⟩) .empty [Meeting.direct, Meeting.around]).1.read ⟨"/p/app/a"⟩ ≠
        .ok (render (.of ⟨"/p"⟩) Meeting.direct) ∧
      ¬ Disk.empty.Blocked Meeting.slashed ∧
      (flush (.of ⟨"/p"⟩) .empty
        [{ Meeting.direct with destinations := [Meeting.slashed] }]).2.1.isOk = false := by
  refine ⟨by decide +kernel, by decide +kernel, by decide +kernel, ?_, by decide +kernel⟩
  rintro (hfolder | ⟨front, content, -, -, hfile⟩)
  · exact absurd hfolder (by decide +kernel)
  · cases front <;> cases hfile

end Flush

end Minipack
