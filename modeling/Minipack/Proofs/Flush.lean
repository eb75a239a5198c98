/-
What stands on a disk after chunks were written.

When a flush succeeds, every destination names a file whose content is that of some output written
there, and every other file has the content it had (`flush_spec`).  A destination that is a file
already is written even when others fail (`written_of_isFile`).  Where no two chunks share a
destination, the chunks that were written stand on the disk (`standing_of_flush`) and the others
stand as they stood before (`standing_of_flush_of_not_mem`).  A path reads what it read before where
nothing else was written there (`read_of_flush`).
-/
import Mathlib.Data.List.Pairwise
import Minipack.Flush
import Minipack.Proofs.Chunk
import Minipack.Proofs.Disk.Folders
import Minipack.Proofs.Outcome

namespace Minipack

namespace Flush

variable {disk disk' : Disk}

/-- What stands at a place is one of the outputs, and its destination names the place. -/
def WrittenAt (disk : Disk) (outputs : List Output) (place : Place) : Prop :=
  ∃ output ∈ outputs, disk.find true output.destination = .ok place ∧
    disk.entryAt? place = some (.file output.content)

theorem WrittenAt.mono {outputs outputs' : List Output} {place : Place}
    (h : WrittenAt disk outputs place) (hsub : ∀ output ∈ outputs, output ∈ outputs') :
    WrittenAt disk outputs' place := by
  obtain ⟨output, ho, hfind, hentry⟩ := h
  exact ⟨output, hsub output ho, hfind, hentry⟩

/-- What is paired with faults are the outputs. -/
theorem map_fst_makeFolders (disk : Disk) (outputs : List Output) :
    (makeFolders disk outputs).2.map Prod.fst = outputs := by
  induction outputs generalizing disk with
  | nil => rfl
  | cons output rest ih =>
    rw [makeFolders]
    cases output.destination.parent? with
    | none => exact congrArg (output :: ·) (ih disk)
    | some folder => exact congrArg (output :: ·) (ih _)

/-- Of the files that are there, all folders are made. -/
theorem mem_makeFolders_of_isFile {outputs : List Output} {output : Output} (ho : output ∈ outputs)
    (hfile : disk.isFile output.destination = true) :
    (output, none) ∈ (makeFolders disk outputs).2 := by
  induction outputs generalizing disk with
  | nil => cases ho
  | cons first rest ih =>
    rw [makeFolders]
    cases hparent : first.destination.parent? with
    | none =>
      rcases List.mem_cons.1 ho with rfl | ho
      · exact List.mem_cons_self
      · exact List.mem_cons_of_mem _ (ih ho hfile)
    | some folder =>
      rcases List.mem_cons.1 ho with rfl | ho
      · have hfault := congrArg Prod.snd (Disk.makeFolders_of_isFile hfile hparent)
        exact List.mem_cons.2 (Or.inl (Prod.ext rfl hfault.symm))
      · exact List.mem_cons_of_mem _
          (ih ho ((Disk.grows_makeFolders disk folder).isFile hfile))

/-- A write lets a disk grow, with a fault or without. -/
theorem grows_write (disk : Disk) (output : Output) :
    disk.Grows (disk.write output.destination output.content).1 := by
  cases hfault : (disk.write output.destination output.content).2 with
  | none => exact (Disk.write_spec (Prod.ext rfl hfault)).1
  | some fault =>
    rw [Disk.write_of_fault hfault]
    exact .refl disk

/-- The files that are there and have their folders are written. -/
theorem mem_writeFiles_of_isFile {made : List (Output × Option DiskFault)} {output : Output}
    (ho : (output, none) ∈ made) (hfile : disk.isFile output.destination = true) :
    (output, none) ∈ (writeFiles disk made).2 := by
  induction made generalizing disk with
  | nil => cases ho
  | cons first rest ih =>
    obtain ⟨other, fault⟩ := first
    cases fault with
    | some fault =>
      rcases List.mem_cons.1 ho with heq | ho
      · cases heq
      · exact List.mem_cons_of_mem _ (ih ho hfile)
    | none =>
      rcases List.mem_cons.1 ho with heq | ho
      · obtain rfl : output = other := congrArg Prod.fst heq
        obtain ⟨place, before, -, -, hwrite⟩ := Disk.write_of_isFile hfile output.content
        have hfault : (disk.write output.destination output.content).2 = none :=
          congrArg Prod.snd hwrite
        exact List.mem_cons.2 (Or.inl (Prod.ext rfl hfault.symm))
      · exact List.mem_cons_of_mem _ (ih ho ((grows_write disk other).isFile hfile))

/-- What writing files one after another comes to: what was written without a fault stands where its
destination leads, unless a later output does; all else is as it was. -/
structure Wrote (disk disk' : Disk) (outputs : List Output)
    (written : List (Output × Option DiskFault)) : Prop where
  grows : disk.Grows disk'
  stands : ∀ output, (output, none) ∈ written → ∃ place,
    disk'.find true output.destination = .ok place ∧ WrittenAt disk' outputs place
  others : ∀ place, disk'.entryAt? place = disk.entryAt? place ∨ WrittenAt disk' outputs place

namespace Wrote

variable {outputs : List Output} {written : List (Output × Option DiskFault)}

theorem refl (disk : Disk) : Wrote disk disk [] [] where
  grows := .refl disk
  stands := fun _ ho => (by cases ho)
  others := fun _ => Or.inl rfl

/-- A file that is not written leaves the disk to the later ones. -/
theorem skip (h : Wrote disk disk' outputs written) (output : Output) (fault : DiskFault) :
    Wrote disk disk' (output :: outputs) ((output, some fault) :: written) where
  grows := h.grows
  stands := fun other ho => by
    rcases List.mem_cons.1 ho with hfault | ho
    · cases hfault
    · obtain ⟨place, hfind, hstands⟩ := h.stands other ho
      exact ⟨place, hfind, hstands.mono fun o => List.mem_cons_of_mem _⟩
  others := fun place => (h.others place).imp_right fun hstands =>
    hstands.mono fun o => List.mem_cons_of_mem _

/-- A file that is written stands as long as no later one is written over it. -/
theorem write {between : Disk} {output : Output}
    (hwrite : disk.write output.destination output.content = (between, none))
    (h : Wrote between disk' outputs written) :
    Wrote disk disk' (output :: outputs) ((output, none) :: written) := by
  obtain ⟨hgrows, place, hfind, hentry, hothers⟩ := Disk.write_spec hwrite
  have hlater {q : Place} (hq : WrittenAt disk' outputs q) :
      WrittenAt disk' (output :: outputs) q :=
    hq.mono fun o => List.mem_cons_of_mem _
  have hself : WrittenAt disk' (output :: outputs) place := by
    rcases h.others place with hsame | hstands
    · exact ⟨output, List.mem_cons_self, Disk.find_of_grows h.grows hfind, hsame.trans hentry⟩
    · exact hlater hstands
  refine ⟨hgrows.trans h.grows, fun other ho => ?_, fun q => ?_⟩
  · rcases List.mem_cons.1 ho with heq | ho
    · obtain rfl : other = output := congrArg Prod.fst heq
      exact ⟨place, Disk.find_of_grows h.grows hfind, hself⟩
    · obtain ⟨q, hq, hstands⟩ := h.stands other ho
      exact ⟨q, hq, hlater hstands⟩
  · by_cases hq : q = place
    · exact Or.inr (hq ▸ hself)
    · rcases h.others q with hsame | hstands
      · exact Or.inl (hsame.trans (hothers q hq))
      · exact Or.inr (hlater hstands)

end Wrote

theorem wrote_writeFiles (disk : Disk) (made : List (Output × Option DiskFault)) :
    Wrote disk (writeFiles disk made).1 (made.map Prod.fst) (writeFiles disk made).2 := by
  induction made generalizing disk with
  | nil => exact .refl disk
  | cons first rest ih =>
    obtain ⟨output, fault⟩ := first
    cases fault with
    | some fault => exact (ih disk).skip output fault
    | none =>
      rw [writeFiles, List.map_cons]
      rcases hwrite : disk.write output.destination output.content with ⟨between, fault⟩
      cases fault with
      | some fault =>
        -- a write that fails changes nothing
        obtain rfl : between = disk := by
          have hsame := Disk.write_of_fault (congrArg Prod.snd hwrite)
          exact (congrArg Prod.fst hwrite).symm.trans hsame
        exact (ih between).skip output fault
      | none => exact .write hwrite (ih between)

theorem wrote_of_eq {made written : List (Output × Option DiskFault)}
    (h : writeFiles disk made = (disk', written)) :
    Wrote disk disk' (made.map Prod.fst) written := by
  have hwrote := wrote_writeFiles disk made
  rwa [h] at hwrote

/-- What is paired with faults are the files to write. -/
theorem map_fst_writeFiles (disk : Disk) (made : List (Output × Option DiskFault)) :
    (writeFiles disk made).2.map Prod.fst = made.map Prod.fst := by
  induction made generalizing disk with
  | nil => rfl
  | cons first rest ih =>
    obtain ⟨output, fault⟩ := first
    cases fault with
    | some fault => exact congrArg (output :: ·) (ih disk)
    | none => exact congrArg (output :: ·) (ih _)

/-- A report is good when nothing failed. -/
theorem faults_of_report {written : List (Output × Option DiskFault)} {stats : List Written}
    (h : report written = .ok stats) : ∀ w ∈ written, w.2 = none := by
  unfold report at h
  split at h
  · cases h
  · next hnone =>
    intro w hw
    cases hf : w.2 with
    | none => rfl
    | some fault =>
      have hmem : fault ∈ written.filterMap Prod.snd := List.mem_filterMap.2 ⟨w, hw, hf⟩
      rw [hnone] at hmem
      cases hmem

/-- The outputs of chunks. -/
theorem mem_outputs {settings : Settings} {chunks : List Chunk} {output : Output} :
    output ∈ outputs settings chunks ↔
      ∃ chunk ∈ chunks, ∃ p ∈ chunk.destinations, output = ⟨p, render settings chunk⟩ := by
  simp only [outputs, List.mem_flatMap, List.mem_map, eq_comm]

end Flush

variable {settings : Settings} {disk disk' : Disk} {chunks : List Chunk} {stats : List Written}
  {log : List LogLine} {result : Except Error (List Written)}

/-- What a flush comes to, whether or not some of its writes fail. -/
theorem exists_flush (h : flush settings disk chunks = (disk', result, log)) :
    ∃ made written, Flush.makeFolders disk (Flush.outputs settings chunks) = made ∧
      Flush.writeFiles made.1 made.2 = (disk', written) ∧ result = Flush.report written ∧
      made.2.map Prod.fst = Flush.outputs settings chunks := by
  obtain ⟨rfl, hrest⟩ := Prod.mk.inj h
  exact ⟨_, _, rfl, rfl, (Prod.mk.inj hrest).1.symm, Flush.map_fst_makeFolders _ _⟩

/-- After a flush every destination names a file written by it, and other files are as they were. -/
theorem flush_spec (h : flush settings disk chunks = (disk', .ok stats, log)) :
    disk.Grows disk' ∧
      (∀ output ∈ Flush.outputs settings chunks, ∃ place,
        disk'.find true output.destination = .ok place ∧
          Flush.WrittenAt disk' (Flush.outputs settings chunks) place) ∧
      ∀ place content, disk.entryAt? place = some (.file content) →
        disk'.entryAt? place = some (.file content) ∨
          Flush.WrittenAt disk' (Flush.outputs settings chunks) place := by
  obtain ⟨made, written, rfl, hwritten, hreport, hmap⟩ := exists_flush h
  have hgrows := Flush.grows_makeFolders disk (Flush.outputs settings chunks)
  obtain ⟨hgrows', houtputs, hplaces⟩ := Flush.wrote_of_eq hwritten
  rw [hmap] at houtputs hplaces
  refine ⟨hgrows.trans hgrows', fun output ho => houtputs output ?_, fun place content hc => ?_⟩
  · have hpaired : output ∈ written.map Prod.fst := by
      have hfst := Flush.map_fst_writeFiles
        (Flush.makeFolders disk (Flush.outputs settings chunks)).1
        (Flush.makeFolders disk (Flush.outputs settings chunks)).2
      rw [hwritten, hmap] at hfst
      exact hfst ▸ ho
    obtain ⟨⟨o, fault⟩, hw, rfl⟩ := List.mem_map.1 hpaired
    obtain rfl : fault = none := Flush.faults_of_report hreport.symm _ hw
    exact hw
  · -- making the folders has not changed the file
    have hmade := (Flush.made_makeFolders disk (Flush.outputs settings chunks)).entryAt? hc
    exact (hplaces place).imp_left fun hsame => hsame.trans hmade

/-- After a flush a destination reads what was written for one chunk, which has a destination that
leads there, too. -/
theorem exists_source_of_flush (h : flush settings disk chunks = (disk', .ok stats, log))
    {chunk : Chunk} (hc : chunk ∈ chunks) {p : Path} (hp : p ∈ chunk.destinations) :
    ∃ source ∈ chunks, ∃ q ∈ source.destinations, disk'.find true q = disk'.find true p ∧
      disk'.read p = .ok (Flush.render settings source) := by
  obtain ⟨-, houtputs, -⟩ := flush_spec h
  obtain ⟨place, hfind, output, ho, hfind', hentry⟩ :=
    houtputs ⟨p, Flush.render settings chunk⟩ (Flush.mem_outputs.2 ⟨chunk, hc, p, hp, rfl⟩)
  obtain ⟨source, hsource, q, hq, rfl⟩ := Flush.mem_outputs.1 ho
  exact ⟨source, hsource, q, hq, hfind'.trans hfind.symm,
    Disk.read_eq_ok_iff.2 ⟨place, hfind, hentry⟩⟩

/-- A destination that is a file is written by a flush, even if other writes fail. -/
theorem written_of_isFile (h : flush settings disk chunks = (disk', result, log))
    {output : Flush.Output} (ho : output ∈ Flush.outputs settings chunks)
    (hfile : disk.isFile output.destination = true) : ∃ place,
      disk'.find true output.destination = .ok place ∧
        Flush.WrittenAt disk' (Flush.outputs settings chunks) place := by
  obtain ⟨made, written, rfl, hwritten, -, hmap⟩ := exists_flush h
  have hgrows := Flush.grows_makeFolders disk (Flush.outputs settings chunks)
  obtain ⟨-, houtputs, -⟩ := Flush.wrote_of_eq hwritten
  rw [hmap] at houtputs
  apply houtputs output
  have hmade := Flush.mem_makeFolders_of_isFile ho hfile
  have hwrites := Flush.mem_writeFiles_of_isFile hmade (hgrows.isFile hfile)
  rw [hwritten] at hwrites
  exact hwrites

/-- A flush fails with an error of its own. -/
theorem exists_flush_error {error : Error}
    (h : (flush settings disk chunks).2.1 = .error error) :
    ∃ n cause, error = .flush n cause := by
  change Flush.report _ = .error error at h
  unfold Flush.report at h
  split at h
  · exact ⟨_, _, (Except.error.inj h).symm⟩
  · cases h

/-- What stands at each destination of a chunk is what is written for it. -/
def Standing (settings : Settings) (disk : Disk) (chunk : Chunk) : Prop :=
  ∀ p ∈ chunk.destinations, disk.read p = .ok (Flush.render settings chunk)

instance (settings : Settings) (disk : Disk) (chunk : Chunk) :
    Decidable (Standing settings disk chunk) :=
  inferInstanceAs (Decidable (∀ p ∈ chunk.destinations,
    disk.read p = .ok (Flush.render settings chunk)))

/-- The place of what a path names, if it names anything. -/
def Disk.place? (disk : Disk) (p : Path) : Option Place :=
  (disk.find true p).toOption

theorem Disk.place?_eq_some_iff {p : Path} {place : Place} :
    disk.place? p = some place ↔ disk.find true p = .ok place := by
  unfold Disk.place?
  cases disk.find true p with
  | ok found => simp [Except.toOption]
  | error fault => simp [Except.toOption]

/-- No destination of the one chunk leads where a destination of the other leads. -/
def Apart (disk : Disk) (a b : Chunk) : Prop :=
  ∀ p ∈ a.destinations, ∀ q ∈ b.destinations, ∀ place ∈ disk.place? p,
    disk.place? q ≠ some place

instance (disk : Disk) (a b : Chunk) : Decidable (Apart disk a b) :=
  inferInstanceAs (Decidable (∀ p ∈ a.destinations, ∀ q ∈ b.destinations, ∀ place ∈ disk.place? p,
    disk.place? q ≠ some place))

instance (disk : Disk) : Std.Symm (Apart disk) where
  symm := fun _ _ hab q hq p hp place hplace hplace' => hab p hp q hq place hplace' hplace

/-- No two chunks share a destination. -/
def Separate (disk : Disk) (chunks : List Chunk) : Prop :=
  chunks.Pairwise (Apart disk)

instance (disk : Disk) (chunks : List Chunk) : Decidable (Separate disk chunks) :=
  inferInstanceAs (Decidable (chunks.Pairwise (Apart disk)))

/-- Two chunks with a destination that leads to the same place are the same chunk. -/
theorem Separate.eq (h : Separate disk chunks) {a b : Chunk} (ha : a ∈ chunks) (hb : b ∈ chunks)
    {p q : Path} (hp : p ∈ a.destinations) (hq : q ∈ b.destinations) {place : Place}
    (hfind : disk.find true p = .ok place) (hfind' : disk.find true q = .ok place) : a = b := by
  refine Classical.byContradiction fun hne => ?_
  have hapart : Apart disk a b := List.Pairwise.forall h ha hb hne
  exact hapart p hp q hq place (Disk.place?_eq_some_iff.2 hfind) (Disk.place?_eq_some_iff.2 hfind')

/-- What stands at a destination of a chunk was written for the chunk, when it was written at all.
-/
theorem Separate.read_of_writtenAt {all : List Chunk} (h : Separate disk all)
    (hall : ∀ chunk ∈ chunks, chunk ∈ all) {chunk : Chunk} (hc : chunk ∈ chunks) {p : Path}
    (hp : p ∈ chunk.destinations) {place : Place} (hfind : disk.find true p = .ok place)
    (hwritten : Flush.WrittenAt disk (Flush.outputs settings chunks) place) :
    disk.read p = .ok (Flush.render settings chunk) := by
  obtain ⟨output, ho, hfind', hentry⟩ := hwritten
  -- what was written there last is an output of the same chunk
  obtain ⟨other, hother, q, hq, rfl⟩ := Flush.mem_outputs.1 ho
  obtain rfl := h.eq (hall chunk hc) (hall other hother) hp hq hfind hfind'
  exact Disk.read_eq_ok_iff.2 ⟨place, hfind, hentry⟩

/-- A chunk that was written stands on the disk. -/
theorem standing_of_flush (h : flush settings disk chunks = (disk', .ok stats, log))
    {all : List Chunk} (hall : ∀ chunk ∈ chunks, chunk ∈ all) (hseparate : Separate disk' all)
    {chunk : Chunk} (hc : chunk ∈ chunks) : Standing settings disk' chunk := by
  intro p hp
  obtain ⟨-, houtputs, -⟩ := flush_spec h
  obtain ⟨place, hfind, hwritten⟩ :=
    houtputs ⟨p, Flush.render settings chunk⟩ (Flush.mem_outputs.2 ⟨chunk, hc, p, hp, rfl⟩)
  exact hseparate.read_of_writtenAt hall hc hp hfind hwritten

/-- A destination that was a file reads what is written for the chunk, even if other writes fail. -/
theorem read_of_flush_of_isFile (h : flush settings disk chunks = (disk', result, log))
    {all : List Chunk} (hall : ∀ chunk ∈ chunks, chunk ∈ all) (hseparate : Separate disk' all)
    {chunk : Chunk} (hc : chunk ∈ chunks) {p : Path} (hp : p ∈ chunk.destinations)
    (hfile : disk.isFile p = true) : disk'.read p = .ok (Flush.render settings chunk) := by
  have hmem : ⟨p, Flush.render settings chunk⟩ ∈ Flush.outputs settings chunks :=
    Flush.mem_outputs.2 ⟨chunk, hc, p, hp, rfl⟩
  obtain ⟨place, hfind, hwritten⟩ := written_of_isFile h hmem hfile
  exact hseparate.read_of_writtenAt hall hc hp hfind hwritten

/-- A path reads what it read before, unless something was written where it leads. -/
theorem read_of_flush (h : flush settings disk chunks = (disk', .ok stats, log)) {p : Path}
    {content : ByteArray} (hread : disk.read p = .ok content)
    (hfree : ∀ chunk ∈ chunks, ∀ q ∈ chunk.destinations, ∀ place, disk'.find true p = .ok place →
      disk'.find true q ≠ .ok place) :
    disk'.read p = .ok content := by
  obtain ⟨hgrows, -, hplaces⟩ := flush_spec h
  obtain ⟨place, hfind, hentry⟩ := Disk.read_eq_ok_iff.1 hread
  have hfind' := Disk.find_of_grows hgrows hfind
  rcases hplaces place _ hentry with hsame | ⟨output, ho, hfind'', -⟩
  · exact Disk.read_eq_ok_iff.2 ⟨place, hfind', hsame⟩
  · obtain ⟨chunk, hc, q, hq, rfl⟩ := Flush.mem_outputs.1 ho
    exact absurd hfind'' (hfree chunk hc q hq place hfind')

/-- A chunk that was not written stands as before. -/
theorem standing_of_flush_of_not_mem (h : flush settings disk chunks = (disk', .ok stats, log))
    {all : List Chunk} (hall : ∀ chunk ∈ chunks, chunk ∈ all) (hseparate : Separate disk' all)
    {chunk : Chunk} (hc : chunk ∈ all) (hn : chunk ∉ chunks) (hs : Standing settings disk chunk) :
    Standing settings disk' chunk := by
  intro p hp
  refine read_of_flush h (hs p hp) fun other hother q hq place hfind hfind' => ?_
  -- no output of another chunk was written there
  obtain rfl := hseparate.eq hc (hall other hother) hp hq hfind hfind'
  exact hn hother

end Minipack
