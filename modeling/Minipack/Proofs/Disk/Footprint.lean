/-
What writing chunks changes on a disk.

Making folders puts folders at free places and nothing else (`Flush.made_makeFolders`), and a flush
puts beside them only what it writes, where its destinations lead (`footprint_of_flush`).  What it
tells are its destinations (`mem_stats_of_flush`).  Where no two chunks share a destination, writing
them once more changes nothing and tells the same (`flush_again`).
-/
import Minipack.Proofs.Flush

namespace Minipack

namespace Flush

/-- What a good report tells are the files that it is about. -/
theorem mem_of_report {written : List (Output × Option DiskFault)} {stats : List Written}
    (h : report written = .ok stats) (p : Path) :
    (∃ w ∈ stats, w.destination = p) ↔ ∃ output ∈ written.map Prod.fst, output.destination = p := by
  unfold report at h
  split at h
  · cases h
  · obtain rfl := Except.ok.inj h
    constructor
    · rintro ⟨w, hw, rfl⟩
      obtain ⟨pair, hpair, rfl⟩ := List.mem_map.1 (List.mem_mergeSort.1 hw)
      exact ⟨pair.1, List.mem_map_of_mem hpair, rfl⟩
    · rintro ⟨output, ho, rfl⟩
      obtain ⟨pair, hpair, rfl⟩ := List.mem_map.1 ho
      exact ⟨_, List.mem_mergeSort.2 (List.mem_map_of_mem hpair), rfl⟩

end Flush

variable {settings : Settings} {disk disk' : Disk} {chunks : List Chunk} {stats : List Written}
  {log : List LogLine} {result : Except Error (List Written)}

/-- A flush leaves every place as it was, unless it has made a folder at a free place or written a
file there. -/
theorem footprint_of_flush (h : flush settings disk chunks = (disk', result, log)) (place : Place) :
    disk'.entryAt? place = disk.entryAt? place ∨
      (disk.entryAt? place = none ∧ disk'.entryAt? place = some .folder) ∨
      Flush.WrittenAt disk' (Flush.outputs settings chunks) place := by
  obtain ⟨made, written, rfl, hwritten, -, hmap⟩ := exists_flush h
  obtain ⟨-, -, hplaces⟩ := Flush.wrote_of_eq hwritten
  rw [hmap] at hplaces
  rcases hplaces place with hsame | hstands
  · rw [hsame]
    rcases Flush.made_makeFolders disk (Flush.outputs settings chunks) place with hkept | hmade
    · exact Or.inl hkept
    · exact Or.inr (Or.inl hmade)
  · exact Or.inr (Or.inr hstands)

/-- What a flush tells are the destinations of its chunks. -/
theorem mem_stats_of_flush (h : flush settings disk chunks = (disk', .ok stats, log)) (p : Path) :
    (∃ w ∈ stats, w.destination = p) ↔ ∃ chunk ∈ chunks, p ∈ chunk.destinations := by
  obtain ⟨made, written, rfl, hwritten, hreport, hmap⟩ := exists_flush h
  have hfst := Flush.map_fst_writeFiles (Flush.makeFolders disk (Flush.outputs settings chunks)).1
    (Flush.makeFolders disk (Flush.outputs settings chunks)).2
  rw [hwritten, hmap] at hfst
  change written.map Prod.fst = _ at hfst
  rw [Flush.mem_of_report hreport.symm, hfst]
  constructor
  · rintro ⟨output, ho, rfl⟩
    obtain ⟨chunk, hc, q, hq, rfl⟩ := Flush.mem_outputs.1 ho
    exact ⟨chunk, hc, hq⟩
  · rintro ⟨chunk, hc, hp⟩
    exact ⟨_, Flush.mem_outputs.2 ⟨chunk, hc, p, hp, rfl⟩, rfl⟩

/-! ### Writing once more -/

namespace Disk

theorem set_of_entryAt? {place : Place} {entry : Entry} (hp : place ≠ [])
    (h : disk.entryAt? place = some entry) : disk.set place entry = disk := by
  unfold entryAt? at h
  rw [if_neg (by simpa using hp)] at h
  obtain ⟨⟨there, e⟩, hfind, rfl⟩ := Option.map_eq_some_iff.1 h
  obtain rfl := Std.compare_eq_iff_eq.1 (Keyed.compare_of_find? hfind)
  unfold set
  rw [Keyed.insert_of_find? hfind]

/-- Writing what a file holds changes nothing. -/
theorem write_of_read {path : Path} {content : ByteArray} (h : disk.read path = .ok content) :
    disk.write path content = (disk, none) := by
  obtain ⟨place, before, hfind, hbefore, hwrite⟩ :=
    write_of_isFile (isFile_iff_read.2 ⟨content, h⟩) content
  obtain ⟨place', hfind', hentry⟩ := read_eq_ok_iff.1 h
  obtain rfl := Except.ok.inj (hfind.symm.trans hfind')
  rw [hwrite, set_of_entryAt? (ne_nil_of_entryAt? hbefore nofun) hentry]

end Disk

namespace Flush

/-- The folders of files that are there are made. -/
theorem makeFolders_of_isFile {outputs : List Output}
    (h : ∀ output ∈ outputs, disk.isFile output.destination = true) :
    makeFolders disk outputs = (disk, outputs.map (·, none)) := by
  induction outputs with
  | nil => rfl
  | cons output rest ih =>
    have hrest := ih fun o ho => h o (List.mem_cons_of_mem _ ho)
    rw [makeFolders]
    cases hparent : output.destination.parent? with
    | none =>
      dsimp only
      rw [hrest]
      rfl
    | some folder =>
      dsimp only
      rw [Disk.makeFolders_of_isFile (h output List.mem_cons_self) hparent]
      dsimp only
      rw [hrest]
      rfl

/-- Files that hold what is to be written are written without a change. -/
theorem writeFiles_of_read {outputs : List Output}
    (h : ∀ output ∈ outputs, disk.read output.destination = .ok output.content) :
    writeFiles disk (outputs.map (·, none)) = (disk, outputs.map (·, none)) := by
  induction outputs with
  | nil => rfl
  | cons output rest ih =>
    rw [List.map_cons, writeFiles, Disk.write_of_read (h output List.mem_cons_self)]
    dsimp only
    rw [ih fun o ho => h o (List.mem_cons_of_mem _ ho)]

end Flush

/-- Where no two chunks share a destination, writing them once more changes nothing and tells the
same. -/
theorem flush_again (h : flush settings disk chunks = (disk', .ok stats, log))
    (hseparate : Separate disk' chunks) :
    (flush settings disk' chunks).1 = disk' ∧ (flush settings disk' chunks).2.1 = .ok stats := by
  have hread : ∀ output ∈ Flush.outputs settings chunks,
      disk'.read output.destination = .ok output.content := by
    intro output ho
    obtain ⟨chunk, hc, p, hp, rfl⟩ := Flush.mem_outputs.1 ho
    exact standing_of_flush h (fun _ hc => hc) hseparate hc p hp
  have hfile : ∀ output ∈ Flush.outputs settings chunks,
      disk'.isFile output.destination = true :=
    fun output ho => Disk.isFile_iff_read.2 ⟨_, hread output ho⟩
  -- the first time, too, nothing went wrong
  obtain ⟨made, written, rfl, hwritten, hreport, hmap⟩ := exists_flush h
  have hfst := Flush.map_fst_writeFiles (Flush.makeFolders disk (Flush.outputs settings chunks)).1
    (Flush.makeFolders disk (Flush.outputs settings chunks)).2
  rw [hwritten, hmap] at hfst
  have hnone : written = (Flush.outputs settings chunks).map (·, none) := by
    rw [← hfst, List.map_map]
    refine (List.map_id written).symm.trans (List.map_congr_left fun w hw => ?_)
    exact Prod.ext rfl (Flush.faults_of_report hreport.symm w hw)
  unfold flush
  dsimp only
  rw [Flush.makeFolders_of_isFile hfile]
  dsimp only
  rw [Flush.writeFiles_of_read hread]
  exact ⟨rfl, by rw [hreport, hnone]⟩

end Minipack
