/-
What packing writes for the files of a registry.

A registry has its chunks in the order of their paths, so that packing them needs no sorting
(`Bundle.pack_of_sorted`).  What is written for a file is decided by the role of its chunk: a chunk
that takes no part is written as it is, one that takes part leaves a stub, and one that is only
required leaves nothing (`Bundle.outlet`).  The places that are written are those of
`Bundle.outlets` (`Bundle.perm_outlets`).
-/
import Minipack.Proofs.Bundle.Table
import Minipack.Proofs.Flush
import Minipack.Proofs.Registry

namespace Minipack.Bundle

variable {config : Config} {registry : Registry} {output : List Chunk} {target : Chunk}

/-! ### What is packed -/

/-- The chunks of a registry that are packed, in the order of their paths. -/
def packed (registry : Registry) : List Chunk :=
  (registry.chunks.filter participates).mergeSort inOrder

/-- A registry has its chunks in this order already. -/
theorem packed_eq {registry : Registry} (hs : registry.Sorted) :
    packed registry = registry.chunks.filter participates := by
  refine List.mergeSort_of_pairwise ((hs.filter _).imp fun h => ?_)
  rw [inOrder, h]
  rfl

theorem mem_of_mem_packed {registry : Registry} {chunk : Chunk} (h : chunk ∈ packed registry) :
    chunk ∈ registry.chunks :=
  List.mem_of_mem_filter (List.mem_mergeSort.1 h)

/-- A chunk that takes part is packed. -/
theorem mem_packed_iff {chunk : Chunk} :
    chunk ∈ packed registry ↔ chunk ∈ registry.chunks ∧ participates chunk = true := by
  rw [packed, List.mem_mergeSort, List.mem_filter]

/-- A chunk that takes part has a module. -/
theorem exists_module (ht : target ∈ registry.chunks) (hp : participates target = true) :
    ∃ m ∈ modules (packed registry), m.chunk = target := by
  have hprimary : ∀ chunk ∈ packed registry, ∃ p, chunk.destination? = some p := fun chunk hc =>
    exists_destination (mem_packed_iff.1 hc).2
  have hmem : target ∈ (modules (packed registry)).map Module.chunk := by
    rw [map_chunk_modules hprimary]
    exact mem_packed_iff.2 ⟨ht, hp⟩
  exact List.mem_map.1 hmem

/-- Packing chunks that are in the order of their paths. -/
def packInOrder (config : Config) (chunks : List Chunk) : Except Error (List Chunk) :=
  let (packed, others) := chunks.partition participates
  if packed.isEmpty then .ok others
  else do
    let modules := modules packed
    let bundler ← bundlerChunk config modules
    let stubs := (modules.filter fun m => m.chunk.kind != .bundle).map (stub config.toSettings)
    return others ++ bundler :: stubs

/-- The chunks of a registry are packed without sorting them. -/
theorem pack_of_sorted (hs : registry.Sorted) :
    pack config registry.chunks = packInOrder config registry.chunks := by
  have hpacked : (registry.chunks.filter participates).mergeSort inOrder =
      registry.chunks.filter participates := packed_eq hs
  unfold pack packInOrder
  rw [List.partition_eq_filter_filter]
  dsimp only
  rw [hpacked]

/-- The stubs of the modules that are not only required. -/
def stubs (settings : Settings) (registry : Registry) : List Chunk :=
  ((modules (packed registry)).filter fun m => m.chunk.kind != .bundle).map (stub settings)

theorem mem_stubs_iff {settings : Settings} {chunk : Chunk} :
    chunk ∈ stubs settings registry ↔
      ∃ m ∈ modules (packed registry), m.chunk.kind ≠ .bundle ∧ stub settings m = chunk := by
  rw [stubs, List.mem_map]
  refine exists_congr fun m => ?_
  rw [List.mem_filter, bne_iff_ne, and_assoc]

/-- Where no chunk takes part, all are written, and else those that take no part, the packed file
and the stubs. -/
theorem pack_cases (h : pack config registry.chunks = .ok output) :
    (registry.chunks.any participates = false ∧ output = registry.chunks) ∨
      registry.chunks.any participates = true ∧ ∃ bundler,
        bundlerChunk config (modules (packed registry)) = .ok bundler ∧
        output = (registry.chunks.filter fun c => !participates c) ++
          bundler :: stubs config.toSettings registry := by
  have hempty : (registry.chunks.filter participates).isEmpty =
      !registry.chunks.any participates := by
    rw [Bool.eq_iff_iff, List.isEmpty_iff, List.filter_eq_nil_iff, Bool.not_eq_true',
      List.any_eq_false]
  rw [pack_eq, hempty] at h
  cases hany : registry.chunks.any participates with
  | false =>
    rw [hany, Bool.not_false, if_pos rfl] at h
    refine Or.inl ⟨rfl, ?_⟩
    rw [← Except.ok.inj h]
    exact List.filter_eq_self.2 fun c hc => by simpa using List.any_eq_false.1 hany c hc
  | true =>
    rw [hany, Bool.not_true, if_neg Bool.false_ne_true] at h
    obtain ⟨bundler, hbundler, rfl⟩ := map_eq_ok.1 h
    exact Or.inr ⟨rfl, bundler, hbundler, rfl⟩

/-! ### What is written for a file -/

/-- What is written for a file: its chunk where that takes no part, and else at most the stub of its
module, next to the packed file. -/
structure Outlet (config : Config) (registry : Registry) (output : List Chunk) (target : Chunk) :
    Prop where
  whole : participates target = false → target ∈ output
  stub : ∀ m ∈ modules (packed registry), m.chunk = target → target.kind ≠ .bundle →
    stub config.toSettings m ∈ output
  only : participates target = true → ∀ o ∈ output, o.file.Same target.file → o.kind = .bundler ∨
    target.kind ≠ .bundle ∧ ∃ m ∈ modules (packed registry), m.chunk = target ∧
      o = Bundle.stub config.toSettings m

/-- What packing writes for the file of a chunk. -/
theorem outlet (hs : registry.Sorted) (h : pack config registry.chunks = .ok output)
    (ht : target ∈ registry.chunks) : Outlet config registry output target := by
  -- two chunks of one file are one chunk
  have hone {chunk : Chunk} (hc : chunk ∈ registry.chunks) (hsame : chunk.file.Same target.file) :
      chunk = target := by
    have hget := hs.get?_of_mem hc
    rw [Registry.get?_congr hsame, hs.get?_of_mem ht] at hget
    exact (Option.some.inj hget).symm
  rcases pack_cases h with ⟨hnone, rfl⟩ | ⟨-, bundler, hbundler, rfl⟩
  · have hapart : participates target = false := by
      simpa using List.any_eq_false.1 hnone target ht
    refine ⟨fun _ => ht, fun m hm hchunk => ?_, fun hp => ?_⟩
    · have hp := (mem_packed_iff.1 (modules_spec hm).1).2
      rw [hchunk, hapart] at hp
      cases hp
    · rw [hapart] at hp
      cases hp
  · refine ⟨fun hp => ?_, fun m hm hchunk hkind => ?_, fun hp o ho hsame => ?_⟩
    · apply List.mem_append_left
      exact List.mem_filter.2 ⟨ht, by rw [hp]; rfl⟩
    · apply List.mem_append_right
      apply List.mem_cons_of_mem
      exact mem_stubs_iff.2 ⟨m, hm, hchunk ▸ hkind, rfl⟩
    · rcases List.mem_append.1 ho with ho | ho
      · -- a chunk that takes no part is of another file
        obtain ⟨hmem, hnot⟩ := List.mem_filter.1 ho
        rw [hone hmem hsame, hp] at hnot
        cases hnot
      · rcases List.mem_cons.1 ho with rfl | ho
        · exact Or.inl (shape_of_bundlerChunk hbundler).2.1
        · obtain ⟨m, hm, hkind, rfl⟩ := mem_stubs_iff.1 ho
          have hchunk : m.chunk = target := hone (mem_of_mem_packed (modules_spec hm).1) hsame
          exact Or.inr ⟨hchunk ▸ hkind, m, hm, hchunk, rfl⟩

/-- A text that begins otherwise than with a byte order mark keeps its front. -/
theorem stripMark_append {front : String} (text : String) (hsize : 3 ≤ front.toUTF8.size)
    (hfront : (front.toUTF8.extract 0 3).toList ≠ [0xef, 0xbb, 0xbf]) :
    stripMark (front ++ text).toUTF8 = (front ++ text).toUTF8 := by
  have hsplit : (front ++ text).toUTF8 = front.toUTF8 ++ text.toUTF8 := String.toByteArray_append
  have hrest : text.toUTF8.extract (0 - front.toUTF8.size) (3 - front.toUTF8.size) = .empty := by
    rw [ByteArray.extract_eq_empty_iff]
    omega
  unfold stripMark
  rw [hsplit, ByteArray.extract_append, hrest, ByteArray.append_empty, if_neg hfront]

/-- A stub is written as it is, because it does not begin with a byte order mark. -/
theorem render_stub (settings : Settings) (m : Module) :
    Flush.render settings (stub settings m) = (stubText settings m).toUTF8 := by
  have hmark : stripMark (stubText settings m).toUTF8 = (stubText settings m).toUTF8 := by
    unfold stubText
    dsimp only
    simp only [String.append_assoc]
    exact stripMark_append _ (by decide) (by decide +kernel)
  exact hmark

/-! ### The places that are written -/

/-- Where something takes part, the packed file is written. -/
theorem exists_bundler (h : pack config registry.chunks = .ok output)
    (hp : registry.chunks.any participates = true) :
    ∃ bundler ∈ output, bundlerChunk config (modules (packed registry)) = .ok bundler := by
  rcases pack_cases h with ⟨hnone, -⟩ | ⟨-, bundler, hbundler, rfl⟩
  · exact absurd (hnone.symm.trans hp) Bool.false_ne_true
  · exact ⟨bundler, List.mem_append_right _ List.mem_cons_self, hbundler⟩

/-- Chunks for all places that packed output has: the packed file where something takes part, and
every chunk but those that are only packed. -/
def outlets (settings : Settings) (registry : Registry) : List Chunk :=
  let others := registry.chunks.filter fun c => !(participates c && c.kind == .bundle)
  if registry.chunks.any participates then
    { file := place settings, kind := .bundler, destinations := [place settings] } :: others
  else others

theorem mem_outlets_of_mem {chunk : Chunk} (hc : chunk ∈ registry.chunks)
    (hb : participates chunk = false ∨ chunk.kind ≠ .bundle) (settings : Settings) :
    chunk ∈ outlets settings registry := by
  have hmem : chunk ∈ registry.chunks.filter fun c => !(participates c && c.kind == .bundle) := by
    refine List.mem_filter.2 ⟨hc, ?_⟩
    rcases hb with hb | hb
    · rw [hb]
      rfl
    · rw [beq_eq_false_iff_ne.2 hb, Bool.and_false]
      rfl
  unfold outlets
  dsimp only
  split
  · exact List.mem_cons_of_mem _ hmem
  · exact hmem

/-- Where something takes part, there is an outlet for the packed file. -/
theorem mem_outlets_place (hp : registry.chunks.any participates = true) (settings : Settings) :
    { file := place settings, kind := .bundler, destinations := [place settings] } ∈
      outlets settings registry := by
  unfold outlets
  dsimp only
  rw [if_pos hp]
  exact List.mem_cons_self

/-- A stub has the places of its chunk. -/
theorem map_destinations_stubs (settings : Settings) (registry : Registry) :
    (stubs settings registry).map Chunk.destinations =
      ((packed registry).filter fun c => c.kind != .bundle).map Chunk.destinations := by
  have hprimary : ∀ chunk ∈ packed registry, ∃ p, chunk.destination? = some p := fun chunk hc =>
    exists_destination (mem_packed_iff.1 hc).2
  conv_rhs => rw [← map_chunk_modules hprimary, List.filter_map, List.map_map]
  rw [stubs, List.map_map]
  rfl

/-- The chunks that take no part and those with a stub are all but those that are only packed. -/
theorem perm_others (registry : Registry) :
    ((registry.chunks.filter fun c => !participates c) ++
        (packed registry).filter fun c => c.kind != .bundle).Perm
      (registry.chunks.filter fun c => !(participates c && c.kind == .bundle)) := by
  have hkept : ((packed registry).filter fun c => c.kind != .bundle).Perm
      ((registry.chunks.filter fun c => !(participates c && c.kind == .bundle)).filter
        fun c => !!participates c) := by
    refine ((List.mergeSort_perm _ _).filter _).trans (List.Perm.of_eq ?_)
    rw [List.filter_filter, List.filter_filter]
    refine List.filter_congr fun c _ => ?_
    cases participates c <;> cases c.kind <;> rfl
  have hothers : (registry.chunks.filter fun c => !participates c) =
      (registry.chunks.filter fun c => !(participates c && c.kind == .bundle)).filter
        fun c => !participates c := by
    rw [List.filter_filter]
    refine List.filter_congr fun c _ => ?_
    cases participates c <;> rfl
  rw [hothers]
  exact (hkept.append_left _).trans (List.filter_append_perm _ _)

/-- Packed output has the places of the outlets. -/
theorem perm_outlets (h : pack config registry.chunks = .ok output) :
    (output.map Chunk.destinations).Perm
      ((outlets config.toSettings registry).map Chunk.destinations) := by
  unfold outlets
  dsimp only
  rcases pack_cases h with ⟨hnone, rfl⟩ | ⟨hany, bundler, hbundler, rfl⟩
  · have hall : (registry.chunks.filter fun c => !(participates c && c.kind == .bundle)) =
        registry.chunks := by
      refine List.filter_eq_self.2 fun c hc => ?_
      have hapart : participates c = false := by simpa using List.any_eq_false.1 hnone c hc
      rw [hapart]
      rfl
    rw [hnone, if_neg Bool.false_ne_true, hall]
  · rw [hany, if_pos rfl, List.map_append, List.map_cons, List.map_cons,
      (shape_of_bundlerChunk hbundler).2.2, map_destinations_stubs]
    refine List.perm_middle.trans (List.Perm.cons _ ?_)
    rw [← List.map_append]
    exact (perm_others registry).map Chunk.destinations

/-- Where no two outlets share a place, no two chunks of packed output do. -/
theorem separate_of_outlets {disk : Disk} (h : pack config registry.chunks = .ok output)
    (hseparate : Separate disk (outlets config.toSettings registry)) : Separate disk output := by
  let apart (ps qs : List Path) : Prop :=
    ∀ p ∈ ps, ∀ q ∈ qs, ∀ place ∈ disk.place? p, disk.place? q ≠ some place
  have hplaces : ((outlets config.toSettings registry).map Chunk.destinations).Pairwise apart :=
    (List.pairwise_map (f := Chunk.destinations) (R := apart)).2 hseparate
  have houtput : (output.map Chunk.destinations).Pairwise apart :=
    hplaces.perm (perm_outlets h).symm fun hab q hq p hp place hplace hplace' =>
      hab p hp q hq place hplace' hplace
  exact (List.pairwise_map (f := Chunk.destinations) (R := apart)).1 houtput

/-- The destinations of what packing writes. -/
theorem mem_destinations_of_pack {config : Config} {registry : Registry} {output : List Chunk}
    (h : pack config registry.chunks = .ok output) (p : Path) :
    (∃ o ∈ output, p ∈ o.destinations) ↔
      (registry.chunks.any participates = true ∧ p = place config.toSettings) ∨
      ∃ chunk ∈ registry.chunks, p ∈ chunk.destinations ∧
        (participates chunk = false ∨ chunk.kind ≠ .bundle) := by
  have hperm : (∃ o ∈ output, p ∈ o.destinations) ↔
      ∃ o ∈ outlets config.toSettings registry, p ∈ o.destinations := by
    have hmem := (perm_outlets h).flatten.mem_iff (a := p)
    rw [← List.flatMap_def, ← List.flatMap_def, List.mem_flatMap, List.mem_flatMap] at hmem
    exact hmem
  have hothers (c : Chunk) : (!(participates c && c.kind == .bundle)) = true ↔
      participates c = false ∨ c.kind ≠ .bundle := by
    rw [Bool.not_eq_true', Bool.and_eq_false_iff, beq_eq_false_iff_ne]
  -- the outlets have the same destinations, whatever their order
  rw [hperm]
  unfold outlets
  dsimp only
  constructor
  · rintro ⟨o, ho, hp⟩
    split at ho
    · next hany =>
      rcases List.mem_cons.1 ho with rfl | ho
      · exact Or.inl ⟨hany, List.mem_singleton.1 hp⟩
      · obtain ⟨ho, hkind⟩ := List.mem_filter.1 ho
        exact Or.inr ⟨o, ho, hp, (hothers o).1 hkind⟩
    · obtain ⟨ho, hkind⟩ := List.mem_filter.1 ho
      exact Or.inr ⟨o, ho, hp, (hothers o).1 hkind⟩
  · rintro (⟨hany, rfl⟩ | ⟨chunk, hc, hp, hkind⟩)
    · rw [if_pos hany]
      exact ⟨_, List.mem_cons_self, List.mem_singleton_self _⟩
    · exact ⟨chunk, mem_outlets_of_mem hc hkind _, hp⟩

end Minipack.Bundle
