/-
The table of packed modules.

Packing sorts the chunks that take part by file and makes one module of each, keyed by its primary
destination (`Bundle.modules_spec`).  Where no loader is told to change the packed file, its content
is the code of the table (`Bundle.bundlerChunk_eq_ok_iff`).  What is written instead of the chunks
is then known in full: `Bundle.pack_table`.
-/
import Mathlib.Data.List.Forall2
import Minipack.Proofs.Bundle.Keys
import Minipack.Proofs.Keyed
import Minipack.Proofs.Outcome
import Minipack.Proofs.Path.Extension
import Minipack.Proofs.Path.Parent

namespace Minipack.Bundle

open Std

/-! ### Chunks in order -/

/-- Sorting chunks of different files orders them strictly. -/
theorem pairwise_mergeSort {chunks : List Chunk}
    (h : chunks.Pairwise fun a b => ¬ a.file.Same b.file) :
    (chunks.mergeSort inOrder).Pairwise fun a b => compare a.file b.file = .lt :=
  Path.pairwise_mergeSort Chunk.file h

/-- A chunk that takes part has a primary destination. -/
theorem exists_destination {chunk : Chunk} (h : participates chunk = true) :
    ∃ p, chunk.destination? = some p := by
  cases hd : chunk.destination? with
  | some p => exact ⟨p, rfl⟩
  | none => simp [participates, Chunk.isScript, hd] at h

/-! ### Modules -/

/-- The module of a chunk among the given primary destinations. -/
def moduleOf? (places : List Path) (chunk : Chunk) : Option Module :=
  match chunk.destination? with
  | none => none
  | some destination => (key? places destination).map fun key =>
      { chunk, destination, key, requires := requires places chunk.dependencies }

theorem modules_eq (chunks : List Chunk) :
    modules chunks = chunks.filterMap (moduleOf? (primaries chunks)) := rfl

theorem moduleOf?_spec {places : List Path} {chunk : Chunk} {m : Module}
    (h : moduleOf? places chunk = some m) :
    m.chunk = chunk ∧ chunk.destination? = some m.destination ∧
      key? places m.destination = some m.key ∧ m.requires = requires places chunk.dependencies := by
  unfold moduleOf? at h
  split at h
  · cases h
  · next destination hd =>
    obtain ⟨key, hkey, rfl⟩ := Option.map_eq_some_iff.1 h
    exact ⟨rfl, hd, hkey, rfl⟩

/-- Each chunk with a primary destination has its module, in the same order. -/
theorem map_chunk_modules {chunks : List Chunk}
    (h : ∀ chunk ∈ chunks, ∃ p, chunk.destination? = some p) :
    (modules chunks).map Module.chunk = chunks := by
  have hall : ∀ chunk ∈ chunks,
      (moduleOf? (primaries chunks) chunk).map Module.chunk = some chunk := by
    intro chunk hc
    obtain ⟨p, hp⟩ := h chunk hc
    obtain ⟨key, hkey⟩ := exists_key? (contains_primaries hc hp)
    rw [moduleOf?, hp]
    dsimp only
    rw [hkey]
    rfl
  rw [modules_eq, List.map_filterMap, List.filterMap_congr hall, List.filterMap_some]

theorem modules_spec {chunks : List Chunk} {m : Module} (hm : m ∈ modules chunks) :
    m.chunk ∈ chunks ∧ m.chunk.destination? = some m.destination ∧
      key? (primaries chunks) m.destination = some m.key ∧
      m.requires = requires (primaries chunks) m.chunk.dependencies := by
  rw [modules_eq] at hm
  obtain ⟨chunk, hc, hmodule⟩ := List.mem_filterMap.1 hm
  obtain ⟨rfl, hd, hkey, hrequires⟩ := moduleOf?_spec hmodule
  exact ⟨hc, hd, hkey, hrequires⟩

/-- The destinations of the modules are the primary destinations. -/
theorem map_destination_modules {chunks : List Chunk}
    (h : ∀ chunk ∈ chunks, ∃ p, chunk.destination? = some p) :
    (modules chunks).map Module.destination = chunks.filterMap Chunk.destination? := by
  have hall : ∀ m ∈ modules chunks, m.chunk.destination? = some m.destination :=
    fun m hm => (modules_spec hm).2.1
  conv => rhs; rw [← map_chunk_modules h]
  rw [List.filterMap_map, ← List.filterMap_eq_map]
  exact (List.filterMap_congr hall).symm

/-- A place that is a primary destination is that of a module with its key. -/
theorem exists_module_of_key? {chunks : List Chunk}
    (h : ∀ chunk ∈ chunks, ∃ p, chunk.destination? = some p) {p : Path} {key : String}
    (hk : key? (primaries chunks) p = some key) :
    ∃ m ∈ modules chunks, m.destination.Same p ∧ m.key = key := by
  have hp := contains_of_key? hk
  rw [primaries_eq_foldl, Path.contains_foldl_note, ← map_destination_modules h] at hp
  obtain ⟨q, hq, hs⟩ := Path.contains_iff.1 hp
  obtain ⟨m, hm, rfl⟩ := List.mem_map.1 hq
  exact ⟨m, hm, hs, (key_eq_iff (modules_spec hm).2.2.1 hk).2 hs⟩

/-- What a module requires goes back to one of its references to a packed destination. -/
theorem exists_of_mem_requires {places : List Path} {dependencies : List Dependency}
    {entry : String × String} (h : entry ∈ requires places dependencies) :
    ∃ d ∈ dependencies, entry.1 ∈ d.specifiers ∧ key? places d.destination = some entry.2 := by
  obtain ⟨d, hd, hentry⟩ := List.mem_flatMap.1 (Keyed.mem_of_mem_ofList h)
  refine ⟨d, hd, ?_⟩
  split at hentry
  · next key hkey =>
    obtain ⟨specifier, hs, rfl⟩ := List.mem_map.1 hentry
    exact ⟨hs, hkey⟩
  · simp at hentry

/-! ### The packed file -/

section

variable {config : Config}

/-- Loaders that no rule binds to packed files leave the content alone. -/
theorem runLoaders_explicit (h : ∀ rule ∈ config.rules, ∀ binding ∈ rule.loaders,
      binding.targets .bundler = false) (file : Path) (content : ByteArray)
    (map : Option String) :
    runLoaders config .explicit (((config.rule? file).map Rule.loaders).getD []) file
      .bundler content map = .ok ⟨content, map, []⟩ := by
  have hnone : (((config.rule? file).map Rule.loaders).getD []).filter
      (LoaderPass.explicit.includes .bundler) = [] := by
    rw [List.filter_eq_nil_iff]
    intro binding hb
    cases hrule : config.rule? file with
    | none => rw [hrule] at hb; simp at hb
    | some rule =>
      rw [hrule] at hb
      have htargets := h rule (List.mem_of_find?_eq_some hrule) binding hb
      rw [LoaderPass.includes, htargets]
      exact Bool.false_ne_true
  rw [runLoaders, hnone]
  rfl

/-- The packed file has its own place, whatever loaders make of it. -/
theorem shape_of_bundlerChunk {modules : List Module} {chunk : Chunk}
    (h : bundlerChunk config modules = .ok chunk) :
    chunk.file = place config.toSettings ∧ chunk.kind = .bundler ∧
      chunk.destinations = [place config.toSettings] := by
  unfold bundlerChunk at h
  dsimp only at h
  split at h
  · obtain ⟨map, -, h⟩ := bind_eq_ok.1 h
    obtain ⟨transformed, -, h⟩ := bind_eq_ok.1 h
    rw [← pure_eq_ok.1 h]
    exact ⟨rfl, rfl, rfl⟩
  · obtain ⟨map, -, h⟩ := bind_eq_ok.1 h
    obtain ⟨transformed, -, h⟩ := bind_eq_ok.1 h
    rw [← pure_eq_ok.1 h]
    exact ⟨rfl, rfl, rfl⟩

/-- The packed file holds the code of the table. -/
theorem of_bundlerChunk (h : ∀ rule ∈ config.rules, ∀ binding ∈ rule.loaders,
      binding.targets .bundler = false) {modules : List Module} {chunk : Chunk}
    (hc : bundlerChunk config modules = .ok chunk) :
    chunk.kind = .bundler ∧ chunk.file = config.out.child fileName ∧
      chunk.destinations = [config.out.child fileName] ∧ chunk.content = (code modules).toUTF8 := by
  unfold bundlerChunk at hc
  simp only [runLoaders_explicit h] at hc
  -- the map makes no difference to the rest
  have hrest : ∃ map, chunk =
      { file := place config.toSettings, kind := .bundler, content := (code modules).toUTF8,
        sourceMap := map, destinations := [place config.toSettings] } := by
    split at hc
    · obtain ⟨map, -, hmap⟩ := bind_eq_ok.1 hc
      exact ⟨map, (Except.ok.inj hmap).symm⟩
    · exact ⟨none, (Except.ok.inj hc).symm⟩
  obtain ⟨map, rfl⟩ := hrest
  exact ⟨rfl, rfl, rfl, rfl⟩

/-- Without source maps the packed file can always be made. -/
theorem exists_bundlerChunk (h : ∀ rule ∈ config.rules, ∀ binding ∈ rule.loaders,
      binding.targets .bundler = false) (hmap : config.sourceMap = false) (modules : List Module) :
    ∃ chunk, bundlerChunk config modules = .ok chunk := by
  unfold bundlerChunk
  simp only [hmap, Bool.false_eq_true, if_false, runLoaders_explicit h]
  exact ⟨_, rfl⟩

/-! ### Stubs -/

/-- What is written in place of a module: a chunk with all that the module's chunk has, whose code
asks the packed file for the module's key. -/
structure StubOf (config : Config) (m : Module) (stub : Chunk) : Prop where
  kind : stub.kind = .entry
  file : stub.file = m.chunk.file
  destinations : stub.destinations = m.chunk.destinations
  dependencies : stub.dependencies = m.chunk.dependencies
  rule : stub.rule = m.chunk.rule
  hash : stub.hash = m.chunk.hash
  sourceMap : stub.sourceMap = none
  /-- The specifier that the stub requires, read from the folder of its primary destination, names
  the packed file without its extension. -/
  content : ∃ specifier,
    stub.content = ("require(\x22" ++ specifier ++ "\x22)(\x22" ++ m.key ++ "\x22)\n").toUTF8 ∧
      (m.destination.parent?.getD config.out).joinSpecifier specifier =
        (config.out.child "bundler").normalize

theorem stubOf_stub (hout : config.out.isAbsolute = true) {m : Module}
    (hm : m.destination.isAbsolute = true) : StubOf config m (stub config.toSettings m) where
  kind := rfl
  file := rfl
  destinations := rfl
  dependencies := rfl
  rule := rfl
  hash := rfl
  sourceMap := rfl
  content := by
    have hname : Component.IsName (.name "bundler") :=
      ⟨"bundler", rfl, by decide, by decide, by decide, by decide⟩
    have hjs : '/' ∉ "js".toList ∧ '.' ∉ "js".toList := by decide
    have hplace : (place config.toSettings).withExtension "" = config.out.child "bundler" := by
      have hfile : fileName = "bundler" ++ "." ++ "js" := by decide
      rw [place, hfile]
      exact Path.child_withExtension hout hname hjs.1 hjs.2
    refine ⟨_, rfl, ?_⟩
    rw [hplace]
    exact Path.joinSpecifier_relativeSpecifier (Path.isAbsolute_parent hm hout)
      (Path.isAbsolute_join hout _)

/-! ### Packing -/

/-- What is written instead of chunks: the packed file with one entry for each chunk that takes
part, the other chunks as they are, and the stubs. -/
structure Table (config : Config) (chunks : List Chunk) (entries : List Module)
    (output : List Chunk) : Prop where
  /-- Each chunk that takes part has one entry, and only these have. -/
  perm : (entries.map Module.chunk).Perm (chunks.filter participates)
  /-- The entries are in the order of the files. -/
  ordered : entries.Pairwise fun a b => compare a.chunk.file b.chunk.file = .lt
  primary : ∀ m ∈ entries, m.chunk.destination? = some m.destination
  /-- Entries share a key when they share the primary destination. -/
  shared : ∀ a ∈ entries, ∀ b ∈ entries, a.key = b.key ↔ a.destination.Same b.destination
  /-- The distinct primary destinations are numbered in the order of the entries. -/
  numbered : ∀ k p, (entries.map Module.destination).eraseDups[k]? = some p →
    ∀ m ∈ entries, p.Same m.destination → m.key = base32 k
  /-- What an entry requires is the key of an entry, that of one of its references. -/
  required : ∀ m ∈ entries, ∀ specifier key, (specifier, key) ∈ m.requires →
    ∃ d ∈ m.chunk.dependencies, specifier ∈ d.specifiers ∧
      ∃ e ∈ entries, e.destination.Same d.destination ∧ e.key = key
  /-- The packed file stands between the other chunks and the stubs. -/
  output : ∃ bundler stubs,
    output = (chunks.filter fun chunk => !participates chunk) ++ bundler :: stubs ∧
      bundler.kind = .bundler ∧ bundler.file = config.out.child "bundler.js" ∧
      bundler.destinations = [config.out.child "bundler.js"] ∧
      bundler.content = (prelude ++ "(\x7b\n" ++
        String.join (entries.map fun m => m.head ++ Text.decodeLossy m.chunk.content ++ m.tail) ++
        "\x7d, \x7b\x7d);\n").toUTF8 ∧
      List.Forall₂ (StubOf config) (entries.filter fun m => m.chunk.kind != .bundle) stubs

theorem pack_eq (config : Config) (chunks : List Chunk) :
    pack config chunks =
      if (chunks.filter participates).isEmpty then .ok (chunks.filter fun c => !participates c)
      else (bundlerChunk config (modules ((chunks.filter participates).mergeSort inOrder))).map
        fun bundler => (chunks.filter fun c => !participates c) ++ bundler ::
          (((modules ((chunks.filter participates).mergeSort inOrder)).filter
            fun m => m.chunk.kind != .bundle).map (stub config.toSettings)) := by
  unfold pack
  rw [List.partition_eq_filter_filter]
  dsimp only
  split
  · rfl
  · cases bundlerChunk config (modules ((chunks.filter participates).mergeSort inOrder)) with
    | ok bundler => rfl
    | error error => rfl

/-- Where no loader is bound to packed files, packing chunks of different files makes a table of
those that take part. -/
theorem pack_table {chunks output : List Chunk}
    (hloaders : ∀ rule ∈ config.rules, ∀ binding ∈ rule.loaders, binding.targets .bundler = false)
    (hfiles : chunks.Pairwise fun a b => ¬ a.file.Same b.file)
    (hout : config.out.isAbsolute = true)
    (hdestinations : ∀ chunk ∈ chunks, ∀ p ∈ chunk.destinations, p.isAbsolute = true)
    (hpart : ∃ chunk ∈ chunks, participates chunk = true)
    (h : pack config chunks = .ok output) : ∃ entries, Table config chunks entries output := by
  have hne : (chunks.filter participates).isEmpty = false := by
    obtain ⟨chunk, hc, hp⟩ := hpart
    exact List.isEmpty_eq_false_iff.2 (List.ne_nil_of_mem (List.mem_filter.2 ⟨hc, hp⟩))
  rw [pack_eq, hne, if_neg Bool.false_ne_true] at h
  obtain ⟨bundler, hbundler, rfl⟩ := map_eq_ok.1 h
  obtain ⟨hkind, hfile, hplace, hcontent⟩ := of_bundlerChunk hloaders hbundler
  have hmem : ∀ chunk ∈ (chunks.filter participates).mergeSort inOrder,
      chunk ∈ chunks ∧ participates chunk = true := fun chunk hc =>
    List.mem_filter.1 (List.mem_mergeSort.1 hc)
  have hprimary : ∀ chunk ∈ (chunks.filter participates).mergeSort inOrder,
      ∃ p, chunk.destination? = some p := fun chunk hc => exists_destination (hmem chunk hc).2
  refine ⟨modules ((chunks.filter participates).mergeSort inOrder), ?_, ?_, ?_, ?_, ?_, ?_, ?_⟩
  · rw [map_chunk_modules hprimary]
    exact List.mergeSort_perm _ _
  · rw [← List.pairwise_map (f := Module.chunk)
      (R := fun a b : Chunk => compare a.file b.file = .lt), map_chunk_modules hprimary]
    exact pairwise_mergeSort (hfiles.sublist List.filter_sublist)
  · exact fun m hm => (modules_spec hm).2.1
  · exact fun a ha b hb => key_eq_iff (modules_spec ha).2.2.1 (modules_spec hb).2.2.1
  · intro k p hk m hm hs
    rw [map_destination_modules hprimary, ← primaries_eq] at hk
    have hkey := key?_of_getElem? (pairwise_primaries _) hk hs
    rw [(modules_spec hm).2.2.1] at hkey
    exact Option.some.inj hkey
  · intro m hm specifier key hentry
    rw [(modules_spec hm).2.2.2] at hentry
    obtain ⟨d, hd, hs, hkey⟩ := exists_of_mem_requires hentry
    exact ⟨d, hd, hs, exists_module_of_key? hprimary hkey⟩
  · refine ⟨bundler, _, rfl, hkind, hfile, hplace, hcontent, ?_⟩
    rw [List.forall₂_map_right_iff, List.forall₂_same]
    intro m hm
    obtain ⟨hc, hd, -⟩ := modules_spec (List.mem_of_mem_filter hm)
    refine stubOf_stub hout (hdestinations _ (hmem _ hc).1 _ ?_)
    exact List.mem_of_mem_head? hd

/-- Without source maps packing always succeeds. -/
theorem exists_pack
    (hloaders : ∀ rule ∈ config.rules, ∀ binding ∈ rule.loaders, binding.targets .bundler = false)
    (hmap : config.sourceMap = false) (chunks : List Chunk) :
    ∃ output, pack config chunks = .ok output := by
  rw [pack_eq]
  split
  · exact ⟨_, rfl⟩
  · obtain ⟨bundler, hbundler⟩ := exists_bundlerChunk hloaders hmap
      (modules ((chunks.filter participates).mergeSort inOrder))
    rw [hbundler]
    exact ⟨_, rfl⟩

end

/-- A page and the script that it requires, given in the other order. -/
def pageAndUtil : List Chunk := [
  { file := ⟨"/p/src/util.js"⟩
    kind := .bundle
    content := "module.exports = 1".toUTF8
    destinations := [⟨"/p/app/util.js"⟩] },
  { file := ⟨"/p/src/page.js"⟩
    kind := .entry
    content := "require('./util')".toUTF8
    dependencies := [{
      file := ⟨"/p/src/page.js"⟩
      target := ⟨"/p/src/util.js"⟩
      destination := ⟨"/p/app/util.js"⟩
      required := "./util"
      replacement := some "./util.js" }]
    destinations := [⟨"/p/app/page.js"⟩] }]

/-- A page and its script are packed into a table. -/
theorem pack_pageAndUtil : ∃ entries output,
    pack { Config.of ⟨"/p"⟩ with sourceMap := false } pageAndUtil = .ok output ∧
      Table { Config.of ⟨"/p"⟩ with sourceMap := false } pageAndUtil entries output := by
  have hloaders : ∀ rule ∈ ({ Config.of ⟨"/p"⟩ with sourceMap := false } : Config).rules,
      ∀ binding ∈ rule.loaders, binding.targets .bundler = false := fun rule h => nomatch h
  obtain ⟨output, h⟩ := exists_pack hloaders rfl pageAndUtil
  obtain ⟨entries, htable⟩ := pack_table hloaders (by decide +kernel) (by decide +kernel)
    (by decide +kernel) (by decide +kernel) h
  exact ⟨entries, output, h, htable⟩

end Minipack.Bundle
