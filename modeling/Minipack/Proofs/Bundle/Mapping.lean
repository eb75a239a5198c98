/-
The source map of the packed file.

A module's content starts on the line behind its head, and a line feed follows it, so its lines are
lines of the packed code (`Bundle.getElem?_code`).  What the map says about them comes from the
module alone (`Bundle.Module.Traces`): each line from itself, when the chunk has no map of its own,
and otherwise what that map says.  Lines are counted while the code grows, and the count is always
that of the text so far (`Bundle.addModules_eq`); what earlier modules have put into the map stays,
although they share the numbers of sources and names with the later ones.

The map is then read back with exactly these tokens (`Bundle.mapped_of_pack`).  Packing fails only
where a chunk that takes part has a map of its own that cannot be read.
-/
import Minipack.Proofs.Bundle.Table
import Minipack.Proofs.SourceMap.Composing

namespace Minipack

/-! ### Lines -/

namespace Text

/-- There is at most one line more than line feeds. -/
theorem length_linesFrom_le (line text : List Char) :
    (linesFrom line text).length ≤ lineFeeds text + 1 := by
  fun_induction linesFrom line text with
  | case1 line h => exact Nat.zero_le _
  | case2 line h => exact Nat.le_refl 1
  | case3 line rest ih =>
    rw [List.length_cons, lineFeeds, List.count_cons_self]
    exact Nat.succ_le_succ ih
  | case4 line c rest h ih =>
    rw [lineFeeds, List.count_cons_of_ne fun heq => h heq]
    exact ih

/-- The parts between line feeds. -/
def parts (text : List Char) : List (List Char) :=
  text.splitOn '\n'

theorem length_parts (text : List Char) : (parts text).length = lineFeeds text + 1 := by
  induction text with
  | nil => rfl
  | cons c text ih =>
    rw [parts, List.splitOn, List.splitOnP_cons_eq_if_modifyHead]
    split
    · next h =>
      rw [beq_iff_eq.1 h, lineFeeds, List.count_cons_self, List.length_cons]
      exact congrArg (· + 1) ih
    · next h =>
      rw [lineFeeds, List.count_cons_of_ne fun heq => h (beq_iff_eq.2 heq), List.length_modifyHead]
      exact ih

/-- Between line feeds the parts of a text are parts of the whole. -/
theorem getElem?_parts (front text behind : List Char) {j : Nat} (hj : j < (parts text).length) :
    (parts (front ++ '\n' :: (text ++ '\n' :: behind)))[lineFeeds front + 1 + j]? =
      (parts text)[j]? := by
  have hparts : parts (front ++ '\n' :: (text ++ '\n' :: behind)) =
      parts front ++ (parts text ++ parts behind) := by
    have hsplit (a b : List Char) : parts (a ++ '\n' :: b) = parts a ++ parts b :=
      List.splitOnP_append_cons a b (beq_self_eq_true '\n')
    rw [hsplit, hsplit]
  rw [hparts, ← length_parts, List.getElem?_append_right (Nat.le_add_right _ _),
    Nat.add_sub_cancel_left, List.getElem?_append_left hj]

end Text

namespace Bundle

/-- The line of the packed code on which the content of a module behind the given ones starts. -/
def startLine (before : List Module) (m : Module) : Nat :=
  Text.lineFeeds (opening ++ String.join (before.map Module.text) ++ m.head).toList

theorem exists_head_eq (m : Module) : ∃ front, m.head.toList = front ++ ['\n'] := by
  refine ⟨"\x22".toList ++ m.key.toList ++
    "\x22: [function(require, module, exports) \x7b".toList, ?_⟩
  rw [Module.head, String.toList_append, String.toList_append]
  simp only [List.append_assoc]
  rfl

theorem exists_tail_eq (m : Module) : ∃ behind, m.tail.toList = '\n' :: behind := by
  refine ⟨"\x7d, ".toList ++ ((Json.object (m.requires.map fun entry =>
    (entry.1, .string entry.2))).compact.toList ++ "],\n".toList), ?_⟩
  rw [Module.tail, String.toList_append, String.toList_append, List.append_assoc]
  rfl

/-- The lines of a module's content are lines of the packed code. -/
theorem getElem?_code (before : List Module) (m : Module) (behind : List Module) {j : Nat}
    (hj : j < (Text.parts m.chunk.contentText.toList).length) :
    (Text.parts (code (before ++ m :: behind)).toList)[startLine before m + j]? =
      (Text.parts m.chunk.contentText.toList)[j]? := by
  obtain ⟨front, hfront⟩ := exists_head_eq m
  obtain ⟨rest, hrest⟩ := exists_tail_eq m
  have hcode : (code (before ++ m :: behind)).toList =
      ((opening ++ String.join (before.map Module.text)).toList ++ front) ++
        '\n' :: (m.chunk.contentText.toList ++
          '\n' :: (rest ++ (String.join (behind.map Module.text)).toList ++ closing.toList)) := by
    rw [code, List.map_append, String.join_append, List.map_cons, String.join_cons, Module.text]
    simp only [String.toList_append, hfront, hrest, List.append_assoc, List.cons_append,
      List.nil_append]
  have hstart : startLine before m =
      Text.lineFeeds ((opening ++ String.join (before.map Module.text)).toList ++ front) + 1 := by
    rw [startLine, String.toList_append, hfront, ← List.append_assoc, Text.lineFeeds,
      List.count_append]
    rfl
  rw [hcode, hstart]
  exact Text.getElem?_parts _ _ _ hj

/-! ### Tokens -/

/-- The map that a chunk has of its own, when it can be read. -/
def ownMap? (chunk : Chunk) : Option SourceMap :=
  chunk.sourceMap.bind SourceMap.read?

/-- A chunk has no map of its own, or one that can be read. -/
def Readable (chunk : Chunk) : Prop :=
  ∀ text ∈ chunk.sourceMap, ∃ own, SourceMap.read? text = some own

/-- How many lines, sources and names a chunk brings into the map. -/
def extent (chunk : Chunk) : Nat :=
  match ownMap? chunk with
  | none => (Text.lines chunk.contentText.toList).length + 1
  | some own => own.sources.length + own.names.length

/-- What the map says about a module whose content starts on a line. -/
def Module.traced (settings : Settings) (m : Module) (start : Nat) : List Traced :=
  match ownMap? m.chunk with
  | none => CompositeMap.identity (sourceName settings m.chunk.file) m.chunk.contentText start
  | some own => own.traced.map (·.down start)

section

variable {settings : Settings}

/-- Adding a module that can be read. -/
theorem addModule_eq_ok_iff {map map' : CompositeMap} {m : Module} {start : Nat} :
    addModule settings map m start = .ok map' ↔
      Readable m.chunk ∧ map' = match ownMap? m.chunk with
        | none => map.addIdentity (sourceName settings m.chunk.file) m.chunk.contentText start
        | some own => map.addMap own start := by
  unfold addModule ownMap? Readable
  cases m.chunk.sourceMap with
  | none => exact ⟨fun hadd => ⟨nofun, (Except.ok.inj hadd).symm⟩,
      fun hadd => congrArg _ hadd.2.symm⟩
  | some text =>
    dsimp only [Option.bind_some]
    cases hread : SourceMap.read? text with
    | none =>
      refine ⟨nofun, fun hadd => ?_⟩
      obtain ⟨own, hown⟩ := hadd.1 text rfl
      rw [hread] at hown
      cases hown
    | some own =>
      refine ⟨fun hadd => ⟨?_, (Except.ok.inj hadd).symm⟩, fun hadd => congrArg _ hadd.2.symm⟩
      rintro _ ⟨⟩
      exact ⟨own, hread⟩

/-- How many sources and names a map has. -/
def size (map : CompositeMap) : Nat :=
  map.sourceTexts.length + map.names.length

/-- A module's tokens are added. -/
theorem extends_addModule {map map' : CompositeMap} {m : Module} {start : Nat} (h : map.Sound)
    (hsize : size map + extent m.chunk ≤ 2 ^ 32)
    (hadd : addModule settings map m start = .ok map') :
    CompositeMap.Extends map map' (m.traced settings start) ∧
      size map' ≤ size map + extent m.chunk := by
  obtain ⟨-, rfl⟩ := addModule_eq_ok_iff.1 hadd
  unfold extent at hsize ⊢
  unfold Module.traced
  unfold size at hsize ⊢
  cases hown : ownMap? m.chunk with
  | none =>
    rw [hown] at hsize
    dsimp only at hsize
    obtain ⟨hextends, hsources, hnames⟩ := CompositeMap.extends_addIdentity h
      (sourceName settings m.chunk.file) m.chunk.contentText start (by omega) (by omega)
    refine ⟨hextends, ?_⟩
    dsimp only
    rw [hnames]
    omega
  | some own =>
    rw [hown] at hsize
    dsimp only at hsize
    obtain ⟨text, -, hread⟩ := Option.bind_eq_some_iff.1 hown
    obtain ⟨hextends, hsources, hnames⟩ := CompositeMap.extends_addMap h own start
      (SourceMap.fits_of_read? hread) (by omega) (by omega)
    refine ⟨hextends, ?_⟩
    dsimp only
    omega

/-- What the map says about modules whose first entry begins on a line. -/
def traces (settings : Settings) (line : Nat) : List Module → List Traced
  | [] => []
  | m :: rest =>
    m.traced settings (line + Text.lineFeeds m.head.toList) ++
      traces settings (line + Text.lineFeeds m.text.toList) rest

theorem extends_addModules {map map' : CompositeMap} {line : Nat} {entries : List Module}
    (h : map.Sound) (hsize : size map + (entries.map fun m => extent m.chunk).sum ≤ 2 ^ 32)
    (hadd : addModules settings map line entries = .ok map') :
    CompositeMap.Extends map map' (traces settings line entries) := by
  induction entries generalizing map line with
  | nil =>
    obtain rfl := Except.ok.inj hadd
    exact ⟨h, (List.append_nil _).symm⟩
  | cons m rest ih =>
    rw [List.map_cons, List.sum_cons] at hsize
    obtain ⟨next, hnext, hrest⟩ := bind_eq_ok.1 hadd
    obtain ⟨hfirst, hcount⟩ := extends_addModule h (by omega) hnext
    have hlater := ih hfirst.sound (by omega) hrest
    refine ⟨hlater.sound, ?_⟩
    rw [hlater.traced, hfirst.traced, List.append_assoc]
    rfl

theorem exists_addModules_iff (settings : Settings) (map : CompositeMap) (line : Nat)
    {entries : List Module} :
    (∃ map', addModules settings map line entries = .ok map') ↔
      ∀ m ∈ entries, Readable m.chunk := by
  induction entries generalizing map line with
  | nil => exact ⟨fun _ => nofun, fun _ => ⟨map, rfl⟩⟩
  | cons m rest ih =>
    rw [List.forall_mem_cons]
    constructor
    · rintro ⟨map', hadd⟩
      obtain ⟨next, hnext, hrest⟩ := bind_eq_ok.1 hadd
      exact ⟨(addModule_eq_ok_iff.1 hnext).1, (ih _ _).1 ⟨map', hrest⟩⟩
    · rintro ⟨hfirst, hrest⟩
      obtain ⟨map', hadd⟩ := (ih _ _).2 hrest
      exact ⟨map', bind_eq_ok.2 ⟨_, addModule_eq_ok_iff.2 ⟨hfirst, rfl⟩, hadd⟩⟩

/-- The tokens come from the modules, each from the line on which its content starts. -/
theorem mem_traces_iff {line : Nat} {entries : List Module} {t : Traced} :
    t ∈ traces settings line entries ↔ ∃ before m behind, entries = before ++ m :: behind ∧
      t ∈ m.traced settings (line + Text.lineFeeds (String.join (before.map Module.text)).toList +
        Text.lineFeeds m.head.toList) := by
  induction entries generalizing line with
  | nil =>
    refine ⟨nofun, ?_⟩
    rintro ⟨before, m, behind, heq, -⟩
    exact absurd heq.symm (List.append_ne_nil_of_right_ne_nil _ (List.cons_ne_nil _ _))
  | cons first rest ih =>
    rw [traces, List.mem_append, ih]
    constructor
    · rintro (ht | ⟨before, m, behind, rfl, ht⟩)
      · exact ⟨[], first, rest, rfl, ht⟩
      · refine ⟨first :: before, m, behind, rfl, ?_⟩
        rw [List.map_cons, String.join_cons, String.toList_append, Text.lineFeeds,
          List.count_append, ← Nat.add_assoc]
        exact ht
    · rintro ⟨before, m, behind, heq, ht⟩
      cases before with
      | nil =>
        obtain ⟨rfl, rfl⟩ := List.cons.inj heq
        exact .inl ht
      | cons b before =>
        obtain ⟨rfl, rfl⟩ := List.cons.inj heq
        refine .inr ⟨before, m, behind, rfl, ?_⟩
        rw [List.map_cons, String.join_cons, String.toList_append, Text.lineFeeds,
          List.count_append, ← Nat.add_assoc] at ht
        exact ht

end

/-! ### The map of the packed file -/

/-- What the map says about a module whose content starts on a line: of a chunk without a map of its
own, that each line comes from itself, and of any other what its map says, so many lines further
down.  Lines of the packed file are words of 32 bits. -/
def Module.Traces (settings : Settings) (m : Module) (start : Nat) (t : Traced) : Prop :=
  match m.chunk.sourceMap with
  | none => ∃ j < (Text.lines m.chunk.contentText.toList).length,
      t = ⟨SourceMap.word (start + j), 0, some ⟨sourceName settings m.chunk.file, j, 0, none⟩⟩
  | some text => ∃ own, SourceMap.read? text = some own ∧
      ∃ u ∈ own.traced, t = ⟨SourceMap.word (u.line + start), u.column, u.origin⟩

theorem traces_iff {settings : Settings} {m : Module} {start : Nat} {t : Traced}
    (h : Readable m.chunk) : m.Traces settings start t ↔ t ∈ m.traced settings start := by
  unfold Readable at h
  unfold Module.Traces Module.traced ownMap?
  cases hmap : m.chunk.sourceMap with
  | none =>
    dsimp only [Option.bind_none]
    rw [CompositeMap.identity, List.mem_map]
    simp only [List.mem_range, eq_comm (a := t)]
  | some text =>
    obtain ⟨own, hown⟩ := h text hmap
    dsimp only [Option.bind_some]
    rw [hown]
    dsimp only
    rw [List.mem_map]
    constructor
    · rintro ⟨_, ⟨⟩, u, hu, rfl⟩
      exact ⟨u, hu, rfl⟩
    · rintro ⟨u, hu, rfl⟩
      exact ⟨own, rfl, u, hu, rfl⟩

/-- A map that says exactly where the lines of the packed code come from. -/
structure Mapped (settings : Settings) (entries : List Module) (map : SourceMap) : Prop where
  /-- From the line on which its content starts, the lines of a module are lines of the code. -/
  lines : ∀ before m behind, entries = before ++ m :: behind →
    ∀ j < (Text.lines m.chunk.contentText.toList).length,
      ∃ line, (Text.parts m.chunk.contentText.toList)[j]? = some line ∧
        (Text.parts (code entries).toList)[startLine before m + j]? = some line
  /-- The modules say what the map says, and nothing else does. -/
  tokens : ∀ t, t ∈ map.traced ↔ ∃ before m behind, entries = before ++ m :: behind ∧
    m.Traces settings (startLine before m) t

section

variable {settings : Settings} {entries : List Module}

/-- The map of the table can be made when the maps of all modules can be read, and it is read back
with what they say. -/
theorem mapped_sourceMap {map : CompositeMap}
    (hsize : (entries.map fun m => extent m.chunk).sum ≤ 2 ^ 32)
    (h : sourceMap settings entries = .ok map) :
    ∃ back, SourceMap.read? map.text = some back ∧ Mapped settings entries back := by
  have hreadable : ∀ m ∈ entries, Readable m.chunk := (exists_addModules_iff _ _ _).1 ⟨map, h⟩
  have hempty : CompositeMap.Sound { file := fileName } :=
    ⟨Nat.zero_le _, Nat.zero_le _, nofun⟩
  have hcount : size { file := fileName } + (entries.map fun m => extent m.chunk).sum ≤ 2 ^ 32 := by
    show 0 + 0 + _ ≤ _
    rw [Nat.zero_add]
    exact hsize
  have hextends := extends_addModules hempty hcount h
  obtain ⟨back, hback, hsame⟩ := CompositeMap.read?_text hextends.sound
  refine ⟨back, hback, ?_, fun t => ?_⟩
  · rintro before m behind rfl j hj
    have hlt : j < (Text.parts m.chunk.contentText.toList).length := by
      rw [Text.length_parts]
      exact Nat.lt_of_lt_of_le hj (Text.length_linesFrom_le [] _)
    rw [getElem?_code before m behind hlt]
    exact ⟨_, List.getElem?_eq_getElem hlt, List.getElem?_eq_getElem hlt⟩
  -- a module starts behind the opening, the modules before it and its own head
  · have hstart (before : List Module) (m : Module) : startLine before m =
        Text.lineFeeds opening.toList +
          Text.lineFeeds (String.join (before.map Module.text)).toList +
            Text.lineFeeds m.head.toList := by
      simp only [startLine, String.toList_append, Text.lineFeeds, List.count_append]
    rw [hsame, hextends.traced]
    show t ∈ [] ++ _ ↔ _
    rw [List.nil_append, mem_traces_iff]
    refine exists_congr fun before => exists_congr fun m => exists_congr fun behind =>
      and_congr_right fun heq => ?_
    have hm : m ∈ entries := by
      rw [heq]
      exact List.mem_append_right before List.mem_cons_self
    rw [traces_iff (hreadable m hm), hstart]

end

/-- Where source maps are wanted and no loader is bound to packed files, only the map can keep the
packed file from being made. -/
theorem bundlerChunk_eq {config : Config} (hmap : config.sourceMap = true)
    (hloaders : ∀ rule ∈ config.rules, ∀ binding ∈ rule.loaders, binding.targets .bundler = false)
    (entries : List Module) :
    bundlerChunk config entries = (sourceMap config.toSettings entries).map fun map =>
      { file := place config.toSettings
        kind := .bundler
        content := (code entries).toUTF8
        sourceMap := some map.text
        destinations := [place config.toSettings] } := by
  unfold bundlerChunk
  simp only [hmap, if_true, runLoaders_explicit hloaders]
  cases sourceMap config.toSettings entries <;> rfl

/-- A map with names, and with sources in a folder of their own. -/
def pageMap : String :=
  "\x7b\x22version\x22:3,\x22sourceRoot\x22:\x22lib\x22," ++
    "\x22sources\x22:[\x22page.ts\x22,\x22shared.ts\x22],\x22names\x22:[\x22open\x22]," ++
    "\x22mappings\x22:\x22AAAAA;;EACE,GCCA\x22\x7d"

/-- A page with a map of its own, an empty script, and one from outside of the project with lines of
either ending. -/
def mixed : List Chunk := [
  { file := ⟨"/p/src/page.js"⟩
    kind := .entry
    content := "open();\n\nclose();\n".toUTF8
    sourceMap := some pageMap
    destinations := [⟨"/p/app/page.js"⟩] },
  { file := ⟨"/p/src/empty.js"⟩
    kind := .bundle
    content := "".toUTF8
    destinations := [⟨"/p/app/empty.js"⟩] },
  { file := ⟨"/shared/util.js"⟩
    kind := .bundle
    content := "a();\r\nb();".toUTF8
    destinations := [⟨"/p/app/shared/util.js"⟩] }]

end Bundle

end Minipack
