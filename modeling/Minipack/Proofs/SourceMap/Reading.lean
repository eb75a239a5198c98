/-
A map that was put together is read back (`CompositeMap.read?_text`).

The document of the map has its parts under known names, so it is read as a record; its texts and
its mappings are read back as they were written.  Sources and names keep their numbers, so tokens
say what they said before.  The numbers are words of 32 bits: a map can have so many sources and
names.
-/
import Minipack.Proofs.Json.Writing
import Minipack.Proofs.SourceMap.Mappings

namespace Minipack

/-- What the tokens of a map say. -/
def SourceMap.traced (map : SourceMap) : List Traced :=
  map.tokens.map (SourceToken.traced map.sources map.names)

namespace CompositeMap

/-- The texts of the sources. -/
def sourceTexts (map : CompositeMap) : List String :=
  map.sources.map Prod.fst

/-- What the tokens of a map under construction say. -/
def traced (map : CompositeMap) : List Traced :=
  map.tokens.map (SourceToken.traced map.sourceTexts map.names)

/-- A map whose tokens refer to its sources and names, and whose numbers are words of 32 bits. -/
structure Sound (map : CompositeMap) : Prop where
  sources : map.sourceTexts.length ≤ 2 ^ 32
  names : map.names.length ≤ 2 ^ 32
  fits : ∀ token ∈ map.tokens, token.Fits map.sourceTexts.length map.names.length

/-! ### The document -/

/-- The version is the only number of the document. -/
theorem exact_toJson (map : CompositeMap) : map.toJson.Exact := by
  have hsources : Json.ExactItems (map.sources.map fun source => .string source.1) :=
    Json.exactItems_iff.2 (List.forall_mem_map.2 fun _ _ => True.intro)
  have hnames : Json.ExactItems (map.names.map .string) :=
    Json.exactItems_iff.2 (List.forall_mem_map.2 fun _ _ => True.intro)
  have hcontents : Json.ExactItems (map.sources.map fun source => contentValue source.2) := by
    refine Json.exactItems_iff.2 (List.forall_mem_map.2 fun source _ => ?_)
    cases source.2 <;> exact True.intro
  have hversion : 3 ≤ JsonReader.maxWord := by decide
  unfold toJson
  split
  · exact ⟨hversion, True.intro, hsources, hcontents, hnames, True.intro, True.intro⟩
  · exact ⟨hversion, True.intro, hsources, hnames, True.intro, True.intro⟩

/-- Texts that may be missing are read back. -/
theorem toOption_contentValue (contents : List (Option String)) :
    Document.toOption (Document.toListOf (Document.toOption Document.toText))
      (.ofJson (.array (contents.map contentValue))) = .ok (some contents) := by
  refine congrArg (Except.map some) (Document.toListOf_eq_ok_iff.2 ⟨_, rfl, ?_⟩)
  rw [Document.ofItems_eq_map, List.map_map, List.forall₂_map_left_iff, List.forall₂_same]
  intro content _
  cases content with
  | none => rfl
  | some content => exact congrArg (Except.map some) (Document.validText_ofString content)

theorem toValue_string (text : String) :
    SourceMap.toValue (.ofJson (.string text)) = .ok (.string text) := by
  have hvalue : (Document.ofJson (.string text)).json? = some (.string text) :=
    congrArg (Option.map Json.string) (RawText.text?_ofString text)
  rw [SourceMap.toValue, hvalue]

/-- Values that are texts are read back. -/
theorem toOption_string (texts : List String) :
    Document.toOption (Document.toListOf SourceMap.toValue) (.ofJson (.array (texts.map .string))) =
      .ok (some (texts.map .string)) := by
  refine congrArg (Except.map some) (Document.toListOf_eq_ok_iff.2 ⟨_, rfl, ?_⟩)
  rw [Document.ofItems_eq_map, List.map_map, List.forall₂_map_left_iff, List.forall₂_map_right_iff,
    List.forall₂_same]
  exact fun text _ => toValue_string text

section

variable (part : SourceMap.Raw)

theorem set_file (file : String) : part.set "file" (.ofJson (.string file)) = .ok part :=
  congrArg (fun value : Except ShapeFault Json => value.map some >>= fun _ => pure part)
    (toValue_string file)

theorem set_sources (texts : List String) :
    part.set "sources" (.ofJson (.array (texts.map .string))) =
      .ok { part with sources := texts.map some } := by
  have hread := toOption_contentValue (texts.map some)
  rw [List.map_map] at hread
  exact congrArg (fun sources : Except ShapeFault (Option (List (Option String))) =>
    sources >>= fun sources => pure { part with sources := sources.getD [] }) hread

theorem set_contents (contents : List (Option String)) :
    part.set "sourcesContent" (.ofJson (.array (contents.map contentValue))) =
      .ok { part with contents := contents } :=
  congrArg (fun contents : Except ShapeFault (Option (List (Option String))) =>
    (contents >>= fun contents => pure { part with contents := contents.getD [] } :
      Except ShapeFault SourceMap.Raw)) (toOption_contentValue contents)

theorem set_names (names : List String) :
    part.set "names" (.ofJson (.array (names.map .string))) = .ok { part with names := names } := by
  have hnames : (names.map Json.string).map SourceMap.nameOf = names := by
    rw [List.map_map]
    exact List.map_id names
  refine (congrArg (fun names : Except ShapeFault (Option (List Json)) =>
    names >>= fun names => pure { part with names := (names.getD []).map SourceMap.nameOf })
    (toOption_string names)).trans ?_
  show Except.ok { part with names := (names.map Json.string).map SourceMap.nameOf } = _
  rw [hnames]

theorem set_mappings (mappings : String) :
    part.set "mappings" (.ofJson (.string mappings)) = .ok { part with mappings := mappings } :=
  congrArg (fun mappings : Except ShapeFault String => (mappings.map some >>=
    fun mappings => pure { part with mappings := mappings.getD "" } :
      Except ShapeFault SourceMap.Raw)) (Document.validText_ofString mappings)

end

/-- The parts of the map that are read. -/
def raw (map : CompositeMap) : SourceMap.Raw where
  sources := map.sourceTexts.map some
  contents := if map.sources.any fun source => source.2.isSome then map.sources.map Prod.snd else []
  names := map.names
  mappings := map.mappings

/-- The document of the map is read part by part. -/
theorem toRecord_toJson (map : CompositeMap) :
    Document.toRecord "struct RawSourceMap" SourceMap.fields SourceMap.Raw.set {}
      (.ofJson map.toJson) = .ok map.raw := by
  have hsources : map.sources.map (fun source => Json.string source.1) =
      map.sourceTexts.map .string := List.map_map.symm
  have hcontents : map.sources.map (fun source => contentValue source.2) =
      (map.sources.map Prod.snd).map contentValue := by
    rw [List.map_map]
    rfl
  unfold toJson raw
  rw [hsources, hcontents]
  split
  · refine Document.toRecord_ofJson ?_ ?_ ?_
    · exact .cons rfl (.cons (set_file _ _) (.cons (set_sources _ _) (.cons (set_contents _ _)
        (.cons (set_names _ _) (.cons (set_mappings _ _) .nil)))))
    · simp [SourceMap.fields]
    · simp
  · refine Document.toRecord_ofJson ?_ ?_ ?_
    · exact .cons rfl (.cons (set_file _ _) (.cons (set_sources _ _)
        (.cons (set_names _ _) (.cons (set_mappings _ _) .nil))))
    · simp [SourceMap.fields]
    · simp

/-! ### Reading back -/

theorem pairwise_line_mergeSort (tokens : List SourceToken) :
    (tokens.mergeSort precedes).Pairwise fun a b => a.line ≤ b.line := by
  have hsorted : (tokens.mergeSort precedes).Pairwise fun a b => precedes a b = true := by
    refine List.pairwise_mergeSort ?_ ?_ tokens
    · intro a b c hab hbc
      simp only [precedes, Bool.or_eq_true, Bool.and_eq_true, decide_eq_true_eq,
        beq_iff_eq] at hab hbc ⊢
      omega
    · intro a b
      simp only [precedes, Bool.or_eq_true, Bool.and_eq_true, decide_eq_true_eq, beq_iff_eq]
      omega
  refine hsorted.imp fun {a b} hab => ?_
  simp only [precedes, Bool.or_eq_true, Bool.and_eq_true, decide_eq_true_eq, beq_iff_eq] at hab
  omega

/-- The mappings of a map are read as its tokens, but for what one without a source cannot say. -/
theorem tokensFrom?_mappings {map : CompositeMap} (h : map.Sound) :
    ∃ read, SourceMap.tokensFrom? map.sourceTexts.length map.names.length 0 {} [[]]
        (map.mappings.toList.splitOn ';') = some read ∧
      ∀ t, t ∈ read.map SourceToken.bare ↔ t ∈ map.tokens.map SourceToken.bare := by
  have hafter : After {} (map.tokens.mergeSort precedes) :=
    ⟨fun _ _ => Nat.zero_le _, pairwise_line_mergeSort map.tokens⟩
  have hzero : Position.Fits {} := ⟨by decide, by decide, by decide, by decide, by decide⟩
  obtain ⟨read, hread, hmem⟩ := readOn?_mappingsFrom h.sources h.names
    (fun token ht => h.fits token (List.mem_mergeSort.1 ht)) hzero none hafter
  refine ⟨read, ?_, fun t => ?_⟩
  · rw [SourceMap.tokensFrom?_of_unmarked 0 {} (by simp), SourceMap.tokensFrom?_splitOn, mappings,
      String.toList_ofList]
    exact hread
  · have hiff := hmem t
    rw [Option.map_none, or_iff_left (Option.not_mem_none t),
      or_iff_left (Option.not_mem_none t)] at hiff
    rw [hiff]
    exact ((List.mergeSort_perm map.tokens precedes).map SourceToken.bare).mem_iff

/-- The text of a map is a document that no guard line keeps from being read. -/
theorem withoutGuard?_text (map : CompositeMap) :
    SourceMap.withoutGuard? map.text.toUTF8.toList = some map.text.toUTF8.toList := by
  have hfirst : map.text.toUTF8.toList.head? = some 0x7b := by
    rw [toList_toUTF8]
    show (utf8 (Json.object _).compact.toList).head? = _
    rw [JsonReader.utf8_compact_object]
    rfl
  rw [SourceMap.withoutGuard?, hfirst]
  rfl

/-- The text of a map is read as a map that says the same. -/
theorem read?_text {map : CompositeMap} (h : map.Sound) :
    ∃ back, SourceMap.read? map.text = some back ∧ ∀ t, t ∈ back.traced ↔ t ∈ map.traced := by
  obtain ⟨read, hread, hmem⟩ := tokensFrom?_mappings h
  refine ⟨⟨map.sourceTexts, map.raw.contents, map.names, read⟩, ?_, fun t => ?_⟩
  · have hdocument : Document.read? map.text.toUTF8.toList = some (.ofJson map.toJson) :=
      Document.read?_compact (exact_toJson map)
    have hsources : map.raw.sources.map (fun source => SourceMap.rooted "" (source.getD "")) =
        map.sourceTexts := by
      show (map.sourceTexts.map some).map _ = _
      rw [List.map_map]
      exact List.map_id _
    have hcount : map.raw.sources.length = map.sourceTexts.length := List.length_map _
    have hobject : SourceMap.isObject (.ofJson map.toJson) = true := rfl
    have hforeign : map.raw.foreign = false := rfl
    simp only [SourceMap.read?, withoutGuard?_text, hdocument, hobject, toRecord_toJson, hforeign,
      Option.bind_eq_bind, Option.bind_some, Except.toOption, Bool.not_true, Bool.false_eq_true,
      if_false]
    show (SourceMap.tokensFrom? map.raw.sources.length map.names.length 0 {} [[]]
      (map.mappings.toList.splitOn ';')).bind _ = _
    rw [hcount, hread, Option.bind_some]
    exact congrArg (fun sources => some (SourceMap.mk sources map.raw.contents map.names read))
      hsources
  · -- what is left out makes no difference to what tokens say
    have hbare (tokens : List SourceToken) :
        tokens.map (SourceToken.traced map.sourceTexts map.names) =
          (tokens.map SourceToken.bare).map (SourceToken.traced map.sourceTexts map.names) := by
      rw [List.map_map]
      exact List.map_congr_left fun token _ => (SourceToken.traced_bare _ _ token).symm
    show t ∈ read.map _ ↔ t ∈ map.tokens.map _
    rw [hbare read, hbare map.tokens, List.mem_map, List.mem_map]
    exact exists_congr fun token => and_congr_left fun _ => hmem token

end CompositeMap

end Minipack
