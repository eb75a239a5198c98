/-
What is added to a map under construction.

A source or a name that is there already keeps its number and a new one gets the next, so the texts
only grow at the end (`Numbered`) and the tokens that are there go on saying what they said.  The
lines of a content each say that they come from themselves (`CompositeMap.mem_traced_addIdentity`),
and the tokens of another map say what they said there, so many lines further down
(`CompositeMap.mem_traced_addMap`).  Both leave a sound map sound as long as the numbers are words.
-/
import Mathlib.Data.List.Induction
import Minipack.Proofs.SourceMap.Reading

namespace Minipack

namespace SourceMap

/-! ### Maps that have been read -/

variable {sources names : Nat}

theorem fits_of_segment? {line : Nat} {cursor next : Cursor} {numbers : List Int}
    {token : SourceToken} (h : segment? sources names line cursor numbers = some (next, token)) :
    token.Fits sources names := by
  unfold segment? at h
  split at h
  · obtain ⟨-, rfl⟩ := Prod.mk.inj (Option.some.inj h)
    exact ⟨word_lt _, nofun, nofun, nofun, nofun⟩
  · dsimp only at h
    split at h
    · cases h
    · next hsource =>
      have hlt := Nat.not_le.1 hsource
      split at h
      · obtain ⟨-, rfl⟩ := Prod.mk.inj (Option.some.inj h)
        refine ⟨word_lt _, fun _ => word_lt _, fun _ => word_lt _, ?_, fun _ => nofun⟩
        rintro i ⟨⟩
        exact hlt
      · split at h
        · cases h
        · next hname =>
          obtain ⟨-, rfl⟩ := Prod.mk.inj (Option.some.inj h)
          refine ⟨word_lt _, fun _ => word_lt _, fun _ => word_lt _, ?_, fun _ => ?_⟩
          · rintro i ⟨⟩
            exact hlt
          · rintro n ⟨⟩
            exact Nat.not_le.1 hname
      · cases h
  · cases h

theorem fits_of_lineTokens? {line : Nat} {cursor next : Cursor} {texts : List (List Char)}
    {tokens : List SourceToken}
    (h : lineTokens? sources names line cursor texts = some (next, tokens)) :
    ∀ token ∈ tokens, token.Fits sources names := by
  induction texts generalizing cursor tokens with
  | nil =>
    obtain ⟨-, rfl⟩ := Prod.mk.inj (Option.some.inj h)
    exact nofun
  | cons text texts ih =>
    cases text with
    | nil => exact ih h
    | cons c text =>
      simp only [lineTokens?, Option.bind_eq_bind, Option.bind_eq_some_iff] at h
      obtain ⟨numbers, -, ⟨after, first⟩, hfirst, ⟨last, rest⟩, hrest, h⟩ := h
      obtain ⟨rfl, rfl⟩ := Prod.mk.inj (Option.some.inj h)
      exact List.forall_mem_cons.2 ⟨fits_of_segment? hfirst, ih hrest⟩

theorem fits_of_tokensFrom? {line : Nat} {cursor : Cursor} {ranges lines : List (List Char)}
    {tokens : List SourceToken}
    (h : tokensFrom? sources names line cursor ranges lines = some tokens) :
    ∀ token ∈ tokens, token.Fits sources names := by
  induction lines generalizing line cursor ranges tokens with
  | nil =>
    obtain rfl := Option.some.inj h
    exact nofun
  | cons text lines ih =>
    cases text with
    | nil => exact ih h
    | cons c text =>
      simp only [tokensFrom?] at h
      split at h
      · cases h
      · simp only [Option.bind_eq_bind, Option.bind_eq_some_iff] at h
        obtain ⟨⟨next, first⟩, hfirst, rest, hrest, h⟩ := h
        obtain rfl := Option.some.inj h
        intro token ht
        rcases List.mem_append.1 ht with ht | ht
        · exact fits_of_lineTokens? hfirst token ht
        · exact ih hrest token ht

/-- The tokens of a map that was read refer to its sources and names. -/
theorem fits_of_read? {text : String} {map : SourceMap} (h : read? text = some map) :
    ∀ token ∈ map.tokens, token.Fits map.sources.length map.names.length := by
  simp only [read?, Option.bind_eq_bind, Option.bind_eq_some_iff] at h
  obtain ⟨bytes, -, document, -, h⟩ := h
  split at h
  · cases h
  · simp only [Option.bind_eq_some_iff] at h
    obtain ⟨raw, -, h⟩ := h
    split at h
    · cases h
    · simp only [Option.bind_eq_some_iff] at h
      obtain ⟨tokens, htokens, h⟩ := h
      obtain rfl := Option.some.inj h
      have hfits := fits_of_tokensFrom? htokens
      rw [← List.length_map (f := fun source : Option String =>
        rooted raw.sourceRoot (source.getD ""))] at hfits
      exact hfits

end SourceMap

namespace CompositeMap

/-! ### Numbers of texts -/

section

variable {α : Type} (key : α → String) (thing : α) (things : List α)

/-- A text keeps the number that it has, and a new one gets the next number. -/
theorem number_spec :
    things.map key <+: (number key thing things).1.map key ∧
      ((number key thing things).1.map key)[(number key thing things).2]? = some (key thing) ∧
      (number key thing things).1.length ≤ things.length + 1 := by
  unfold number
  split
  · next i hi =>
    obtain ⟨hlt, hkey, -⟩ := List.findIdx?_eq_some_iff_getElem.1 hi
    refine ⟨List.prefix_refl _, ?_, Nat.le_succ _⟩
    rw [List.getElem?_map, List.getElem?_eq_getElem hlt]
    exact congrArg some (beq_iff_eq.1 hkey)
  · refine ⟨?_, ?_, ?_⟩
    · rw [List.map_append]
      exact List.prefix_append _ _
    · simp
    · rw [List.length_append]
      exact Nat.le_refl _

end

/-- The texts have only grown at the end, by one for each label at most, and each label has its
number among them.  The other texts and the tokens are as before. -/
structure Numbered (texts others : CompositeMap → List String) (labels : List String)
    (map map' : CompositeMap) (numbers : List Nat) : Prop where
  grows : texts map <+: texts map'
  numbers : List.Forall₂ (fun i label => (texts map')[i]? = some label) numbers labels
  length : (texts map').length ≤ (texts map).length + labels.length
  others : others map' = others map
  tokens : map'.tokens = map.tokens

theorem getElem?_of_front {α : Type} {front whole : List α} (h : front <+: whole) {i : Nat} {a : α}
    (ha : front[i]? = some a) : whole[i]? = some a := by
  obtain ⟨rest, rfl⟩ := h
  obtain ⟨hlt, -⟩ := List.getElem?_eq_some_iff.1 ha
  rw [List.getElem?_append_left hlt]
  exact ha

theorem getElem?_eq_of_front {α : Type} {front whole : List α} (h : front <+: whole) {i : Nat}
    (hi : i < front.length) : whole[i]? = front[i]? := by
  rw [List.getElem?_eq_getElem hi]
  exact getElem?_of_front h (List.getElem?_eq_getElem hi)

section

variable {α : Type} {texts others : CompositeMap → List String}

theorem Numbered.trans {labels labels' : List String} {map map' map'' : CompositeMap}
    {numbers numbers' : List Nat} (h : Numbered texts others labels map map' numbers)
    (h' : Numbered texts others labels' map' map'' numbers') :
    Numbered texts others (labels ++ labels') map map'' (numbers ++ numbers') where
  grows := h.grows.trans h'.grows
  numbers := List.rel_append (h.numbers.imp fun _ _ hi => getElem?_of_front h'.grows hi) h'.numbers
  length := by
    have hfirst := h.length
    have hsecond := h'.length
    rw [List.length_append]
    omega
  others := h'.others.trans h.others
  tokens := h'.tokens.trans h.tokens

/-- Things that are added one by one each have their number. -/
theorem numbered_addEach (label : α → String)
    {add : CompositeMap → α → CompositeMap × Nat}
    (h : ∀ map thing, Numbered texts others [label thing] map (add map thing).1 [(add map thing).2])
    (map : CompositeMap) (things : List α) :
    Numbered texts others (things.map label) map (addEach add map things).1
      (addEach add map things).2 := by
  induction things using List.reverseRecOn with
  | nil => exact ⟨List.prefix_refl _, .nil, Nat.le_refl _, rfl, rfl⟩
  | append_singleton things thing ih =>
    rw [List.map_append, addEach, List.foldl_concat]
    exact ih.trans (h _ thing)

/-- The number of a label. -/
theorem Numbered.exists_number {labels : List String} {map map' : CompositeMap} {numbers : List Nat}
    (h : Numbered texts others labels map map' numbers) {k : Nat} {text : String}
    (hk : labels[k]? = some text) : ∃ i, numbers[k]? = some i ∧ (texts map')[i]? = some text := by
  have hall := h.numbers
  clear h
  induction hall generalizing k with
  | nil => simp at hk
  | cons hfirst _ ih =>
    cases k with
    | zero =>
      obtain rfl := Option.some.inj hk
      exact ⟨_, rfl, hfirst⟩
    | succ k => exact ih hk

end

/-! ### Sources and names -/

theorem map_fst_modify (sources : List (String × Option String)) (i : Nat) (content : String) :
    (sources.modify i fun entry => (entry.1, some content)).map Prod.fst =
      sources.map Prod.fst := by
  refine List.ext_getElem? fun k => ?_
  rw [List.getElem?_map, List.getElem?_map, List.getElem?_modify]
  split <;> cases sources[k]? <;> rfl

theorem numbered_addSource (map : CompositeMap) (source : String) (content : Option String) :
    Numbered sourceTexts names [source] map (map.addSource source content).1
      [(map.addSource source content).2] := by
  obtain ⟨hgrows, hnumber, hlength⟩ := number_spec Prod.fst (source, (none : Option String))
    map.sources
  have htexts : sourceTexts (map.addSource source content).1 =
      (number Prod.fst (source, none) map.sources).1.map Prod.fst := by
    cases content with
    | none => rfl
    | some content => exact map_fst_modify _ _ content
  have hcount : (sourceTexts (map.addSource source content).1).length ≤
      (sourceTexts map).length + 1 := by
    rw [htexts, List.length_map, sourceTexts, List.length_map]
    exact hlength
  rw [← htexts] at hgrows hnumber
  exact ⟨hgrows, .cons hnumber .nil, hcount, rfl, rfl⟩

theorem numbered_addName (map : CompositeMap) (name : String) :
    Numbered names sourceTexts [name] map (map.addName name).1 [(map.addName name).2] := by
  obtain ⟨hgrows, hnumber, hlength⟩ := number_spec id name map.names
  rw [List.map_id, List.map_id] at hgrows
  rw [List.map_id] at hnumber
  exact ⟨hgrows, .cons hnumber .nil, hlength, rfl, rfl⟩

/-! ### Tokens -/

/-- More texts at the end change nothing about what a token says. -/
theorem traced_of_grown {sources sources' names names' : List String} {token : SourceToken}
    (h : token.Fits sources.length names.length) (hsources : sources <+: sources')
    (hnames : names <+: names') :
    token.traced sources' names' = token.traced sources names := by
  obtain ⟨line, column, sourceLine, sourceColumn, source, name⟩ := token
  cases source with
  | none => rfl
  | some i =>
    have hsource : sources'[i]? = sources[i]? := getElem?_eq_of_front hsources (h.source i rfl)
    have hname : (name.bind fun n => names'[n]?) = name.bind fun n => names[n]? := by
      cases name with
      | none => rfl
      | some n => exact getElem?_eq_of_front hnames (h.name rfl n rfl)
    simp only [SourceToken.traced, Option.bind_some, hsource, hname]

theorem fits_of_grown {sources sources' names names' : List String} {token : SourceToken}
    (h : token.Fits sources.length names.length) (hsources : sources <+: sources')
    (hnames : names <+: names') : token.Fits sources'.length names'.length where
  column := h.column
  sourceLine := h.sourceLine
  sourceColumn := h.sourceColumn
  source := fun i hi => Nat.lt_of_lt_of_le (h.source i hi) hsources.length_le
  name := fun hs n hn => Nat.lt_of_lt_of_le (h.name hs n hn) hnames.length_le

/-- A map that was extended is sound again and says what it said, and then what is new. -/
structure Extends (map map' : CompositeMap) (new : List Traced) : Prop where
  sound : map'.Sound
  traced : map'.traced = map.traced ++ new

/-- Tokens are added to a map whose texts have grown. -/
theorem extends_of_grown {map map' : CompositeMap} {tokens : List SourceToken} {new : List Traced}
    (h : map.Sound) (hsources : map.sourceTexts <+: map'.sourceTexts)
    (hnames : map.names <+: map'.names)
    (htokens : map'.tokens = map.tokens ++ tokens)
    (hsourceCount : map'.sourceTexts.length ≤ 2 ^ 32) (hnameCount : map'.names.length ≤ 2 ^ 32)
    (hfits : ∀ token ∈ tokens, token.Fits map'.sourceTexts.length map'.names.length)
    (hnew : tokens.map (SourceToken.traced map'.sourceTexts map'.names) = new) :
    Extends map map' new := by
  have hold : ∀ token ∈ map.tokens, token.Fits map.sourceTexts.length map.names.length := h.fits
  refine ⟨⟨hsourceCount, hnameCount, ?_⟩, ?_⟩
  · intro token ht
    rw [htokens] at ht
    rcases List.mem_append.1 ht with ht | ht
    · exact fits_of_grown (hold token ht) hsources hnames
    · exact hfits token ht
  · rw [traced, htokens, List.map_append, hnew]
    exact congrArg (· ++ new) (List.map_congr_left fun token ht =>
      traced_of_grown (hold token ht) hsources hnames)

/-- What the lines of a content say that come from themselves, so many lines further down. -/
def identity (source content : String) (offset : Nat) : List Traced :=
  (List.range (Text.lines content.toList).length).map fun line : Nat =>
    ⟨SourceMap.word (offset + line), 0, some ⟨source, line, 0, none⟩⟩

/-- The lines of a content are added. -/
theorem extends_addIdentity {map : CompositeMap} (h : map.Sound) (source content : String)
    (offset : Nat) (hsources : map.sourceTexts.length < 2 ^ 32)
    (hlines : (Text.lines content.toList).length ≤ 2 ^ 32) :
    Extends map (map.addIdentity source content offset) (identity source content offset) ∧
      (map.addIdentity source content offset).sourceTexts.length ≤ map.sourceTexts.length + 1 ∧
      (map.addIdentity source content offset).names = map.names := by
  have hadd := numbered_addSource map source (some content)
  -- the source of the lines is the one that is added
  have hnumber : (map.addSource source (some content)).1.sourceTexts[
      (map.addSource source (some content)).2]? = some source := by
    cases hadd.numbers with
    | cons hfirst _ => exact hfirst
  have hnames : (map.addIdentity source content offset).names = map.names := hadd.others
  have htokens : (map.addIdentity source content offset).tokens = map.tokens ++
      (List.range (Text.lines content.toList).length).map fun line : Nat =>
        ⟨SourceMap.word (offset + line), 0, line, 0,
          some (map.addSource source (some content)).2, none⟩ :=
    congrArg (· ++ _) hadd.tokens
  refine ⟨extends_of_grown h hadd.grows ?_ htokens ?_ ?_ ?_ ?_, hadd.length, hnames⟩
  · exact hnames.symm ▸ List.prefix_refl map.names
  · exact Nat.le_trans hadd.length hsources
  · rw [hnames]
    exact h.names
  · intro token ht
    obtain ⟨line, hline, rfl⟩ := List.mem_map.1 ht
    have hlt := Nat.lt_of_lt_of_le (List.mem_range.1 hline) hlines
    refine ⟨Nat.two_pow_pos 32, fun _ => hlt, fun _ => Nat.two_pow_pos 32, ?_, fun _ => nofun⟩
    rintro i ⟨⟩
    exact (List.getElem?_eq_some_iff.1 hnumber).1
  · rw [List.map_map]
    refine List.map_congr_left fun line _ => ?_
    show Traced.mk _ _ (Option.map _ ((map.addSource source (some content)).1.sourceTexts[
      (map.addSource source (some content)).2]?)) = _
    rw [hnumber]
    rfl

end CompositeMap

/-- The same so many lines further down. -/
def Traced.down (t : Traced) (offset : Nat) : Traced :=
  { t with line := SourceMap.word (t.line + offset) }

namespace CompositeMap

/-- A token of another map, with the numbers that its source and its name have got. -/
theorem renumbered {other : SourceMap} {sources names : List String}
    {sourceNumbers nameNumbers : List Nat}
    (hsources : ∀ (k : Nat) text, other.sources[k]? = some text →
      ∃ i, sourceNumbers[k]? = some i ∧ sources[i]? = some text)
    (hnames : ∀ (k : Nat) text, other.names[k]? = some text →
      ∃ i, nameNumbers[k]? = some i ∧ names[i]? = some text)
    {token : SourceToken} (h : token.Fits other.sources.length other.names.length) (line : Nat) :
    let moved : SourceToken := { token with
      line := line
      source := token.source.bind fun i => sourceNumbers[i]?
      name := token.name.bind fun i => nameNumbers[i]? }
    moved.Fits sources.length names.length ∧
      moved.traced sources names =
        { token.traced other.sources other.names with line := line } := by
  obtain ⟨_, column, sourceLine, sourceColumn, source, name⟩ := token
  -- a name counts only together with a source
  cases source with
  | none => exact ⟨⟨h.column, nofun, nofun, nofun, nofun⟩, rfl⟩
  | some k =>
    obtain ⟨i, hi, htext⟩ := hsources k _ (List.getElem?_eq_getElem (h.source k rfl))
    have hlt := (List.getElem?_eq_some_iff.1 htext).1
    cases name with
    | none =>
      simp only [Option.bind_some, Option.bind_none, hi]
      refine ⟨⟨h.column, fun _ => h.sourceLine rfl, fun _ => h.sourceColumn rfl, ?_,
        fun _ => nofun⟩, ?_⟩
      · rintro _ ⟨⟩
        exact hlt
      · simp only [SourceToken.traced, Option.bind_some, htext,
          List.getElem?_eq_getElem (h.source k rfl)]
        rfl
    | some n =>
      obtain ⟨j, hj, hname⟩ := hnames n _ (List.getElem?_eq_getElem (h.name rfl n rfl))
      simp only [Option.bind_some, hi, hj]
      refine ⟨⟨h.column, fun _ => h.sourceLine rfl, fun _ => h.sourceColumn rfl, ?_,
        fun _ => ?_⟩, ?_⟩
      · rintro _ ⟨⟩
        exact hlt
      · rintro _ ⟨⟩
        exact (List.getElem?_eq_some_iff.1 hname).1
      · simp only [SourceToken.traced, Option.bind_some, htext, hname,
          List.getElem?_eq_getElem (h.source k rfl), List.getElem?_eq_getElem (h.name rfl n rfl)]

/-- The tokens of another map are added. -/
theorem extends_addMap {map : CompositeMap} (h : map.Sound) (other : SourceMap) (offset : Nat)
    (hother : ∀ token ∈ other.tokens, token.Fits other.sources.length other.names.length)
    (hsources : map.sourceTexts.length + other.sources.length ≤ 2 ^ 32)
    (hnames : map.names.length + other.names.length ≤ 2 ^ 32) :
    Extends map (map.addMap other offset) (other.traced.map (·.down offset)) ∧
      (map.addMap other offset).sourceTexts.length ≤ map.sourceTexts.length + other.sources.length ∧
      (map.addMap other offset).names.length ≤ map.names.length + other.names.length := by
  have hlabels : (other.sources.zip (other.contents ++
      List.replicate other.sources.length none)).map Prod.fst = other.sources :=
    List.map_fst_zip (by rw [List.length_append, List.length_replicate]; omega)
  -- the sources are added first, and then the names
  have hfirst := numbered_addEach Prod.fst
    (fun map entry => numbered_addSource map entry.1 entry.2) map
    (other.sources.zip (other.contents ++ List.replicate other.sources.length none))
  rw [hlabels] at hfirst
  rcases hone : addEach (fun map entry => map.addSource entry.1 entry.2) map
    (other.sources.zip (other.contents ++ List.replicate other.sources.length none)) with
    ⟨first, sourceNumbers⟩
  rw [hone] at hfirst
  have hsecond := numbered_addEach id numbered_addName first other.names
  rw [List.map_id] at hsecond
  rcases htwo : addEach addName first other.names with ⟨second, nameNumbers⟩
  rw [htwo] at hsecond
  have hsourceCount := hfirst.length
  have hnameCount := hsecond.length
  have htexts : second.sourceTexts = first.sourceTexts := hsecond.others
  have hnameTexts : first.names = map.names := hfirst.others
  have hgrows := hsecond.grows
  rw [hnameTexts] at hnameCount hgrows
  have hmap : map.addMap other offset = { second with
      tokens := second.tokens ++ other.tokens.map fun token => { token with
        line := SourceMap.word (token.line + offset)
        source := token.source.bind fun i => sourceNumbers[i]?
        name := token.name.bind fun i => nameNumbers[i]? } } := by
    simp only [addMap, hone, htwo]
  have hmoved : ∀ token ∈ other.tokens, _ := fun token ht =>
    renumbered (fun k text hk => hfirst.exists_number hk)
      (fun k text hk => hsecond.exists_number hk) (hother token ht)
      (SourceMap.word (token.line + offset))
  rw [hmap]
  show Extends map _ _ ∧ second.sourceTexts.length ≤ _ ∧ second.names.length ≤ _
  have htextCount : second.sourceTexts.length ≤ map.sourceTexts.length + other.sources.length := by
    rw [htexts]
    exact hsourceCount
  refine ⟨extends_of_grown h ?_ hgrows (congrArg (· ++ _) (hsecond.tokens.trans hfirst.tokens))
    (Nat.le_trans htextCount hsources) (Nat.le_trans hnameCount hnames) ?_ ?_,
    htextCount, hnameCount⟩
  · show map.sourceTexts <+: second.sourceTexts
    rw [htexts]
    exact hfirst.grows
  · intro moved hm
    obtain ⟨token, ht, rfl⟩ := List.mem_map.1 hm
    show SourceToken.Fits second.sourceTexts.length second.names.length _
    rw [htexts]
    exact (hmoved token ht).1
  · show List.map (SourceToken.traced second.sourceTexts second.names) _ =
      (other.tokens.map (SourceToken.traced other.sources other.names)).map _
    rw [htexts, List.map_map, List.map_map]
    exact List.map_congr_left fun token ht => (hmoved token ht).2

end CompositeMap

end Minipack
