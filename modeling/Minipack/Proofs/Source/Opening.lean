/-
What opens in a template.

Comments and tags that refer to files begin at an angle bracket (`opens`).  Nothing opens in text,
nor in a closed attribute whatever stands behind it, because a quote ends what could go on
(`isClosed_of_isText`, `Attribute.isClosed_text`).  So in a template whose attributes are closed the
comments that are cut out are its own (`Markup.stripMarkupComments_source`), and references can
begin only with its tags (`segments_of_isClosed`).
-/
import Minipack.Proofs.Source.Templates

namespace Minipack.Source

/-! ### Names -/

/-- What stands before a character that a word does not have decides whether the word is there. -/
theorem prefix_of_not_mem {word text rest : List Char} {d : Char} (hd : d ∉ word)
    (h : word <+: text ++ d :: rest) : word <+: text := by
  rcases List.prefix_or_prefix_of_prefix h (List.prefix_append text (d :: rest)) with hword | htext
  · exact hword
  · obtain ⟨more, rfl⟩ := htext
    cases more with
    | nil => exact ⟨[], by rw [List.append_nil, List.append_nil]⟩
    | cons e more =>
      have he := (List.cons_prefix_cons.1 ((List.prefix_append_right_inj text).1 h)).1
      exact absurd (List.mem_append_right _ (he ▸ List.mem_cons_self)) hd

theorem expect?_eq_none {word text : List Char} : expect? word text = none ↔ ¬ word <+: text := by
  unfold expect?
  rw [← List.isPrefixOf_iff_prefix]
  split
  · next h => exact iff_of_false nofun (not_not_intro h)
  · next h => exact iff_of_true rfl h

/-- Whether the character stands in no name of a tag that refers to files. -/
def isBorder (d : Char) : Bool :=
  !Text.isWord d && d != '-'

/-- The name of a tag is read up to a character that no name has. -/
theorem tagName?_append {d : Char} (hd : isBorder d = true) (text rest : List Char) :
    tagName? (text ++ d :: rest) =
      (tagName? text).map fun (name, behind) => (name, behind ++ d :: rest) := by
  rw [isBorder, Bool.and_eq_true, Bool.not_eq_true', bne_iff_ne] at hd
  have hnames : ∀ name ∈ tagNames, name.toList.all (fun c => Text.isWord c || c == '-') = true := by
    decide
  unfold tagName?
  rw [List.map_findSome?]
  generalize tagNames = names at hnames
  induction names with
  | nil => rfl
  | cons name names ih =>
    obtain ⟨hname, hnames⟩ := List.forall_mem_cons.1 hnames
    have hmem : d ∉ name.toList := fun hmem => by
      have hchar := List.all_eq_true.1 hname d hmem
      rw [hd.1, Bool.false_or, beq_iff_eq] at hchar
      exact hd.2 hchar
    rw [List.findSome?_cons, List.findSome?_cons, ih hnames]
    by_cases hprefix : name.toList <+: text
    · obtain ⟨behind, rfl⟩ := hprefix
      rw [Function.comp_apply, List.append_assoc, expect?_eq_some.2 rfl, expect?_eq_some.2 rfl]
      dsimp only
      -- the border ends a name as the end of the text does
      cases behind with
      | nil =>
        have hhead : Text.isWordAt ([] ++ d :: rest).head? = false := hd.1
        rw [hhead]
        rfl
      | cons e behind =>
        rw [List.cons_append, List.head?_cons, List.head?_cons]
        cases Text.isWordAt (some e) with
        | true => rfl
        | false => rfl
    · have hnone : expect? name.toList (text ++ d :: rest) = none :=
        expect?_eq_none.2 fun h => hprefix (prefix_of_not_mem hmem h)
      rw [Function.comp_apply, hnone, expect?_eq_none.2 hprefix]
      rfl

theorem isBorder_of_isSpecifierQuote {d : Char} (h : isSpecifierQuote d = true) :
    isBorder d = true := by
  rcases eq_of_isSpecifierQuote h with rfl | rfl
  · decide
  · decide

theorem isBorder_of_isBlank {d : Char} (h : Text.isBlank d = true) : isBorder d = true := by
  have hall : ∀ n ∈ blankCodes, isBorder (Char.ofNat n) = true := by decide +kernel
  exact forall_isBlank (isBorder · = true) hall h

/-! ### What opens -/

variable {piece rest : List Char}

theorem opens_of_ne {c : Char} (h : c ≠ '<') (text : List Char) : opens (c :: text) = false := by
  have hfirst : markupMarks.first.isPrefixOf (c :: text) = false :=
    Bool.eq_false_iff.2 fun hprefix =>
      h (List.cons_prefix_cons.1 (List.isPrefixOf_iff_prefix.1 hprefix)).1.symm
  have hnone : expect? ['<'] (c :: text) = none :=
    expect?_eq_none.2 fun hprefix => h (List.cons_prefix_cons.1 hprefix).1.symm
  rw [opens, hfirst, hnone]
  rfl

/-- Where nothing opens there is no comment. -/
theorem comment?_of_not_opens {text : List Char} (h : opens text = false) :
    markupMarks.comment? text = none := by
  rw [opens, Bool.or_eq_false_iff] at h
  exact Marks.comment?_of_not_prefix fun hprefix =>
    absurd (List.isPrefixOf_iff_prefix.2 hprefix) (Bool.eq_false_iff.1 h.1)

theorem tagged_eq (before : Option Char) (text : List Char) :
    tagged before text = ((expect? ['<'] text).bind tagName?).bind fun (name, rest) =>
      (sourceInTag? name.toList.getLast? rest).map fun (lead, value, closing) =>
        ⟨'<' :: name.toList ++ lead, value, closing, name⟩ := by
  unfold tagged
  cases expect? ['<'] text with
  | none => rfl
  | some behind =>
    simp only [Option.bind_eq_bind, Option.bind_some]
    cases tagName? behind with
    | none => rfl
    | some found =>
      obtain ⟨name, rest⟩ := found
      simp only [Option.bind_some]
      cases sourceInTag? name.toList.getLast? rest with
      | none => rfl
      | some source => rfl

/-- Where nothing opens there is no reference. -/
theorem tagged_of_not_opens {text : List Char} (h : opens text = false) (before : Option Char) :
    tagged before text = none := by
  rw [opens, Bool.or_eq_false_iff] at h
  rw [tagged_eq, Option.isSome_eq_false_iff.1 h.2 |> Option.isNone_iff_eq_none.1]
  rfl

/-- A piece in which nothing opens has no comments. -/
theorem cut_of_isClosed (h : isClosed piece rest = true) :
    markupMarks.cut (piece ++ rest) = piece.map .kept ++ markupMarks.cut rest := by
  refine Marks.cut_append ?_
  unfold Marks.isSilent
  induction piece with
  | nil => rfl
  | cons c piece ih =>
    rw [isClosed, throughout, Bool.and_eq_true, Bool.not_eq_true'] at h
    rw [throughout, comment?_of_not_opens h.1, ih h.2]
    rfl

theorem segments_tagged (before : Option Char) (text : List Char) :
    segments tagged before text = segments tagged none text := by
  cases text with
  | nil => rw [segments_nil, segments_nil]
  | cons c rest =>
    rw [segments, segments]
    rfl

/-- A piece in which nothing opens has no references. -/
theorem segments_of_isClosed (h : isClosed piece rest = true) :
    segments tagged none (piece ++ rest) = piece.map .kept ++ segments tagged none rest := by
  induction piece with
  | nil => rfl
  | cons c piece ih =>
    rw [isClosed, throughout, Bool.and_eq_true, Bool.not_eq_true'] at h
    rw [List.cons_append, segments_cons_of_none (tagged_of_not_opens h.1 none), segments_tagged,
      ih h.2]
    rfl

/-! ### Closed pieces -/

theorem isClosed_append (first second rest : List Char) :
    isClosed (first ++ second) rest = (isClosed first (second ++ rest) && isClosed second rest) :=
  throughout_append _ first second rest

theorem isClosed_of_not_mem (h : '<' ∉ piece) (rest : List Char) : isClosed piece rest = true :=
  throughout_of_head (fun c hc tail => by
    rw [opens_of_ne (ne_of_mem_of_not_mem hc h)]
    rfl) rest

/-- An angle bracket before a character that no tag begins with opens nothing. -/
theorem opens_bracket {d : Char} (h : isTagStart d = false) (text : List Char) :
    opens ('<' :: d :: text) = false := by
  rw [isTagStart, Bool.or_eq_false_iff, Bool.or_eq_false_iff] at h
  obtain ⟨⟨halpha, -⟩, hmark⟩ := h
  have hfirst : markupMarks.first.isPrefixOf ('<' :: d :: text) = false :=
    Bool.eq_false_iff.2 fun hprefix => by
      have htail := (List.cons_prefix_cons.1 (List.isPrefixOf_iff_prefix.1 hprefix)).2
      exact absurd (List.cons_prefix_cons.1 htail).1.symm (beq_eq_false_iff_ne.1 hmark)
  -- all tag names begin with a letter
  have hnone : tagName? (d :: text) = none := by
    cases hname : tagName? (d :: text) with
    | none => rfl
    | some found =>
      obtain ⟨hmem, htext, -⟩ := tagName?_eq_some hname
      have hstarts : ∀ name ∈ tagNames, name.toList.head?.any Char.isAlpha = true := by decide
      have hhead := congrArg List.head? htext
      rw [List.head?_cons, List.head?_append] at hhead
      have hstart := hstarts _ hmem
      cases hfound : found.1.toList.head? with
      | none =>
        rw [hfound] at hstart
        cases hstart
      | some e =>
        rw [hfound, Option.some_or] at hhead
        obtain rfl := Option.some.inj hhead
        rw [hfound, Option.any_some, halpha] at hstart
        cases hstart
  rw [opens, hfirst, expect?_eq_some.2 List.singleton_append.symm, Option.bind_some, hnone]
  rfl

theorem isClosed_of_isText (h : isText piece = true) (rest : List Char) :
    isClosed piece rest = true := by
  induction piece with
  | nil => rfl
  | cons c piece ih =>
    rw [isText, Bool.and_eq_true] at h
    rw [isClosed, throughout, ← isClosed, ih h.2, Bool.and_true, Bool.not_eq_true']
    by_cases hc : c = '<'
    · obtain rfl := hc
      cases piece with
      | nil => cases h.1
      | cons d piece =>
        have hstart : (!isTagStart d) = true := h.1
        exact opens_bracket (Bool.not_eq_true' _ ▸ hstart) _
    · exact opens_of_ne hc _

/-- What opens before a quote opens whatever follows the quote. -/
theorem opens_append {quote : Char} (hquote : isSpecifierQuote quote = true)
    (text rest : List Char) : opens (text ++ quote :: rest) = opens (text ++ [quote]) := by
  have hmem : quote ∉ markupMarks.first := by
    rcases eq_of_isSpecifierQuote hquote with rfl | rfl
    · decide
    · decide
  have hprefix : ∀ rest, markupMarks.first.isPrefixOf (text ++ quote :: rest) =
      markupMarks.first.isPrefixOf text := fun rest => by
    rw [Bool.eq_iff_iff, List.isPrefixOf_iff_prefix, List.isPrefixOf_iff_prefix]
    exact ⟨prefix_of_not_mem hmem, fun h => h.trans (List.prefix_append _ _)⟩
  have hname : ∀ rest, ((expect? ['<'] (text ++ quote :: rest)).bind tagName?).isSome =
      ((expect? ['<'] text).bind tagName?).isSome := fun rest => by
    cases hopen : expect? ['<'] text with
    | none =>
      have hne : '<' ≠ quote := by
        rintro rfl
        exact absurd hquote (by decide)
      have hnone : expect? ['<'] (text ++ quote :: rest) = none :=
        expect?_eq_none.2 fun h => expect?_eq_none.1 hopen
          (prefix_of_not_mem (fun hmem => hne (List.mem_singleton.1 hmem).symm) h)
      rw [hnone]
    | some behind =>
      obtain rfl := expect?_eq_some.1 hopen
      rw [List.append_assoc, expect?_eq_some.2 rfl, Option.bind_some, Option.bind_some,
        tagName?_append (isBorder_of_isSpecifierQuote hquote), Option.isSome_map]
  rw [opens, opens, hprefix, hprefix, hname, hname]

theorem Attribute.isClosed_text {a : Attribute} (h : a.isClosed = true) (rest : List Char) :
    Source.isClosed a.text rest = true := by
  refine throughout_of_last (fun tail htail => ?_) h
  rwa [opens_append a.isSpecifierQuote_quote]

theorem isClosed_attributes {attributes : List Attribute}
    (h : ∀ a ∈ attributes, a.isClosed = true) (rest : List Char) :
    isClosed (attributes.flatMap Attribute.text) rest = true := by
  induction attributes with
  | nil => rfl
  | cons a attributes ih =>
    obtain ⟨ha, hrest⟩ := List.forall_mem_cons.1 h
    rw [List.flatMap_cons, isClosed_append, Attribute.isClosed_text ha, ih hrest]
    rfl

/-- The signs that stand between names are no characters of names. -/
theorem ne_of_isMarkupName {c : Char} (h : isMarkupName c = true) :
    Text.isBlank c = false ∧ c ≠ '=' ∧ c ≠ '<' ∧ c ≠ '>' := by
  simp only [isMarkupName, Bool.not_eq_true', Bool.or_eq_false_iff, beq_eq_false_iff_ne] at h
  exact ⟨h.1.1.1.1.1, h.1.1.1.2, h.1.1.2, h.1.2⟩

namespace Tag

variable {t : Tag}

theorem exists_name (t : Tag) : ∃ c rest, t.name.toList = c :: rest ∧
    (c.isAlpha = true ∨ c = '/') ∧ ∀ d ∈ rest, isMarkupName d = true := by
  have h := t.isTagName_name
  cases hname : t.name.toList with
  | nil =>
    rw [hname] at h
    cases h
  | cons c rest =>
    rw [hname, isTagName, Bool.and_eq_true, Bool.or_eq_true, beq_iff_eq, List.all_eq_true] at h
    exact ⟨c, rest, rfl, h⟩

theorem not_mem_name (t : Tag) : '<' ∉ t.name.toList := by
  obtain ⟨c, rest, hname, hc, hrest⟩ := t.exists_name
  rw [hname]
  intro hmem
  rcases List.mem_cons.1 hmem with rfl | hmem
  · rcases hc with hc | hc
    · exact absurd hc (by decide)
    · exact absurd hc (by decide)
  · exact (ne_of_isMarkupName (hrest _ hmem)).2.2.1 rfl

theorem not_mem_ending (t : Tag) : '<' ∉ t.ending := by
  intro hmem
  rcases List.mem_append.1 hmem with hgap | hend
  · exact absurd (t.isBlank_gap _ hgap) (by decide)
  · split at hend
    · exact absurd hend (by decide)
    · exact absurd hend (by decide)

/-- The tag behind its angle bracket. -/
def inner (t : Tag) : List Char :=
  t.name.toList ++ (t.attributes.flatMap Attribute.text ++ t.ending)

theorem textWith_eq (t : Tag) : t.textWith Attribute.text = '<' :: t.inner := by
  rw [textWith, inner, List.append_assoc, List.cons_append]

/-- Behind its angle bracket nothing opens in a tag whose attributes are closed. -/
theorem isClosed_inner (h : ∀ a ∈ t.attributes, a.isClosed = true) (rest : List Char) :
    isClosed t.inner rest = true := by
  rw [inner, isClosed_append, isClosed_append, isClosed_of_not_mem t.not_mem_name,
    isClosed_attributes h, isClosed_of_not_mem t.not_mem_ending]
  rfl

/-- No comment begins with a tag. -/
theorem cut_textWith (h : ∀ a ∈ t.attributes, a.isClosed = true) (rest : List Char) :
    markupMarks.cut (t.textWith Attribute.text ++ rest) =
      (t.textWith Attribute.text).map .kept ++ markupMarks.cut rest := by
  have hnone : markupMarks.comment? ('<' :: (t.inner ++ rest)) = none := by
    refine Marks.comment?_of_not_prefix fun hprefix => ?_
    obtain ⟨c, more, hname, hc, -⟩ := t.exists_name
    rw [inner, hname] at hprefix
    obtain rfl := (List.cons_prefix_cons.1 (List.cons_prefix_cons.1 hprefix).2).1
    rcases hc with hc | hc
    · exact absurd hc (by decide)
    · exact absurd hc (by decide)
  rw [textWith_eq, List.cons_append, Marks.cut_cons_of_none hnone,
    cut_of_isClosed (isClosed_inner h rest)]
  rfl

end Tag

/-! ### Comments -/

namespace Markup

/-- The part as it is written, if it is no comment. -/
def bare : Markup → List Char
  | text chars _ => chars
  | comment _ _ => []
  | tag t => t.textWith Attribute.text

/-- A comment is cut out as a whole. -/
theorem comment?_source {body : List Char} (h : ¬ ['-', '-', '>'] <:+: body ++ ['-', '-'])
    (rest : List Char) :
    markupMarks.comment? (['<', '!', '-', '-'] ++ body ++ ['-', '-', '>'] ++ rest) =
      some (['<', '!', '-', '-'] ++ body ++ ['-', '-', '>'], rest) := by
  refine Marks.comment?_eq_some.2 ⟨body, rfl, rfl, fun other hother => ?_⟩
  by_contra hlt
  have hshort : other ++ ['-', '-', '>'] <+: body ++ ['-', '-'] := by
    refine List.prefix_of_prefix_length_le hother ⟨'>' :: rest, ?_⟩ ?_
    · simp [markupMarks]
    · simp only [List.length_append, List.length_cons, List.length_nil]
      omega
  exact h ((List.suffix_append other _).isInfix.trans hshort.isInfix)

/-- A template whose attributes are closed loses its comments and nothing else. -/
theorem stripMarkupComments_source {pieces : List Markup}
    (h : ∀ t, .tag t ∈ pieces → ∀ a ∈ t.attributes, a.isClosed = true) :
    stripMarkupComments (pieces.flatMap source) = pieces.flatMap bare := by
  rw [stripMarkupComments_eq]
  have hkept : ∀ chars : List Char, (chars.map Cut.kept).flatMap Cut.left = chars := fun chars => by
    rw [List.flatMap_map]
    exact List.flatMap_singleton' chars
  induction pieces with
  | nil =>
    rw [List.flatMap_nil, Marks.cut_nil]
    rfl
  | cons piece pieces ih =>
    have hrest := ih fun t ht => h t (List.mem_cons_of_mem _ ht)
    rw [List.flatMap_cons, List.flatMap_cons]
    cases piece with
    | text chars hchars =>
      rw [source, cut_of_isClosed (isClosed_of_isText hchars _), List.flatMap_append, hkept, hrest]
      rfl
    | comment body hbody =>
      rw [source, Marks.cut_of_comment? (comment?_source hbody _), List.flatMap_cons, hrest]
      rfl
    | tag t =>
      rw [source, Tag.cut_textWith (h t List.mem_cons_self), List.flatMap_append, hkept, hrest]
      rfl

end Markup

end Minipack.Source
