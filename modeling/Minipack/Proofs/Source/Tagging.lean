/-
The values by which a template refers to files.

A value is looked for from the name of a tag to the first angle bracket that closes one, without
regard to quotes (`sourceInTag?`).  A calm attribute is passed, whatever stands behind it
(`Attribute.isUnseen_text`), and the first attribute that refers to a file is found behind calm ones
without such a bracket (`sourceInTag?_of_isSource`).  So in a clear template exactly the sources of
its tags are found, and replacing them rewrites it as told (`Markup.reads_segments`).
-/
import Minipack.Proofs.Source.Opening

namespace Minipack.Source

variable {piece rest : List Char}

/-! ### Where no value is seen -/

variable {before : Option Char}

theorem sourceValue?_of_ne {c : Char} (h : c ≠ 's') (text : List Char) :
    sourceValue? before (c :: text) = none := by
  cases hfound : sourceValue? before (c :: text) with
  | none => rfl
  | some found =>
    obtain ⟨lead, value, closing⟩ := found
    obtain ⟨-, gap, gap', opening, d, behind, -, -, -, -, -, -, rfl, -, htext⟩ :=
      exists_of_sourceValue? hfound
    exact absurd (List.cons.inj htext).1 h

theorem isUnseen_of_ne (h : ∀ c ∈ piece, c ≠ 's') (before : Option Char) (rest : List Char) :
    isUnseen before piece rest = true := by
  induction piece generalizing before with
  | nil => rfl
  | cons c piece ih =>
    obtain ⟨hc, hpiece⟩ := List.forall_mem_cons.1 h
    rw [isUnseen, sourceValue?_of_ne hc, ih hpiece]
    rfl

/-- What follows an attribute: a blank or the end of the tag. -/
def IsBroken (rest : List Char) : Prop :=
  ∃ c more, rest = c :: more ∧ (Text.isBlank c = true ∨ c = '>' ∨ c = '/' ∧ more.head? = some '>')

/-- No plain value follows an attribute at once. -/
theorem IsBroken.ne (h : IsBroken rest) {value behind : List Char} {c : Char} (hne : value ≠ [])
    (hvalue : ∀ d ∈ value, isSpecifierChar d = true) (hc : isSpecifierQuote c = true) :
    rest ≠ value ++ c :: behind := by
  rintro rfl
  obtain ⟨d, more, heq, hd⟩ := h
  obtain ⟨first, value, rfl⟩ := List.exists_cons_of_ne_nil hne
  obtain ⟨rfl, rfl⟩ := List.cons.inj heq
  obtain ⟨hfirst, htail⟩ := List.forall_mem_cons.1 hvalue
  rcases hd with hblank | rfl | ⟨rfl, hhead⟩
  · rw [isSpecifierChar_of_isBlank hblank] at hfirst
    cases hfirst
  · exact absurd hfirst (by decide)
  · cases value with
    | nil =>
      obtain rfl := Option.some.inj hhead
      exact absurd hc (by decide)
    | cons e value =>
      obtain rfl := Option.some.inj hhead
      exact absurd (htail _ List.mem_cons_self) (by decide)

/-- No quote stands before the value of an attribute. -/
theorem quote_not_mem_lead {quote : Char} (hquote : isSpecifierQuote quote = true)
    {gap gap' : List Char} (hgap : ∀ c ∈ gap, Text.isBlank c = true)
    (hgap' : ∀ c ∈ gap', Text.isBlank c = true) : quote ∉ "src".toList ++ gap ++ '=' :: gap' := by
  have hblank := isBlank_of_isSpecifierQuote hquote
  have hname : quote ∉ "src".toList := by
    rcases eq_of_isSpecifierQuote hquote with rfl | rfl <;> decide
  have hsign : quote ≠ '=' := by
    rintro rfl
    exact absurd hquote (by decide)
  simp only [List.mem_append, List.mem_cons, not_or]
  refine ⟨⟨hname, fun hmem => ?_⟩, hsign, fun hmem => ?_⟩
  · exact Bool.false_ne_true (hblank.symm.trans (hgap _ hmem))
  · exact Bool.false_ne_true (hblank.symm.trans (hgap' _ hmem))

/-- A plain value that a quote is behind ends before the first quote. -/
theorem exists_behind_value {quote c : Char} (hquote : isSpecifierQuote quote = true)
    {value behind front : List Char} (hvalue : ∀ d ∈ value, isSpecifierChar d = true)
    (h : value ++ c :: behind = front ++ quote :: rest) :
    ∃ behind', front ++ [quote] = value ++ c :: behind' := by
  rcases List.append_eq_append_iff.1 h with ⟨after, rfl, hclosing⟩ | ⟨after, rfl, hclosing⟩
  · cases after with
    | nil => exact ⟨[], by rw [List.append_nil, (List.cons.inj hclosing).1]⟩
    | cons e after =>
      obtain rfl := (List.cons.inj hclosing).1
      exact ⟨after ++ [quote], by rw [List.append_assoc, List.cons_append]⟩
  · cases after with
    | nil => exact ⟨[], by rw [List.append_nil, (List.cons.inj hclosing).1]⟩
    | cons e after =>
      -- no quote stands in a plain value
      obtain rfl := (List.cons.inj hclosing).1
      have hchar := hvalue quote (List.mem_append_right _ List.mem_cons_self)
      rw [isSpecifierChar_of_isSpecifierQuote hquote] at hchar
      cases hchar

/-- A value that is seen from before a quote is seen whatever follows the quote. -/
theorem sourceValue?_of_last {quote : Char} (hquote : isSpecifierQuote quote = true)
    (hrest : IsBroken rest) {text : List Char} (h : sourceValue? before (text ++ [quote]) = none) :
    sourceValue? before (text ++ quote :: rest) = none := by
  cases hfound : sourceValue? before (text ++ quote :: rest) with
  | none => rfl
  | some found =>
    exfalso
    obtain ⟨lead, value, closing⟩ := found
    obtain ⟨hbefore, gap, gap', opening, c, behind, hgap, hgap', hopening, hc, hne, hvalue,
      rfl, rfl, htext⟩ := exists_of_sourceValue? hfound
    have hsplit : text ++ quote :: rest =
        ("src".toList ++ gap ++ '=' :: gap') ++ (opening :: (value ++ c :: behind)) := by
      simpa using htext
    rcases List.append_eq_append_iff.1 hsplit with ⟨more, hlead, htail⟩ | ⟨more, rfl, htail⟩
    · -- the quote would stand before the value, which then follows it at once
      cases more with
      | nil => exact hrest.ne hne hvalue hc (List.cons.inj htail).2
      | cons d more =>
        obtain rfl := (List.cons.inj htail).1
        exact quote_not_mem_lead hquote hgap hgap'
          (hlead ▸ List.mem_append_right _ List.mem_cons_self)
    · cases more with
      | nil => exact hrest.ne hne hvalue hc (List.cons.inj htail).2.symm
      | cons d more =>
        obtain ⟨rfl, hvalues⟩ := List.cons.inj htail
        obtain ⟨behind', hbehind⟩ := exists_behind_value hquote hvalue hvalues
        have hfull := sourceValue?_of_parts hbefore hgap hgap' hopening hc hne hvalue behind'
        have heq : "src".toList ++ gap ++ '=' :: gap' ++ opening :: more ++ [quote] =
            "src".toList ++ (gap ++ '=' :: (gap' ++ opening :: (value ++ c :: behind'))) := by
          rw [← hbehind]
          simp
        rw [heq, hfull] at h
        cases h

theorem isUnseen_of_last {quote : Char} (hquote : isSpecifierQuote quote = true)
    (hrest : IsBroken rest) (h : isUnseen before (piece ++ [quote]) [] = true) :
    isUnseen before (piece ++ [quote]) rest = true := by
  induction piece generalizing before with
  | nil =>
    have hne : quote ≠ 's' := by
      rintro rfl
      exact absurd hquote (by decide)
    exact isUnseen_of_ne (fun c hc => (List.mem_singleton.1 hc).symm ▸ hne) before rest
  | cons c piece ih =>
    rw [List.cons_append, isUnseen, List.append_nil, Bool.and_eq_true,
      Option.isNone_iff_eq_none] at h
    have hnone : sourceValue? before (c :: (piece ++ quote :: rest)) = none :=
      sourceValue?_of_last hquote hrest (List.cons_append ▸ h.1)
    rw [List.cons_append, isUnseen, ih h.2, List.append_assoc, List.singleton_append, hnone]
    rfl

/-! ### Values up to the end of a tag -/

theorem sourceInTag?_cons_of_none {c : Char} (h : sourceValue? before (c :: rest) = none)
    (hc : c ≠ '>') : sourceInTag? before (c :: rest) =
      (sourceInTag? (some c) rest).map fun (lead, found) => (c :: lead, found) := by
  rw [sourceInTag?, h]
  exact if_neg hc

/-- A piece in which no value is seen and the tag does not end is passed. -/
theorem sourceInTag?_append (h : isUnseen before piece rest = true) (hend : '>' ∉ piece) :
    sourceInTag? before (piece ++ rest) =
      (sourceInTag? (piece.getLast?.or before) rest).map
        fun (lead, found) => (piece ++ lead, found) := by
  induction piece generalizing before with
  | nil => exact Option.map_id'.symm
  | cons c piece ih =>
    rw [isUnseen, Bool.and_eq_true, Option.isNone_iff_eq_none] at h
    have hc : c ≠ '>' := fun heq => hend (heq ▸ List.mem_cons_self)
    have hlast : (c :: piece).getLast?.or before = piece.getLast?.or (some c) := by
      rw [List.getLast?_cons]
      cases piece.getLast? with
      | none => rfl
      | some d => rfl
    rw [List.cons_append, sourceInTag?_cons_of_none h.1 hc,
      ih h.2 fun hmem => hend (List.mem_cons_of_mem _ hmem), hlast, Option.map_map]
    rfl

/-- A piece in which no value is seen leads to none. -/
theorem sourceInTag?_eq_none (h : isUnseen before piece rest = true)
    (hnone : ∀ before, sourceInTag? before rest = none) :
    sourceInTag? before (piece ++ rest) = none := by
  induction piece generalizing before with
  | nil => exact hnone before
  | cons c piece ih =>
    rw [isUnseen, Bool.and_eq_true, Option.isNone_iff_eq_none] at h
    by_cases hc : c = '>'
    · rw [List.cons_append, sourceInTag?, h.1]
      exact if_pos hc
    · rw [List.cons_append, sourceInTag?_cons_of_none h.1 hc, ih h.2]
      rfl

theorem sourceInTag?_of_some {text : List Char} {found : List Char × List Char × List Char}
    (h : sourceValue? before text = some found) : sourceInTag? before text = some found := by
  cases text with
  | nil =>
    obtain ⟨lead, value, closing⟩ := found
    obtain ⟨-, gap, gap', opening, d, behind, -, -, -, -, -, -, rfl, -, htext⟩ :=
      exists_of_sourceValue? h
    cases htext
  | cons c text => rw [sourceInTag?, h]

/-- A piece without the first character of `src` before the end of the tag leads to no value. -/
theorem sourceInTag?_of_end (h : ∀ c ∈ piece, c ≠ 's') (before : Option Char) (more : List Char) :
    sourceInTag? before (piece ++ '>' :: more) = none := by
  refine sourceInTag?_eq_none (isUnseen_of_ne h before _) fun before => ?_
  rw [sourceInTag?, sourceValue?_of_ne (by decide)]
  exact if_pos rfl

theorem ne_of_isBlank {c d : Char} (h : Text.isBlank c = true) (hd : Text.isBlank d = false) :
    c ≠ d := by
  rintro rfl
  exact Bool.false_ne_true (hd.symm.trans h)

/-- In a name that no sign follows no value is seen. -/
theorem isUnseen_of_isMarkupName (hpiece : ∀ c ∈ piece, isMarkupName c = true)
    (hrest : IsBroken rest) (hsign : (rest.dropWhile Text.isBlank).head? ≠ some '=')
    (before : Option Char) : isUnseen before piece rest = true := by
  obtain ⟨d, more, rfl, hd⟩ := hrest
  have hword : d ∉ "src".toList := by
    rcases hd with hblank | rfl | ⟨rfl, -⟩
    · have hall : ∀ n ∈ blankCodes, Char.ofNat n ∉ "src".toList := by decide +kernel
      exact forall_isBlank (· ∉ "src".toList) hall hblank
    · decide
    · decide
  induction piece generalizing before with
  | nil => rfl
  | cons c piece ih =>
    rw [isUnseen, ih fun e he => hpiece e (List.mem_cons_of_mem _ he), Bool.and_true,
      Option.isNone_iff_eq_none]
    cases hfound : sourceValue? before (c :: (piece ++ d :: more)) with
    | none => rfl
    | some found =>
      exfalso
      obtain ⟨lead, value, closing⟩ := found
      obtain ⟨-, gap, gap', opening, e, behind, hgap, -, -, -, -, -, rfl, -, htext⟩ :=
        exists_of_sourceValue? hfound
      -- a value begins behind `src` and a sign, and the sign would follow the name or lie in it
      have hsplit : c :: piece ++ d :: more =
          "src".toList ++ (gap ++ '=' :: (gap' ++ opening :: (value ++ closing ++ behind))) := by
        simpa using htext
      obtain ⟨behind', hname⟩ := prefix_of_not_mem hword ⟨_, hsplit.symm⟩
      rw [← hname, List.append_assoc] at hsplit
      have hgaps := List.append_cancel_left hsplit
      cases behind' with
      | nil =>
        rw [List.nil_append] at hgaps
        rw [hgaps, List.dropWhile_append_of_pos hgap,
          List.dropWhile_cons_of_neg (by decide)] at hsign
        exact hsign rfl
      | cons first behind' =>
        have hfirst := hpiece first (hname ▸ List.mem_append_right _ List.mem_cons_self)
        obtain ⟨hblank, hne, -⟩ := ne_of_isMarkupName hfirst
        cases gap with
        | nil => exact hne (List.cons.inj hgaps).1
        | cons blank gap =>
          obtain rfl := (List.cons.inj hgaps).1
          exact Bool.false_ne_true (hblank.symm.trans (hgap _ List.mem_cons_self))

/-! ### Values in attributes -/

namespace Attribute

variable {a : Attribute}

theorem text_eq (a : Attribute) : a.text = a.gap ++
    (a.name ++ (a.ahead ++ '=' :: (a.behind ++ a.quote :: (a.value ++ [a.quote])))) := by
  simp [text, textWith, lead]

theorem isBroken_text (a : Attribute) (rest : List Char) : IsBroken (a.text ++ rest) := by
  obtain ⟨c, gap, hgap⟩ := List.exists_cons_of_ne_nil a.gap_ne_nil
  rw [text_eq, hgap]
  exact ⟨c, _, rfl, Or.inl (a.isBlank_gap c (hgap ▸ List.mem_cons_self))⟩

/-- In a calm attribute no value is seen, whatever stands before it and follows it. -/
theorem isUnseen_text (h : a.isCalm = true) (hrest : IsBroken rest) (before : Option Char) :
    isUnseen before a.text rest = true := by
  have hnone : isUnseen none a.text rest = true :=
    isUnseen_of_last a.isSpecifierQuote_quote hrest h
  obtain ⟨c, gap, hgap⟩ := List.exists_cons_of_ne_nil a.gap_ne_nil
  have hc : c ≠ 's' := ne_of_isBlank (a.isBlank_gap c (hgap ▸ List.mem_cons_self)) (by decide)
  rw [text_eq, hgap, List.cons_append, isUnseen, Bool.and_eq_true] at hnone ⊢
  exact ⟨by rw [sourceValue?_of_ne hc]; rfl, hnone.2⟩

theorem not_mem_text (h : '>' ∉ a.value) : '>' ∉ a.text := by
  have hblank : ∀ gap : List Char, (∀ c ∈ gap, Text.isBlank c = true) → '>' ∉ gap :=
    fun gap hgap hmem => absurd (hgap _ hmem) (by decide)
  have hquote : '>' ≠ a.quote := fun heq => absurd (heq ▸ a.isSpecifierQuote_quote) (by decide)
  have hname : '>' ∉ a.name :=
    fun hmem => (ne_of_isMarkupName (a.isMarkupName_name _ hmem)).2.2.2 rfl
  simp [text_eq, h, hquote, hname, hblank _ a.isBlank_gap, hblank _ a.isBlank_ahead,
    hblank _ a.isBlank_behind]

/-- The value of an attribute that refers to a file is found. -/
theorem sourceInTag?_text (h : a.isSource = true) (before : Option Char) (rest : List Char) :
    sourceInTag? before (a.text ++ rest) = some (a.lead, a.value, [a.quote]) := by
  rw [isSource, Bool.and_eq_true, Bool.and_eq_true, beq_iff_eq, Bool.not_eq_true',
    List.isEmpty_eq_false_iff, List.all_eq_true] at h
  obtain ⟨⟨hname, hne⟩, hvalue⟩ := h
  have hunseen := isUnseen_of_ne (fun c hc => ne_of_isBlank (a.isBlank_gap c hc) (by decide)) before
    ("src".toList ++ (a.ahead ++ '=' :: (a.behind ++ a.quote :: (a.value ++ a.quote :: rest))))
  have hend : '>' ∉ a.gap := fun hmem => absurd (a.isBlank_gap _ hmem) (by decide)
  have hbefore : Text.isWordAt (a.gap.getLast?.or before) = false := by
    rw [List.getLast?_eq_some_getLast a.gap_ne_nil]
    exact isWord_of_isBlank (a.isBlank_gap _ (List.getLast_mem a.gap_ne_nil))
  have htext : a.text ++ rest = a.gap ++
      ("src".toList ++
        (a.ahead ++ '=' :: (a.behind ++ a.quote :: (a.value ++ a.quote :: rest)))) := by
    simp [text_eq, hname]
  rw [htext, sourceInTag?_append hunseen hend, sourceInTag?_of_some (sourceValue?_of_parts hbefore
    a.isBlank_ahead a.isBlank_behind a.isSpecifierQuote_quote a.isSpecifierQuote_quote hne
      hvalue rest)]
  simp [lead, hname]

end Attribute

/-! ### Values in tags -/

section

variable {attributes : List Attribute} {t : Tag}

theorem Tag.isBroken_ending (t : Tag) (rest : List Char) : IsBroken (t.ending ++ rest) := by
  unfold Tag.ending
  cases hgap : t.gap with
  | nil =>
    cases t.slash with
    | true => exact ⟨'/', '>' :: rest, rfl, Or.inr (Or.inr ⟨rfl, rfl⟩)⟩
    | false => exact ⟨'>', rest, rfl, Or.inr (Or.inl rfl)⟩
  | cons c gap => exact ⟨c, _, rfl, Or.inl (t.isBlank_gap c (hgap ▸ List.mem_cons_self))⟩

theorem isBroken_attributes (attributes : List Attribute) (h : IsBroken rest) :
    IsBroken (attributes.flatMap Attribute.text ++ rest) := by
  cases attributes with
  | nil => exact h
  | cons a attributes =>
    rw [List.flatMap_cons, List.append_assoc]
    exact a.isBroken_text _

theorem Tag.sourceInTag?_ending (t : Tag) (before : Option Char) (rest : List Char) :
    sourceInTag? before (t.ending ++ rest) = none := by
  obtain ⟨piece, hpiece, hending⟩ : ∃ piece : List Char, (∀ c ∈ piece, c ≠ 's') ∧
      t.ending = piece ++ ['>'] := by
    unfold Tag.ending
    have hgap : ∀ c ∈ t.gap, c ≠ 's' := fun c hc => ne_of_isBlank (t.isBlank_gap c hc) (by decide)
    cases t.slash with
    | true =>
      refine ⟨t.gap ++ ['/'], fun c hc => ?_, by simp⟩
      rcases List.mem_append.1 hc with hc | hc
      · exact hgap c hc
      · rw [List.mem_singleton.1 hc]
        decide
    | false => exact ⟨t.gap, hgap, rfl⟩
  rw [hending, List.append_assoc]
  exact sourceInTag?_of_end hpiece before rest

/-- No value is found in calm attributes. -/
theorem sourceInTag?_of_isCalm (h : ∀ a ∈ attributes, a.isCalm = true) (t : Tag) (rest : List Char)
    (before : Option Char) :
    sourceInTag? before (attributes.flatMap Attribute.text ++ (t.ending ++ rest)) = none := by
  induction attributes generalizing before with
  | nil => exact t.sourceInTag?_ending before rest
  | cons a attributes ih =>
    obtain ⟨ha, hattributes⟩ := List.forall_mem_cons.1 h
    rw [List.flatMap_cons, List.append_assoc]
    exact sourceInTag?_eq_none
      (Attribute.isUnseen_text ha (isBroken_attributes attributes (t.isBroken_ending rest)) before)
      (ih hattributes)

/-- Behind calm attributes without an angle bracket the value of the first reference is found. -/
theorem sourceInTag?_of_isSource (h : ∀ b ∈ attributes, b.isCalm = true ∧ '>' ∉ b.value)
    {a : Attribute} (ha : a.isSource = true) (before : Option Char) (rest : List Char) :
    sourceInTag? before (attributes.flatMap Attribute.text ++ (a.text ++ rest)) =
      some (attributes.flatMap Attribute.text ++ a.lead, a.value, [a.quote]) := by
  induction attributes generalizing before with
  | nil => exact Attribute.sourceInTag?_text ha before rest
  | cons b attributes ih =>
    obtain ⟨⟨hcalm, hend⟩, hattributes⟩ := List.forall_mem_cons.1 h
    rw [List.flatMap_cons, List.append_assoc, sourceInTag?_append
      (Attribute.isUnseen_text hcalm (isBroken_attributes attributes (a.isBroken_text rest)) before)
      (Attribute.not_mem_text hend), ih hattributes, List.append_assoc]
    rfl

theorem head?_dropWhile_attributes (attributes : List Attribute) (t : Tag) (rest : List Char) :
    ((attributes.flatMap Attribute.text ++ (t.ending ++ rest)).dropWhile Text.isBlank).head? ≠
      some '=' := by
  cases attributes with
  | nil =>
    rw [List.flatMap_nil, List.nil_append, Tag.ending, List.append_assoc,
      List.dropWhile_append_of_pos t.isBlank_gap]
    cases t.slash with
    | true =>
      rw [if_pos rfl, List.cons_append, List.dropWhile_cons_of_neg (by decide)]
      exact fun h => absurd (Option.some.inj h) (by decide)
    | false =>
      rw [if_neg Bool.false_ne_true, List.cons_append, List.dropWhile_cons_of_neg (by decide)]
      exact fun h => absurd (Option.some.inj h) (by decide)
  | cons a attributes =>
    obtain ⟨c, name, hname⟩ := List.exists_cons_of_ne_nil a.name_ne_nil
    obtain ⟨hblank, hne, -⟩ :=
      ne_of_isMarkupName (a.isMarkupName_name c (hname ▸ List.mem_cons_self))
    rw [List.flatMap_cons, Attribute.text_eq, hname, List.append_assoc, List.append_assoc,
      List.dropWhile_append_of_pos a.isBlank_gap, List.cons_append, List.cons_append,
      List.dropWhile_cons_of_neg (by rw [hblank]; exact Bool.false_ne_true)]
    exact fun h => hne (Option.some.inj h)

/-- In order, no attribute refers to a file and all are calm, or there is one that does, behind calm
ones without an angle bracket. -/
theorem Tag.isInOrder_cases {refers : Attribute → Bool}
    (h : Tag.isInOrder refers attributes = true) :
    (∀ a ∈ attributes, a.isCalm = true ∧ refers a = false) ∨
      ∃ before a after, attributes = before ++ a :: after ∧ refers a = true ∧
        (∀ b ∈ before, (b.isCalm = true ∧ '>' ∉ b.value) ∧ refers b = false) ∧
        ∀ b ∈ after, refers b = false := by
  induction attributes with
  | nil => exact Or.inl nofun
  | cons a attributes ih =>
    rw [Tag.isInOrder] at h
    split at h
    · next ha =>
      exact Or.inr ⟨[], a, attributes, rfl, ha, nofun, fun b hb => by
        simpa using List.all_eq_true.1 h b hb⟩
    · next ha =>
      rw [Bool.not_eq_true] at ha
      rw [Bool.and_eq_true, Bool.and_eq_true, Bool.or_eq_true] at h
      obtain ⟨⟨hcalm, hbracket⟩, hrest⟩ := h
      rcases ih hrest with hnone | ⟨before, b, after, rfl, hb, hbefore, hafter⟩
      · exact Or.inl (List.forall_mem_cons.2 ⟨⟨hcalm, ha⟩, hnone⟩)
      · have hbracket' : '>' ∉ a.value := by
          rcases hbracket with hbracket | hall
          · simpa using hbracket
          · have hfalse := List.all_eq_true.1 hall b (List.mem_append_right _ List.mem_cons_self)
            rw [hb] at hfalse
            cases hfalse
        exact Or.inr ⟨a :: before, b, after, rfl, hb,
          List.forall_mem_cons.2 ⟨⟨⟨hcalm, hbracket'⟩, ha⟩, hbefore⟩, hafter⟩

end

/-! ### What a clear template refers to -/

/-- Parts of a text refer to files by some values, and read as told when these are replaced. -/
structure Reads (parts : List (Segment String)) (sources : List (String × String))
    (rewritten : (String → String → String) → List Char) : Prop where
  sources : (parts.filterMap Segment.hit?).map (fun hit => (hit.tag, hit.capturedText)) = sources
  rewritten : ∀ f, parts.flatMap
    (Segment.changed fun hit => (f hit.tag hit.capturedText).toList) = rewritten f

namespace Reads

variable {parts parts' : List (Segment String)} {sources sources' : List (String × String)}
  {rewritten rewritten' : (String → String → String) → List Char}

theorem append (h : Reads parts sources rewritten) (h' : Reads parts' sources' rewritten') :
    Reads (parts ++ parts') (sources ++ sources') (fun f => rewritten f ++ rewritten' f) where
  sources := by
    rw [List.filterMap_append, List.map_append, h.sources, h'.sources]
  rewritten f := by
    rw [List.flatMap_append, h.rewritten, h'.rewritten]

/-- Characters between references are left. -/
theorem kept (chars : List Char) : Reads (chars.map .kept) [] (fun _ => chars) where
  sources := by
    induction chars with
    | nil => rfl
    | cons c chars ih => exact ih
  rewritten f := by
    rw [List.flatMap_map]
    exact List.flatMap_singleton' chars

theorem hit (hit : Hit String) :
    Reads [.hit hit] [(hit.tag, hit.capturedText)]
      (fun f => hit.substitute (f hit.tag hit.capturedText).toList) where
  sources := rfl
  rewritten _ := List.append_nil _

end Reads

namespace Tag

variable {t : Tag}

/-- A tag in which nothing is found is left. -/
theorem segments_of_none (hclosed : ∀ a ∈ t.attributes, a.isClosed = true)
    (h : tagged none (t.textWith Attribute.text ++ rest) = none) :
    segments tagged none (t.textWith Attribute.text ++ rest) =
      (t.textWith Attribute.text).map .kept ++ segments tagged none rest := by
  rw [textWith_eq, List.cons_append] at h ⊢
  rw [segments_cons_of_none h, segments_tagged, segments_of_isClosed (isClosed_inner hclosed rest)]
  rfl

/-- Attributes by which a tag refers to no files stay as they are. -/
theorem flatMap_attributeWith {attributes : List Attribute}
    (h : ∀ a ∈ attributes, t.refers a = false) (f : String → String → String) :
    attributes.flatMap (t.attributeWith f) = attributes.flatMap Attribute.text :=
  List.flatMap_congr fun a ha => by
    rw [attributeWith, h a ha]
    rfl

theorem filter_refers {attributes : List Attribute} (h : ∀ a ∈ attributes, t.refers a = false) :
    attributes.filter t.refers = [] :=
  List.filter_eq_nil_iff.2 fun a ha => Bool.eq_false_iff.1 (h a ha)

/-- The name is read up to the attributes or the end. -/
theorem tagged_textWith (t : Tag) (rest : List Char) :
    tagged none (t.textWith Attribute.text ++ rest) =
      (tagName? t.name.toList).bind fun (name, behind) =>
        (sourceInTag? name.toList.getLast?
          (behind ++ (t.attributes.flatMap Attribute.text ++ (t.ending ++ rest)))).map
            fun (lead, value, closing) => ⟨'<' :: name.toList ++ lead, value, closing, name⟩ := by
  obtain ⟨d, more, hbehind, hd⟩ := isBroken_attributes t.attributes (t.isBroken_ending rest)
  have hborder : isBorder d = true := by
    rcases hd with hblank | rfl | ⟨rfl, -⟩
    · exact isBorder_of_isBlank hblank
    · decide
    · decide
  rw [textWith_eq, tagged_eq, List.cons_append, expect?_eq_some.2 List.singleton_append.symm,
    Option.bind_some, inner, List.append_assoc, List.append_assoc, hbehind, tagName?_append hborder]
  cases tagName? t.name.toList with
  | none => rfl
  | some found => rfl

/-- A tag that is named as one that refers to files is found by its name. -/
theorem tagName?_of_isNamed (h : t.isNamed = true) :
    tagName? t.name.toList = some (t.name, []) := by
  have hall : ∀ name ∈ tagNames, tagName? name.toList = some (name, []) := by decide
  exact hall t.name (List.contains_iff_mem.1 h)

/-- What stands in a name behind that of a tag that refers to files. -/
theorem isMarkupName_of_tagName? {name : String} {behind : List Char}
    (h : tagName? t.name.toList = some (name, behind)) : ∀ c ∈ behind, isMarkupName c = true := by
  obtain ⟨hmem, hname, -⟩ := tagName?_eq_some h
  obtain ⟨first, more, htext, -, hmore⟩ := t.exists_name
  have hne : ∀ name ∈ tagNames, name.toList ≠ [] := by decide
  obtain ⟨c, chars, hchars⟩ := List.exists_cons_of_ne_nil (hne name hmem)
  rw [htext, hchars, List.cons_append] at hname
  obtain ⟨rfl, rfl⟩ := List.cons.inj hname
  exact fun d hd => hmore d (List.mem_append_right _ hd)

/-- Nothing is found in a tag whose attributes are calm. -/
theorem tagged_of_isCalm (h : ∀ a ∈ t.attributes, a.isCalm = true) (rest : List Char) :
    tagged none (t.textWith Attribute.text ++ rest) = none := by
  rw [tagged_textWith]
  cases hname : tagName? t.name.toList with
  | none => rfl
  | some found =>
    obtain ⟨name, behind⟩ := found
    have hunseen := isUnseen_of_isMarkupName (isMarkupName_of_tagName? hname)
      (isBroken_attributes t.attributes (t.isBroken_ending rest))
      (head?_dropWhile_attributes t.attributes t rest) name.toList.getLast?
    rw [Option.bind_some]
    dsimp only
    rw [sourceInTag?_eq_none hunseen (sourceInTag?_of_isCalm h t rest)]
    rfl

/-- A tag that refers to no file and in which nothing is found. -/
theorem exists_parts_of_forall (hclosed : ∀ a ∈ t.attributes, a.isClosed = true)
    (hnone : ∀ rest, tagged none (t.textWith Attribute.text ++ rest) = none)
    (h : ∀ a ∈ t.attributes, t.refers a = false) :
    ∃ parts, Reads parts t.sources t.rewritten ∧
      ∀ rest, segments tagged none (t.textWith Attribute.text ++ rest) =
        parts ++ segments tagged none rest := by
  have hreads := Reads.kept (t.textWith Attribute.text)
  have hsources : t.sources = [] := congrArg (List.map _) (filter_refers h)
  have hrewritten : t.rewritten = fun _ => t.textWith Attribute.text := by
    funext f
    rw [rewritten, textWith, textWith, flatMap_attributeWith h]
  rw [← hsources, ← hrewritten] at hreads
  exact ⟨_, hreads, fun rest => segments_of_none hclosed (hnone rest)⟩

/-- A tag that refers to a file by one attribute, which is found. -/
theorem exists_parts_of_refers (hclosed : ∀ a ∈ t.attributes, a.isClosed = true)
    {before after : List Attribute} {a : Attribute}
    (hattributes : t.attributes = before ++ a :: after)
    (ha : t.refers a = true)
    (hbefore : ∀ b ∈ before, (b.isCalm = true ∧ '>' ∉ b.value) ∧ t.refers b = false)
    (hafter : ∀ b ∈ after, t.refers b = false) :
    ∃ parts, Reads parts t.sources t.rewritten ∧
      ∀ rest, segments tagged none (t.textWith Attribute.text ++ rest) =
        parts ++ segments tagged none rest := by
  -- the hit takes all before the attribute as its lead; what is behind is kept
  let hit : Hit String :=
    ⟨'<' :: t.name.toList ++ (before.flatMap Attribute.text ++ a.lead), a.value, [a.quote], t.name⟩
  let behind := after.flatMap Attribute.text ++ t.ending
  obtain ⟨hnamed, hsource⟩ := Bool.and_eq_true_iff.1 ha
  have hbefore' : ∀ b ∈ before, t.refers b = false := fun b hb => (hbefore b hb).2
  have hreads := (Reads.hit hit).append (Reads.kept behind)
  have hsources : t.sources = [(hit.tag, hit.capturedText)] ++ [] := by
    rw [sources, hattributes, List.filter_append, filter_refers hbefore',
      List.filter_cons_of_pos ha, filter_refers hafter]
    rfl
  have hrewritten : t.rewritten = fun f =>
      hit.substitute (f hit.tag hit.capturedText).toList ++ behind := by
    funext f
    rw [rewritten, textWith, hattributes, List.flatMap_append, List.flatMap_cons,
      flatMap_attributeWith hbefore', flatMap_attributeWith hafter, attributeWith, if_pos ha]
    simp [hit, behind, Hit.substitute, Hit.capturedText, Attribute.textWith]
  rw [← hsources, ← hrewritten] at hreads
  refine ⟨_, hreads, fun rest => ?_⟩
  have htext : t.textWith Attribute.text = hit.text ++ behind := by
    simp [textWith, hattributes, hit, behind, Hit.text, Attribute.text, Attribute.textWith]
  have hfound : tagged none (hit.text ++ (behind ++ rest)) = some hit := by
    rw [← List.append_assoc, ← htext, tagged_textWith, tagName?_of_isNamed hnamed, Option.bind_some]
    dsimp only
    rw [hattributes, List.flatMap_append, List.flatMap_cons, List.nil_append, List.append_assoc,
      List.append_assoc, sourceInTag?_of_isSource (fun b hb => (hbefore b hb).1) hsource]
    rfl
  have hbehind : isClosed behind rest = true := by
    have hclosed' : ∀ b ∈ after, b.isClosed = true := fun b hb =>
      hclosed b (hattributes ▸ List.mem_append_right _ (List.mem_cons_of_mem _ hb))
    rw [isClosed_append, isClosed_attributes hclosed', isClosed_of_not_mem t.not_mem_ending]
    rfl
  rw [htext, List.append_assoc, segments_append_of_hit (isSound_tagged _ _ _ hfound).2 hfound,
    segments_tagged, segments_of_isClosed hbehind]
  rfl

/-- A clear tag refers to files by its sources, whatever follows it. -/
theorem exists_parts (h : t.isClear = true) :
    ∃ parts, Reads parts t.sources t.rewritten ∧
      ∀ rest, segments tagged none (t.textWith Attribute.text ++ rest) =
        parts ++ segments tagged none rest := by
  rw [isClear, Bool.and_eq_true, List.all_eq_true, Bool.or_eq_true] at h
  obtain ⟨hclosed, horder⟩ := h
  rcases horder with hname | horder
  · rw [Option.isNone_iff_eq_none] at hname
    refine exists_parts_of_forall hclosed (fun rest => by rw [tagged_textWith, hname]; rfl) ?_
    intro a _
    refine Bool.eq_false_iff.2 fun ha => ?_
    rw [tagName?_of_isNamed (Bool.and_eq_true_iff.1 ha).1] at hname
    cases hname
  · rcases isInOrder_cases horder with hnone | ⟨before, a, after, hattributes, ha, hbefore, hafter⟩
    · exact exists_parts_of_forall hclosed (tagged_of_isCalm fun a ha => (hnone a ha).1)
        fun a ha => (hnone a ha).2
    · exact exists_parts_of_refers hclosed hattributes ha hbefore hafter

end Tag

/-- A clear template without its comments refers to files by the sources of its tags. -/
theorem Markup.reads_segments {pieces : List Markup} (h : ∀ piece ∈ pieces, piece.isClear = true) :
    Reads (segments tagged none (pieces.flatMap bare)) (pieces.flatMap sources)
      (fun f => pieces.flatMap (rewritten f)) := by
  induction pieces with
  | nil =>
    rw [List.flatMap_nil, segments_nil]
    exact Reads.kept []
  | cons piece pieces ih =>
    obtain ⟨hpiece, hpieces⟩ := List.forall_mem_cons.1 h
    simp only [List.flatMap_cons]
    cases piece with
    | text chars hchars =>
      rw [bare, segments_of_isClosed (isClosed_of_isText hchars _)]
      exact (Reads.kept chars).append (ih hpieces)
    | comment body hbody => exact ih hpieces
    | tag t =>
      obtain ⟨parts, hreads, hparts⟩ := Tag.exists_parts hpiece
      rw [bare, hparts]
      exact hreads.append (ih hpieces)

end Minipack.Source
