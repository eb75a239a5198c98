/-
What the recognisers find.

A recogniser reads a text piece by piece: a word that it expects, blanks, a quote, some characters
of a kind.  Each piece is taken off the front (`expect?_eq_some`, `blanks_eq`, `quote?_eq_some`,
`some?_eq_some`), so that the pieces of a hit, joined, are what the text begins with, and every
recogniser of references is sound (`isSound_required`, `isSound_imported`, `isSound_addressed`,
`isSound_tagged`).
-/
import Mathlib.Data.List.TakeWhile
import Minipack.Proofs.Source.Lexing
import Minipack.Proofs.Source.Replacing
import Minipack.Source.References

namespace Minipack.Source

variable {text rest : List Char}

/-! ### Pieces -/

theorem expect?_eq_some {word : List Char} :
    expect? word text = some rest ↔ text = word ++ rest := by
  unfold expect?
  constructor
  · intro h
    split at h
    · next hword =>
      obtain ⟨tail, rfl⟩ := List.isPrefixOf_iff_prefix.1 hword
      rw [List.drop_left] at h
      rw [Option.some.inj h]
    · cases h
  · rintro rfl
    rw [if_pos (List.isPrefixOf_iff_prefix.2 (List.prefix_append _ _)), List.drop_left]

theorem blanks_eq (text : List Char) : (blanks text).1 ++ (blanks text).2 = text :=
  List.takeWhile_append_dropWhile

theorem quote?_eq_some {c : Char} :
    quote? text = some (c, rest) ↔ text = c :: rest ∧ isSpecifierQuote c = true := by
  cases text with
  | nil => simp [quote?]
  | cons d text =>
    rw [quote?]
    split
    · next hquote =>
      constructor
      · intro h
        obtain ⟨rfl, rfl⟩ := Prod.mk.inj (Option.some.inj h)
        exact ⟨rfl, hquote⟩
      · rintro ⟨h, -⟩
        obtain ⟨rfl, rfl⟩ := List.cons.inj h
        rfl
    · next hquote =>
      refine ⟨nofun, ?_⟩
      rintro ⟨h, hc⟩
      obtain ⟨rfl, -⟩ := List.cons.inj h
      exact absurd hc hquote

theorem some?_eq_some {kind : Char → Bool} {taken : List Char} :
    some? kind text = some (taken, rest) ↔
      text.takeWhile kind = taken ∧ text.dropWhile kind = rest ∧ taken ≠ [] := by
  unfold some?
  dsimp only
  split
  · next hempty =>
    refine ⟨nofun, ?_⟩
    rintro ⟨rfl, -, hne⟩
    exact absurd (List.isEmpty_iff.1 hempty) hne
  · next hempty =>
    constructor
    · intro h
      obtain ⟨rfl, rfl⟩ := Prod.mk.inj (Option.some.inj h)
      exact ⟨rfl, rfl, fun hnil => hempty (List.isEmpty_iff.2 hnil)⟩
    · rintro ⟨rfl, rfl, -⟩
      rfl

theorem append_of_some? {kind : Char → Bool} {taken : List Char}
    (h : some? kind text = some (taken, rest)) : taken ++ rest = text := by
  obtain ⟨rfl, rfl, -⟩ := some?_eq_some.1 h
  exact List.takeWhile_append_dropWhile

theorem optionalQuote_eq (text : List Char) :
    (optionalQuote text).1 ++ (optionalQuote text).2 = text := by
  unfold optionalQuote
  cases h : quote? text with
  | none => rfl
  | some found =>
    obtain ⟨htext, -⟩ := quote?_eq_some.1 h
    exact htext.symm

/-! ### Characters -/

/-- The blanks by their code points. -/
def blankCodes : List Nat :=
  [0x09, 0x0a, 0x0b, 0x0c, 0x0d, 0x20, 0x85, 0xa0, 0x1680, 0x2000, 0x2001, 0x2002, 0x2003, 0x2004,
    0x2005, 0x2006, 0x2007, 0x2008, 0x2009, 0x200a, 0x2028, 0x2029, 0x202f, 0x205f, 0x3000]

theorem mem_blankCodes {c : Char} (h : Text.isBlank c = true) : c.toNat ∈ blankCodes := by
  simp only [Text.isBlank, Bool.or_eq_true, Bool.and_eq_true, decide_eq_true_eq, beq_iff_eq,
    UInt32.le_iff_toNat_le, ← UInt32.toNat_inj] at h
  simp only [blankCodes, Char.toNat]
  simp at h ⊢
  omega

/-- What holds of the code points of blanks holds of blanks. -/
theorem forall_isBlank (p : Char → Prop) (h : ∀ n ∈ blankCodes, p (Char.ofNat n)) {c : Char}
    (hc : Text.isBlank c = true) : p c := by
  have hp := h _ (mem_blankCodes hc)
  rwa [Char.ofNat_toNat] at hp

theorem isSpecifierChar_of_isBlank {c : Char} (h : Text.isBlank c = true) :
    isSpecifierChar c = false := by
  have hall : ∀ n ∈ blankCodes, isSpecifierChar (Char.ofNat n) = false := by decide +kernel
  exact forall_isBlank (isSpecifierChar · = false) hall h

theorem isWord_of_isBlank {c : Char} (h : Text.isBlank c = true) : Text.isWord c = false := by
  have hchar := isSpecifierChar_of_isBlank h
  simp only [isSpecifierChar, Bool.or_eq_false_iff] at hchar
  exact hchar.1.1.1.1.1

theorem eq_of_isSpecifierQuote {c : Char} (h : isSpecifierQuote c = true) :
    c = '\x22' ∨ c = '\x27' := by
  simpa [isSpecifierQuote] using h

theorem isSpecifierChar_of_isSpecifierQuote {c : Char} (h : isSpecifierQuote c = true) :
    isSpecifierChar c = false := by
  rcases eq_of_isSpecifierQuote h with rfl | rfl
  · decide
  · decide

theorem isBlank_of_isSpecifierQuote {c : Char} (h : isSpecifierQuote c = true) :
    Text.isBlank c = false := by
  rcases eq_of_isSpecifierQuote h with rfl | rfl
  · decide
  · decide

/-! ### Soundness -/

theorem isSound_required : Recogniser.IsSound required := by
  intro before text hit h
  unfold required at h
  simp only [Option.bind_eq_bind, Option.bind_eq_some_iff, Option.pure_def, Prod.exists] at h
  obtain ⟨rest, hname, opening, afterOpening, hopening, specifier, afterSpecifier, hspecifier,
    closing, afterClosing, hclosing, behind, hend, hhit⟩ := h
  obtain rfl := Option.some.inj hhit
  have hgap := blanks_eq rest
  have hgap' := blanks_eq afterClosing
  generalize blanks rest = gap at *
  generalize blanks afterClosing = gap' at *
  obtain ⟨hopening, -⟩ := quote?_eq_some.1 hopening
  obtain ⟨hclosing, -⟩ := quote?_eq_some.1 hclosing
  refine ⟨⟨behind, ?_⟩, by simp [Hit.text]⟩
  rw [expect?_eq_some.1 hname, ← hgap, hopening, ← append_of_some? hspecifier, hclosing, ← hgap',
    expect?_eq_some.1 hend]
  simp [Hit.text]

theorem isSound_imported : Recogniser.IsSound imported := by
  intro before text hit h
  unfold imported at h
  simp only [Option.bind_eq_bind, Option.bind_eq_some_iff, Option.pure_def, Prod.exists] at h
  obtain ⟨rest, hname, gap, afterGap, hgap, opening, afterOpening, hopening, specifier,
    afterSpecifier, hspecifier, closing, behind, hclosing, hhit⟩ := h
  obtain rfl := Option.some.inj hhit
  obtain ⟨hopening, -⟩ := quote?_eq_some.1 hopening
  obtain ⟨hclosing, -⟩ := quote?_eq_some.1 hclosing
  refine ⟨⟨behind, ?_⟩, by simp [Hit.text]⟩
  rw [expect?_eq_some.1 hname, ← append_of_some? hgap, hopening, ← append_of_some? hspecifier,
    hclosing]
  simp [Hit.text]

theorem isSound_addressed : Recogniser.IsSound addressed := by
  intro before text hit h
  unfold addressed at h
  simp only [Option.bind_eq_bind, Option.bind_eq_some_iff, Option.pure_def, Prod.exists] at h
  obtain ⟨rest, hname, specifier, afterSpecifier, hspecifier, behind, hend, hhit⟩ := h
  obtain rfl := Option.some.inj hhit
  have hgap := blanks_eq rest
  generalize blanks rest = gap at *
  have hopening := optionalQuote_eq gap.2
  generalize optionalQuote gap.2 = opening at *
  have hclosing := optionalQuote_eq afterSpecifier
  generalize optionalQuote afterSpecifier = closing at *
  have hgap' := blanks_eq closing.2
  generalize blanks closing.2 = gap' at *
  refine ⟨⟨behind, ?_⟩, by simp [Hit.text]⟩
  rw [expect?_eq_some.1 hname, ← hgap, ← hopening, ← append_of_some? hspecifier, ← hclosing,
    ← hgap', expect?_eq_some.1 hend]
  simp [Hit.text]

/-! ### Tags -/

theorem tagName?_eq_some {name : String} (h : tagName? text = some (name, rest)) :
    name ∈ tagNames ∧ text = name.toList ++ rest ∧ Text.isWordAt rest.head? = false := by
  obtain ⟨other, hmem, hfound⟩ := List.exists_of_findSome?_eq_some h
  split at hfound
  · next tail htail =>
    split at hfound
    · cases hfound
    · next hword =>
      obtain ⟨rfl, rfl⟩ := Prod.mk.inj (Option.some.inj hfound)
      exact ⟨hmem, expect?_eq_some.1 htail, Bool.eq_false_iff.2 hword⟩
  · cases hfound

/-- A `src` attribute is found with the text before its plain value, the value and a quote. -/
theorem exists_of_sourceValue? {before : Option Char} {lead value closing : List Char}
    (h : sourceValue? before text = some (lead, value, closing)) :
    Text.isWordAt before = false ∧ ∃ gap gap' opening c behind,
      (∀ d ∈ gap, Text.isBlank d = true) ∧ (∀ d ∈ gap', Text.isBlank d = true) ∧
      isSpecifierQuote opening = true ∧ isSpecifierQuote c = true ∧
      value ≠ [] ∧ (∀ d ∈ value, isSpecifierChar d = true) ∧
      lead = "src".toList ++ gap ++ '=' :: gap' ++ [opening] ∧ closing = [c] ∧
      text = lead ++ value ++ closing ++ behind := by
  unfold sourceValue? at h
  split at h
  · cases h
  next hword =>
  simp only [Option.bind_eq_bind, Option.bind_eq_some_iff, Option.pure_def, Option.some.injEq,
    Prod.exists, Prod.mk.injEq] at h
  obtain ⟨rest, hname, afterSign, hsign, opening, afterOpening, hopening, value', afterValue,
    hvalue, c, behind, hclosing, rfl, rfl, rfl⟩ := h
  have hgap := blanks_eq rest
  have hgap' := blanks_eq afterSign
  obtain ⟨hopening, hquote⟩ := quote?_eq_some.1 hopening
  obtain ⟨hclosing, hquote'⟩ := quote?_eq_some.1 hclosing
  obtain ⟨htaken, -, hne⟩ := some?_eq_some.1 hvalue
  refine ⟨Bool.eq_false_iff.2 hword, (blanks rest).1, (blanks afterSign).1, opening, c, behind,
    fun _ => List.mem_takeWhile_imp, fun _ => List.mem_takeWhile_imp, hquote, hquote', hne,
    ?_, rfl, rfl, ?_⟩
  · rw [← htaken]
    exact fun _ => List.mem_takeWhile_imp
  · generalize blanks rest = gap at *
    generalize blanks afterSign = gap' at *
    rw [expect?_eq_some.1 hname, ← hgap, expect?_eq_some.1 hsign, ← hgap', hopening,
      ← append_of_some? hvalue, hclosing]
    simp

/-- Such an attribute is found, whatever stands behind it. -/
theorem sourceValue?_of_parts {before : Option Char} {gap gap' value : List Char} {opening c : Char}
    (hbefore : Text.isWordAt before = false) (hgap : ∀ d ∈ gap, Text.isBlank d = true)
    (hgap' : ∀ d ∈ gap', Text.isBlank d = true) (hopening : isSpecifierQuote opening = true)
    (hc : isSpecifierQuote c = true) (hne : value ≠ [])
    (hvalue : ∀ d ∈ value, isSpecifierChar d = true) (behind : List Char) :
    sourceValue? before ("src".toList ++
      (gap ++ '=' :: (gap' ++ opening :: (value ++ c :: behind)))) =
      some ("src".toList ++ gap ++ '=' :: gap' ++ [opening], value, [c]) := by
  have hname : expect? "src".toList
      ("src".toList ++ (gap ++ '=' :: (gap' ++ opening :: (value ++ c :: behind)))) =
        some (gap ++ '=' :: (gap' ++ opening :: (value ++ c :: behind))) := expect?_eq_some.2 rfl
  have hsign : ∀ d ∈ ('=' :: (gap' ++ opening :: (value ++ c :: behind))).head?,
      Text.isBlank d = false := by
    rintro d ⟨⟩
    decide
  have hquote : ∀ d ∈ (opening :: (value ++ c :: behind)).head?, Text.isBlank d = false := by
    rintro d ⟨⟩
    exact isBlank_of_isSpecifierQuote hopening
  have hend : ∀ d ∈ (c :: behind).head?, isSpecifierChar d = false := by
    rintro d ⟨⟩
    exact isSpecifierChar_of_isSpecifierQuote hc
  have hvalue' :=
    some?_eq_some.2 ⟨(takeWhile_append hvalue hend).1, (takeWhile_append hvalue hend).2, hne⟩
  unfold sourceValue?
  rw [hbefore, if_neg Bool.false_ne_true]
  simp only [Option.bind_eq_bind, hname, Option.bind_some, blanks, takeWhile_append hgap hsign,
    takeWhile_append hgap' hquote, expect?_eq_some.2 (List.singleton_append).symm,
    quote?_eq_some.2 ⟨rfl, hopening⟩, hvalue', quote?_eq_some.2 ⟨rfl, hc⟩]
  rfl

theorem exists_of_sourceInTag? {before : Option Char} {lead value closing : List Char}
    (h : sourceInTag? before text = some (lead, value, closing)) :
    closing ≠ [] ∧ (∀ d ∈ value, isSpecifierChar d = true) ∧
      ∃ behind, text = lead ++ value ++ closing ++ behind := by
  induction text generalizing before lead with
  | nil => cases h
  | cons c rest ih =>
    rw [sourceInTag?] at h
    split at h
    · next found hfound =>
      obtain rfl := Option.some.inj h
      obtain ⟨-, gap, gap', opening, d, behind, -, -, -, -, -, hvalue, -, rfl, htext⟩ :=
        exists_of_sourceValue? hfound
      exact ⟨List.cons_ne_nil _ _, hvalue, behind, htext⟩
    · split at h
      · cases h
      · obtain ⟨⟨lead', value', closing'⟩, hrest, heq⟩ := Option.map_eq_some_iff.1 h
        obtain ⟨rfl, hfound⟩ := Prod.mk.inj heq
        obtain ⟨rfl, rfl⟩ := Prod.mk.inj hfound
        obtain ⟨hne, hvalue, behind, rfl⟩ := ih hrest
        exact ⟨hne, hvalue, behind, rfl⟩

/-- A tag is found with its name and a plain value. -/
theorem exists_of_tagged {before : Option Char} {hit : Hit String}
    (h : tagged before text = some hit) :
    hit.tag ∈ tagNames ∧ (∀ c ∈ hit.captured, isSpecifierChar c = true) ∧ hit.lead ≠ [] ∧
      ∃ behind, text = hit.text ++ behind := by
  unfold tagged at h
  simp only [Option.bind_eq_bind, Option.bind_eq_some_iff, Option.pure_def, Prod.exists] at h
  obtain ⟨rest, hopen, name, afterName, hname, lead, value, closing, hsource, hhit⟩ := h
  obtain rfl := Option.some.inj hhit
  obtain ⟨htag, hname, -⟩ := tagName?_eq_some hname
  obtain ⟨-, hvalue, behind, hsource⟩ := exists_of_sourceInTag? hsource
  refine ⟨htag, hvalue, List.cons_ne_nil _ _, behind, ?_⟩
  rw [expect?_eq_some.1 hopen, hname, hsource]
  simp [Hit.text]

theorem isSound_tagged : Recogniser.IsSound tagged := by
  intro before text hit h
  obtain ⟨-, -, hlead, behind, rfl⟩ := exists_of_tagged h
  refine ⟨List.prefix_append _ _, ?_⟩
  rw [Hit.text, List.append_assoc]
  exact List.append_ne_nil_of_left_ne_nil hlead _

end Minipack.Source
