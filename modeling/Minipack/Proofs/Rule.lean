/-
Rules that judge a file by its name.

Rules are tried on the whole text of a path, so a rule can tell two files of one name apart
(`Rule.JudgesName` says that it does not).  A pattern that is a plain text at the end, such as an
extension, is of that kind when it has no slash (`Rule.judgesName_of_endings`); it matches the paths
that end in the text (`Regex.isMatch_ending`).
-/
import Minipack.Config.Basic
import Minipack.Proofs.Path.Ending

namespace Minipack

/-! ### Texts at the end -/

namespace Regex

/-- The expression of a text at the end. -/
def ending : List Char → Regex
  | [] => .anchor false .textEnd
  | c :: rest => .sequence (.char (.one c)) (ending rest)

theorem holds_one {c d : Char} : (CharClass.one c).holds d = true ↔ d = c := by
  rw [CharClass.one, CharClass.holds, Bool.and_eq_true, decide_eq_true_eq, decide_eq_true_eq]
  exact ⟨fun h => Char.le_antisymm h.2 h.1, fun h => h ▸ ⟨Char.le_refl _, Char.le_refl _⟩⟩

/-- A match ends where the text does and begins so many characters before. -/
theorem mem_ends_ending {text suffix : List Char} {starts : List Nat} {j : Nat} :
    j ∈ (ending suffix).ends text.toArray starts ↔
      ∃ i ∈ starts, j = i + suffix.length ∧ text.drop i = suffix := by
  induction suffix generalizing starts with
  | nil =>
    rw [ending, ends, List.mem_filter, Anchor.holds, Option.isNone_iff_eq_none,
      List.getElem?_toArray, List.getElem?_eq_none_iff]
    constructor
    · rintro ⟨hmem, hend⟩
      exact ⟨j, hmem, rfl, List.drop_eq_nil_of_le hend⟩
    · rintro ⟨i, hmem, rfl, hdrop⟩
      exact ⟨hmem, List.drop_eq_nil_iff.1 hdrop⟩
  | cons c suffix ih =>
    rw [ending, ends, ih]
    constructor
    -- the first character leads one position on
    · rintro ⟨i', hmem, rfl, hdrop⟩
      rw [ends] at hmem
      obtain ⟨i, hi, hstep⟩ := List.mem_filterMap.1 hmem
      split at hstep
      · next d hd =>
        split at hstep
        · next hholds =>
          obtain rfl := Option.some.inj hstep
          obtain rfl := holds_one.1 hholds
          rw [List.getElem?_toArray] at hd
          obtain ⟨hlt, hget⟩ := List.getElem?_eq_some_iff.1 hd
          refine ⟨i, hi, ?_, ?_⟩
          · rw [List.length_cons]
            omega
          · rw [List.drop_eq_getElem_cons hlt, hget, hdrop]
        · cases hstep
      · cases hstep
    · rintro ⟨i, hi, rfl, hdrop⟩
      have hget : text[i]? = some c := by
        rw [← List.head?_drop, hdrop, List.head?_cons]
      refine ⟨i + 1, ?_, ?_, ?_⟩
      · rw [ends]
        refine List.mem_filterMap.2 ⟨i, hi, ?_⟩
        rw [List.getElem?_toArray, hget]
        exact if_pos (holds_one.2 rfl)
      · rw [List.length_cons]
        omega
      · rw [← List.drop_drop, hdrop, List.drop_succ_cons, List.drop_zero]

/-- The paths that a text at the end matches are those that end in it. -/
theorem isMatch_ending {suffix : List Char} {text : String} :
    (ending suffix).isMatch text = true ↔ suffix <:+ text.toList := by
  unfold isMatch
  dsimp only
  rw [Bool.not_eq_true', List.isEmpty_eq_false_iff_exists_mem]
  simp only [mem_ends_ending]
  constructor
  · rintro ⟨j, i, -, -, hdrop⟩
    exact hdrop ▸ List.drop_suffix i _
  · rintro ⟨front, hfront⟩
    refine ⟨_, front.length, ?_, rfl, ?_⟩
    · rw [List.mem_range, List.size_toArray, ← hfront, List.length_append]
      omega
    · rw [← hfront, List.drop_left]

end Regex

/-! ### Names -/

/-- The pattern is a text without slashes at the end. -/
def Pattern.IsEnding (pattern : Pattern) : Prop :=
  ∃ suffix, pattern.regex = .ending suffix ∧ '/' ∉ suffix

/-- The rule finds the same of a path as of the name that it ends in. -/
def Rule.JudgesName (rule : Rule) : Prop :=
  ∀ (p : Path) (name : String), Component.IsName (.name name) → p.EndsIn name →
    rule.applies p = rule.applies ⟨name⟩

/-- A text without slashes is at the end of a path if it is at the end of the name. -/
theorem suffix_append_slash_iff {suffix front name : List Char} (h : '/' ∉ suffix) :
    suffix <:+ front ++ '/' :: name ↔ suffix <:+ name := by
  constructor
  · intro hsuffix
    rcases List.suffix_or_suffix_of_suffix hsuffix (List.suffix_append front ('/' :: name)) with
      hshort | hlong
    · rcases List.suffix_cons_iff.1 hshort with rfl | hname
      · exact absurd List.mem_cons_self h
      · exact hname
    · exact absurd (hlong.subset List.mem_cons_self) h
  · intro hsuffix
    exact hsuffix.trans ((List.suffix_cons '/' name).trans (List.suffix_append front _))

theorem Pattern.IsEnding.isMatch_eq {pattern : Pattern} (h : pattern.IsEnding) {p : Path}
    {name : String} (hp : p.EndsIn name) :
    pattern.regex.isMatch p.text = pattern.regex.isMatch name := by
  obtain ⟨suffix, hregex, hslash⟩ := h
  rw [hregex, Bool.eq_iff_iff, Regex.isMatch_ending, Regex.isMatch_ending]
  rcases hp with hp | ⟨front, hp⟩
  · rw [hp]
  · rw [hp, suffix_append_slash_iff hslash]

/-- Rules whose patterns are texts at the end judge by the name. -/
theorem Rule.judgesName_of_endings {rule : Rule} (htest : rule.test.IsEnding)
    (hexclude : ∀ pattern ∈ rule.exclude, pattern.IsEnding) : rule.JudgesName := by
  intro p name _ hp
  unfold Rule.applies
  rw [htest.isMatch_eq hp]
  refine congrArg (fun excluded => rule.test.regex.isMatch name && !excluded) ?_
  rw [Bool.eq_iff_iff, List.any_eq_true, List.any_eq_true]
  exact exists_congr fun pattern => and_congr_right fun hpattern => by
    rw [(hexclude pattern hpattern).isMatch_eq hp]

/-- Where all rules judge by the name, the rule of a file is told by its name. -/
theorem Config.rule?_of_endsIn {config : Config} (h : ∀ rule ∈ config.rules, rule.JudgesName)
    {p : Path} {name : String} (hname : Component.IsName (.name name)) (hp : p.EndsIn name) :
    config.rule? p = config.rule? ⟨name⟩ := by
  unfold Config.rule? Rule.first?
  rw [← List.head?_filter, ← List.head?_filter,
    List.filter_congr fun rule hrule => h rule hrule p name hname hp]

end Minipack
