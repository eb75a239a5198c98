/-
A character in front of a text.

Each recogniser finds only hits that begin with one character, whatever stands before them
(`Recogniser.OpensWith`).  So another character in front of a text is kept in front of what becomes
of it, and all else stays (`replaceCaptured_cons`); and what becomes of a text begins as the text
does, and is blank exactly if the text is (`front_replaceCaptured`).  A character that opens neither
a comment nor a literal stays in front of a text that loses its comments (`stripBlockComments_cons`,
`stripMarkupComments_cons`, `stripScriptComments_cons`).
-/
import Minipack.Proofs.Source.Recognisers
import Minipack.Source.Comments

namespace Minipack.Source

variable {τ : Type} {find : Recogniser τ} {c d : Char} {text : List Char}

/-! ### Hits that begin with one character -/

/-- All that a recogniser finds begins with a character, and what stands before it does not matter.
-/
structure Recogniser.OpensWith (find : Recogniser τ) (c : Char) : Prop where
  unaware : ∀ before text, find before text = find none text
  lead : ∀ text hit, find none text = some hit → hit.lead.head? = some c

theorem head?_word {word : List Char} (h : word.head? = some c) (rest : List Char) :
    (word ++ rest).head? = some c := by
  rw [List.head?_append, h]
  rfl

theorem opensWith_required : Recogniser.OpensWith required 'r' where
  unaware _ _ := rfl
  lead text hit h := by
    unfold required at h
    simp only [Option.bind_eq_bind, Option.bind_eq_some_iff, Option.pure_def, Prod.exists,
      Option.some.injEq] at h
    obtain ⟨_, -, _, _, -, _, _, -, _, _, -, _, -, rfl⟩ := h
    exact head?_word (head?_word (by decide +kernel) _) _

theorem opensWith_imported : Recogniser.OpensWith imported '@' where
  unaware _ _ := rfl
  lead text hit h := by
    unfold imported at h
    simp only [Option.bind_eq_bind, Option.bind_eq_some_iff, Option.pure_def, Prod.exists,
      Option.some.injEq] at h
    obtain ⟨_, -, _, _, -, _, _, -, _, _, -, _, _, -, rfl⟩ := h
    exact head?_word (head?_word (by decide +kernel) _) _

theorem opensWith_addressed : Recogniser.OpensWith addressed 'u' where
  unaware _ _ := rfl
  lead text hit h := by
    unfold addressed at h
    simp only [Option.bind_eq_bind, Option.bind_eq_some_iff, Option.pure_def, Prod.exists,
      Option.some.injEq] at h
    obtain ⟨_, -, _, _, -, _, -, rfl⟩ := h
    exact head?_word (head?_word (by decide +kernel) _) _

theorem opensWith_tagged : Recogniser.OpensWith tagged '<' where
  unaware _ _ := rfl
  lead text hit h := by
    unfold tagged at h
    simp only [Option.bind_eq_bind, Option.bind_eq_some_iff, Option.pure_def, Prod.exists,
      Option.some.injEq] at h
    obtain ⟨_, -, _, _, -, _, _, _, -, rfl⟩ := h
    rfl

/-! ### Cutting and replacing -/

theorem segments_of_unaware (h : ∀ before text, find before text = find none text)
    (before : Option Char) (text : List Char) :
    segments find before text = segments find none text := by
  cases text with
  | nil => rw [segments_nil, segments_nil]
  | cons c rest => rw [segments, segments, h before]

/-- Another character in front of a text is a part by itself. -/
theorem segments_cons (hsound : find.IsSound) (hopens : find.OpensWith c) (hne : d ≠ c)
    (text : List Char) : segments find none (d :: text) = .kept d :: segments find none text := by
  have hnone : find none (d :: text) = none := by
    rw [Option.eq_none_iff_forall_ne_some]
    intro hit hhit
    obtain ⟨rest, hlead⟩ := List.head?_eq_some_iff.1 (hopens.lead _ _ hhit)
    obtain ⟨⟨tail, htext⟩, -⟩ := hsound _ _ _ hhit
    rw [Hit.text, hlead] at htext
    exact hne (List.cons.inj htext).1.symm
  rw [segments_cons_of_none hnone, segments_of_unaware hopens.unaware]

variable {ε α : Type} {replace : Hit τ → Except ε (Option (List Char × α))}

theorem replaceCaptured_cons (hsound : find.IsSound) (hopens : find.OpensWith c) (hne : d ≠ c)
    (text : List Char) :
    replaceCaptured replace (segments find none (d :: text)) =
      (replaceCaptured replace (segments find none text)).map fun made =>
        (d :: made.1, made.2) := by
  rw [segments_cons hsound hopens hne, replaceCaptured]
  cases replaceCaptured replace (segments find none text) with
  | error e => rfl
  | ok made => rfl

/-- Two texts begin alike, and one of them has only characters of a kind exactly if the other has.
-/
def Fronts (kind : Char → Bool) (text other : List Char) : Prop :=
  other.head? = text.head? ∧ other.all kind = text.all kind

variable {kind : Char → Bool}

theorem Fronts.trans {third : List Char} {other : List Char} (h : Fronts kind text other)
    (k : Fronts kind other third) : Fronts kind text third :=
  ⟨k.1.trans h.1, k.2.trans h.2⟩

theorem Fronts.cons {other : List Char} (h : Fronts kind text other) (d : Char) :
    Fronts kind (d :: text) (d :: other) := by
  refine ⟨rfl, ?_⟩
  rw [List.all_cons, List.all_cons, h.2]

/-- Texts that begin with one character that is not of the kind. -/
theorem fronts_of_head {other : List Char} (hc : kind c = false) (h : text.head? = some c)
    (k : other.head? = some c) : Fronts kind text other := by
  obtain ⟨rest, rfl⟩ := List.head?_eq_some_iff.1 h
  obtain ⟨rest', rfl⟩ := List.head?_eq_some_iff.1 k
  refine ⟨rfl, ?_⟩
  rw [List.all_cons, List.all_cons, hc, Bool.false_and, Bool.false_and]

/-- Replacing what a recogniser finds keeps the front of a text. -/
theorem front_replaceCaptured (hsound : find.IsSound) (hopens : find.OpensWith c)
    (hc : kind c = false) {made : List Char × List α}
    (h : replaceCaptured replace (segments find none text) = .ok made) :
    Fronts kind text made.1 := by
  have hleads : ∀ hit, .hit hit ∈ segments find none text → hit.lead.head? = some c := by
    intro hit hmem
    obtain ⟨before, rest, hhit⟩ := exists_of_mem_segments hmem
    rw [hopens.unaware] at hhit
    exact hopens.lead _ _ hhit
  have hjoined := flatMap_text_segments hsound none text
  rw [← hjoined]
  clear hjoined
  generalize segments find none text = parts at h hleads
  -- kept characters go on the front, and the first hit ends it
  induction parts generalizing made with
  | nil =>
    obtain rfl := Except.ok.inj h
    exact ⟨rfl, rfl⟩
  | cons part parts ih =>
    have hrest := fun hit hmem => hleads hit (List.mem_cons_of_mem _ hmem)
    cases part with
    | kept d =>
      rw [replaceCaptured] at h
      split at h
      · next hmade =>
        obtain rfl := Except.ok.inj h
        exact (ih hmade hrest).cons d
      · cases h
    | hit hit =>
      have hlead := hleads hit List.mem_cons_self
      have hhead : ∀ captured rest : List Char,
          (hit.lead ++ captured ++ hit.trail ++ rest).head? = some c := fun captured rest =>
        head?_word (head?_word (head?_word hlead _) _) _
      refine fronts_of_head hc (hhead _ _) ?_
      rw [replaceCaptured] at h
      split at h
      · cases h
      · split at h
        · cases h
        · split at h
          · obtain rfl := Except.ok.inj h
            exact hhead _ _
          · obtain rfl := Except.ok.inj h
            exact hhead _ _

/-! ### Comments -/

theorem dropBetween_cons {first last : List Char} (hfirst : first.head? ≠ some c) (hne : first ≠ [])
    (fuel : Nat) (text : List Char) :
    dropBetween first last (fuel + 1) (c :: text) = c :: dropBetween first last fuel text := by
  rw [dropBetween, if_neg]
  rw [List.isPrefixOf_iff_prefix]
  rintro ⟨rest, hrest⟩
  obtain ⟨d, tail, rfl⟩ := List.exists_cons_of_ne_nil hne
  exact hfirst (congrArg some (List.cons.inj hrest).1)

theorem stripBlockComments_cons (h : c ≠ '/') (text : List Char) :
    stripBlockComments (c :: text) = c :: stripBlockComments text := by
  have hhead : ['/', '*'].head? ≠ some c := fun heq => h (Option.some.inj heq).symm
  exact dropBetween_cons hhead (List.cons_ne_nil _ _) _ _

theorem stripMarkupComments_cons (h : c ≠ '<') (text : List Char) :
    stripMarkupComments (c :: text) = c :: stripMarkupComments text := by
  have hhead : ['<', '!', '-', '-'].head? ≠ some c := fun heq => h (Option.some.inj heq).symm
  exact dropBetween_cons hhead (List.cons_ne_nil _ _) _ _

theorem stripScriptComments_cons (h : c ≠ '/') (hquote : isQuote c = false) (text : List Char) :
    stripScriptComments (c :: text) = c :: stripScriptComments text := by
  rw [stripScriptComments, stripFrom, hquote]
  · rfl
  · exact fun _ heq => absurd heq h
  · exact fun _ heq => absurd heq h

end Minipack.Source
