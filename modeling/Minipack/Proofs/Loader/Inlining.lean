/-
What inlining makes of a script.

A reference to a variable is `process.env.` and a name of letters, digits and underscores that
begins with no digit, as long as it can be, with word boundaries on both sides (`Envify.Refers`);
the recogniser finds just these (`Envify.environment_eq_some`).  A variable has the text that the
options give it, or else the one that the environment gives it (`Envify.Provides`).

`Envify.Inlined` says what a script becomes without a scan: the leftmost reference of the rest is
replaced if its variable has a value, what stands before it is kept, and the same holds of what
comes behind it.  A value is spliced in as a string literal that is read as the value, and is not
looked at again.  The loader makes just this of every text, and refuses what is no text
(`Envify.inlined_transform`).
-/
import Minipack.Loader.Envify
import Minipack.Proofs.Json.Writing
import Minipack.Proofs.Source.Recognisers

namespace Minipack

/-- A string literal is read as its string. -/
theorem Json.read?_stringLiteral (s : String) :
    Json.read? (Json.stringLiteral s).toUTF8.toList = some (.string s) := by
  have hread : Document.read? (Json.stringLiteral s).toUTF8.toList =
      some (.string (RawText.ofString s)) := @Document.read?_compact (.string s) trivial
  rw [Json.read?, hread]
  show (RawText.ofString s).text?.map Json.string = _
  rw [RawText.text?_ofString]
  rfl

namespace Envify

open Source

/-! ### References -/

/-- The reference to a variable. -/
def reference (name : List Char) : List Char :=
  "process.env.".toList ++ name

/-- A reference to a variable stands between two texts. -/
structure Refers (before : Option Char) (name after : List Char) : Prop where
  nonempty : name ≠ []
  chars : ∀ c ∈ name, c.isAlpha = true ∨ c.isDigit = true ∨ c = '_'
  first : ∀ c ∈ name.head?, c.isDigit = false
  /-- The name does not go on behind its end. -/
  longest : ∀ c ∈ after.head?, ¬ (c.isAlpha = true ∨ c.isDigit = true ∨ c = '_')
  front : Text.isWordBoundary before (reference name).head? = true
  back : Text.isWordBoundary (reference name).getLast? after.head? = true

variable {before : Option Char} {text name after : List Char}

theorem isAsciiWord_iff {c : Char} :
    Text.isAsciiWord c = true ↔ c.isAlpha = true ∨ c.isDigit = true ∨ c = '_' := by
  simp only [Text.isAsciiWord, Char.isAlphanum, Bool.or_eq_true, beq_iff_eq, or_assoc]

theorem isAlpha_iff {c : Char} : c.isAlpha = true ↔
    (65 ≤ c.toNat ∧ c.toNat ≤ 90) ∨ (97 ≤ c.toNat ∧ c.toNat ≤ 122) := by
  show (decide (65 ≤ c.toNat ∧ c.toNat ≤ 90) ||
    (decide (97 ≤ c.toNat) && decide (c.toNat ≤ 122))) = true ↔ _
  rw [Bool.or_eq_true, Bool.and_eq_true, decide_eq_true_eq, decide_eq_true_eq, decide_eq_true_eq]

theorem isDigit_iff {c : Char} : c.isDigit = true ↔ 48 ≤ c.toNat ∧ c.toNat ≤ 57 := by
  show (decide (48 ≤ c.toNat) && decide (c.toNat ≤ 57)) = true ↔ _
  rw [Bool.and_eq_true, decide_eq_true_eq, decide_eq_true_eq]

theorem isWord_of_isAsciiWord {c : Char} (h : Text.isAsciiWord c = true) :
    Text.isWord c = true := by
  have hsmall : c.val < 0x80 := by
    show c.toNat < 128
    rw [isAsciiWord_iff, isAlpha_iff, isDigit_iff] at h
    rcases h with (h | h) | h | rfl
    · exact Nat.lt_of_le_of_lt h.2 (by decide)
    · exact Nat.lt_of_le_of_lt h.2 (by decide)
    · exact Nat.lt_of_le_of_lt h.2 (by decide)
    · decide
  rw [Text.isWord, if_pos hsmall, h]

/-- A letter or an underscore is no digit, and the other characters of names are digits. -/
theorem isNameStart_iff {c : Char} (h : Text.isAsciiWord c = true) :
    isNameStart c = true ↔ c.isDigit = false := by
  have hdigit : c.isDigit = true → isNameStart c = false := fun hd => by
    rw [isDigit_iff] at hd
    have hne : c ≠ '_' := by
      rintro rfl
      exact absurd hd.2 (by decide)
    have halpha : c.isAlpha = false := by
      rw [← Bool.not_eq_true, isAlpha_iff]
      omega
    rw [isNameStart, halpha, Bool.false_or, beq_eq_false_iff_ne]
    exact hne
  constructor
  · intro hstart
    rw [← Bool.not_eq_true]
    intro hd
    rw [hdigit hd] at hstart
    cases hstart
  · intro hd
    rcases isAsciiWord_iff.1 h with halpha | hdigit | rfl
    · rw [isNameStart, halpha, Bool.true_or]
    · rw [hd] at hdigit
      cases hdigit
    · rfl

/-- A reference begins with a character of words, so that none may stand before it. -/
theorem isWordBoundary_reference (name : List Char) :
    Text.isWordBoundary before (reference name).head? = !Text.isWordAt before := by
  have hhead : (reference name).head? = some 'p' :=
    (List.head?_append_of_ne_nil _ (by decide +kernel)).trans (by decide +kernel)
  have hp : Text.isWordAt (some 'p') = true := by decide +kernel
  rw [hhead, Text.isWordBoundary, hp, Bool.bne_true]

/-- It ends with such a character, so that none may stand behind it. -/
theorem isWordBoundary_last (hne : name ≠ []) (h : ∀ c ∈ name, Text.isAsciiWord c = true)
    (after : Option Char) :
    Text.isWordBoundary (reference name).getLast? after = !Text.isWordAt after := by
  have hlast : (reference name).getLast? = some (name.getLast hne) :=
    (List.getLast?_append_of_ne_nil _ hne).trans (List.getLast?_eq_some_getLast hne)
  have hword : Text.isWordAt (some (name.getLast hne)) = true :=
    isWord_of_isAsciiWord (h _ (List.getLast_mem hne))
  rw [hlast, Text.isWordBoundary, hword, Bool.true_bne]

/-- The recogniser finds the references, and nothing else. -/
theorem environment_eq_some {hit : Hit Unit} :
    environment before text = some hit ↔ ∃ name after, text = reference name ++ after ∧
      Refers before name after ∧ hit = ⟨"process.env.".toList, name, [], ()⟩ := by
  constructor
  · intro h
    unfold environment at h
    split at h
    · cases h
    next hfront =>
    simp only [Option.bind_eq_bind, Option.bind_eq_some_iff, Option.pure_def, Prod.exists,
      Option.bind_none, Option.ite_none_left_eq_some, Option.some.injEq] at h
    obtain ⟨rest, hlead, name, after, hname, hends, rfl⟩ := h
    rw [Bool.or_eq_true, not_or, Bool.not_eq_true', Bool.not_eq_false, Bool.not_eq_true] at hends
    obtain ⟨htaken, hafter, hne⟩ := some?_eq_some.1 hname
    have hchars : ∀ c ∈ name, Text.isAsciiWord c = true := by
      rw [← htaken]
      exact fun c hc => List.mem_takeWhile_imp hc
    refine ⟨name, after, ?_,
      ⟨hne, fun c hc => isAsciiWord_iff.1 (hchars c hc), ?_, ?_, ?_, ?_⟩, rfl⟩
    · rw [expect?_eq_some.1 hlead, ← append_of_some? hname]
      exact (List.append_assoc _ _ _).symm
    · intro c hc
      have hstart := hends.1
      rw [hc, Option.any_some] at hstart
      exact (isNameStart_iff (hchars c (List.mem_of_head? hc))).1 hstart
    · intro c hc
      rw [← isAsciiWord_iff, Bool.not_eq_true]
      rw [← hafter] at hc
      exact head?_dropWhile _ _ c hc
    · rw [isWordBoundary_reference, Bool.eq_false_iff.2 hfront]
      rfl
    · rw [isWordBoundary_last hne hchars, hends.2]
      rfl
  · rintro ⟨name, after, rfl, h, rfl⟩
    have hchars : ∀ c ∈ name, Text.isAsciiWord c = true :=
      fun c hc => isAsciiWord_iff.2 (h.chars c hc)
    have hfront := h.front
    have hback := h.back
    rw [isWordBoundary_reference, Bool.not_eq_true'] at hfront
    rw [isWordBoundary_last h.nonempty hchars, Bool.not_eq_true'] at hback
    -- what the reader checks is what makes the name a reference
    have hfirst : name.head?.any isNameStart = true := by
      obtain ⟨c, rest, rfl⟩ := List.exists_cons_of_ne_nil h.nonempty
      exact (isNameStart_iff (hchars c List.mem_cons_self)).2 (h.first c rfl)
    have hend : ∀ c ∈ after.head?, Text.isAsciiWord c = false := fun c hc => by
      rw [← Bool.not_eq_true, isAsciiWord_iff]
      exact h.longest c hc
    have hname : some? Text.isAsciiWord (name ++ after) = some (name, after) :=
      some?_eq_some.2 ⟨(takeWhile_append hchars hend).1, (takeWhile_append hchars hend).2,
        h.nonempty⟩
    have hlead : expect? "process.env.".toList (reference name ++ after) = some (name ++ after) :=
      expect?_eq_some.2 (List.append_assoc _ _ _)
    unfold environment
    rw [hfront, if_neg Bool.false_ne_true]
    simp only [Option.bind_eq_bind, hlead, Option.bind_some, hname, hfirst, hback, Bool.not_true,
      Bool.or_false, Bool.false_eq_true, if_false]
    rfl

theorem environment_eq_none :
    environment before text = none ↔
      ∀ name after, text = reference name ++ after → ¬ Refers before name after := by
  rw [Option.eq_none_iff_forall_ne_some]
  constructor
  · intro h name after htext hrefers
    exact h _ (environment_eq_some.2 ⟨name, after, htext, hrefers, rfl⟩)
  · intro h hit hhit
    obtain ⟨name, after, htext, hrefers, -⟩ := environment_eq_some.1 hhit
    exact h name after htext hrefers

/-! ### Values -/

/-- The text that a variable has. -/
inductive Provides (known : Environment) (options : Json) (name value : String) : Prop where
  /-- The options give it as a string. -/
  | option {table : Json} (htable : options.get? "env" = some table)
      (hvalue : table.get? name = some (.string value))
  /-- They give none, and the environment does. -/
  | environment (hoption : ∀ table other, options.get? "env" = some table →
        table.get? name ≠ some (.string other))
      {before after : Environment} (hknown : known = before ++ (name, value) :: after)
      (hfirst : ∀ entry ∈ before, entry.1 ≠ name)

variable {known : Environment} {options : Json}

theorem string?_eq_some {value : Json} {s : String} :
    value.string? = some s ↔ value = .string s := by
  cases value <;> simp [Json.string?]

/-- The string that the options give. -/
theorem option_eq_some {name value : String} :
    ((options.get? "env").bind fun table => table.get? name).bind Json.string? = some value ↔
      ∃ table, options.get? "env" = some table ∧ table.get? name = some (.string value) := by
  simp only [Option.bind_eq_some_iff, string?_eq_some, exists_eq_right]

/-- Its own value is looked for in the options first. -/
theorem valueOf?_eq_some {name value : String} :
    valueOf? known options name = some value ↔ Provides known options name value := by
  unfold valueOf?
  -- the options decide when they have a text for the name
  cases hoption : ((options.get? "env").bind fun table => table.get? name).bind Json.string? with
  | some other =>
    obtain ⟨table, htable, hget⟩ := option_eq_some.1 hoption
    constructor
    · intro h
      obtain rfl := Option.some.inj h
      exact .option htable hget
    · intro h
      cases h with
      | option htable' hvalue => exact hoption.symm.trans (option_eq_some.2 ⟨_, htable', hvalue⟩)
      | environment hnone => exact absurd hget (hnone table other htable)
  | none =>
    have hnone : ∀ table other, options.get? "env" = some table →
        table.get? name ≠ some (.string other) := fun table other htable hget => by
      rw [option_eq_some.2 ⟨table, htable, hget⟩] at hoption
      cases hoption
    constructor
    · intro h
      obtain ⟨⟨name', _⟩, hfind, rfl⟩ := Option.map_eq_some_iff.1 h
      obtain ⟨hname, before, after, hknown, hfirst⟩ := List.find?_eq_some_iff_append.1 hfind
      obtain rfl := beq_iff_eq.1 hname
      exact .environment hnone hknown fun entry hentry => by simpa using hfirst entry hentry
    · intro h
      cases h with
      | option htable hvalue => exact absurd hvalue (hnone _ _ htable)
      | environment _ hknown hfirst =>
        refine Option.map_eq_some_iff.2 ⟨(name, value), ?_, rfl⟩
        refine List.find?_eq_some_iff_append.2 ⟨beq_self_eq_true name, _, _, hknown, ?_⟩
        exact fun entry hentry => by simpa using hfirst entry hentry

/-- What stands for a reference: a literal that is read as the text of the variable, or the
reference itself. -/
inductive Shown (known : Environment) (options : Json) (name : List Char) : List Char → Prop where
  | literal {value : String} {body : List Char}
      (hvalue : Provides known options (String.ofList name) value)
      (hread : Json.read? (String.ofList ('\x22' :: body ++ ['\x22'])).toUTF8.toList =
        some (.string value)) :
      Shown known options name ('\x22' :: body ++ ['\x22'])
  | unknown (h : ∀ value, ¬ Provides known options (String.ofList name) value) :
      Shown known options name (reference name)

/-- The hit of a reference. -/
def hitOf (name : List Char) : Hit Unit :=
  ⟨"process.env.".toList, name, [], ()⟩

theorem text_hitOf (name : List Char) : (hitOf name).text = reference name :=
  List.append_nil _

theorem shown_inlined (known : Environment) (options : Json) (name : List Char) :
    Shown known options name (inlined known options (.hit (hitOf name))) := by
  have hcaptured : (hitOf name).capturedText = String.ofList name := rfl
  rw [inlined, hcaptured]
  split
  · next value hvalue =>
    have hread := Json.read?_stringLiteral value
    rw [Json.stringLiteral] at hread ⊢
    rw [String.toList_ofList]
    exact .literal (valueOf?_eq_some.1 hvalue) hread
  · next hnone =>
    rw [text_hitOf]
    refine .unknown fun value hvalue => ?_
    rw [valueOf?_eq_some.2 hvalue] at hnone
    cases hnone

/-! ### Scripts -/

/-- A text that stands behind another comes out with its references shown, from left to right. -/
inductive Inlined (known : Environment) (options : Json) :
    List Char → List Char → List Char → Prop where
  /-- Without references it stays. -/
  | rest {before text : List Char}
      (hnone : ∀ skipped name after, text = skipped ++ (reference name ++ after) →
        ¬ Refers (before ++ skipped).getLast? name after) :
      Inlined known options before text text
  /-- The leftmost reference is shown, and what is behind it comes out by itself. -/
  | next {before name after shown result : List Char} (skipped : List Char)
      (hrefers : Refers (before ++ skipped).getLast? name after)
      (hleast : ∀ skipped' name' after',
        skipped ++ (reference name ++ after) = skipped' ++ (reference name' ++ after') →
        Refers (before ++ skipped').getLast? name' after' → skipped.length ≤ skipped'.length)
      (hshown : Shown known options name shown)
      (hrest : Inlined known options (before ++ skipped ++ reference name) after result) :
      Inlined known options before (skipped ++ (reference name ++ after))
        (skipped ++ (shown ++ result))

/-- A character at which no reference begins is kept. -/
theorem Inlined.cons {before text result : List Char} {c : Char}
    (hnone : ∀ name after, c :: text = reference name ++ after →
      ¬ Refers before.getLast? name after)
    (h : Inlined known options (before ++ [c]) text result) :
    Inlined known options before (c :: text) (c :: result) := by
  have hmove (skipped : List Char) : before ++ [c] ++ skipped = before ++ c :: skipped :=
    List.append_assoc _ _ _
  -- what is skipped grows by the character
  cases h with
  | rest hlater =>
    refine .rest fun skipped name after heq hrefers => ?_
    cases skipped with
    | nil =>
      rw [List.append_nil] at hrefers
      exact hnone name after heq hrefers
    | cons d skipped =>
      obtain rfl := (List.cons.inj heq).1
      rw [← hmove] at hrefers
      exact hlater skipped name after (List.cons.inj heq).2 hrefers
  | next skipped hrefers hleast hshown hrest =>
    rw [hmove] at hrefers hrest
    refine .next (c :: skipped) hrefers (fun skipped' name' after' heq hrefers' => ?_) hshown hrest
    cases skipped' with
    | nil =>
      rw [List.append_nil] at hrefers'
      exact absurd hrefers' (hnone name' after' heq)
    | cons d skipped' =>
      obtain rfl := (List.cons.inj heq).1
      rw [← hmove] at hrefers'
      exact Nat.succ_le_succ (hleast skipped' name' after' (List.cons.inj heq).2 hrefers')

/-- Cutting a text into references and characters between them, and showing each, inlines the text.
-/
theorem inlined_segments (known : Environment) (options : Json) (before text : List Char) :
    Inlined known options before text
      ((segments Source.environment before.getLast? text).flatMap (inlined known options)) := by
  -- a reference takes several characters at once, so the induction is on the length
  induction hlength : text.length using Nat.strongRecOn generalizing before text with
  | ind n ih =>
    cases text with
    | nil =>
      rw [segments_nil]
      refine .rest fun skipped name after heq hrefers => hrefers.nonempty ?_
      exact (List.append_eq_nil_iff.1
        (List.append_eq_nil_iff.1 (List.append_eq_nil_iff.1 heq.symm).2).1).2
    | cons c rest =>
      cases hfind : Source.environment before.getLast? (c :: rest) with
      | none =>
        rw [segments_cons_of_none hfind, List.flatMap_cons]
        have hrest := ih rest.length (hlength ▸ Nat.lt_succ_self _) (before ++ [c]) rest rfl
        rw [List.getLast?_concat] at hrest
        exact Inlined.cons (environment_eq_none.1 hfind) hrest
      | some hit =>
        obtain ⟨name, after, heq, hrefers, rfl⟩ := environment_eq_some.1 hfind
        have hne : (hitOf name).text ≠ [] := by
          rw [text_hitOf]
          exact List.append_ne_nil_of_right_ne_nil _ hrefers.nonempty
        have hlast : (hitOf name).text.getLast? = (before ++ reference name).getLast? := by
          rw [List.getLast?_append_of_ne_nil _ (text_hitOf name ▸ hne), text_hitOf]
        have hshorter : after.length < n := by
          rw [← hlength, heq, List.length_append]
          exact Nat.lt_add_of_pos_left (List.length_pos_of_ne_nil (text_hitOf name ▸ hne))
        rw [heq, ← text_hitOf] at hfind ⊢
        rw [segments_append_of_hit hne hfind, List.flatMap_cons, hlast, text_hitOf]
        refine .next [] ?_ (fun _ _ _ _ _ => Nat.zero_le _)
          (shown_inlined known options name) ?_
        · rwa [List.append_nil]
        · rw [List.append_nil]
          exact ih after.length hshorter (before ++ reference name) after rfl

/-! ### The loader -/

theorem transform_loader (known : Environment) (input : LoaderInput) (context : LoaderContext) :
    (loader known).transform input context =
      match Text.decode input.content with
      | .error fault => .error (.of s!"source is not valid UTF-8: {fault.message}")
      | .ok source =>
        .ok { content := (String.ofList (inline known context.options source.toList)).toUTF8 } :=
  rfl

/-- What the loader makes of a file: of a text the same text with its references shown, and of other
bytes an error. -/
theorem inlined_transform (known : Environment) (input : LoaderInput) (context : LoaderContext) :
    (∀ source : String, input.content = source.toUTF8 → ∃ code : String,
      (loader known).transform input context = .ok { content := code.toUTF8 } ∧
        Inlined known context.options [] source.toList code.toList) ∧
    ((∀ source : String, input.content ≠ source.toUTF8) →
      ∃ failure, (loader known).transform input context = .error failure) := by
  rw [transform_loader]
  constructor
  · intro source hsource
    refine ⟨String.ofList (inline known context.options source.toList), ?_, ?_⟩
    · rw [Text.decode_eq_ok_iff.2 hsource]
    · rw [String.toList_ofList, inline]
      exact inlined_segments known context.options [] source.toList
  · intro hnone
    cases hdecode : Text.decode input.content with
    | error fault => exact ⟨_, rfl⟩
    | ok source => exact absurd (Text.decode_eq_ok_iff.1 hdecode) (hnone source)

/-- A text for one variable, and no text for another. -/
def sampleContext : LoaderContext where
  root := ⟨"/p"⟩
  src := ⟨"/p/src"⟩
  out := ⟨"/p/app"⟩
  sourceMap := false
  options := .object [("env", .object [("A", .string "\x22\\\n\x01"), ("B", .number (.natural 3))])]

/-- A variable of the options, one that only the environment knows, and a longer word. -/
def sampleScript : String :=
  "process.env.A+process.env.B,process.env.Aé"

/-- The script with the texts of its variables. -/
def sampleCode : String :=
  "\x22\\\x22\\\\\\n\\u0001\x22+\x22process.env.A\x22,process.env.Aé"

def sampleInput (content : ByteArray) : LoaderInput :=
  ⟨⟨"/p/src/app.js"⟩, content, none, .entry⟩

theorem inlined_sample :
    (∃ code, (loader [("B", "process.env.A"), ("A", "a")]).transform
        (sampleInput sampleScript.toUTF8) sampleContext = .ok { content := code.toUTF8 } ∧
      Inlined [("B", "process.env.A"), ("A", "a")] sampleContext.options [] sampleScript.toList
        code.toList ∧
      code = sampleCode) ∧
    ∃ failure, (loader []).transform (sampleInput ⟨#[0x61, 0xff]⟩) sampleContext =
      .error failure := by
  constructor
  · obtain ⟨code, hrun, hinlined⟩ := (inlined_transform [("B", "process.env.A"), ("A", "a")]
      (sampleInput sampleScript.toUTF8) sampleContext).1 sampleScript rfl
    refine ⟨code, hrun, hinlined, ?_⟩
    have hcode : inline [("B", "process.env.A"), ("A", "a")] sampleContext.options
        sampleScript.toList = sampleCode.toList := by
      decide +kernel
    rw [transform_loader, sampleInput, Text.decode_toUTF8] at hrun
    dsimp only at hrun
    rw [hcode, String.ofList_toList] at hrun
    have hbytes := congrArg LoaderOutput.content (Except.ok.inj hrun)
    have hdecoded := Text.decode_eq_ok_iff.2 hbytes
    rw [Text.decode_toUTF8] at hdecoded
    exact (Except.ok.inj hdecoded).symm
  · have hfault : (Text.decode ⟨#[0x61, 0xff]⟩).toOption.isNone = true := by decide +kernel
    refine (inlined_transform [] (sampleInput ⟨#[0x61, 0xff]⟩) sampleContext).2
      fun source hsource => ?_
    have hdecoded : Text.decode ⟨#[0x61, 0xff]⟩ = .ok source := Text.decode_eq_ok_iff.2 hsource
    rw [hdecoded] at hfault
    cases hfault

end Envify

end Minipack
