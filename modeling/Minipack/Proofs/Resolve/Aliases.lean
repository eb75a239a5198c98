/-
What an alias leads to.

A specifier fits a pattern when it is the pattern with some text in place of the star, and that text
is then the only one (`Resolve.Alias.Fits.eq`).  Of the aliases the first one that fits is taken.
Its candidates get the text in place of their stars, and the first candidate that names a file gives
the answer; a path names the file as it is written, or the one with an extension or an index name
behind it.  When no candidate names a file there is no answer, and no other alias is asked.

`Resolve.Alias.Answers` says so without regard to how it is found, and for patterns and paths that
are plain but for one star the search gives just these answers
(`Resolve.Alias.answers_iff_findAlias`).
-/
import Minipack.Proofs.Glob
import Minipack.Resolve.Script

namespace Minipack.Resolve.Alias

open Glob (IsPlain)

/-! ### Patterns with one star -/

/-- A text of plain characters with one star among them. -/
def IsStarred (text : List Char) : Prop :=
  ∃ start stop, IsPlain start ∧ IsPlain stop ∧ text = start ++ '*' :: stop

/-- A specifier is a pattern with a text in place of its star. -/
def Fits (pattern text specifier : List Char) : Prop :=
  ∃ start stop, pattern = start ++ '*' :: stop ∧ specifier = start ++ text ++ stop

/-- A candidate with a text in place of its star. -/
def filled (text candidate : List Char) : List Char :=
  candidate.flatMap fun c => if c = '*' then text else [c]

variable {start stop text other pattern specifier candidate : List Char}

theorem splitStar?_append (h : '*' ∉ start) (stop : List Char) :
    splitStar? (start ++ '*' :: stop) = some (start, stop) := by
  induction start with
  | nil => rfl
  | cons c start ih =>
    rw [List.mem_cons, not_or] at h
    rw [List.cons_append, splitStar?, ih h.2]
    · rfl
    · exact fun hc => h.1 hc.symm

theorem splitStar?_of_not_mem (h : '*' ∉ text) : splitStar? text = none := by
  induction text with
  | nil => rfl
  | cons c text ih =>
    rw [List.mem_cons, not_or] at h
    rw [splitStar?, ih h.2]
    · rfl
    · exact fun hc => h.1 hc.symm

theorem filled_of_not_mem (h : '*' ∉ candidate) (text : List Char) :
    filled text candidate = candidate := by
  induction candidate with
  | nil => rfl
  | cons c candidate ih =>
    rw [List.mem_cons, not_or] at h
    rw [filled, List.flatMap_cons, ← filled, ih h.2, if_neg fun hc => h.1 hc.symm]
    rfl

theorem fillStar_eq (h : IsPlain candidate ∨ IsStarred candidate) (text : List Char) :
    fillStar candidate text = filled text candidate := by
  rcases h with h | ⟨start, stop, hstart, hstop, rfl⟩
  · rw [fillStar, splitStar?_of_not_mem h.star_not_mem, filled_of_not_mem h.star_not_mem]
  · rw [fillStar, splitStar?_append hstart.star_not_mem]
    dsimp only
    have hfirst := filled_of_not_mem hstart.star_not_mem text
    have hlast := filled_of_not_mem hstop.star_not_mem text
    rw [filled] at hfirst hlast ⊢
    rw [List.flatMap_append, List.flatMap_cons, hfirst, hlast, if_pos rfl, List.append_assoc]

theorem captured_append (h : '*' ∉ start) (text stop : List Char) :
    captured (start ++ '*' :: stop) (start ++ text ++ stop) = text := by
  have hstart : start.isPrefixOf (start ++ (text ++ stop)) = true :=
    List.isPrefixOf_iff_prefix.2 (List.prefix_append _ _)
  have hstop : stop.isSuffixOf (text ++ stop) = true :=
    List.isSuffixOf_iff_suffix.2 (List.suffix_append _ _)
  rw [captured, splitStar?_append h]
  dsimp only
  rw [List.append_assoc, List.drop_left, hstart, hstop, List.length_append, Nat.add_sub_cancel,
    List.take_left]
  rfl

/-- A pattern with one star is cut there. -/
theorem Fits.eq (h : IsStarred pattern) (hfits : Fits pattern text specifier) :
    captured pattern specifier = text := by
  obtain ⟨start, stop, hstart, hstop, rfl⟩ := h
  obtain ⟨start', stop', heq, rfl⟩ := hfits
  obtain ⟨rfl, -, rfl⟩ :=
    (List.append_cons_inj_of_notMem hstart.star_not_mem hstop.star_not_mem).1 heq
  exact captured_append hstart.star_not_mem text stop

theorem Fits.plain (h : Fits pattern text specifier) (hplain : IsPlain specifier) :
    IsPlain text := by
  obtain ⟨start, stop, -, rfl⟩ := h
  exact fun c hc => hplain c (List.mem_append_left _ (List.mem_append_right _ hc))

/-- A pattern with one star matches what fits it. -/
theorem matchesAlias_iff {pattern specifier : String} (h : IsStarred pattern.toList) :
    matchesAlias specifier pattern = true ↔ ∃ text, Fits pattern.toList text specifier.toList := by
  obtain ⟨start, stop, hstart, hstop, hpattern⟩ := h
  have hread := Glob.read_star hstart hstop
  rw [← hpattern, String.ofList_toList] at hread
  rw [matchesAlias, hread]
  dsimp only
  rw [Glob.isMatch_star]
  constructor
  · rintro ⟨text, htext⟩
    exact ⟨text, start, stop, hpattern, htext⟩
  · rintro ⟨text, start', stop', heq, htext⟩
    rw [hpattern] at heq
    obtain ⟨rfl, -, rfl⟩ :=
      (List.append_cons_inj_of_notMem hstart.star_not_mem hstop.star_not_mem).1 heq
    exact ⟨text, htext⟩

/-! ### Paths and files -/

/-- The paths under which the file that a path names is looked for, in order. -/
def spellings (path : Path) : List Path :=
  [path, ⟨path.text ++ ".js"⟩, ⟨path.text ++ ".ts"⟩, ⟨path.text ++ ".json"⟩, path.child "index.js",
    path.child "index.ts"]

/-- A path names a file: no path that is tried before is one. -/
def Names (disk : Disk) (path file : Path) : Prop :=
  ∃ before after, spellings path = before ++ file :: after ∧ disk.isFile file = true ∧
    ∀ p ∈ before, disk.isFile p = false

theorem findScript_eq_some_iff {disk : Disk} {path file : Path} :
    findScript disk path = some file ↔ Names disk path file := by
  have hspellings : findScript disk path = (spellings path).find? disk.isFile := by
    simp only [findScript, spellings, List.map_cons, List.map_nil, List.cons_append,
      List.nil_append, String.append_assoc]
    rfl
  rw [hspellings, List.find?_eq_some_iff_append, Names]
  simp only [Bool.not_eq_true']
  exact ⟨fun ⟨hfile, before, after, heq, hbefore⟩ => ⟨before, after, heq, hfile, hbefore⟩,
    fun ⟨before, after, heq, hfile, hbefore⟩ => ⟨hfile, before, after, heq, hbefore⟩⟩

theorem findScript_eq_none_iff {disk : Disk} {path : Path} :
    findScript disk path = none ↔ ∀ file, ¬ Names disk path file := by
  rw [Option.eq_none_iff_forall_ne_some]
  exact forall_congr' fun file => not_congr findScript_eq_some_iff

theorem isGlobText_of_isPlain (h : IsPlain text) : isGlobText text = false := by
  rw [isGlobText, List.any_eq_false]
  intro c hc
  obtain ⟨hstar, hany, hset⟩ := h c hc
  simp [hstar, hany, hset]

theorem isPlain_append (h : IsPlain start) (k : IsPlain stop) : IsPlain (start ++ stop) :=
  fun c hc => (List.mem_append.1 hc).elim (h c) (k c)

theorem isPlain_joinText (h : IsPlain start) (k : IsPlain stop) :
    IsPlain (Path.joinText start stop) := by
  have hslash : IsPlain ['/'] := by
    intro c hc
    rw [List.mem_singleton.1 hc]
    decide
  unfold Path.joinText
  split
  · exact k
  · split
    · exact isPlain_append h k
    · exact isPlain_append h (isPlain_append hslash k)

theorem isPlain_filled (h : IsPlain candidate ∨ IsStarred candidate) (htext : IsPlain text) :
    IsPlain (filled text candidate) := by
  intro c hc
  obtain ⟨d, hd, hc⟩ := List.mem_flatMap.1 hc
  split at hc
  · exact htext c hc
  · next hstar =>
    rw [List.mem_singleton.1 hc]
    rcases h with h | ⟨start, stop, hstart, hstop, rfl⟩
    · exact h d hd
    · rcases List.mem_append.1 hd with hd | hd
      · exact hstart d hd
      · exact hstop d ((List.mem_cons.1 hd).resolve_left hstar)

/-- A candidate below the root is looked for as a path. -/
theorem findCandidate_eq {config : Config} {disk : Disk} {candidate : String}
    (hroot : IsPlain config.root.text.toList)
    (h : IsPlain candidate.toList ∨ IsStarred candidate.toList) (htext : IsPlain text) :
    findCandidate disk (config.root.child (String.ofList (fillStar candidate.toList text))) =
      findScript disk (config.root.join ⟨String.ofList (filled text candidate.toList)⟩) := by
  have hplain :
      IsPlain (config.root.join ⟨String.ofList (filled text candidate.toList)⟩).text.toList := by
    rw [Path.join, String.toList_ofList, String.toList_ofList]
    exact isPlain_joinText hroot (isPlain_filled h htext)
  rw [fillStar_eq h, findCandidate, Path.child, if_neg (by simp [isGlobText_of_isPlain hplain])]

/-! ### Answers -/

/-- A candidate with a text in place of its star names a file, seen from the root. -/
def Leads (config : Config) (disk : Disk) (text : List Char) (candidate : String) (file : Path) :
    Prop :=
  Names disk (config.root.join ⟨String.ofList (filled text candidate.toList)⟩) file

/-- The first alias that a specifier fits, its candidates, and the text that its star stands for. -/
def Chosen (config : Config) (specifier : String) (candidates : List String) (text : List Char) :
    Prop :=
  ∃ before pattern after, config.aliases = before ++ (pattern, candidates) :: after ∧
    Fits pattern.toList text specifier.toList ∧
    ∀ entry ∈ before, ∀ other, ¬ Fits entry.1.toList other specifier.toList

/-- What the aliases say of a specifier. -/
inductive Answers (config : Config) (disk : Disk) (specifier : String) : Option Path → Prop where
  | unmatched (h : ∀ entry ∈ config.aliases, ∀ text, ¬ Fits entry.1.toList text specifier.toList) :
      Answers config disk specifier none
  | found {before after : List String} {candidate : String} {text : List Char} {file : Path}
      (h : Chosen config specifier (before ++ candidate :: after) text)
      (hbefore : ∀ c ∈ before, ∀ other, ¬ Leads config disk text c other)
      (hfile : Leads config disk text candidate file) :
      Answers config disk specifier (some file)
  /-- The aliases behind the first one that fits do not matter. -/
  | missing {candidates : List String} {text : List Char}
      (h : Chosen config specifier candidates text)
      (hnone : ∀ c ∈ candidates, ∀ other, ¬ Leads config disk text c other) :
      Answers config disk specifier none

/-- Patterns with one star, candidates with at most one, and a root and a specifier without any. -/
structure Plain (config : Config) (specifier : String) : Prop where
  patterns : ∀ entry ∈ config.aliases, IsStarred entry.1.toList
  candidates : ∀ entry ∈ config.aliases, ∀ candidate ∈ entry.2,
    IsPlain candidate.toList ∨ IsStarred candidate.toList
  root : IsPlain config.root.text.toList
  specifier : IsPlain specifier.toList

variable {config : Config} {disk : Disk} {specifier : String}

/-- The first alias that fits answers by its first candidate that names a file. -/
theorem Chosen.findAlias_eq (hplain : Plain config specifier) {candidates : List String}
    {text : List Char} (h : Chosen config specifier candidates text) :
    findAlias config disk specifier = candidates.findSome? fun candidate =>
      findScript disk (config.root.join ⟨String.ofList (filled text candidate.toList)⟩) := by
  obtain ⟨before, pattern, after, haliases, hfits, hbefore⟩ := h
  have hmem : (pattern, candidates) ∈ config.aliases := by
    rw [haliases]
    exact List.mem_append_right _ List.mem_cons_self
  have hfirst : config.aliases.find? (fun entry => matchesAlias specifier entry.1) =
      some (pattern, candidates) := by
    refine List.find?_eq_some_iff_append.2
      ⟨(matchesAlias_iff (hplain.patterns _ hmem)).2 ⟨text, hfits⟩, before, after, haliases, ?_⟩
    intro entry hentry
    have hlisted : entry ∈ config.aliases := by
      rw [haliases]
      exact List.mem_append_left _ hentry
    rw [Bool.not_eq_true', ← Bool.not_eq_true, matchesAlias_iff (hplain.patterns _ hlisted),
      not_exists]
    exact hbefore entry hentry
  rw [findAlias, hfirst]
  dsimp only
  rw [Fits.eq (hplain.patterns _ hmem) hfits]
  rw [← List.head?_filterMap, ← List.head?_filterMap]
  refine congrArg List.head? (List.filterMap_congr fun candidate hcandidate => ?_)
  exact findCandidate_eq hplain.root (hplain.candidates _ hmem _ hcandidate)
    (hfits.plain hplain.specifier)

/-- Some alias is the first that fits, or none fits. -/
theorem chosen_or_unmatched (config : Config) (specifier : String) :
    (∃ candidates text, Chosen config specifier candidates text) ∨
      ∀ entry ∈ config.aliases, ∀ text, ¬ Fits entry.1.toList text specifier.toList := by
  classical
  cases hfind : config.aliases.find? fun entry =>
      ∃ text, Fits entry.1.toList text specifier.toList with
  | none =>
    refine Or.inr fun entry hentry text hfits => ?_
    exact List.find?_eq_none.1 hfind entry hentry (decide_eq_true ⟨text, hfits⟩)
  | some entry =>
    obtain ⟨hfits, before, after, haliases, hbefore⟩ := List.find?_eq_some_iff_append.1 hfind
    obtain ⟨text, hfits⟩ := of_decide_eq_true hfits
    refine Or.inl ⟨entry.2, text, before, entry.1, after, haliases, hfits, fun e he => ?_⟩
    simpa using hbefore e he

theorem unmatched_findAlias (hplain : Plain config specifier)
    (h : ∀ entry ∈ config.aliases, ∀ text, ¬ Fits entry.1.toList text specifier.toList) :
    findAlias config disk specifier = none := by
  have hnone : config.aliases.find? (fun entry => matchesAlias specifier entry.1) = none := by
    refine List.find?_eq_none.2 fun entry hentry => ?_
    rw [matchesAlias_iff (hplain.patterns _ hentry), not_exists]
    exact h entry hentry
  rw [findAlias, hnone]

theorem Answers.findAlias_eq (hplain : Plain config specifier) {answer : Option Path}
    (h : Answers config disk specifier answer) : findAlias config disk specifier = answer := by
  cases h with
  | unmatched h => exact unmatched_findAlias hplain h
  | found h hbefore hfile =>
    rw [h.findAlias_eq hplain]
    exact List.findSome?_eq_some_iff.2 ⟨_, _, _, rfl, findScript_eq_some_iff.2 hfile,
      fun c hc => findScript_eq_none_iff.2 (hbefore c hc)⟩
  | missing h hnone =>
    rw [h.findAlias_eq hplain]
    exact List.findSome?_eq_none_iff.2 fun c hc => findScript_eq_none_iff.2 (hnone c hc)

theorem answers_findAlias (hplain : Plain config specifier) :
    Answers config disk specifier (findAlias config disk specifier) := by
  rcases chosen_or_unmatched config specifier with ⟨candidates, text, h⟩ | h
  · rw [h.findAlias_eq hplain]
    cases hfound : candidates.findSome? fun candidate =>
        findScript disk (config.root.join ⟨String.ofList (filled text candidate.toList)⟩) with
    | none =>
      exact .missing h fun c hc =>
        findScript_eq_none_iff.1 (List.findSome?_eq_none_iff.1 hfound c hc)
    | some file =>
      obtain ⟨before, candidate, after, rfl, hfile, hbefore⟩ := List.findSome?_eq_some_iff.1 hfound
      exact .found h (fun c hc => findScript_eq_none_iff.1 (hbefore c hc))
        (findScript_eq_some_iff.1 hfile)
  · rw [unmatched_findAlias hplain h]
    exact .unmatched h

/-- The search gives the answer of the aliases, which is the only one, and the star of a pattern
that fits stands for one text. -/
theorem answers_iff_findAlias (hplain : Plain config specifier) (disk : Disk) :
    (∀ answer, Answers config disk specifier answer ↔ findAlias config disk specifier = answer) ∧
      ∀ entry ∈ config.aliases, ∀ text other, Fits entry.1.toList text specifier.toList →
        Fits entry.1.toList other specifier.toList → text = other := by
  refine ⟨fun answer => ⟨Answers.findAlias_eq hplain, ?_⟩, fun entry hentry text other h k => ?_⟩
  · rintro rfl
    exact answers_findAlias hplain
  · rw [← Fits.eq (hplain.patterns _ hentry) h, ← Fits.eq (hplain.patterns _ hentry) k]

/-- A folder with one script. -/
def shop : Disk where
  entries := [
    (["p"], .folder),
    (["p", "src"], .folder),
    (["p", "src", "store.ts"], .file "".toUTF8)]
  current := []

/-- A pattern whose ends may not overlap, and one that is behind it. -/
def overlapping : Config :=
  { Config.of ⟨"/p"⟩ with aliases := [("a*a", ["none/*"]), ("a*", ["src/*", "src/store"])] }

theorem plain_overlapping {specifier : String} (h : IsPlain specifier.toList) :
    Plain overlapping specifier where
  patterns := by
    intro entry hentry
    rcases List.mem_pair.1 hentry with rfl | rfl
    · exact ⟨['a'], ['a'], by decide, by decide, rfl⟩
    · exact ⟨['a'], [], by decide, by decide, rfl⟩
  candidates := by
    intro entry hentry
    rcases List.mem_pair.1 hentry with rfl | rfl
    · intro candidate hcandidate
      rw [List.mem_singleton.1 hcandidate]
      exact Or.inr ⟨"none/".toList, [], by decide, by decide, rfl⟩
    · intro candidate hcandidate
      rcases List.mem_pair.1 hcandidate with rfl | rfl
      · exact Or.inr ⟨"src/".toList, [], by decide, by decide, rfl⟩
      · exact Or.inl (by decide)
  root := by decide +kernel
  specifier := h

/-- One letter does not fit the pattern that asks for two, so the second alias gives the script; two
letters fit it, and then the second alias is not asked. -/
theorem answers_overlapping :
    Plain overlapping "a" ∧ Plain overlapping "aa" ∧
      Answers overlapping shop "a" (some ⟨"/p/src/store.ts"⟩) ∧
        Answers overlapping shop "aa" none := by
  have hone : Plain overlapping "a" := plain_overlapping (by decide)
  have htwo : Plain overlapping "aa" := plain_overlapping (by decide)
  refine ⟨hone, htwo, ?_, ?_⟩
  · refine ((answers_iff_findAlias hone shop).1 _).2 ?_
    have hfound : (findAlias overlapping shop "a").map Path.text = some "/p/src/store.ts" := by
      decide +kernel
    obtain ⟨⟨text⟩, hpath, rfl⟩ := Option.map_eq_some_iff.1 hfound
    exact hpath
  · refine ((answers_iff_findAlias htwo shop).1 _).2 ?_
    have hmissing : (findAlias overlapping shop "aa").isNone = true := by decide +kernel
    exact Option.isNone_iff_eq_none.1 hmissing

end Minipack.Resolve.Alias
