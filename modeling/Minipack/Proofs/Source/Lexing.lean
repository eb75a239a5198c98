/-
How a script is read.

A script is read from left to right as white space, comments and tokens.  Where one ends is settled
by its own characters and by a grammar (`Lexis`) that says three things: which words a run of names,
numbers and punctuators is cut into, behind which tokens a slash opens a regular expression, and how
far a template reaches.  So a script reads as at most one list of pieces (`Lexis.Reads.unique`), and
reading piece by piece finds it (`Lexis.reads_iff`).

Strings, regular expressions and comments between marks are scanned up to their end (`scan`), and a
scan stops there whatever follows (`scan_append`).  A piece is the first of a text exactly if it
stands at the front and what follows does not belong to it (`Lexis.Stands`).
-/
import Minipack.Source.Comments

namespace Minipack.Source

/-! ### Scans -/

/-- What becomes of a scan at a character. -/
inductive ScanStep (σ : Type) where
  | go (state : σ)
  | done
  | fail

/-- Reads characters up to the one at which the scan is done, and gives what follows as well. -/
def scan {σ : Type} (step : σ → Char → ScanStep σ) :
    σ → List Char → Option (List Char × List Char)
  | _, [] => none
  | state, c :: rest =>
    match step state c with
    | .go next => (scan step next rest).map fun (body, rest) => (c :: body, rest)
    | .done => some ([c], rest)
    | .fail => none

/-- A scan reads the same whatever follows. -/
theorem scan_append {σ : Type} {step : σ → Char → ScanStep σ} {state : σ}
    {text body rest : List Char} (h : scan step state text = some (body, rest)) :
    text = body ++ rest ∧ ∀ more, scan step state (body ++ more) = some (body, more) := by
  induction text generalizing state body rest with
  | nil => cases h
  | cons c text ih =>
    rw [scan] at h
    cases hstep : step state c with
    | fail =>
      rw [hstep] at h
      cases h
    | done =>
      rw [hstep] at h
      obtain ⟨rfl, rfl⟩ := Prod.mk.inj (Option.some.inj h)
      refine ⟨rfl, fun more => ?_⟩
      rw [List.singleton_append, scan, hstep]
    | go next =>
      rw [hstep] at h
      obtain ⟨⟨tail, rest'⟩, htail, heq⟩ := Option.map_eq_some_iff.1 h
      obtain ⟨rfl, rfl⟩ := Prod.mk.inj heq
      obtain ⟨rfl, hmore⟩ := ih htail
      refine ⟨rfl, fun more => ?_⟩
      rw [List.cons_append, scan, hstep]
      dsimp only
      rw [hmore]
      rfl

/-- A scan ends in a character at which it is done. -/
theorem exists_of_scan {σ : Type} {step : σ → Char → ScanStep σ} {state : σ}
    {text body rest : List Char} (h : scan step state text = some (body, rest)) :
    ∃ last c, body.getLast? = some c ∧ step last c = .done := by
  induction text generalizing state body with
  | nil => cases h
  | cons c text ih =>
    rw [scan] at h
    cases hstep : step state c with
    | fail =>
      rw [hstep] at h
      cases h
    | done =>
      rw [hstep] at h
      obtain ⟨rfl, -⟩ := Prod.mk.inj (Option.some.inj h)
      exact ⟨state, c, rfl, hstep⟩
    | go next =>
      rw [hstep] at h
      obtain ⟨⟨tail, rest'⟩, htail, heq⟩ := Option.map_eq_some_iff.1 h
      obtain ⟨rfl, rfl⟩ := Prod.mk.inj heq
      obtain ⟨last, d, hlast, hdone⟩ := ih htail
      have hne : tail ≠ [] := by
        rintro rfl
        cases hlast
      exact ⟨last, d, (List.getLast?_cons_of_ne_nil hne).trans hlast, hdone⟩

/-- What is scanned is not empty. -/
theorem scan_ne_nil {σ : Type} {step : σ → Char → ScanStep σ} {state : σ}
    {text body rest : List Char} (h : scan step state text = some (body, rest)) : body ≠ [] := by
  obtain ⟨last, c, hlast, -⟩ := exists_of_scan h
  rintro rfl
  cases hlast

/-! ### Characters -/

/-- Whether a character ends a line. -/
def isLineEnd (c : Char) : Bool :=
  c == '\n' || c == '\r' || c == '\u2028' || c == '\u2029'

/-- Whether a character is white space or ends a line. -/
def isSpace (c : Char) : Bool :=
  isLineEnd c || c == '\t' || c == '\x0b' || c == '\x0c' || c == ' ' || c == '\u00a0' ||
    c == '\ufeff' || c == '\u1680' || '\u2000' ≤ c && c ≤ '\u200a' || c == '\u202f' ||
    c == '\u205f' || c == '\u3000'

/-- Whether a character can only belong to a name, a number or a punctuator other than a slash. -/
def isPlain (c : Char) : Bool :=
  !isSpace c && !isQuote c && c != '/'

/-- Whether a character may go on a name. -/
def isNamePart (c : Char) : Bool :=
  isPlain c && (c.isAlphanum || c == '_' || c == '$' || c == '\\' || 0x7f < c.toNat)

theorem isPlain_of_isNamePart {c : Char} (h : isNamePart c = true) : isPlain c = true :=
  (Bool.and_eq_true_iff.1 h).1

theorem isSpace_of_isPlain {c : Char} (h : isPlain c = true) : isSpace c = false := by
  simp only [isPlain, Bool.and_eq_true, Bool.not_eq_true'] at h
  exact h.1.1

theorem isQuote_of_isPlain {c : Char} (h : isPlain c = true) : isQuote c = false := by
  simp only [isPlain, Bool.and_eq_true, Bool.not_eq_true'] at h
  exact h.1.2

theorem ne_slash_of_isPlain {c : Char} (h : isPlain c = true) : c ≠ '/' := by
  simp only [isPlain, Bool.and_eq_true] at h
  exact bne_iff_ne.1 h.2

theorem isQuote_of_isSpace {c : Char} (h : isSpace c = true) : isQuote c = false := by
  rw [← Bool.not_eq_true, isQuote]
  simp only [Bool.or_eq_true, beq_iff_eq]
  rintro ((rfl | rfl) | rfl) <;> exact absurd h (by decide)

theorem isPlain_of_isSpace {c : Char} (h : isSpace c = true) : isPlain c = false := by
  rw [isPlain, h]
  rfl

theorem isPlain_of_isQuote {c : Char} (h : isQuote c = true) : isPlain c = false := by
  rw [isPlain, h, Bool.not_true, Bool.and_false]
  rfl

/-- A run of characters is cut off where it ends. -/
theorem takeWhile_append {p : Char → Bool} {text rest : List Char} (h : ∀ c ∈ text, p c = true)
    (hrest : ∀ c ∈ rest.head?, p c = false) :
    (text ++ rest).takeWhile p = text ∧ (text ++ rest).dropWhile p = rest := by
  rw [List.takeWhile_append_of_pos h, List.dropWhile_append_of_pos h]
  cases rest with
  | nil => exact ⟨List.append_nil _, rfl⟩
  | cons c rest =>
    have hc := hrest c rfl
    rw [List.takeWhile_cons, List.dropWhile_cons, hc]
    exact ⟨List.append_nil _, rfl⟩

/-- Where it ends another character follows. -/
theorem head?_dropWhile (p : Char → Bool) (text : List Char) :
    ∀ c ∈ (text.dropWhile p).head?, p c = false := by
  intro c hc
  have hne : text.dropWhile p ≠ [] := by
    rintro hnil
    rw [hnil] at hc
    cases hc
  have hhead : p ((text.dropWhile p).head hne) = false := List.head_dropWhile_not p hne
  rw [List.head?_eq_some_head hne] at hc
  obtain rfl := Option.some.inj hc
  exact hhead

/-! ### Pieces -/

/-- What a script is made of. -/
inductive Piece where
  | space (c : Char)
  /-- A comment to the end of the line, by what follows its mark. -/
  | lineComment (body : List Char)
  /-- A comment between marks, by what follows the first. -/
  | blockComment (body : List Char)
  /-- Names, numbers and punctuators without a space; a slash may stand at the front. -/
  | run (text : List Char)
  /-- A string, by its quote and what follows that. -/
  | string (quote : Char) (body : List Char)
  /-- A template, by what follows its backtick. -/
  | template (body : List Char)
  /-- A regular expression, by what follows its slash. -/
  | regex (body flags : List Char)
deriving DecidableEq

/-- A token of the grammar, as it is written. -/
inductive Token where
  | word (text : List Char)
  | string (text : List Char)
  | template (text : List Char)
  | regex (text : List Char)
deriving DecidableEq

/-- The text of a piece. -/
def Piece.text : Piece → List Char
  | space c => [c]
  | lineComment body => '/' :: '/' :: body
  | blockComment body => '/' :: '*' :: body
  | run text => text
  | string quote body => quote :: body
  | template body => '\x60' :: body
  | regex body flags => '/' :: (body ++ flags)

/-- Whether a piece is a comment. -/
def Piece.isComment : Piece → Bool
  | lineComment _ => true
  | blockComment _ => true
  | _ => false

/-- The plain characters at the front of the pieces. -/
def leading : List Piece → List Char
  | .run text :: _ => if text.head? = some '/' then [] else text
  | _ => []

/-- What the grammar of scripts settles about tokens. -/
structure Lexis where
  /-- The words of a run. -/
  cut : List Char → List (List Char)
  cut_nil : cut [] = []
  /-- Whether a slash behind these tokens opens a regular expression. -/
  opensRegex : List Token → Bool
  /-- What belongs to a template behind its backtick, and what follows. -/
  template : List Char → Option (List Char × List Char)
  /-- A template ends in a backtick, and reaches as far whatever follows. -/
  template_append : ∀ {text body rest : List Char}, template text = some (body, rest) →
    text = body ++ rest ∧ body.getLast? = some '\x60' ∧
      ∀ more, template (body ++ more) = some (body, more)

/-- Scans a comment behind its mark; the state says that a star came before. -/
def commentStep (star : Bool) (c : Char) : ScanStep Bool :=
  if star && c = '/' then .done else .go (c == '*')

/-- Where in a string a character stands. -/
inductive StringState where
  | plain
  /-- Behind a backslash. -/
  | escaped
  /-- Behind a backslash and a carriage return, which may make one line end with what follows. -/
  | continued
deriving DecidableEq

/-- Scans a string behind its quote. -/
def stringStep (quote : Char) (state : StringState) (c : Char) : ScanStep StringState :=
  if state = .escaped then .go (if c = '\r' then .continued else .plain)
  else if state = .continued ∧ c = '\n' then .go .plain
  else if c = '\\' then .go .escaped
  else if c = quote then .done
  else if c = '\n' ∨ c = '\r' then .fail
  else .go .plain

/-- Where in a regular expression a character stands. -/
structure RegexState where
  escaped : Bool := false
  inClass : Bool := false

/-- Scans a regular expression behind its slash. -/
def regexStep (state : RegexState) (c : Char) : ScanStep RegexState :=
  if isLineEnd c then .fail
  else if state.escaped then .go { state with escaped := false }
  else if c = '\\' then .go { state with escaped := true }
  else if c = '[' then .go { inClass := true }
  else if c = ']' then .go {}
  else if c = '/' && !state.inClass then .done
  else .go state

namespace Lexis

variable (lexis : Lexis)

/-- The tokens of a piece. -/
def tokens : Piece → List Token
  | .space _ => []
  | .lineComment _ => []
  | .blockComment _ => []
  | .run text => (lexis.cut text).map .word
  | .string quote body => [.string (quote :: body)]
  | .template body => [.template ('\x60' :: body)]
  | .regex body flags => [.regex ('/' :: (body ++ flags))]

/-- The run that starts with a character. -/
def runFrom (c : Char) (rest : List Char) : Piece × List Char :=
  (.run (c :: rest.takeWhile isPlain), rest.dropWhile isPlain)

/-- The piece that starts with a slash behind some tokens, and what follows. -/
def nextSlash (before : List Token) (rest : List Char) : Option (Piece × List Char) :=
  match rest with
  | '/' :: rest =>
    some (.lineComment (rest.takeWhile fun c => !isLineEnd c), rest.dropWhile fun c => !isLineEnd c)
  | '*' :: rest => (scan commentStep false rest).map fun (body, rest) => (.blockComment body, rest)
  | rest =>
    if lexis.opensRegex before then
      (scan regexStep {} rest).map fun (body, rest) =>
        (.regex body (rest.takeWhile isNamePart), rest.dropWhile isNamePart)
    else some (runFrom '/' rest)

/-- The first piece of a text behind some tokens, and what follows. -/
def next (before : List Token) : List Char → Option (Piece × List Char)
  | [] => none
  | c :: rest =>
    if c = '/' then lexis.nextSlash before rest
    else if isSpace c then some (.space c, rest)
    else if c = '\x60' then (lexis.template rest).map fun (body, rest) => (.template body, rest)
    else if isQuote c then
      (scan (stringStep c) .plain rest).map fun (body, rest) => (.string c body, rest)
    else some (runFrom c rest)

/-- Behind some tokens a text reads as a list of pieces. -/
inductive Reads : List Token → List Char → List Piece → Prop
  | nil (before : List Token) : Reads before [] []
  | cons {before : List Token} {text rest : List Char} {piece : Piece} {pieces : List Piece} :
      lexis.next before text = some (piece, rest) →
      Reads (before ++ lexis.tokens piece) rest pieces → Reads before text (piece :: pieces)

/-- The pieces of a text, when there are at most so many. -/
def read? : Nat → List Token → List Char → Option (List Piece)
  | _, _, [] => some []
  | 0, _, _ :: _ => none
  | n + 1, before, c :: text =>
    match lexis.next before (c :: text) with
    | none => none
    | some (piece, rest) => (read? n (before ++ lexis.tokens piece) rest).map (piece :: ·)

/-- A piece can stand behind some tokens and before some text. -/
inductive Stands (before : List Token) : Piece → List Char → Prop
  | space {c : Char} {rest : List Char} : isSpace c = true → Stands before (.space c) rest
  | lineComment {body rest : List Char} : (∀ c ∈ body, isLineEnd c = false) →
      (∀ c ∈ rest.head?, isLineEnd c = true) → Stands before (.lineComment body) rest
  | blockComment {body rest : List Char} :
      (∀ more, scan commentStep false (body ++ more) = some (body, more)) →
      Stands before (.blockComment body) rest
  | run {c : Char} {text rest : List Char} : (∀ d ∈ c :: text, isPlain d = true) →
      (∀ d ∈ rest.head?, isPlain d = false) → Stands before (.run (c :: text)) rest
  | division {text rest : List Char} : lexis.opensRegex before = false →
      (∀ d ∈ text, isPlain d = true) → (∀ d ∈ rest.head?, isPlain d = false) →
      (text ++ rest).head? ≠ some '/' → (text ++ rest).head? ≠ some '*' →
      Stands before (.run ('/' :: text)) rest
  | string {quote : Char} {body rest : List Char} : isQuote quote = true → quote ≠ '\x60' →
      (∀ more, scan (stringStep quote) .plain (body ++ more) = some (body, more)) →
      Stands before (.string quote body) rest
  | template {body rest : List Char} : body.getLast? = some '\x60' →
      (∀ more, lexis.template (body ++ more) = some (body, more)) →
      Stands before (.template body) rest
  | regex {body flags rest : List Char} : lexis.opensRegex before = true →
      body.head? ≠ some '/' → body.head? ≠ some '*' →
      (∀ more, scan regexStep {} (body ++ more) = some (body, more)) →
      (∀ c ∈ flags, isNamePart c = true) → (∀ c ∈ rest.head?, isNamePart c = false) →
      Stands before (.regex body flags) rest

variable {lexis} {before : List Token} {text rest : List Char} {piece : Piece}
  {pieces pieces' : List Piece}

/-! ### The first piece -/

theorem nextSlash_of_head {rest : List Char} (hslash : rest.head? ≠ some '/')
    (hstar : rest.head? ≠ some '*') : lexis.nextSlash before rest =
      if lexis.opensRegex before then
        (scan regexStep {} rest).map fun (body, rest) =>
          (.regex body (rest.takeWhile isNamePart), rest.dropWhile isNamePart)
      else some (runFrom '/' rest) := by
  rw [nextSlash]
  · rintro more rfl
    exact hslash rfl
  · rintro more rfl
    exact hstar rfl

/-- What stands at the front of a text is its first piece. -/
theorem Stands.next (h : lexis.Stands before piece rest) :
    lexis.next before (piece.text ++ rest) = some (piece, rest) := by
  have hslashed (rest : List Char) :
      lexis.next before ('/' :: rest) = lexis.nextSlash before rest := rfl
  -- each piece is what `next` comes to from its first character
  cases h with
  | @space c rest hspace =>
    have hslash : c ≠ '/' := by
      rintro rfl
      exact absurd hspace (by decide)
    show lexis.next before (c :: rest) = _
    rw [Lexis.next, if_neg hslash, if_pos hspace]
  | @lineComment body rest hbody hrest =>
    have hbody' : ∀ c ∈ body, (!isLineEnd c) = true := fun c hc => by rw [hbody c hc]; rfl
    have hrest' : ∀ c ∈ rest.head?, (!isLineEnd c) = false := fun c hc => by rw [hrest c hc]; rfl
    obtain ⟨htake, hdrop⟩ := takeWhile_append hbody' hrest'
    show lexis.nextSlash before ('/' :: (body ++ rest)) = _
    rw [nextSlash, htake, hdrop]
  | @blockComment body rest hscan =>
    show lexis.nextSlash before ('*' :: (body ++ rest)) = _
    rw [nextSlash, hscan]
    rfl
  | @run c text rest hplain hrest =>
    have hc := hplain c List.mem_cons_self
    obtain ⟨htake, hdrop⟩ :=
      takeWhile_append (fun d hd => hplain d (List.mem_cons_of_mem _ hd)) hrest
    have hbacktick : c ≠ '\x60' := by
      rintro rfl
      exact absurd hc (by decide)
    show lexis.next before (c :: (text ++ rest)) = _
    rw [Lexis.next, if_neg (ne_slash_of_isPlain hc), isSpace_of_isPlain hc, if_neg (by decide),
      if_neg hbacktick, isQuote_of_isPlain hc, if_neg (by decide), runFrom, htake, hdrop]
  | @division text rest hopens hplain hrest hslash hstar =>
    obtain ⟨htake, hdrop⟩ := takeWhile_append hplain hrest
    show lexis.nextSlash before (text ++ rest) = _
    rw [nextSlash_of_head hslash hstar, hopens, if_neg (by decide), runFrom, htake, hdrop]
  | @string quote body rest hquote hne hscan =>
    have hslash : quote ≠ '/' := by
      rintro rfl
      exact absurd hquote (by decide)
    have hspace : isSpace quote = false := by
      rw [← Bool.not_eq_true]
      intro hspace
      rw [isQuote_of_isSpace hspace] at hquote
      cases hquote
    show lexis.next before (quote :: (body ++ rest)) = _
    rw [Lexis.next, if_neg hslash, hspace, if_neg (by decide), if_neg hne, if_pos hquote, hscan]
    rfl
  | @template body rest hlast htemplate =>
    show lexis.next before ('\x60' :: (body ++ rest)) = _
    rw [Lexis.next, if_neg (by decide), if_neg (by decide), if_pos rfl, htemplate]
    rfl
  | @regex body flags rest hopens hslash hstar hscan hflags hrest =>
    obtain ⟨htake, hdrop⟩ := takeWhile_append hflags hrest
    have hhead : (body ++ (flags ++ rest)).head? = body.head? := by
      have hne := scan_ne_nil (hscan [])
      rw [List.head?_append, List.head?_eq_some_head hne, Option.some_or]
    show lexis.nextSlash before (body ++ flags ++ rest) = _
    rw [List.append_assoc, nextSlash_of_head (hhead ▸ hslash) (hhead ▸ hstar), hopens, if_pos rfl,
      hscan]
    dsimp only [Option.map_some]
    rw [htake, hdrop]

theorem stands_runFrom {c : Char} {rest : List Char} (hc : isPlain c = true)
    (h : runFrom c rest = (piece, text)) :
    c :: rest = piece.text ++ text ∧ lexis.Stands before piece text := by
  obtain ⟨rfl, rfl⟩ := Prod.mk.inj h
  refine ⟨congrArg (c :: ·) List.takeWhile_append_dropWhile.symm, .run ?_ (head?_dropWhile _ _)⟩
  intro d hd
  rcases List.mem_cons.1 hd with rfl | hd
  · exact hc
  · exact List.all_eq_true.1 List.all_takeWhile d hd

/-- The first piece of a text that starts with a slash. -/
theorem stands_of_nextSlash (h : lexis.nextSlash before text = some (piece, rest)) :
    '/' :: text = piece.text ++ rest ∧ lexis.Stands before piece rest := by
  unfold nextSlash at h
  split at h
  · next after =>
    obtain ⟨rfl, rfl⟩ := Prod.mk.inj (Option.some.inj h)
    refine ⟨congrArg ('/' :: '/' :: ·) List.takeWhile_append_dropWhile.symm, .lineComment ?_ ?_⟩
    · exact fun c hc => by simpa using List.all_eq_true.1 List.all_takeWhile c hc
    · exact fun c hc => by simpa using head?_dropWhile (fun c => !isLineEnd c) after c hc
  · next after =>
    obtain ⟨⟨body, tail⟩, hscan, heq⟩ := Option.map_eq_some_iff.1 h
    obtain ⟨rfl, rfl⟩ := Prod.mk.inj heq
    obtain ⟨rfl, hmore⟩ := scan_append hscan
    exact ⟨rfl, .blockComment hmore⟩
  · next hslash hstar =>
    -- no comment: what was read so far tells whether a regular expression may stand here
    have hslash' : text.head? ≠ some '/' := fun hhead => by
      obtain ⟨more, rfl⟩ := List.head?_eq_some_iff.1 hhead
      exact hslash more rfl
    have hstar' : text.head? ≠ some '*' := fun hhead => by
      obtain ⟨more, rfl⟩ := List.head?_eq_some_iff.1 hhead
      exact hstar more rfl
    split at h
    · next hopens =>
      obtain ⟨⟨body, tail⟩, hscan, heq⟩ := Option.map_eq_some_iff.1 h
      obtain ⟨rfl, rfl⟩ := Prod.mk.inj heq
      obtain ⟨rfl, hmore⟩ := scan_append hscan
      have hhead : (body ++ tail).head? = body.head? := by
        rw [List.head?_append, List.head?_eq_some_head (scan_ne_nil hscan), Option.some_or]
      refine ⟨?_, .regex hopens (hhead ▸ hslash') (hhead ▸ hstar') hmore ?_ (head?_dropWhile _ _)⟩
      · rw [Piece.text, List.cons_append, List.append_assoc, List.takeWhile_append_dropWhile]
      · exact List.all_eq_true.1 List.all_takeWhile
    · next hopens =>
      obtain ⟨rfl, rfl⟩ := Prod.mk.inj (Option.some.inj h)
      rw [← List.takeWhile_append_dropWhile (p := isPlain) (l := text)] at hslash' hstar'
      refine ⟨congrArg ('/' :: ·) List.takeWhile_append_dropWhile.symm,
        .division (Bool.eq_false_iff.2 hopens) ?_ (head?_dropWhile _ _) hslash' hstar'⟩
      exact List.all_eq_true.1 List.all_takeWhile

/-- The first piece of a text stands at its front. -/
theorem stands_of_next (h : lexis.next before text = some (piece, rest)) :
    text = piece.text ++ rest ∧ lexis.Stands before piece rest := by
  cases text with
  | nil => cases h
  | cons c text =>
    rw [Lexis.next] at h
    split at h
    · next hslash =>
      rw [hslash]
      exact stands_of_nextSlash h
    · next hslash =>
      split at h
      · next hspace =>
        obtain ⟨rfl, rfl⟩ := Prod.mk.inj (Option.some.inj h)
        exact ⟨rfl, .space hspace⟩
      · next hspace =>
        split at h
        · next hbacktick =>
          obtain ⟨⟨body, tail⟩, htemplate, heq⟩ := Option.map_eq_some_iff.1 h
          obtain ⟨rfl, rfl⟩ := Prod.mk.inj heq
          obtain ⟨rfl, hlast, hmore⟩ := lexis.template_append htemplate
          rw [hbacktick]
          exact ⟨rfl, .template hlast hmore⟩
        · next hbacktick =>
          split at h
          · next hquote =>
            obtain ⟨⟨body, tail⟩, hscan, heq⟩ := Option.map_eq_some_iff.1 h
            obtain ⟨rfl, rfl⟩ := Prod.mk.inj heq
            obtain ⟨rfl, hmore⟩ := scan_append hscan
            exact ⟨rfl, .string hquote hbacktick hmore⟩
          · next hquote =>
            refine stands_runFrom ?_ (Option.some.inj h)
            rw [isPlain, Bool.eq_false_iff.2 hspace, Bool.eq_false_iff.2 hquote]
            simpa using hslash

theorem Stands.length_text_pos (h : lexis.Stands before piece rest) : 0 < piece.text.length := by
  cases h <;> exact Nat.zero_lt_succ _

theorem reads_nil_iff : lexis.Reads before [] pieces ↔ pieces = [] := by
  constructor
  · rintro (_ | ⟨hnext, -⟩)
    · rfl
    · cases hnext
  · rintro rfl
    exact .nil before

theorem reads_cons_iff : lexis.Reads before text (piece :: pieces) ↔
    ∃ rest, text = piece.text ++ rest ∧ lexis.Stands before piece rest ∧
      lexis.Reads (before ++ lexis.tokens piece) rest pieces := by
  constructor
  · rintro (_ | ⟨hnext, hrest⟩)
    obtain ⟨htext, hstands⟩ := stands_of_next hnext
    exact ⟨_, htext, hstands, hrest⟩
  · rintro ⟨rest, rfl, hstands, hrest⟩
    exact .cons hstands.next hrest

/-- Reading piece by piece finds the pieces of a text. -/
theorem reads_iff :
    lexis.Reads before text pieces ↔ lexis.read? text.length before text = some pieces := by
  suffices h : ∀ n, text.length ≤ n →
      (lexis.Reads before text pieces ↔ lexis.read? n before text = some pieces) from
    h _ (Nat.le_refl _)
  intro n hn
  induction n generalizing before text pieces with
  | zero =>
    obtain rfl := List.length_eq_zero_iff.1 (Nat.le_zero.1 hn)
    exact reads_nil_iff.trans (Option.some_inj.trans eq_comm).symm
  | succ n ih =>
    cases text with
    | nil => exact reads_nil_iff.trans (Option.some_inj.trans eq_comm).symm
    | cons c text =>
      rw [read?]
      cases hnext : lexis.next before (c :: text) with
      | none =>
        refine ⟨?_, fun h => absurd h.symm (Option.some_ne_none _)⟩
        rintro (_ | ⟨hnext', -⟩)
        cases hnext.symm.trans hnext'
      | some read =>
        obtain ⟨piece, rest⟩ := read
        obtain ⟨htext, hstands⟩ := stands_of_next hnext
        -- every piece takes a character, so the length is fuel enough
        have hshort : rest.length ≤ n := by
          have hpos := hstands.length_text_pos
          have hlength := congrArg List.length htext
          rw [List.length_append] at hlength
          omega
        constructor
        · rintro (_ | ⟨hnext', hrest⟩)
          obtain ⟨rfl, rfl⟩ := Prod.mk.inj (Option.some.inj (hnext.symm.trans hnext'))
          exact Option.map_eq_some_iff.2 ⟨_, (ih hshort).1 hrest, rfl⟩
        · intro h
          obtain ⟨tail, htail, rfl⟩ := Option.map_eq_some_iff.1 h
          exact .cons hnext ((ih hshort).2 htail)

/-- A text reads as one list of pieces at most. -/
theorem Reads.unique (h : lexis.Reads before text pieces) (h' : lexis.Reads before text pieces') :
    pieces = pieces' :=
  Option.some.inj ((reads_iff.1 h).symm.trans (reads_iff.1 h'))

instance : Decidable (lexis.Reads before text pieces) :=
  decidable_of_iff _ reads_iff.symm

/-- A text is its pieces. -/
theorem Reads.text_eq (h : lexis.Reads before text pieces) : text = pieces.flatMap Piece.text := by
  induction h with
  | nil => rfl
  | cons hnext _ ih => rw [(stands_of_next hnext).1, ih, List.flatMap_cons]

/-- The plain characters that a text starts with are those of its first piece. -/
theorem Reads.leading_eq (h : lexis.Reads before text pieces) :
    leading pieces = text.takeWhile isPlain := by
  cases h with
  | nil => rfl
  | cons hnext _ =>
    obtain ⟨rfl, hstands⟩ := stands_of_next hnext
    cases hstands with
    | space hspace =>
      show [] = List.takeWhile isPlain (_ :: _)
      rw [List.takeWhile_cons, isPlain_of_isSpace hspace, if_neg (by decide)]
    | @run c text rest hplain hrest =>
      show (if some c = some '/' then [] else c :: text) = _
      rw [Piece.text, (takeWhile_append hplain hrest).1, if_neg fun hslash => ?_]
      exact ne_slash_of_isPlain (hplain c List.mem_cons_self) (Option.some.inj hslash)
    | string hquote _ _ =>
      show [] = List.takeWhile isPlain (_ :: _)
      rw [List.takeWhile_cons, isPlain_of_isQuote hquote, if_neg (by decide)]
    | lineComment => rfl
    | blockComment => rfl
    | division => rfl
    | template => rfl
    | regex => rfl

theorem Reads.head?_leading (h : lexis.Reads before text pieces) :
    ∀ c ∈ text.head?, isPlain c = true → (leading pieces).head? = some c := by
  intro c hc hplain
  obtain ⟨rest, rfl⟩ := List.head?_eq_some_iff.1 hc
  rw [h.leading_eq, List.takeWhile_cons, if_pos hplain, List.head?_cons]

end Lexis

/-! ### A grammar -/

/-- What a character in a template belongs to: the text of a template, a substitution or braces in
one, or a string in one. -/
inductive Frame where
  /-- The text of a template; a dollar sign may stand before. -/
  | text (dollar : Bool)
  | code
  | quoted (quote : Char)

/-- Where in a template a character stands, the inner frames first. -/
structure TemplateState where
  frames : List Frame
  escaped : Bool := false

/-- Scans a template behind its backtick, with the templates in its substitutions. -/
def templateStep (state : TemplateState) (c : Char) : ScanStep TemplateState :=
  if state.escaped then .go { state with escaped := false }
  else match state.frames with
  | [] => .fail
  | .text dollar :: outer =>
    if c = '\x60' then if outer.isEmpty then .done else .go { frames := outer }
    else if c = '\\' then .go { frames := .text false :: outer, escaped := true }
    else if dollar && c = '\x7b' then .go { frames := .code :: .text false :: outer }
    else .go { frames := .text (c == '$') :: outer }
  | .code :: outer =>
    if c = '\x7d' then .go { frames := outer }
    else if c = '\x7b' then .go { frames := .code :: .code :: outer }
    else if c = '\x60' then .go { frames := .text false :: .code :: outer }
    else if isQuote c then .go { frames := .quoted c :: .code :: outer }
    else .go state
  | .quoted quote :: outer =>
    if c = '\\' then .go { state with escaped := true }
    else if c = quote then .go { frames := outer }
    else .go state

theorem eq_of_templateStep {state : TemplateState} {c : Char} (h : templateStep state c = .done) :
    c = '\x60' := by
  grind [templateStep]

/-- The punctuators of more than one character. -/
def punctuators : List (List Char) :=
  ["=>", "==", "===", "!=", "!==", "<=", ">=", "&&", "||", "??", "?.", "...", "++", "--", "**",
    "<<", ">>", ">>>", "+=", "-=", "*=", "/=", "%=", "&=", "|=", "^=", "**=", "<<=", ">>=", ">>>=",
    "&&=", "||=", "??="].map String.toList

/-- The length of the first word of a run: a number, a name, or the longest punctuator. -/
def wordLength (run : List Char) : Nat :=
  let inWord (c : Char) := isNamePart c || c == '.' && run.head?.any Char.isDigit
  let word := (run.takeWhile inWord).length
  if word = 0 then
    ((punctuators.filter (·.isPrefixOf run)).map List.length).foldl max 1
  else word

/-- The words of a run, at most so many. -/
def cutWords : Nat → List Char → List (List Char)
  | 0, _ => []
  | _, [] => []
  | n + 1, run => run.take (wordLength run) :: cutWords n (run.drop (wordLength run))

/-- The names behind which an operand stands. -/
def operators : List (List Char) :=
  ["await", "case", "delete", "do", "else", "extends", "in", "instanceof", "new", "of", "return",
    "throw", "typeof", "void", "yield"].map String.toList

/-- Whether an operand can end in a token. -/
def Token.endsOperand : Token → Bool
  | word text =>
    text == [')'] || text == [']'] || text == ['\x7d'] || text == ['+', '+'] ||
      text == ['-', '-'] || text.head?.any isNamePart && !operators.contains text
  | _ => true

/-- A grammar of scripts, in which a slash behind an operand divides. -/
def script : Lexis where
  cut run := cutWords run.length run
  cut_nil := rfl
  opensRegex before := before.getLast?.all fun token => !token.endsOperand
  template := scan templateStep { frames := [.text false] }
  template_append h := by
    obtain ⟨htext, hmore⟩ := scan_append h
    obtain ⟨last, c, hlast, hdone⟩ := exists_of_scan h
    obtain rfl := eq_of_templateStep hdone
    exact ⟨htext, hlast, hmore⟩

end Minipack.Source
