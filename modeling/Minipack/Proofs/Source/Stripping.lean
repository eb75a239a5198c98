/-
Scripts without their comments.

The stripper looks at one character more and knows quotes, but neither regular expressions nor
templates within templates.  It keeps names, numbers, punctuators and strings as they are
(`Lexis.Stands.keep?_run`, `keep?_string`) and drops comments (`stripFrom_blockComment`,
`stripFrom_lineComment`).  So a stripped script reads as its pieces without the comments
(`Lexis.Reads.strip`), and as the same tokens (`Lexis.readsAs_stripScriptComments`), where each
piece fits (`Lexis.fits`): the stripper passes regular expressions and templates from end to end,
comments to the end of the line end at a line feed, and no two words join where a comment is
dropped.  A text without quotes and the marks of comments is passed (`keep?_of_unquoted`); a quote
in a regular expression can harm all that follows.
-/
import Minipack.Proofs.Source.Lexing

namespace Minipack.Source

/-! ### What the stripper keeps -/

/-- The state of the stripper behind a text that it keeps as it is; none where it would see a
comment. -/
def keep? : ScriptState → List Char → Option ScriptState
  | state, [] => some state
  | .code, c :: rest =>
    if c = '/' ∧ (rest.head? = some '/' ∨ rest.head? = some '*') then none
    else keep? (if isQuote c then .quoted c else .code) rest
  | .quoted quote, c :: rest => keep? (afterQuoted quote c) rest
  | .escaped quote, _ :: rest => keep? (.quoted quote) rest
  | .lineComment, _ :: _ => none
  | .blockComment _, _ :: _ => none

/-- Behind a text no comment begins with the slash that the text ends in. -/
def Closed (text rest : List Char) : Prop :=
  text.getLast? = some '/' → rest.head? ≠ some '/' ∧ rest.head? ≠ some '*'

instance (text rest : List Char) : Decidable (Closed text rest) :=
  inferInstanceAs (Decidable (_ → _))

theorem Closed.of_cons {c : Char} {text rest : List Char} (h : Closed (c :: text) rest) :
    Closed text rest := by
  intro hlast
  have hne : text ≠ [] := by
    rintro rfl
    cases hlast
  exact h ((List.getLast?_cons_of_ne_nil hne).trans hlast)

theorem Closed.of_getLast? {c d : Char} {text : List Char} (h : text.getLast? = some d)
    (hd : d ≠ '/') (rest : List Char) : Closed (c :: text) rest := by
  intro hlast
  have hne : text ≠ [] := by
    rintro rfl
    cases h
  rw [List.getLast?_cons_of_ne_nil hne, h] at hlast
  exact absurd (Option.some.inj hlast) hd

theorem Closed.of_plain {text rest : List Char} (h : ∀ c ∈ text, isPlain c = true) :
    Closed text rest := by
  intro hlast
  exact absurd rfl (ne_slash_of_isPlain (h _ (List.mem_of_getLast? hlast)))

/-- A character in the code that begins no comment is kept. -/
theorem stripFrom_code {c : Char} {rest : List Char}
    (h : c = '/' → rest.head? ≠ some '/' ∧ rest.head? ≠ some '*') :
    stripFrom .code (c :: rest) =
      c :: stripFrom (if isQuote c then .quoted c else .code) rest := by
  rw [stripFrom]
  · rintro more rfl rfl
    exact (h rfl).1 rfl
  · rintro more rfl rfl
    exact (h rfl).2 rfl

/-- The stripper goes on in the code behind a text that it keeps. -/
theorem stripFrom_of_keep {state : ScriptState} {text rest : List Char}
    (h : keep? state text = some .code) (hclosed : Closed text rest) :
    stripFrom state (text ++ rest) = text ++ stripFrom .code rest := by
  induction text generalizing state with
  | nil =>
    obtain rfl := Option.some.inj h
    rfl
  | cons c text ih =>
    cases state with
    | code =>
      rw [keep?] at h
      split at h
      · cases h
      · next hmark =>
        rw [List.cons_append, stripFrom_code, ih h hclosed.of_cons]
        · rfl
        · rintro rfl
          -- a slash at the end of the text must not meet a mark behind it
          cases text with
          | nil => exact hclosed rfl
          | cons d text => exact not_or.1 fun hmark' => hmark ⟨rfl, hmark'⟩
    | quoted quote =>
      rw [List.cons_append, stripFrom, ih h hclosed.of_cons]
      rfl
    | escaped quote =>
      rw [List.cons_append, stripFrom, ih h hclosed.of_cons]
      rfl
    | lineComment => cases h
    | blockComment star => cases h

/-! ### Runs and strings -/

/-- A text without quotes and without the marks of comments is kept. -/
theorem keep?_of_unquoted {text : List Char} (hquote : ∀ c ∈ text, isQuote c = false)
    (hmark : ∀ rest, '/' :: rest <:+ text → rest.head? ≠ some '/' ∧ rest.head? ≠ some '*') :
    keep? .code text = some .code := by
  induction text with
  | nil => rfl
  | cons c text ih =>
    rw [keep?, if_neg, hquote c List.mem_cons_self]
    · exact ih (fun d hd => hquote d (List.mem_cons_of_mem _ hd))
        fun rest hrest => hmark rest (hrest.trans (List.suffix_cons c text))
    · rintro ⟨rfl, hhead⟩
      obtain ⟨hslash, hstar⟩ := hmark text List.suffix_rfl
      exact hhead.elim hslash hstar

theorem keep?_plain {text : List Char} (h : ∀ c ∈ text, isPlain c = true) :
    keep? .code text = some .code :=
  keep?_of_unquoted (fun c hc => isQuote_of_isPlain (h c hc)) fun _ hrest =>
    absurd rfl (ne_slash_of_isPlain (h '/' (hrest.subset List.mem_cons_self)))

/-- In a string the stripper is where the scan is. -/
def StringState.stripper (quote : Char) : StringState → ScriptState
  | escaped => .escaped quote
  | plain => .quoted quote
  | continued => .quoted quote

/-- A quote is neither a backslash nor a line feed. -/
theorem ne_of_isQuote {c : Char} (h : isQuote c = true) : c ≠ '\\' ∧ c ≠ '\n' := by
  constructor <;> rintro rfl <;> exact absurd h (by decide)

/-- A character of a string takes the stripper where it takes the scan. -/
theorem keep?_stringStep {quote : Char} (hquote : isQuote quote = true) (state : StringState)
    (c : Char) : match stringStep quote state c with
      | .go next => ∀ tail, keep? (state.stripper quote) (c :: tail) =
          keep? (next.stripper quote) tail
      | .done => keep? (state.stripper quote) [c] = some .code
      | .fail => True := by
  obtain ⟨hbackslash, hfeed⟩ := ne_of_isQuote hquote
  unfold stringStep
  -- the conditions come in the order of the scan
  by_cases hescaped : state = .escaped
  · subst hescaped
    rw [if_pos rfl]
    intro tail
    split <;> rfl
  have hstripper : state.stripper quote = .quoted quote := by
    cases state with
    | escaped => exact absurd rfl hescaped
    | plain => rfl
    | continued => rfl
  rw [if_neg hescaped, hstripper]
  by_cases hcontinued : state = .continued ∧ c = '\n'
  · rw [if_pos hcontinued]
    intro tail
    rw [keep?, afterQuoted, hcontinued.2, if_neg (by decide), if_neg hfeed.symm]
    rfl
  rw [if_neg hcontinued]
  by_cases hc : c = '\\'
  · rw [if_pos hc]
    intro tail
    rw [keep?, afterQuoted, if_pos hc]
    rfl
  rw [if_neg hc]
  by_cases hclose : c = quote
  · rw [if_pos hclose]
    show keep? (.quoted quote) [c] = some .code
    rw [keep?, afterQuoted, if_neg hc, if_pos hclose]
    rfl
  rw [if_neg hclose]
  by_cases hline : c = '\n' ∨ c = '\r'
  · rw [if_pos hline]
    trivial
  · rw [if_neg hline]
    intro tail
    rw [keep?, afterQuoted, if_neg hc, if_neg hclose]
    rfl

theorem eq_of_stringStep {quote c : Char} {state : StringState}
    (h : stringStep quote state c = .done) : c = quote := by
  grind [stringStep]

/-- A string is kept. -/
theorem keep?_scan_string {quote : Char} (hquote : isQuote quote = true) {state : StringState}
    {text body rest : List Char} (h : scan (stringStep quote) state text = some (body, rest)) :
    keep? (state.stripper quote) body = some .code := by
  induction text generalizing state body with
  | nil => cases h
  | cons c text ih =>
    have hkeep := keep?_stringStep hquote state c
    rw [scan] at h
    cases hstep : stringStep quote state c with
    | fail =>
      rw [hstep] at h
      cases h
    | done =>
      rw [hstep] at h hkeep
      obtain ⟨rfl, -⟩ := Prod.mk.inj (Option.some.inj h)
      exact hkeep
    | go next =>
      rw [hstep] at h hkeep
      obtain ⟨⟨tail, rest'⟩, htail, heq⟩ := Option.map_eq_some_iff.1 h
      obtain ⟨rfl, rfl⟩ := Prod.mk.inj heq
      exact (hkeep tail).trans (ih htail)

/-- A string is kept from quote to quote. -/
theorem keep?_string {quote : Char} (hquote : isQuote quote = true) {text body rest : List Char}
    (h : scan (stringStep quote) .plain text = some (body, rest)) :
    keep? .code (quote :: body) = some .code := by
  rw [keep?, if_neg fun hmark => ?_, if_pos hquote]
  · exact keep?_scan_string hquote h
  · rw [hmark.1] at hquote
    exact absurd hquote (by decide)

/-! ### What the stripper drops -/

/-- A comment between marks is dropped. -/
theorem stripFrom_blockComment {star : Bool} {text body rest : List Char}
    (h : scan commentStep star text = some (body, rest)) :
    stripFrom (.blockComment star) text = stripFrom .code rest := by
  induction text generalizing star body with
  | nil => cases h
  | cons c text ih =>
    rw [scan, commentStep] at h
    rw [stripFrom]
    by_cases hend : (star && c = '/') = true
    · rw [if_pos hend] at h ⊢
      obtain ⟨-, rfl⟩ := Prod.mk.inj (Option.some.inj h)
      rfl
    · rw [if_neg hend] at h ⊢
      obtain ⟨⟨tail, rest'⟩, htail, heq⟩ := Option.map_eq_some_iff.1 h
      obtain ⟨-, rfl⟩ := Prod.mk.inj heq
      exact ih htail

/-- A comment to the end of the line is dropped, and what follows up to the next line feed. -/
theorem stripFrom_lineComment {body : List Char} (h : ∀ c ∈ body, isLineEnd c = false)
    (rest : List Char) : stripFrom .lineComment (body ++ rest) = stripFrom .lineComment rest := by
  induction body with
  | nil => rfl
  | cons c body ih =>
    have hc : c ≠ '\n' := by
      rintro rfl
      exact absurd (h _ List.mem_cons_self) (by decide)
    rw [List.cons_append, stripFrom, if_neg hc]
    exact ih fun d hd => h d (List.mem_cons_of_mem _ hd)

/-- A slash that begins no comment begins none in the stripped text. -/
theorem Closed.strip {text rest : List Char} (h : Closed text rest) :
    Closed text (stripFrom .code rest) := by
  intro hlast
  obtain ⟨hslash, hstar⟩ := h hlast
  cases rest with
  | nil => exact ⟨hslash, hstar⟩
  | cons c rest =>
    rw [stripFrom_code fun hc => absurd (congrArg some hc) hslash]
    exact ⟨hslash, hstar⟩

/-! ### Pieces without comments -/

/-- Puts a run before pieces; it takes in a run that goes on. -/
def joinRun (text : List Char) : List Piece → List Piece
  | .run more :: rest =>
    if more.head? = some '/' then .run text :: .run more :: rest else .run (text ++ more) :: rest
  | rest => .run text :: rest

/-- Drops a carriage return at the front. -/
def dropReturn : List Piece → List Piece
  | .space '\r' :: rest => rest
  | rest => rest

/-- Pieces without the comments; the carriage return behind a comment to the end of the line goes
with it. -/
def clean : List Piece → List Piece
  | [] => []
  | .lineComment _ :: rest => dropReturn (clean rest)
  | .blockComment _ :: rest => clean rest
  | .run text :: rest => joinRun text (clean rest)
  | piece :: rest => piece :: clean rest

/-- Whether pieces start with a line feed, if there are any; a carriage return may stand before it.
-/
def startsWithFeed : List Piece → Bool
  | [] => true
  | .space '\n' :: _ => true
  | .space '\r' :: .space '\n' :: _ => true
  | _ => false

theorem joinRun_cases (text : List Char) (pieces : List Piece) :
    leading pieces = [] ∧ joinRun text pieces = .run text :: pieces ∨
      ∃ more rest, pieces = .run more :: rest ∧ more.head? ≠ some '/' ∧ leading pieces = more ∧
        joinRun text pieces = .run (text ++ more) :: rest := by
  cases pieces with
  | nil => exact .inl ⟨rfl, rfl⟩
  | cons piece rest =>
    cases piece with
    | run more =>
      rw [leading, joinRun]
      split
      · exact .inl ⟨rfl, rfl⟩
      · next hhead => exact .inr ⟨more, rest, rfl, hhead, rfl, rfl⟩
    | _ => exact .inl ⟨rfl, rfl⟩

namespace Lexis

variable (lexis : Lexis)

/-- Whether a piece before others comes out of the stripper unharmed: a comment to the end of the
line ends at a line feed, a run does not go on behind a dropped comment with a word that joins its
last, a template and a regular expression are kept, and the slash and the flags of a regular
expression do not run on. -/
def fits : Piece → List Piece → Bool
  | .lineComment _, rest => startsWithFeed rest
  | .run text, rest =>
    lexis.cut (text ++ leading (clean rest)) ==
      lexis.cut text ++ lexis.cut (leading (clean rest))
  | .template body, _ => keep? .code (Piece.template body).text == some .code
  | .regex body flags, rest =>
    keep? .code (Piece.regex body flags).text == some .code &&
      decide (Closed (Piece.regex body flags).text (rest.flatMap Piece.text)) &&
      (leading (clean rest)).head?.all fun c => !isNamePart c
  | _, _ => true

/-- Whether all pieces come out unharmed. -/
def isTame : List Piece → Bool
  | [] => true
  | piece :: rest => lexis.fits piece rest && isTame rest

variable {lexis} {before : List Token} {text rest : List Char} {pieces : List Piece}

/-- A run is kept. -/
theorem Stands.keep?_run (h : lexis.Stands before (.run text) rest) :
    keep? .code text = some .code ∧ Closed text rest := by
  cases h with
  | run hplain _ => exact ⟨keep?_plain hplain, .of_plain hplain⟩
  | @division text rest _ hplain _ hslash hstar =>
    cases text with
    | nil => exact ⟨rfl, fun _ => ⟨hslash, hstar⟩⟩
    | cons c text =>
      refine ⟨?_, fun hlast => Closed.of_plain hplain hlast⟩
      rw [keep?, if_neg fun hmark => hmark.2.elim hslash hstar]
      exact keep?_plain hplain

/-- A run goes on with what comes close to it. -/
theorem Stands.grow (h : lexis.Stands before (.run text) rest) (more : List Char)
    {rest' : List Char}
    (hmore : ∀ c ∈ more, isPlain c = true) (hrest : ∀ c ∈ rest'.head?, isPlain c = false)
    (hclosed : Closed text (more ++ rest')) :
    lexis.Stands before (.run (text ++ more)) rest' := by
  cases h with
  | run hplain _ => exact .run (List.forall_mem_append.2 ⟨hplain, hmore⟩) hrest
  | @division text rest hopens hplain _ hslash hstar =>
    refine .division hopens (List.forall_mem_append.2 ⟨hplain, hmore⟩) hrest ?_ ?_
    · cases text with
      | nil => exact (hclosed rfl).1
      | cons c text => exact hslash
    · cases text with
      | nil => exact (hclosed rfl).2
      | cons c text => exact hstar

/-- A run without a slash at the front. -/
theorem Stands.plain (h : lexis.Stands before (.run text) rest) (hhead : text.head? ≠ some '/') :
    (∀ c ∈ text, isPlain c = true) ∧ ∀ c ∈ rest.head?, isPlain c = false := by
  cases h with
  | run hplain hrest => exact ⟨hplain, hrest⟩
  | division => exact absurd rfl hhead

theorem tokens_grow (hfits : lexis.fits (.run text) pieces = true) :
    lexis.tokens (.run (text ++ leading (clean pieces))) =
      lexis.tokens (.run text) ++ lexis.tokens (.run (leading (clean pieces))) := by
  rw [fits, beq_iff_eq] at hfits
  rw [tokens, hfits, List.map_append]
  rfl

/-- A run is kept, and takes in the run that comes close to it when a comment is dropped. -/
theorem Stands.strip_run (h : lexis.Stands before (.run text) rest)
    (hfits : lexis.fits (.run text) pieces = true)
    (hread : lexis.Reads (before ++ lexis.tokens (.run text)) (stripFrom .code rest)
      (clean pieces)) :
    lexis.Reads before (stripFrom .code (text ++ rest)) (joinRun text (clean pieces)) := by
  obtain ⟨hkeep, hbehind⟩ := h.keep?_run
  have hclosed := hbehind.strip
  rw [stripFrom_of_keep hkeep hbehind]
  have htokens := tokens_grow hfits
  rcases joinRun_cases text (clean pieces) with
    ⟨hlead, hjoin⟩ | ⟨more, tail, hclean, hslash, hlead, hjoin⟩
  -- no run follows, so the run ends where it ended
  · have hend : ∀ c ∈ (stripFrom .code rest).head?, isPlain c = false := by
      intro c hc
      rw [← Bool.not_eq_true]
      intro hplain
      have hhead := hread.head?_leading c hc hplain
      rw [hlead] at hhead
      cases hhead
    have hgrown := h.grow [] (List.forall_mem_nil _) hend hclosed
    rw [List.append_nil] at hgrown
    rw [hjoin]
    exact reads_cons_iff.2 ⟨_, rfl, hgrown, hread⟩
  · rw [hlead] at htokens
    rw [hclean] at hread
    obtain ⟨rest', htext, hstands, htail⟩ := reads_cons_iff.1 hread
    obtain ⟨hmore, hend⟩ := hstands.plain hslash
    rw [htext] at hclosed ⊢
    rw [List.append_assoc, ← htokens] at htail
    rw [hjoin]
    exact reads_cons_iff.2
      ⟨rest', (List.append_assoc _ _ _).symm, h.grow more hmore hend hclosed, htail⟩

/-- Where no words join, a run keeps its tokens before pieces that are clean. -/
theorem tokens_joinRun (hfits : lexis.fits (.run text) pieces = true) :
    (joinRun text (clean pieces)).flatMap lexis.tokens =
      lexis.tokens (.run text) ++ (clean pieces).flatMap lexis.tokens := by
  have htokens := tokens_grow hfits
  rcases joinRun_cases text (clean pieces) with ⟨-, hjoin⟩ | ⟨more, tail, hclean, -, hlead, hjoin⟩
  · rw [hjoin, List.flatMap_cons]
  · rw [hlead] at htokens
    rw [hjoin, hclean, List.flatMap_cons, List.flatMap_cons, htokens, List.append_assoc]

/-- A comment that ends at a line feed is dropped up to there. -/
theorem Reads.strip_lineComment (hfeed : startsWithFeed pieces = true)
    (hread : lexis.Reads before (stripFrom .code (pieces.flatMap Piece.text)) (clean pieces)) :
    lexis.Reads before (stripFrom .lineComment (pieces.flatMap Piece.text))
      (dropReturn (clean pieces)) := by
  unfold startsWithFeed at hfeed
  split at hfeed
  · exact .nil _
  · exact hread
  · -- The stripper takes the carriage return with the comment.
    obtain ⟨rest, htext, -, hrest⟩ := reads_cons_iff.1 hread
    obtain rfl := (List.cons.inj htext).2
    rwa [tokens, List.append_nil] at hrest
  · cases hfeed

/-- A stripped text reads as its pieces without the comments. -/
theorem Reads.strip (h : lexis.Reads before text pieces) (htame : lexis.isTame pieces = true) :
    lexis.Reads before (stripFrom .code text) (clean pieces) := by
  induction h with
  | nil => exact .nil _
  | @cons before text rest piece pieces hnext hrest ih =>
    obtain ⟨hfits, htame⟩ := Bool.and_eq_true_iff.1 htame
    obtain ⟨rfl, hstands⟩ := stands_of_next hnext
    have hread := ih htame
    -- comments are dropped, and each other piece is kept where it stands
    cases hstands with
    | @space c rest hspace =>
      have hc : c ≠ '/' := by
        rintro rfl
        exact absurd hspace (by decide)
      show lexis.Reads before (stripFrom .code (c :: rest)) _
      rw [stripFrom_code fun hslash => absurd hslash hc, isQuote_of_isSpace hspace]
      exact reads_cons_iff.2 ⟨_, rfl, .space hspace, hread⟩
    | @lineComment body rest hbody _ =>
      rw [tokens, List.append_nil] at hread
      show lexis.Reads before (stripFrom .lineComment (body ++ rest)) (dropReturn (clean pieces))
      rw [stripFrom_lineComment hbody, hrest.text_eq]
      rw [hrest.text_eq] at hread
      exact hread.strip_lineComment hfits
    | @blockComment body rest hscan =>
      rw [tokens, List.append_nil] at hread
      show lexis.Reads before (stripFrom (.blockComment false) (body ++ rest)) (clean pieces)
      rw [stripFrom_blockComment (hscan rest)]
      exact hread
    | run hplain hend => exact Stands.strip_run (.run hplain hend) hfits hread
    | division hopens hplain hend hslash hstar =>
      exact Stands.strip_run (.division hopens hplain hend hslash hstar) hfits hread
    | @string quote body rest hquote hne hscan =>
      rw [Piece.text, stripFrom_of_keep (keep?_string hquote (hscan rest))]
      · exact reads_cons_iff.2 ⟨_, rfl, .string hquote hne hscan, hread⟩
      · obtain ⟨state, c, hlast, hdone⟩ := exists_of_scan (hscan rest)
        obtain rfl := eq_of_stringStep hdone
        refine .of_getLast? hlast ?_ rest
        rintro rfl
        exact absurd hquote (by decide)
    | @template body rest hlast hmore =>
      rw [stripFrom_of_keep (beq_iff_eq.1 hfits) (.of_getLast? hlast (by decide) rest)]
      exact reads_cons_iff.2 ⟨_, rfl, .template hlast hmore, hread⟩
    | @regex body flags rest hopens hslash hstar hscan hflags hend =>
      obtain ⟨hkept, hnames⟩ := Bool.and_eq_true_iff.1 hfits
      obtain ⟨hkeep, hclosed⟩ := Bool.and_eq_true_iff.1 hkept
      rw [← hrest.text_eq] at hclosed
      rw [stripFrom_of_keep (beq_iff_eq.1 hkeep) (of_decide_eq_true hclosed)]
      refine reads_cons_iff.2 ⟨_, rfl, .regex hopens hslash hstar hscan hflags ?_, hread⟩
      -- a name part that comes close to the flags would go on them
      intro c hc
      rw [← Bool.not_eq_true]
      intro hname
      have hhead := hread.head?_leading c hc (isPlain_of_isNamePart hname)
      rw [hhead, Option.all_some, hname] at hnames
      cases hnames

theorem tokens_dropReturn (pieces : List Piece) :
    (dropReturn pieces).flatMap lexis.tokens = pieces.flatMap lexis.tokens := by
  unfold dropReturn
  split <;> rfl

/-- The tokens stay. -/
theorem tokens_clean (htame : lexis.isTame pieces = true) :
    (clean pieces).flatMap lexis.tokens = pieces.flatMap lexis.tokens := by
  induction pieces with
  | nil => rfl
  | cons piece pieces ih =>
    obtain ⟨hfits, htame⟩ := Bool.and_eq_true_iff.1 htame
    have ih := ih htame
    rw [List.flatMap_cons, ← ih]
    cases piece with
    | lineComment body => exact tokens_dropReturn (clean pieces)
    | run text => exact tokens_joinRun hfits
    | _ => rfl

/-- No piece is a comment. -/
theorem isComment_clean (pieces : List Piece) :
    ∀ piece ∈ clean pieces, piece.isComment = false := by
  induction pieces with
  | nil => exact List.forall_mem_nil _
  | cons piece pieces ih =>
    cases piece with
    | lineComment body =>
      show ∀ piece ∈ dropReturn (clean pieces), _
      unfold dropReturn
      split
      · next hclean =>
        rw [hclean] at ih
        exact (List.forall_mem_cons.1 ih).2
      · exact ih
    | blockComment body => exact ih
    | run text =>
      show ∀ piece ∈ joinRun text (clean pieces), _
      rcases joinRun_cases text (clean pieces) with ⟨-, hjoin⟩ | ⟨more, tail, hclean, -, -, hjoin⟩
      · rw [hjoin]
        exact List.forall_mem_cons.2 ⟨rfl, ih⟩
      · rw [hclean] at ih
        rw [hjoin]
        exact List.forall_mem_cons.2 ⟨rfl, (List.forall_mem_cons.1 ih).2⟩
    | _ => exact List.forall_mem_cons.2 ⟨rfl, ih⟩

variable (lexis) in
/-- A text reads as some tokens and has no comment. -/
def ReadsAs (text : List Char) (tokens : List Token) : Prop :=
  ∃ pieces, lexis.Reads [] text pieces ∧ pieces.flatMap lexis.tokens = tokens ∧
    ∀ piece ∈ pieces, piece.isComment = false

instance (text : List Char) (tokens : List Token) : Decidable (lexis.ReadsAs text tokens) :=
  decidable_of_iff (∃ pieces ∈ lexis.read? text.length [] text,
      pieces.flatMap lexis.tokens = tokens ∧ ∀ piece ∈ pieces, piece.isComment = false)
    (exists_congr fun _ => and_congr_left' reads_iff.symm)

/-- A script without its comments reads as the same tokens, if no piece of it is harmed. -/
theorem readsAs_stripScriptComments (h : lexis.Reads [] text pieces)
    (htame : lexis.isTame pieces = true) :
    lexis.ReadsAs (stripScriptComments text) (pieces.flatMap lexis.tokens) :=
  ⟨clean pieces, h.strip htame, tokens_clean htame, isComment_clean pieces⟩

/-- A script with comments of both kinds, a string, a division, a regular expression and a template.
-/
def mixed : List Piece :=
  [.run "x=".toList, .string '\x27' "it\\'s //'".toList, .run "/2;".toList, .space ' ',
    .lineComment " two".toList, .space '\r', .space '\n', .run "f".toList,
    .blockComment " three */".toList, .run "(".toList, .regex "[/]/".toList "g".toList,
    .run ",".toList, .template "//\x60".toList, .run ")".toList]

theorem readsAs_stripScriptComments_mixed :
    script.Reads [] (mixed.flatMap Piece.text) mixed ∧ script.isTame mixed = true ∧
      script.ReadsAs (stripScriptComments (mixed.flatMap Piece.text))
        (mixed.flatMap script.tokens) ∧
      stripScriptComments (mixed.flatMap Piece.text) =
        "x='it\\'s //'/2; \nf(/[/]/g,\x60//\x60)".toList := by
  have hread : script.Reads [] (mixed.flatMap Piece.text) mixed := by decide +kernel
  have htame : script.isTame mixed = true := by decide +kernel
  exact ⟨hread, htame, readsAs_stripScriptComments hread htame, by decide +kernel⟩

/-- A quote in a regular expression puts the stripper out of step, so that it cuts a string; and
names between which only a comment stood become one. -/
theorem not_readsAs_quoteInRegex :
    (let text := "x=/\x22/;y=\x22//\x22".toList
      let pieces := [.run "x=".toList, .regex "\x22/".toList [], .run ";y=".toList,
        .string '\x22' "//\x22".toList]
      script.Reads [] text pieces ∧
        ¬ script.ReadsAs (stripScriptComments text) (pieces.flatMap script.tokens)) ∧
    (let text := "a/**/b".toList
      let pieces := [.run "a".toList, .blockComment "*/".toList, .run "b".toList]
      script.Reads [] text pieces ∧
        ¬ script.ReadsAs (stripScriptComments text) (pieces.flatMap script.tokens)) := by
  decide +kernel

end Lexis

end Minipack.Source
