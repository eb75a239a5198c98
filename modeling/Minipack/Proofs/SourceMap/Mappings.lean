/-
The mappings of a map under construction are read back.

What a token says is a place of the generated file and, when it has a source, the place of that
source it goes back to, with a name at most (`Traced`).  A token without a source has no place to go
back to: what it carries in its other fields is neither written nor read (`SourceToken.bare`).

The writer and the reader measure distances from the same things, the one from its position and the
other from its cursor, so a segment is read as the token it was written for (`segment?_segment`).
The writer puts the mappings out in one go, while the reader splits them first into lines and these
into segments.  To follow both at once, `readOn?` reads on from the middle of a line: it passes over
commas, goes to the next line at a semicolon, and takes one segment after the other
(`readOn?_mappingsFrom`, by induction on the tokens that are still to be written).
-/
import Minipack.Proofs.SourceMap.Numbers
import Minipack.SourceMap.Composite

namespace Minipack

/-! ### Tokens -/

/-- A place of a source. -/
structure Origin where
  source : String
  line : Nat
  column : Nat
  name : Option String
deriving DecidableEq

/-- A place of a generated file, and where it comes from when that is known. -/
structure Traced where
  line : Nat
  column : Nat
  origin : Option Origin
deriving DecidableEq

namespace SourceToken

/-- What a token says, by the texts of sources and names. -/
def traced (sources names : List String) (token : SourceToken) : Traced where
  line := token.line
  column := token.column
  origin := token.source.bind fun i => sources[i]?.map fun source =>
    ⟨source, token.sourceLine, token.sourceColumn, token.name.bind fun n => names[n]?⟩

/-- The token without what means nothing when it has no source. -/
def bare (token : SourceToken) : SourceToken :=
  match token.source with
  | none => ⟨token.line, token.column, 0, 0, none, none⟩
  | some _ => token

theorem traced_bare (sources names : List String) (token : SourceToken) :
    token.bare.traced sources names = token.traced sources names := by
  obtain ⟨line, column, sourceLine, sourceColumn, source, name⟩ := token
  cases source <;> rfl

/-- The numbers of a token are words of 32 bits, and its source and name are among those that there
are. -/
structure Fits (sources names : Nat) (token : SourceToken) : Prop where
  column : token.column < 2 ^ 32
  sourceLine : token.source.isSome → token.sourceLine < 2 ^ 32
  sourceColumn : token.source.isSome → token.sourceColumn < 2 ^ 32
  source : ∀ i ∈ token.source, i < sources
  name : token.source.isSome → ∀ n ∈ token.name, n < names

end SourceToken

namespace SourceMap

theorem word_of_lt {n : Nat} (h : n < 2 ^ 32) : word n = n := by
  unfold word
  omega

theorem word_lt (n : Int) : word n < 2 ^ 32 := by
  unfold word
  omega

/-- A word is reached from another by their distance. -/
theorem move_distance (a : Nat) {b : Nat} (h : b < 2 ^ 32) : move a ((b : Int) - a) = b := by
  have hsum : (a : Int) + (b - a) = b := by omega
  rw [move, hsum]
  exact word_of_lt h

end SourceMap

namespace CompositeMap

/-! ### Segments -/

/-- What the reader measures from when the writer is at a position. -/
def Position.cursor (position : Position) : SourceMap.Cursor where
  column := position.column
  source := position.source
  sourceLine := position.sourceLine
  sourceColumn := position.sourceColumn
  name := position.name

/-- All numbers of a position but the line are words of 32 bits. -/
structure Position.Fits (position : Position) : Prop where
  column : position.column < 2 ^ 32
  source : position.source < 2 ^ 32
  sourceLine : position.sourceLine < 2 ^ 32
  sourceColumn : position.sourceColumn < 2 ^ 32
  name : position.name < 2 ^ 32

theorem short_distance {a b : Nat} (ha : a < 2 ^ 32) (hb : b < 2 ^ 32) :
    Vlq.Short ((a : Int) - b) :=
  Vlq.short_of_lt (by omega)

/-- The distances that a segment consists of. -/
def distances (position : Position) (token : SourceToken) : List Int :=
  ((token.column : Int) - position.column) ::
    match token.source with
    | none => []
    | some source =>
      ((source : Int) - position.source) ::
        ((token.sourceLine : Int) - position.sourceLine) ::
        ((token.sourceColumn : Int) - position.sourceColumn) ::
        match token.name with
        | none => []
        | some name => [(name : Int) - position.name]

theorem segment_text (position : Position) (token : SourceToken) :
    (segment position token).1 = (distances position token).flatMap Vlq.encode := by
  obtain ⟨line, column, sourceLine, sourceColumn, source, name⟩ := token
  cases source with
  | none => exact (List.append_nil _).symm
  | some source => cases name <;> simp [segment, distances, distance]

section

variable {sources names : Nat} {position : Position} {token : SourceToken}

theorem fits_segment (hsources : sources ≤ 2 ^ 32) (hnames : names ≤ 2 ^ 32)
    (hposition : position.Fits) (h : token.Fits sources names) :
    (segment position token).2.Fits := by
  obtain ⟨line, column, sourceLine, sourceColumn, source, name⟩ := token
  cases source with
  | none => exact ⟨h.column, hposition.source, hposition.sourceLine, hposition.sourceColumn,
      hposition.name⟩
  | some source =>
    have hsource : source < 2 ^ 32 := Nat.lt_of_lt_of_le (h.source source rfl) hsources
    cases name with
    | none => exact ⟨h.column, hsource, h.sourceLine rfl, h.sourceColumn rfl, hposition.name⟩
    | some name => exact ⟨h.column, hsource, h.sourceLine rfl, h.sourceColumn rfl,
        Nat.lt_of_lt_of_le (h.name rfl name rfl) hnames⟩

theorem short_distances (hsources : sources ≤ 2 ^ 32) (hnames : names ≤ 2 ^ 32)
    (hposition : position.Fits) (h : token.Fits sources names) :
    ∀ n ∈ distances position token, Vlq.Short n := by
  have hnext := fits_segment hsources hnames hposition h
  obtain ⟨line, column, sourceLine, sourceColumn, source, name⟩ := token
  have hcolumn := short_distance hnext.column hposition.column
  have hsource := short_distance hnext.source hposition.source
  have hline := short_distance hnext.sourceLine hposition.sourceLine
  have hplace := short_distance hnext.sourceColumn hposition.sourceColumn
  have hname := short_distance hnext.name hposition.name
  cases source with
  | none => exact List.forall_mem_singleton.2 hcolumn
  | some source =>
    cases name with
    | none => simpa [distances] using ⟨hcolumn, hsource, hline, hplace⟩
    | some name => simpa [distances] using ⟨hcolumn, hsource, hline, hplace, hname⟩

/-- A segment is read as its token. -/
theorem segment?_distances (position : Position) (hsources : sources ≤ 2 ^ 32)
    (hnames : names ≤ 2 ^ 32) (h : token.Fits sources names) :
    ∃ read, SourceMap.segment? sources names token.line position.cursor (distances position token) =
        some ((segment position token).2.cursor, read) ∧ read.bare = token.bare := by
  obtain ⟨line, column, sourceLine, sourceColumn, source, name⟩ := token
  have hcolumn := SourceMap.move_distance position.column h.column
  cases source with
  | none =>
    refine ⟨⟨line, column, position.sourceLine, position.sourceColumn, none, none⟩, ?_, rfl⟩
    simp only [distances, SourceMap.segment?, Position.cursor, segment, hcolumn]
  | some source =>
    have hlt : source < sources := h.source source rfl
    have hsource := SourceMap.move_distance position.source (Nat.lt_of_lt_of_le hlt hsources)
    have hline := SourceMap.move_distance position.sourceLine (h.sourceLine rfl)
    have hplace := SourceMap.move_distance position.sourceColumn (h.sourceColumn rfl)
    refine ⟨⟨line, column, sourceLine, sourceColumn, some source, name⟩, ?_, rfl⟩
    cases name with
    | none =>
      simp only [distances, SourceMap.segment?, Position.cursor, segment, hcolumn, hsource, hline,
        hplace, Nat.not_le.2 hlt, if_false]
    | some name =>
      have hname := SourceMap.move_distance position.name
        (Nat.lt_of_lt_of_le (h.name rfl name rfl) hnames)
      simp only [distances, SourceMap.segment?, Position.cursor, segment, hcolumn, hsource, hline,
        hplace, hname, Nat.not_le.2 hlt, Nat.not_le.2 (h.name rfl name rfl), if_false]

/-- A segment is digits, at least one. -/
theorem ne_separator_of_mem_segment {c : Char} (h : c ∈ (segment position token).1) :
    c ≠ ',' ∧ c ≠ ';' := by
  rw [segment_text] at h
  obtain ⟨n, -, hc⟩ := List.mem_flatMap.1 h
  exact Vlq.ne_separator_of_mem_digits hc

theorem line_segment (position : Position) (token : SourceToken) :
    (segment position token).2.line = position.line := by
  obtain ⟨line, column, sourceLine, sourceColumn, source, name⟩ := token
  cases source with
  | none => rfl
  | some source => cases name <;> rfl

theorem segment_ne_nil : (segment position token).1 ≠ [] := by
  rw [segment_text, distances, List.flatMap_cons]
  exact List.append_ne_nil_of_left_ne_nil (Vlq.digits_ne_nil _) _

end

end CompositeMap

/-! ### Reading on from the middle of a line -/

namespace SourceMap

variable {sources names : Nat}

/-- Reads the rest of a line and the lines behind it, where range marks are left out. -/
def readOn? (sources names line : Nat) (cursor : Cursor) (text : List Char) :
    Option (List SourceToken) :=
  match text.splitOn ';' with
  | [] => none
  | first :: lines => do
    let (cursor, tokens) ← lineTokens? sources names line cursor (first.splitOn ',')
    return tokens ++ (← tokensFrom? sources names (line + 1) { cursor with column := 0 } [] lines)

theorem splitOn_cons_self (c : Char) (text : List Char) :
    (c :: text).splitOn c = [] :: text.splitOn c := by
  rw [List.splitOn, List.splitOnP_cons_eq_if_modifyHead, if_pos (beq_self_eq_true c)]
  rfl

theorem exists_splitOn_eq_cons (c : Char) (text : List Char) :
    ∃ first others, text.splitOn c = first :: others :=
  List.exists_cons_of_ne_nil (List.splitOnP_ne_nil _ text)

/-- What holds no separator stays at the front of the first part. -/
theorem splitOn_append {c : Char} (front : List Char) (h : ∀ d ∈ front, d ≠ c)
    {text first : List Char}
    {others : List (List Char)} (htext : text.splitOn c = first :: others) :
    (front ++ text).splitOn c = (front ++ first) :: others := by
  induction front with
  | nil => exact htext
  | cons d front ih =>
    rw [List.cons_append, List.splitOn, List.splitOnP_cons_eq_if_modifyHead,
      if_neg (by rw [beq_iff_eq]; exact h d List.mem_cons_self)]
    have hrest := ih fun e he => h e (List.mem_cons_of_mem _ he)
    rw [List.splitOn] at hrest
    rw [hrest]
    rfl

theorem comma_ne_semicolon : ∀ c ∈ [','], c ≠ ';' :=
  List.forall_mem_singleton.2 (by decide)

/-- Without range marks it makes no difference how many lines of them there are. -/
theorem tokensFrom?_of_unmarked (line : Nat) (cursor : Cursor) {ranges : List (List Char)}
    (h : ∀ marks ∈ ranges, marks = []) (lines : List (List Char)) :
    tokensFrom? sources names line cursor ranges lines =
      tokensFrom? sources names line cursor [] lines := by
  induction lines generalizing line cursor ranges with
  | nil => rfl
  | cons text lines ih =>
    have htail : ∀ marks ∈ ranges.tail, marks = [] :=
      fun marks hm => h marks (List.mem_of_mem_tail hm)
    have hhead : isRangeLine (ranges.head?.getD []) = true := by
      cases ranges with
      | nil => rfl
      | cons marks ranges =>
        rw [h marks List.mem_cons_self]
        rfl
    cases text with
    | nil => exact ih (line + 1) { cursor with column := 0 } htail
    | cons c text =>
      simp only [tokensFrom?, hhead, ih _ _ htail]
      rfl

/-- A line is read segment by segment, also when it is empty. -/
theorem tokensFrom?_cons (line : Nat) (cursor : Cursor) (first : List Char)
    (lines : List (List Char)) :
    tokensFrom? sources names line cursor [] (first :: lines) = (do
      let start := { cursor with column := 0 }
      let (cursor, tokens) ← lineTokens? sources names line start (first.splitOn ',')
      return tokens ++
        (← tokensFrom? sources names (line + 1) { cursor with column := 0 } [] lines)) := by
  cases first with
  | nil =>
    show tokensFrom? sources names (line + 1) { cursor with column := 0 } [] lines =
      (tokensFrom? sources names (line + 1) { cursor with column := 0 } [] lines).bind
        fun tokens => some ([] ++ tokens)
    exact (Option.bind_fun_some _).symm
  | cons c first => rfl

/-- Lines are read on from the beginning of the first one. -/
theorem tokensFrom?_splitOn (line : Nat) (cursor : Cursor) (text : List Char) :
    tokensFrom? sources names line cursor [] (text.splitOn ';') =
      readOn? sources names line { cursor with column := 0 } text := by
  obtain ⟨first, lines, htext⟩ := exists_splitOn_eq_cons ';' text
  rw [readOn?, htext, tokensFrom?_cons]

/-- At a semicolon the next line begins. -/
theorem readOn?_semicolon (line : Nat) (cursor : Cursor) (text : List Char) :
    readOn? sources names line cursor (';' :: text) =
      readOn? sources names (line + 1) { cursor with column := 0 } text := by
  rw [← tokensFrom?_splitOn (line + 1) { cursor with column := 0 }, readOn?, splitOn_cons_self]
  show (tokensFrom? sources names (line + 1) { cursor with column := 0 } [] (text.splitOn ';')).bind
    (fun tokens => some ([] ++ tokens)) = _
  exact Option.bind_fun_some _

/-- Commas are passed over. -/
theorem readOn?_comma (line : Nat) (cursor : Cursor) (text : List Char) :
    readOn? sources names line cursor (',' :: text) = readOn? sources names line cursor text := by
  obtain ⟨first, lines, htext⟩ := exists_splitOn_eq_cons ';' text
  have hcomma : (',' :: text).splitOn ';' = (',' :: first) :: lines :=
    splitOn_append [','] comma_ne_semicolon htext
  rw [readOn?, readOn?, hcomma, htext]
  dsimp only
  rw [splitOn_cons_self]
  rfl

/-- A segment that a separator or the end follows is read by itself. -/
theorem readOn?_segment {line : Nat} {cursor next : Cursor} {numbers : List Int}
    {token : SourceToken}
    {front text : List Char} (hne : front ≠ []) (hfront : ∀ c ∈ front, c ≠ ',' ∧ c ≠ ';')
    (htext : ∀ c ∈ text.head?, c = ',' ∨ c = ';') (hnumbers : Vlq.decode? front = some numbers)
    (htoken : segment? sources names line cursor numbers = some (next, token)) :
    readOn? sources names line cursor (front ++ text) =
      (readOn? sources names line next text).map (token :: ·) := by
  -- the rest of the line is empty or begins with a comma
  obtain ⟨first, lines, segments, hlines, hsegments⟩ : ∃ first lines segments,
      text.splitOn ';' = first :: lines ∧ first.splitOn ',' = [] :: segments := by
    cases text with
    | nil => exact ⟨[], [], [], rfl, rfl⟩
    | cons c text =>
      rcases htext c rfl with rfl | rfl
      · obtain ⟨first, lines, hrest⟩ := exists_splitOn_eq_cons ';' text
        exact ⟨',' :: first, lines, first.splitOn ',',
          splitOn_append [','] comma_ne_semicolon hrest, splitOn_cons_self ',' first⟩
      · exact ⟨[], text.splitOn ';', [], splitOn_cons_self ';' text, rfl⟩
  have hwhole := splitOn_append front (fun c hc => (hfront c hc).2) hlines
  have hparts := splitOn_append front (fun c hc => (hfront c hc).1) hsegments
  rw [readOn?, readOn?, hwhole, hlines]
  dsimp only
  rw [hparts, hsegments, List.append_nil]
  obtain ⟨c, front, rfl⟩ := List.exists_cons_of_ne_nil hne
  simp only [lineTokens?, hnumbers, htoken, Option.bind_eq_bind, Option.bind_some]
  cases lineTokens? sources names line next segments with
  | none => rfl
  | some result =>
    show (tokensFrom? _ _ _ _ _ _).bind _ = Option.map _ ((tokensFrom? _ _ _ _ _ _).bind _)
    cases tokensFrom? sources names (line + 1) { result.1 with column := 0 } [] lines <;> rfl

end SourceMap

/-! ### Reading what has been written -/

namespace CompositeMap

open SourceMap

variable {sources names : Nat}

/-- Empty lines take the reader to the line of the next token. -/
theorem readOn?_replicate (line count : Nat) (cursor : Cursor) (text : List Char) :
    readOn? sources names line cursor (List.replicate (count + 1) ';' ++ text) =
      readOn? sources names (line + (count + 1)) { cursor with column := 0 } text := by
  induction count generalizing line cursor with
  | zero => exact readOn?_semicolon line cursor text
  | succ count ih =>
    rw [List.replicate_succ, List.cons_append, readOn?_semicolon, ih]
    congr 1
    omega

/-- A token that is written next does not stand before the position. -/
def After (position : Position) (tokens : List SourceToken) : Prop :=
  (∀ token ∈ tokens, position.line ≤ token.line) ∧
    tokens.Pairwise fun a b => a.line ≤ b.line

namespace After

variable {position start : Position} {token : SourceToken} {tokens : List SourceToken}

theorem tail (h : After position (token :: tokens)) : After position tokens :=
  ⟨fun t ht => h.1 t (List.mem_cons_of_mem _ ht), (List.pairwise_cons.1 h.2).2⟩

/-- A token that is not on the line of the position is some lines below. -/
theorem exists_distance (h : After position (token :: tokens))
    (hline : token.line ≠ position.line) : ∃ count, token.line = position.line + (count + 1) := by
  have hle : position.line ≤ token.line := h.1 token List.mem_cons_self
  exact ⟨token.line - position.line - 1, by omega⟩

/-- The other tokens do not stand before the end of the segment of the first one. -/
theorem behind_segment (h : After position (token :: tokens)) (hline : start.line = token.line) :
    After (segment start token).2 tokens := by
  obtain ⟨hlines, hsorted⟩ := List.pairwise_cons.1 h.2
  refine ⟨fun t ht => ?_, hsorted⟩
  rw [line_segment, hline]
  exact hlines t ht

end After

variable {position : Position} {token : SourceToken} {tokens : List SourceToken}

/-- Behind a segment there is a separator or nothing. -/
theorem head_mappingsFrom {before : SourceToken} (h : After position tokens) :
    ∀ c ∈ (mappingsFrom position (some before) tokens).head?, c = ',' ∨ c = ';' := by
  induction tokens with
  | nil => exact nofun
  | cons token tokens ih =>
    rw [mappingsFrom]
    split
    · next hline =>
      obtain ⟨count, hcount⟩ := h.exists_distance hline
      rw [hcount, Nat.add_sub_cancel_left, List.replicate_succ]
      intro c hc
      exact .inr (Option.some.inj hc).symm
    · split
      · next hsame =>
        obtain rfl := Option.some.inj hsame
        exact ih h.tail
      · intro c hc
        exact .inl (Option.some.inj hc).symm

/-- The segment of a token is read from wherever the writer stands on its line, and then what is
written behind it. -/
theorem exists_readOn?_segment (hsources : sources ≤ 2 ^ 32) (hnames : names ≤ 2 ^ 32)
    (hfit : token.Fits sources names) {start : Position} (hstart : start.Fits)
    (h : After (segment start token).2 tokens) :
    ∃ first, first.bare = token.bare ∧
      readOn? sources names token.line start.cursor ((segment start token).1 ++
          mappingsFrom (segment start token).2 (some token) tokens) =
        (readOn? sources names token.line (segment start token).2.cursor
          (mappingsFrom (segment start token).2 (some token) tokens)).map (first :: ·) := by
  obtain ⟨first, hfirst, hbare⟩ := segment?_distances start hsources hnames hfit
  have hnumbers : Vlq.decode? (segment start token).1 = some (distances start token) := by
    rw [segment_text]
    exact Vlq.decode?_encode (List.cons_ne_nil _ _) (short_distances hsources hnames hstart hfit)
  exact ⟨first, hbare, readOn?_segment segment_ne_nil (fun c hc => ne_separator_of_mem_segment hc)
    (head_mappingsFrom h) hnumbers hfirst⟩

/-- What is written behind a position is read on behind the cursor of that position: the tokens that
are written, but for what one without a source cannot say.  A token that equals the one before is
not written again. -/
theorem readOn?_mappingsFrom (hsources : sources ≤ 2 ^ 32) (hnames : names ≤ 2 ^ 32)
    (hfits : ∀ token ∈ tokens, token.Fits sources names) (hposition : position.Fits)
    (before : Option SourceToken) (h : After position tokens) :
    ∃ read, readOn? sources names position.line position.cursor
        (mappingsFrom position before tokens) = some read ∧
      ∀ t, (t ∈ read.map SourceToken.bare ∨ t ∈ before.map SourceToken.bare) ↔
        t ∈ tokens.map SourceToken.bare ∨ t ∈ before.map SourceToken.bare := by
  induction tokens generalizing position before with
  | nil => exact ⟨[], rfl, fun t => Iff.rfl⟩
  | cons token tokens ih =>
    obtain ⟨hfit, hrest⟩ := List.forall_mem_cons.1 hfits
    -- the segment of the token, and what is written behind it
    have hsegment : ∀ start : Position, start.line = token.line → start.Fits →
        ∃ read, readOn? sources names token.line start.cursor ((segment start token).1 ++
            mappingsFrom (segment start token).2 (some token) tokens) = some read ∧
          ∀ t, t ∈ read.map SourceToken.bare ↔ t ∈ (token :: tokens).map SourceToken.bare := by
      intro start hline hstart
      have hafter := h.behind_segment hline
      obtain ⟨read, hread, hmem⟩ := ih hrest (fits_segment hsources hnames hstart hfit) (some token)
        hafter
      obtain ⟨first, hbare, hfirst⟩ := exists_readOn?_segment hsources hnames hfit hstart hafter
      rw [line_segment, hline] at hread
      refine ⟨first :: read, ?_, fun t => ?_⟩
      · rw [hfirst, hread]
        rfl
      · rw [List.map_cons, List.map_cons, List.mem_cons, List.mem_cons, hbare]
        have hiff := hmem t
        rw [Option.map_some, Option.mem_some_iff, eq_comm (a := token.bare)] at hiff
        tauto
    rw [mappingsFrom]
    split
    · next hline =>
      obtain ⟨count, hcount⟩ := h.exists_distance hline
      obtain ⟨read, hread, hmem⟩ := hsegment { position with line := token.line, column := 0 } rfl
        { hposition with column := Nat.two_pow_pos 32 }
      refine ⟨read, ?_, fun t => or_congr (hmem t) Iff.rfl⟩
      show readOn? sources names position.line position.cursor
        (List.replicate (token.line - position.line) ';' ++ _ ++ _) = _
      have hdistance : token.line - position.line = count + 1 := by omega
      rw [hdistance, List.append_assoc, readOn?_replicate, ← hcount]
      exact hread
    · next hline =>
      have hsame : position.line = token.line := (not_ne_iff.1 hline).symm
      split
      · next hrepeat =>
        -- the token has just been written
        subst hrepeat
        obtain ⟨read, hread, hmem⟩ := ih hrest hposition (some token) h.tail
        refine ⟨read, hread, fun t => (hmem t).trans ?_⟩
        rw [List.map_cons, List.mem_cons, Option.map_some, Option.mem_some_iff,
          eq_comm (a := token.bare)]
        tauto
      · obtain ⟨read, hread, hmem⟩ := hsegment position hsame hposition
        refine ⟨read, ?_, fun t => or_congr (hmem t) Iff.rfl⟩
        rw [hsame]
        cases before with
        | none => exact hread
        | some before => exact (readOn?_comma _ _ _).trans hread

end CompositeMap

end Minipack
