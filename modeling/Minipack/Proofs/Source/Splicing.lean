/-
Replacing by bytes.

A pattern tells what it finds by the bytes at which a match and its groups begin and end.  Replacing
goes over the matches with a cursor behind what was replaced last (`splice`): it asks for each match
that has the group, and where a text is given it takes the slice from the cursor up to the group and
the text.  A slice may fail, where a bound lies inside of a character, behind the end or behind the
other bound.

Matches cut their text into parts (`Cuts`, `exists_cuts`), and behind each of them what is written
and what the cursor has yet to take are the same parts woven so far (`spliceFrom_eq`).  So no slice
fails, and what comes out is the text woven from its parts with what was given (`spliced_of_finds`).
Weaving hit by hit, as sources are resolved, is this replacing at the bytes of the hits
(`splice_matchesFrom`).
-/
import Minipack.Proofs.Source.Replacing

namespace Minipack.Source

/-! ### Bytes -/

/-- The number of bytes of a text. -/
def byteSize : List Char → Nat
  | [] => 0
  | c :: rest => c.utf8Size + byteSize rest

/-- A text cut behind a number of bytes; none inside of a character and behind the end. -/
def splitBytes? : Nat → List Char → Option (List Char × List Char)
  | 0, text => some ([], text)
  | _ + 1, [] => none
  | n + 1, c :: rest =>
    if c.utf8Size ≤ n + 1 then
      (splitBytes? (n + 1 - c.utf8Size) rest).map fun parts => (c :: parts.1, parts.2)
    else none

/-- What stands between two numbers of bytes of a text. -/
def slice? (text : List Char) (start stop : Nat) : Option (List Char) := do
  let (front, _) ← splitBytes? stop text
  let (_, piece) ← splitBytes? start front
  return piece

theorem byteSize_append (first second : List Char) :
    byteSize (first ++ second) = byteSize first + byteSize second := by
  induction first with
  | nil => exact (Nat.zero_add _).symm
  | cons c first ih => rw [List.cons_append, byteSize, byteSize, ih, Nat.add_assoc]

theorem byteSize_pos {text : List Char} (h : text ≠ []) : 0 < byteSize text := by
  cases text with
  | nil => exact absurd rfl h
  | cons c rest => exact Nat.add_pos_left c.utf8Size_pos _

/-- A text is cut exactly at the ends of its characters. -/
theorem splitBytes?_eq_some_iff {n : Nat} {text front back : List Char} :
    splitBytes? n text = some (front, back) ↔ text = front ++ back ∧ byteSize front = n := by
  -- a front is empty, or takes the first character as a whole
  fun_induction splitBytes? n text generalizing front back with
  | case1 text =>
    constructor
    · intro h
      obtain ⟨rfl, rfl⟩ := Prod.mk.inj (Option.some.inj h)
      exact ⟨rfl, rfl⟩
    · rintro ⟨rfl, hsize⟩
      cases front with
      | nil => rfl
      | cons c front => exact absurd hsize (Nat.ne_of_gt (byteSize_pos (List.cons_ne_nil c front)))
  | case2 n =>
    refine ⟨nofun, ?_⟩
    rintro ⟨htext, hsize⟩
    obtain ⟨rfl, -⟩ := List.append_eq_nil_iff.1 htext.symm
    cases hsize
  | case3 n c rest hc ih =>
    rw [Option.map_eq_some_iff]
    constructor
    · rintro ⟨⟨inner, outer⟩, hinner, heq⟩
      obtain ⟨rfl, rfl⟩ := Prod.mk.inj heq
      obtain ⟨rfl, hsize⟩ := ih.1 hinner
      refine ⟨rfl, ?_⟩
      rw [byteSize, hsize, Nat.add_sub_cancel' hc]
    · rintro ⟨htext, hsize⟩
      cases front with
      | nil => cases hsize
      | cons d front =>
        obtain ⟨rfl, rfl⟩ := List.cons.inj htext
        rw [byteSize] at hsize
        exact ⟨(front, back), ih.2 ⟨rfl, (Nat.sub_eq_of_eq_add' hsize.symm).symm⟩, rfl⟩
  | case4 n c rest hc =>
    refine ⟨nofun, ?_⟩
    rintro ⟨htext, hsize⟩
    cases front with
    | nil => cases hsize
    | cons d front =>
      obtain ⟨rfl, rfl⟩ := List.cons.inj htext
      rw [byteSize] at hsize
      exact absurd (Nat.le_of_add_right_le (Nat.le_of_eq hsize)) hc

/-- A slice is a piece of the text at the given bytes. -/
theorem slice?_eq_some_iff {text piece : List Char} {start stop : Nat} :
    slice? text start stop = some piece ↔ ∃ before after, text = before ++ piece ++ after ∧
      byteSize before = start ∧ byteSize (before ++ piece) = stop := by
  unfold slice?
  simp only [Option.bind_eq_bind, Option.bind_eq_some_iff, Option.pure_def, Option.some.injEq,
    Prod.exists, splitBytes?_eq_some_iff]
  constructor
  · rintro ⟨front, after, ⟨rfl, hstop⟩, before, inner, ⟨rfl, hstart⟩, rfl⟩
    exact ⟨before, after, rfl, hstart, hstop⟩
  · rintro ⟨before, after, rfl, hstart, hstop⟩
    exact ⟨before ++ piece, after, ⟨rfl, hstop⟩, before, piece, ⟨rfl, hstart⟩, rfl⟩

/-- Of two fronts of a text the one with fewer bytes is a front of the other. -/
theorem prefix_of_byteSize_le {text first second : List Char} (hfirst : first <+: text)
    (hsecond : second <+: text) (h : byteSize first ≤ byteSize second) : first <+: second := by
  obtain hprefix | ⟨more, rfl⟩ := List.prefix_or_prefix_of_prefix hfirst hsecond
  · exact hprefix
  · rw [byteSize_append] at h
    by_cases hmore : more = []
    · simp [hmore]
    · have hpos := byteSize_pos hmore
      omega

/-! ### Matches -/

/-- A stretch of a text, by the bytes before its beginning and before its end. -/
structure Span where
  start : Nat
  stop : Nat
deriving DecidableEq

/-- What a pattern finds: where it stands and where those of its groups stand that took part. -/
structure Match (τ : Type) where
  span : Span
  groups : List (Option Span)
  /-- What kind of match it is. -/
  tag : τ

namespace Match

variable {τ : Type}

/-- Where a group of a match stands; the match itself is the first of its groups. -/
def group? (found : Match τ) (group : Nat) : Option Span :=
  ((some found.span :: found.groups)[group]?).join

/-- All places that a match tells. -/
def spans (found : Match τ) : List Span :=
  found.span :: found.groups.filterMap id

theorem mem_spans_of_group? {found : Match τ} {group : Nat} {span : Span}
    (h : found.group? group = some span) : span ∈ found.spans := by
  rw [group?, Option.join_eq_some_iff] at h
  obtain heq | hmem := List.mem_cons.1 (List.mem_of_getElem? h)
  · exact Option.some.inj heq ▸ List.mem_cons_self
  · exact List.mem_cons_of_mem _ (List.mem_filterMap.2 ⟨_, hmem, rfl⟩)

end Match

/-- Whether a stretch of a text is a piece of it. -/
def Span.Marks (span : Span) (text : List Char) : Prop :=
  ∃ piece before after, text = before ++ piece ++ after ∧ byteSize before = span.start ∧
    byteSize (before ++ piece) = span.stop

instance (span : Span) (text : List Char) : Decidable (span.Marks text) :=
  decidable_of_iff ((slice? text span.start span.stop).isSome = true)
    (Option.isSome_iff_exists.trans (exists_congr fun _ => slice?_eq_some_iff))

variable {τ κ : Type}

/-- Matches as patterns find them in a text: pieces of it, from left to right and without overlap,
each with its groups inside. -/
structure Finds (text : List Char) (finds : List (Match τ)) : Prop where
  marks : ∀ found ∈ finds, ∀ span ∈ found.spans, span.Marks text
  inside : ∀ found ∈ finds, ∀ span ∈ found.spans,
    found.span.start ≤ span.start ∧ span.stop ≤ found.span.stop
  ordered : finds.Pairwise fun first second => first.span.stop ≤ second.span.start

instance (text : List Char) (finds : List (Match τ)) : Decidable (Finds text finds) :=
  decidable_of_iff ((∀ found ∈ finds, ∀ span ∈ found.spans, span.Marks text) ∧
      (∀ found ∈ finds, ∀ span ∈ found.spans,
        found.span.start ≤ span.start ∧ span.stop ≤ found.span.stop) ∧
      finds.Pairwise fun first second => first.span.stop ≤ second.span.start)
    ⟨fun ⟨hmarks, hinside, hordered⟩ => ⟨hmarks, hinside, hordered⟩,
      fun ⟨hmarks, hinside, hordered⟩ => ⟨hmarks, hinside, hordered⟩⟩

/-! ### Replacing at a cursor -/

section

variable {m : Type → Type} [Monad m]

/-- Replaces a group of matches where `replace` gives a text for it, behind what is written already.
The cursor stands behind what was replaced last, and a slice that fails ends everything. -/
def spliceFrom (text : List Char) (group : Nat) (replace : Match τ → m (Option (List Char)))
    (written : List Char) (cursor : Nat) : List (Match τ) → m (Option (List Char))
  | [] => pure ((slice? text cursor (byteSize text)).map (written ++ ·))
  | found :: rest =>
    match found.group? group with
    | none => spliceFrom text group replace written cursor rest
    | some span => do
      match ← replace found with
      | none => spliceFrom text group replace written cursor rest
      | some given =>
        match slice? text cursor span.start with
        | none => pure none
        | some kept => spliceFrom text group replace (written ++ kept ++ given) span.stop rest

/-- Replaces a group of the matches in a text; none when a slice fails. -/
def splice (text : List Char) (group : Nat) (replace : Match τ → m (Option (List Char)))
    (finds : List (Match τ)) : m (Option (List Char)) :=
  spliceFrom text group replace [] 0 finds

end

/-- How matches cut a text, of which so many bytes stand before it: each match that has the group is
a hit whose captured part is the group, and all else is kept. -/
inductive Cuts (group : Nat) : Nat → List Char → List (Match τ) → List (Segment κ) → Prop
  | nil (before : Nat) : Cuts group before [] [] []
  | kept {before text finds parts} (c : Char)
    (rest : Cuts group (before + c.utf8Size) text finds parts) :
      Cuts group before (c :: text) finds (.kept c :: parts)
  | pass {before text finds parts found} (none : Match.group? found group = none)
      (rest : Cuts group before text finds parts) : Cuts group before text (found :: finds) parts
  | hit {before text finds parts found} (hit : Hit κ)
      (whole : found.span = ⟨before, before + byteSize hit.text⟩)
      (captured : found.group? group = some ⟨before + byteSize hit.lead,
        before + byteSize (hit.lead ++ hit.captured)⟩)
      (rest : Cuts group (before + byteSize hit.text) text finds parts) :
      Cuts group before (hit.text ++ text) (found :: finds) (.hit hit :: parts)

variable {group before : Nat} {text : List Char} {finds : List (Match τ)} {parts : List (Segment κ)}

/-- The parts, joined, are the text. -/
theorem Cuts.flatMap_text (h : Cuts group before text finds parts) :
    parts.flatMap Segment.text = text := by
  induction h with
  | nil => rfl
  | kept c _ ih => exact congrArg (c :: ·) ih
  | pass _ _ ih => exact ih
  | hit hit _ _ _ ih => exact congrArg (hit.text ++ ·) ih

/-- Characters before a match are kept. -/
theorem Cuts.append (kept : List Char)
    (h : Cuts group (before + byteSize kept) text finds parts) :
    Cuts group before (kept ++ text) finds (kept.map .kept ++ parts) := by
  induction kept generalizing before with
  | nil => exact h
  | cons c kept ih =>
    rw [byteSize, ← Nat.add_assoc] at h
    exact .kept c (ih h)

/-- Where there are no more matches all characters are kept. -/
theorem cuts_map_kept (group before : Nat) (text : List Char) :
    Cuts group before text ([] : List (Match τ)) (text.map (Segment.kept (τ := κ))) := by
  induction text generalizing before with
  | nil => exact .nil before
  | cons c text ih => exact .kept c (ih _)

/-- A stretch inside of another that stands behind the done front of a text is the captured part of
a hit. -/
theorem exists_hit {whole done : List Char} {outer inner : Span} (hwhole : whole = done ++ text)
    (houter : outer.Marks whole) (hinner : inner.Marks whole) (hdone : byteSize done ≤ outer.start)
    (hstart : outer.start ≤ inner.start) (hstop : inner.stop ≤ outer.stop) :
    ∃ kept rest, ∃ hit : Hit Unit, text = kept ++ (hit.text ++ rest) ∧
      outer = ⟨byteSize (done ++ kept), byteSize (done ++ kept) + byteSize hit.text⟩ ∧
      inner = ⟨byteSize (done ++ kept) + byteSize hit.lead,
        byteSize (done ++ kept) + byteSize (hit.lead ++ hit.captured)⟩ := by
  obtain ⟨piece, front, rest, hpiece, houterStart, houterStop⟩ := houter
  obtain ⟨captured, front', rest', hcaptured, hinnerStart, hinnerStop⟩ := hinner
  -- the bounds are ends of fronts of one text, so each front goes on from the one before
  have hfront : front ++ piece <+: whole := ⟨rest, hpiece.symm⟩
  have hfront' : front' ++ captured <+: whole := ⟨rest', hcaptured.symm⟩
  obtain ⟨kept, rfl⟩ : done <+: front :=
    prefix_of_byteSize_le ⟨text, hwhole.symm⟩ ((List.prefix_append _ _).trans hfront)
      (houterStart ▸ hdone)
  obtain ⟨lead, rfl⟩ : done ++ kept <+: front' :=
    prefix_of_byteSize_le ((List.prefix_append _ _).trans hfront)
      ((List.prefix_append _ _).trans hfront') (by rw [houterStart, hinnerStart]; exact hstart)
  obtain ⟨trail, htrail⟩ : done ++ kept ++ lead ++ captured <+: done ++ kept ++ piece :=
    prefix_of_byteSize_le hfront' hfront (by rw [houterStop, hinnerStop]; exact hstop)
  have hhit : lead ++ captured ++ trail = piece := by
    rw [List.append_assoc, List.append_assoc] at htrail
    rw [List.append_assoc]
    exact List.append_cancel_left htrail
  refine ⟨kept, rest, ⟨lead, captured, trail, ()⟩, ?_, ?_, ?_⟩
  · rw [hwhole, List.append_assoc, List.append_assoc] at hpiece
    exact (List.append_cancel_left hpiece).trans (hhit ▸ rfl)
  · rw [Hit.text, hhit, ← byteSize_append, houterStart, houterStop]
  · rw [← byteSize_append, ← byteSize_append, hinnerStart, ← List.append_assoc, hinnerStop]

/-- Matches cut the text that they are found in. -/
theorem exists_cuts (group : Nat) {whole : List Char} (done : List Char)
    (hfinds : Finds whole finds)
    (hwhole : whole = done ++ text) (hdone : ∀ found ∈ finds, byteSize done ≤ found.span.start) :
    ∃ parts : List (Segment Unit), Cuts group (byteSize done) text finds parts := by
  induction finds generalizing done text with
  | nil => exact ⟨_, cuts_map_kept group _ text⟩
  | cons found finds ih =>
    obtain ⟨hordered, hpairs⟩ := List.pairwise_cons.1 hfinds.ordered
    have hrest : Finds whole finds :=
      ⟨fun other hother => hfinds.marks other (List.mem_cons_of_mem _ hother),
        fun other hother => hfinds.inside other (List.mem_cons_of_mem _ hother), hpairs⟩
    -- a match without the group is passed over and stays in the text
    cases hgroup : found.group? group with
    | none =>
      obtain ⟨parts, hparts⟩ :=
        ih done hrest hwhole fun other hother => hdone other (List.mem_cons_of_mem _ hother)
      exact ⟨parts, .pass hgroup hparts⟩
    | some span =>
      have hfound : found ∈ found :: finds := List.mem_cons_self
      have hspan : span ∈ found.spans := Match.mem_spans_of_group? hgroup
      obtain ⟨hstart, hstop⟩ := hfinds.inside found hfound span hspan
      obtain ⟨kept, rest, hit, rfl, houter, rfl⟩ := exists_hit hwhole
        (hfinds.marks found hfound found.span List.mem_cons_self)
        (hfinds.marks found hfound span hspan) (hdone found hfound) hstart hstop
      have hstop : byteSize (done ++ kept ++ hit.text) = found.span.stop := by
        rw [byteSize_append, houter]
      obtain ⟨parts, hparts⟩ := ih (done ++ kept ++ hit.text) hrest
        (by rw [hwhole, List.append_assoc, List.append_assoc])
        fun other hother => hstop ▸ hordered other hother
      rw [byteSize_append] at hparts
      have hcuts := Cuts.hit hit houter hgroup hparts
      rw [byteSize_append] at hcuts
      exact ⟨_, hcuts.append kept⟩

/-! ### Weaving at the cursor -/

theorem slice?_append (front piece back : List Char) :
    slice? (front ++ piece ++ back) (byteSize front) (byteSize (front ++ piece)) = some piece :=
  slice?_eq_some_iff.2 ⟨front, back, rfl, rfl, rfl⟩

/-- The matches that have a group. -/
def having (group : Nat) (finds : List (Match τ)) : List (Match τ) :=
  finds.filter fun found => (found.group? group).isSome

section

variable {m : Type → Type} [Monad m] [LawfulMonad m]

/-- From a cursor on, each match with the group is asked once, in order, and the parts of the text
are woven behind what is written and what stands between the cursor and them. -/
theorem spliceFrom_eq (replace : Match τ → m (Option (List Char))) {whole : List Char}
    (done pending : List Char) (hcuts : Cuts group before text finds parts)
    (hwhole : whole = done ++ pending ++ text) (hbefore : before = byteSize (done ++ pending))
    (written : List Char) :
    spliceFrom whole group replace written (byteSize done) finds =
      (fun answers => some (written ++ pending ++ weave parts answers)) <$>
        (having group finds).mapM replace := by
  induction hcuts generalizing done pending written with
  | nil before =>
    rw [List.append_nil] at hwhole
    have hslice := slice?_append done pending []
    rw [List.append_nil, ← hwhole] at hslice
    rw [spliceFrom, hslice, having, List.filter_nil, List.mapM_nil, map_pure, weave,
      List.append_nil]
    rfl
  | @kept before text finds parts c _ ih =>
    rw [ih done (pending ++ [c]) (by rw [hwhole]; simp)
      (by rw [hbefore, ← List.append_assoc, byteSize_append (done ++ pending)]; rfl)]
    simp only [weave, List.append_assoc, List.singleton_append]
  | @pass before text finds parts found hnone _ ih =>
    rw [spliceFrom, hnone, ih done pending hwhole hbefore, having, having, List.filter_cons, hnone]
    rfl
  | @hit before text finds parts found hit hspan hgroup _ ih =>
    have hasked : having group (found :: finds) = found :: having group finds := by
      rw [having, List.filter_cons, hgroup]
      rfl
    rw [spliceFrom, hgroup, hasked, List.mapM_cons]
    simp only [map_bind, bind_pure_comp, Functor.map_map, weave]
    refine bind_congr fun answer => ?_
    cases answer with
    | none =>
      -- the cursor stays, and the match is left to be taken with what follows
      rw [ih done (pending ++ hit.text)
        (by rw [hwhole]; simp only [List.append_assoc])
        (by rw [hbefore, ← List.append_assoc, byteSize_append (done ++ pending)])]
      simp only [Hit.change, List.append_assoc]
    | some given =>
      have hslice : slice? whole (byteSize done) (before + byteSize hit.lead) =
          some (pending ++ hit.lead) := by
        rw [hwhole, hbefore, ← byteSize_append, Hit.text]
        simpa only [List.append_assoc] using
          slice?_append done (pending ++ hit.lead) (hit.captured ++ hit.trail ++ text)
      have hcursor : before + byteSize (hit.lead ++ hit.captured) =
          byteSize (done ++ pending ++ hit.lead ++ hit.captured) := by
        rw [hbefore, List.append_assoc (done ++ pending), ← byteSize_append]
      dsimp only
      rw [hslice]
      dsimp only
      rw [hcursor, ih (done ++ pending ++ hit.lead ++ hit.captured) hit.trail
        (by rw [hwhole, Hit.text]; simp only [List.append_assoc])
        (by rw [hbefore, Hit.text, ← byteSize_append]; simp only [List.append_assoc])]
      simp only [Hit.change, Hit.substitute, List.append_assoc]

/-- Replacing asks once for each match with the group, in order, and weaves in what is given. -/
theorem Cuts.splice_eq (h : Cuts group 0 text finds parts)
    (replace : Match τ → m (Option (List Char))) :
    splice text group replace finds =
      (fun answers => some (weave parts answers)) <$> (having group finds).mapM replace :=
  spliceFrom_eq replace [] [] h rfl rfl []

end

/-- Where each hit is left as it is, or given its own captured part, the parts make up their text.
-/
theorem weave_of_kept {answers : List (Option (List Char))}
    (h : List.Forall₂ (fun hit answer => ∀ given ∈ answer, given = hit.captured)
      (parts.filterMap Segment.hit?) answers) :
    weave parts answers = parts.flatMap Segment.text := by
  induction parts generalizing answers with
  | nil => rfl
  | cons part parts ih =>
    cases part with
    | kept c => exact congrArg (c :: ·) (ih h)
    | hit hit =>
      cases h with
      | @cons _ answer _ answers hanswer hanswers =>
        have hchange : hit.change answer = hit.text := by
          cases answer with
          | none => rfl
          | some given =>
            rw [hanswer given rfl]
            rfl
        rw [weave, hchange, ih hanswers]
        rfl

/-! ### Hit by hit -/

/-- A hit as a match behind so many bytes; its captured part is the first group. -/
def Hit.matchBehind (before : Nat) (hit : Hit τ) : Match (Hit τ) where
  span := ⟨before, before + byteSize hit.text⟩
  groups := [some ⟨before + byteSize hit.lead, before + byteSize (hit.lead ++ hit.captured)⟩]
  tag := hit

/-- The hits among some parts as matches, where so many bytes stand before them. -/
def matchesFrom (before : Nat) : List (Segment τ) → List (Match (Hit τ))
  | [] => []
  | .kept c :: rest => matchesFrom (before + c.utf8Size) rest
  | .hit hit :: rest => hit.matchBehind before :: matchesFrom (before + byteSize hit.text) rest

theorem cuts_matchesFrom (before : Nat) (parts : List (Segment τ)) :
    Cuts 1 before (parts.flatMap Segment.text) (matchesFrom before parts) parts := by
  induction parts generalizing before with
  | nil => exact .nil before
  | cons part parts ih =>
    cases part with
    | kept c => exact .kept c (ih _)
    | hit hit => exact .hit hit rfl rfl (ih _)

theorem exists_of_mem_matchesFrom {before : Nat} {parts : List (Segment τ)} {found : Match (Hit τ)}
    (h : found ∈ matchesFrom before parts) : ∃ front hit back, parts = front ++ .hit hit :: back ∧
      found = hit.matchBehind (before + byteSize (front.flatMap Segment.text)) := by
  induction parts generalizing before with
  | nil => cases h
  | cons part parts ih =>
    cases part with
    | kept c =>
      obtain ⟨front, hit, back, rfl, rfl⟩ := ih h
      refine ⟨.kept c :: front, hit, back, rfl, ?_⟩
      rw [List.flatMap_cons, byteSize_append, ← Nat.add_assoc]
      rfl
    | hit first =>
      obtain rfl | hrest := List.mem_cons.1 h
      · exact ⟨[], first, parts, rfl, rfl⟩
      · obtain ⟨front, hit, back, rfl, rfl⟩ := ih hrest
        refine ⟨.hit first :: front, hit, back, rfl, ?_⟩
        rw [List.flatMap_cons, byteSize_append, ← Nat.add_assoc]
        rfl

theorem pairwise_matchesFrom (before : Nat) (parts : List (Segment τ)) :
    (matchesFrom before parts).Pairwise fun first second =>
      first.span.stop ≤ second.span.start := by
  induction parts generalizing before with
  | nil => exact .nil
  | cons part parts ih =>
    cases part with
    | kept c => exact ih _
    | hit first =>
      refine List.pairwise_cons.2 ⟨fun found hfound => ?_, ih _⟩
      obtain ⟨front, hit, back, -, rfl⟩ := exists_of_mem_matchesFrom hfound
      exact Nat.le_add_right _ _

/-- Hits are found as patterns find matches. -/
theorem finds_matchesFrom (parts : List (Segment τ)) :
    Finds (parts.flatMap Segment.text) (matchesFrom 0 parts) := by
  have hspans (hit : Hit τ) (before : Nat) : (hit.matchBehind before).spans =
      [⟨before, before + byteSize hit.text⟩,
        ⟨before + byteSize hit.lead, before + byteSize (hit.lead ++ hit.captured)⟩] := rfl
  refine ⟨fun found hfound => ?_, fun found hfound => ?_, ?_⟩
  · obtain ⟨front, hit, back, rfl, rfl⟩ := exists_of_mem_matchesFrom hfound
    have htext : (front ++ .hit hit :: back).flatMap Segment.text =
        front.flatMap Segment.text ++ hit.text ++ back.flatMap Segment.text := by
      rw [List.flatMap_append, List.flatMap_cons, ← List.append_assoc]
      rfl
    rw [hspans, Nat.zero_add, List.forall_mem_cons, List.forall_mem_singleton, htext]
    refine ⟨⟨hit.text, _, _, rfl, rfl, byteSize_append _ _⟩,
      ⟨hit.captured, front.flatMap Segment.text ++ hit.lead,
        hit.trail ++ back.flatMap Segment.text, ?_, byteSize_append _ _, ?_⟩⟩
    · show _ ++ (hit.lead ++ hit.captured ++ hit.trail) ++ _ = _
      simp only [List.append_assoc]
    · rw [List.append_assoc, byteSize_append]
  · obtain ⟨front, hit, back, rfl, rfl⟩ := exists_of_mem_matchesFrom hfound
    rw [hspans, List.forall_mem_cons, List.forall_mem_singleton]
    refine ⟨⟨Nat.le_refl _, Nat.le_refl _⟩, Nat.le_add_right _ _, ?_⟩
    show _ + byteSize (hit.lead ++ hit.captured) ≤
      _ + byteSize (hit.lead ++ hit.captured ++ hit.trail)
    rw [byteSize_append (hit.lead ++ hit.captured), ← Nat.add_assoc]
    exact Nat.le_add_right _ _
  · exact pairwise_matchesFrom 0 parts

/-- An answer with something to collect. -/
def collecting {ε α : Type} (answer : Except ε (Option (List Char × α))) :
    StateT (List α) (Except ε) (Option (List Char)) := do
  match ← answer with
  | none => return none
  | some (given, thing) =>
    modify (· ++ [thing])
    return some given

theorem run_collecting {ε α : Type} (answer : Except ε (Option (List Char × α)))
    (collected : List α) :
    (collecting answer).run collected = answer.map fun change =>
      (change.map Prod.fst, collected ++ (change.map Prod.snd).toList) := by
  cases answer with
  | error e => rfl
  | ok change =>
    cases change with
    | none => exact congrArg (fun things => Except.ok (none, things)) (List.append_nil _).symm
    | some given => rfl

/-- What is collected one after the other comes behind what was collected before. -/
theorem mapM_collecting {ε α β : Type} (replace : β → Except ε (Option (List Char × α)))
    (items : List β) (collected : List α) :
    (items.mapM fun item => collecting (replace item)).run collected =
      (items.mapM replace).map fun changes =>
        (changes.map (Option.map Prod.fst),
          collected ++ changes.filterMap (Option.map Prod.snd)) := by
  induction items generalizing collected with
  | nil => exact congrArg (fun things => Except.ok ([], things)) (List.append_nil _).symm
  | cons item items ih =>
    rw [List.mapM_cons, List.mapM_cons, StateT.run_bind, run_collecting]
    cases replace item with
    | error e => rfl
    | ok change =>
      have hrun := ih (collected ++ (change.map Prod.snd).toList)
      show ((items.mapM fun item => collecting (replace item)).run _).bind _ = _
      rw [hrun]
      cases items.mapM replace with
      | error e => rfl
      | ok changes =>
        have hcollected : collected ++ (change.map Prod.snd).toList ++
            changes.filterMap (Option.map Prod.snd) =
              collected ++ (change :: changes).filterMap (Option.map Prod.snd) := by
          rw [List.append_assoc]
          cases change <;> rfl
        exact congrArg (fun things => Except.ok (_, things)) hcollected

/-- All hits have their captured part. -/
theorem having_matchesFrom (before : Nat) (parts : List (Segment τ)) :
    having 1 (matchesFrom before parts) = matchesFrom before parts := by
  induction parts generalizing before with
  | nil => rfl
  | cons part parts ih =>
    cases part with
    | kept c => exact ih _
    | hit hit => exact congrArg (hit.matchBehind before :: ·) (ih _)

theorem map_tag_matchesFrom (before : Nat) (parts : List (Segment τ)) :
    (matchesFrom before parts).map Match.tag = parts.filterMap Segment.hit? := by
  induction parts generalizing before with
  | nil => rfl
  | cons part parts ih =>
    cases part with
    | kept c => exact ih _
    | hit hit => exact congrArg (hit :: ·) (ih _)

/-- Replacing hit by hit is replacing at the bytes of the hits. -/
theorem splice_matchesFrom {ε α : Type} (replace : Hit τ → Except ε (Option (List Char × α)))
    (parts : List (Segment τ)) :
    (splice (parts.flatMap Segment.text) 1 (fun found => collecting (replace found.tag))
      (matchesFrom 0 parts)).run [] =
        (replaceCaptured replace parts).map fun made => (some made.1, made.2) := by
  have hhits : (matchesFrom 0 parts).mapM (fun found => collecting (replace found.tag)) =
      (parts.filterMap Segment.hit?).mapM fun hit => collecting (replace hit) := by
    rw [← map_tag_matchesFrom 0 parts, List.mapM_map]
    rfl
  rw [(cuts_matchesFrom 0 parts).splice_eq, StateT.run_map, having_matchesFrom, hhits,
    mapM_collecting, replaceCaptured_eq]
  cases (parts.filterMap Segment.hit?).mapM replace with
  | error e => rfl
  | ok changes => rfl

/-! ### What replacing comes to -/

section

variable {σ ε α β : Type} {f : α → StateT σ (Except ε) β}

theorem mapM_run_cons_eq_ok {first : α} {rest : List α} {results : List β} {state last : σ} :
    ((first :: rest).mapM f).run state = .ok (results, last) ↔ ∃ result next more,
      (f first).run state = .ok (result, next) ∧ (rest.mapM f).run next = .ok (more, last) ∧
        results = result :: more := by
  rw [List.mapM_cons, StateT.run_bind, bind_eq_ok]
  constructor
  · rintro ⟨⟨result, next⟩, hfirst, hrest⟩
    rw [StateT.run_bind, bind_eq_ok] at hrest
    obtain ⟨⟨more, last⟩, hmore, heq⟩ := hrest
    obtain ⟨rfl, rfl⟩ := Prod.mk.inj (Except.ok.inj heq)
    exact ⟨result, next, more, hfirst, hmore, rfl⟩
  · rintro ⟨result, next, more, hfirst, hmore, rfl⟩
    refine ⟨(result, next), hfirst, ?_⟩
    rw [StateT.run_bind, bind_eq_ok]
    exact ⟨(more, last), hmore, rfl⟩

theorem mapM_run_cons_eq_error {first : α} {rest : List α} {state : σ} {error : ε} :
    ((first :: rest).mapM f).run state = .error error ↔ (f first).run state = .error error ∨
      ∃ result next, (f first).run state = .ok (result, next) ∧
        (rest.mapM f).run next = .error error := by
  rw [List.mapM_cons, StateT.run_bind, bind_eq_error]
  refine or_congr_right ⟨?_, ?_⟩
  · rintro ⟨⟨result, next⟩, hfirst, hrest⟩
    rw [StateT.run_bind, bind_eq_error] at hrest
    obtain hrest | ⟨more, -, hpure⟩ := hrest
    · exact ⟨result, next, hfirst, hrest⟩
    · cases hpure
  · rintro ⟨result, next, hfirst, hrest⟩
    refine ⟨(result, next), hfirst, ?_⟩
    rw [StateT.run_bind, bind_eq_error]
    exact Or.inl hrest

/-- Steps with a state on each item of a list fail with what the first item fails on which they
fail, once the items before it are done. -/
theorem mapM_run_eq_error {items : List α} {state : σ} {error : ε} :
    (items.mapM f).run state = .error error ↔ ∃ before a after results next,
      items = before ++ a :: after ∧ (before.mapM f).run state = .ok (results, next) ∧
        (f a).run next = .error error := by
  induction items generalizing state with
  | nil =>
    refine ⟨nofun, ?_⟩
    rintro ⟨before, a, after, -, -, heq, -⟩
    exact absurd heq.symm (List.append_ne_nil_of_right_ne_nil _ (List.cons_ne_nil _ _))
  | cons first rest ih =>
    rw [mapM_run_cons_eq_error]
    constructor
    · rintro (hfirst | ⟨result, next, hfirst, hrest⟩)
      · exact ⟨[], first, rest, [], state, rfl, rfl, hfirst⟩
      · obtain ⟨before, a, after, results, last, rfl, hbefore, ha⟩ := ih.1 hrest
        exact ⟨first :: before, a, after, result :: results, last, rfl,
          mapM_run_cons_eq_ok.2 ⟨result, next, results, hfirst, hbefore, rfl⟩, ha⟩
    · rintro ⟨before, a, after, results, last, heq, hbefore, ha⟩
      cases before with
      | nil =>
        obtain ⟨rfl, -⟩ := List.cons.inj heq
        obtain ⟨-, rfl⟩ := Prod.mk.inj (Except.ok.inj hbefore)
        exact Or.inl ha
      | cons b before =>
        obtain ⟨rfl, rfl⟩ := List.cons.inj heq
        obtain ⟨result, next, more, hfirst, hmore, -⟩ := mapM_run_cons_eq_ok.1 hbefore
        exact Or.inr ⟨result, next, hfirst, ih.2 ⟨before, a, after, more, last, rfl, hmore, ha⟩⟩

end

/-- Replacing a group of the matches in a text, with a state and errors: the matches cut the text
into parts; each match that has the group is asked once, in order, and the first error ends it; else
no slice fails and the text comes out woven from its parts with what was given in place of the
captured ones, unchanged where nothing was given but what stood there. -/
structure Splices {σ ε : Type} (text : List Char) (group : Nat) (finds : List (Match τ))
    (replace : Match τ → StateT σ (Except ε) (Option (List Char))) (parts : List (Segment Unit)) :
    Prop where
  cuts : Cuts group 0 text finds parts
  outcome : splice text group replace finds =
    (fun answers => some (weave parts answers)) <$> (having group finds).mapM replace
  fails : ∀ state error, (splice text group replace finds).run state = .error error ↔
    ∃ before found after answers state', having group finds = before ++ found :: after ∧
      (before.mapM replace).run state = .ok (answers, state') ∧
        (replace found).run state' = .error error
  unchanged : ∀ answers, List.Forall₂ (fun hit answer => ∀ given ∈ answer, given = hit.captured)
    (parts.filterMap Segment.hit?) answers → weave parts answers = text

/-- Matches that a pattern finds in a text are replaced so; the hits of a recogniser are found as
patterns find matches, and sources are replaced at their bytes. -/
theorem spliced_of_finds {σ ε : Type} (hfinds : Finds text finds) (group : Nat)
    (replace : Match τ → StateT σ (Except ε) (Option (List Char))) :
    (∃ parts, Splices text group finds replace parts) ∧
      ∀ {κ α : Type} (find : Recogniser κ), find.IsSound → ∀ (source : List Char)
        (change : Hit κ → Except ε (Option (List Char × α))),
        let parts := segments find none source
        Finds source (matchesFrom 0 parts) ∧
          (splice source 1 (fun found => collecting (change found.tag))
            (matchesFrom 0 parts)).run [] =
              (replaceCaptured change parts).map fun made => (some made.1, made.2) := by
  constructor
  · obtain ⟨parts, hcuts⟩ := exists_cuts group [] hfinds rfl fun _ _ => Nat.zero_le _
    refine ⟨parts, hcuts, hcuts.splice_eq replace, fun state error => ?_, fun answers hkept => ?_⟩
    · rw [hcuts.splice_eq, StateT.run_map, ← mapM_run_eq_error]
      exact map_eq_error
    · rw [weave_of_kept hkept, hcuts.flatMap_text]
  · intro κ α find hsound source change
    have htext := flatMap_text_segments hsound none source
    have hfinds := finds_matchesFrom (segments find none source)
    have hsplice := splice_matchesFrom change (segments find none source)
    rw [htext] at hfinds hsplice
    exact ⟨hfinds, hsplice⟩

/-- A text with a letter of two bytes, and what `src="([^"]+)"|alt` finds in it. -/
def sources : List Char := "é<a src=\x22x\x22/>alt<b src=\x22yy\x22/>".toList

def sourceMatches : List (Match Unit) :=
  [⟨⟨5, 12⟩, [some ⟨10, 11⟩], ()⟩, ⟨⟨14, 17⟩, [none], ()⟩, ⟨⟨20, 28⟩, [some ⟨25, 27⟩], ()⟩]

/-- Gives a text for the last match, and notes where each match begins that it is asked for. -/
def giveLast (found : Match Unit) : StateT (List Nat) (Except String) (Option (List Char)) := do
  modify (· ++ [found.span.start])
  return if found.span.start = 20 then some "zé".toList else none

theorem spliced_sources :
    Finds sources sourceMatches ∧ (∃ parts, Splices sources 1 sourceMatches giveLast parts) ∧
      (splice sources 1 giveLast sourceMatches).run [] =
        .ok (some "é<a src=\x22x\x22/>alt<b src=\x22zé\x22/>".toList, [5, 20]) := by
  have hfinds : Finds sources sourceMatches := by decide +kernel
  exact ⟨hfinds, (spliced_of_finds hfinds 1 giveLast).1, by decide +kernel⟩

end Minipack.Source
