/-
Texts whose captured parts are replaced.

A recogniser that finds only what stands at the front of a text (`Recogniser.IsSound`) cuts a text
into parts of which nothing is lost (`flatMap_text_segments`).  Replacing asks once for each hit,
from left to right, and ends with the first error; else the text is woven again from its parts, with
what was given in place of the captured ones (`replaceCaptured_eq`).
-/
import Minipack.Proofs.Outcome
import Minipack.Source.Scan

namespace Minipack.Source

variable {τ : Type}

/-! ### Cutting -/

/-- Whether all hits are texts that stand where they are found. -/
def Recogniser.IsSound (find : Recogniser τ) : Prop :=
  ∀ before text hit, find before text = some hit → hit.text <+: text ∧ hit.text ≠ []

variable {find : Recogniser τ} {before : Option Char}

theorem segments_nil : segments find before [] = [] := by
  rw [segments]

theorem segments_cons_of_none {c : Char} {rest : List Char}
    (h : find before (c :: rest) = none) :
    segments find before (c :: rest) = .kept c :: segments find (some c) rest := by
  rw [segments, h]

theorem segments_append_of_hit {hit : Hit τ} {rest : List Char} (hne : hit.text ≠ [])
    (h : find before (hit.text ++ rest) = some hit) :
    segments find before (hit.text ++ rest) = .hit hit :: segments find hit.text.getLast? rest := by
  obtain ⟨c, tail, htext⟩ := List.exists_cons_of_ne_nil hne
  rw [htext] at h ⊢
  rw [List.cons_append] at h ⊢
  rw [segments, h]
  dsimp only
  rw [htext, List.length_cons, Nat.add_sub_cancel, List.drop_left]

/-- The parts of a text, joined, are the text. -/
theorem flatMap_text_segments (hsound : find.IsSound) (before : Option Char) (text : List Char) :
    (segments find before text).flatMap Segment.text = text := by
  induction hlength : text.length using Nat.strongRecOn generalizing before text with
  | ind n ih =>
    cases text with
    | nil =>
      rw [segments_nil]
      rfl
    | cons c rest =>
      cases hfind : find before (c :: rest) with
      | none =>
        rw [segments_cons_of_none hfind, List.flatMap_cons, ih rest.length _ _ _ rfl]
        · rfl
        · rw [← hlength, List.length_cons]
          exact Nat.lt_succ_self _
      | some hit =>
        obtain ⟨⟨tail, htail⟩, hne⟩ := hsound _ _ _ hfind
        rw [← htail] at hfind hlength ⊢
        rw [segments_append_of_hit hne hfind, List.flatMap_cons, ih tail.length _ _ _ rfl]
        · rfl
        · rw [← hlength, List.length_append]
          exact Nat.lt_add_of_pos_left (List.length_pos_of_ne_nil hne)

/-- The hit that a part is, if it is one. -/
def Segment.hit? : Segment τ → Option (Hit τ)
  | kept _ => none
  | hit h => some h

theorem hits_eq (find : Recogniser τ) (text : List Char) :
    hits find text = (segments find none text).filterMap Segment.hit? := rfl

/-- Each hit is found somewhere. -/
theorem exists_of_mem_segments {hit : Hit τ} {text : List Char}
    (h : .hit hit ∈ segments find before text) : ∃ before rest, find before rest = some hit := by
  induction hlength : text.length using Nat.strongRecOn generalizing before text with
  | ind n ih =>
    cases text with
    | nil =>
      rw [segments_nil] at h
      cases h
    | cons c rest =>
      rw [segments] at h
      split at h
      · obtain h | h := List.mem_cons.1 h
        · cases h
        · exact ih rest.length (hlength ▸ Nat.lt_succ_self _) h rfl
      · next other hfind =>
        obtain h | h := List.mem_cons.1 h
        · obtain rfl := Segment.hit.inj h
          exact ⟨_, _, hfind⟩
        · refine ih _ ?_ h rfl
          rw [← hlength, List.length_drop, List.length_cons]
          exact Nat.lt_succ_of_le (Nat.sub_le _ _)

theorem exists_of_mem_hits {hit : Hit τ} {text : List Char} (h : hit ∈ hits find text) :
    ∃ before rest, find before rest = some hit := by
  rw [hits_eq] at h
  obtain ⟨part, hpart, hhit⟩ := List.mem_filterMap.1 h
  cases part with
  | kept c => cases hhit
  | hit other =>
    obtain rfl := Option.some.inj hhit
    exact exists_of_mem_segments hpart

/-! ### Weaving -/

/-- A hit with another text in place of the captured part, if one is given. -/
def Hit.change (hit : Hit τ) : Option (List Char) → List Char
  | some text => hit.substitute text
  | none => hit.text

/-- The text of some parts where the hits are changed, one after the other. -/
def weave : List (Segment τ) → List (Option (List Char)) → List Char
  | [], _ => []
  | .kept c :: rest, changes => c :: weave rest changes
  | .hit hit :: rest, [] => hit.text ++ weave rest []
  | .hit hit :: rest, change :: changes => hit.change change ++ weave rest changes

/-- A part where the captured part of a hit is replaced. -/
def Segment.changed (change : Hit τ → List Char) : Segment τ → List Char
  | kept c => [c]
  | hit h => h.substitute (change h)

/-- Changes that are told for each hit can be made part by part. -/
theorem weave_map (parts : List (Segment τ)) (change : Hit τ → List Char) :
    weave parts ((parts.filterMap Segment.hit?).map fun hit => some (change hit)) =
      parts.flatMap (Segment.changed change) := by
  induction parts with
  | nil => rfl
  | cons part rest ih =>
    cases part with
    | kept c => exact congrArg (c :: ·) ih
    | hit hit => exact congrArg (hit.substitute (change hit) ++ ·) ih

/-- Replacing asks for each hit and weaves in what is given. -/
theorem replaceCaptured_eq {ε α : Type} (replace : Hit τ → Except ε (Option (List Char × α)))
    (parts : List (Segment τ)) :
    replaceCaptured replace parts =
      ((parts.filterMap Segment.hit?).mapM replace).map fun changes =>
        (weave parts (changes.map (Option.map Prod.fst)),
          changes.filterMap (Option.map Prod.snd)) := by
  induction parts with
  | nil => rfl
  | cons part rest ih =>
    cases part with
    | kept c =>
      rw [replaceCaptured, ih, List.filterMap_cons]
      dsimp only [Segment.hit?]
      cases (rest.filterMap Segment.hit?).mapM replace with
      | error e => rfl
      | ok changes => rfl
    | hit hit =>
      rw [replaceCaptured, ih, List.filterMap_cons]
      dsimp only [Segment.hit?]
      rw [List.mapM_cons]
      cases replace hit with
      | error e => rfl
      | ok change =>
        cases (rest.filterMap Segment.hit?).mapM replace with
        | error e => rfl
        | ok changes =>
          cases change with
          | none => rfl
          | some given => rfl

end Minipack.Source
