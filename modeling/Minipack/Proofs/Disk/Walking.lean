/-
Walks, step by step.

A walk that ends somewhere takes one step for each piece: it stays, goes up, goes on to what has the
name, or goes on behind a link; and it ends at something, or at a last name that is missing
(`Disk.EndsAt`).  Where a walk ends is told by these steps alone (`Disk.endsAt_iff`), so facts about
walks are shown for each kind of step, and none of them opens the walk again.
-/
import Minipack.Disk.Basic

namespace Minipack

/-- Whether an entry is a link. -/
def Entry.isLink : Entry → Bool
  | link _ => true
  | _ => false

namespace Disk

/-- A piece names an entry: it is neither idle nor a step back, and not too long. -/
structure IsEntry (piece : List Char) : Prop where
  busy : Path.isIdle piece = false
  forth : piece ≠ ['.', '.']
  size : Disk.size piece ≤ maxNameSize

/-- The walk over pieces from a place ends at a spot; `jump` tells how it goes on behind a link. -/
inductive EndsAt (disk : Disk) (follow : Bool)
    (jump : Place → List (List Char) → Except DiskFault Spot) (spot : Spot) :
    Place → List (List Char) → Prop
  | here {start : Place} : spot = .taken start → EndsAt disk follow jump spot start []
  | idle {start : Place} {piece : List Char} {rest : List (List Char)} :
      disk.hasFolderAt start = true → Path.isIdle piece = true →
      EndsAt disk follow jump spot start rest → EndsAt disk follow jump spot start (piece :: rest)
  | up {start : Place} {rest : List (List Char)} :
      disk.hasFolderAt start = true →
      EndsAt disk follow jump spot start.dropLast rest →
      EndsAt disk follow jump spot start (['.', '.'] :: rest)
  | free {start : Place} {piece : List Char} {rest : List (List Char)} :
      disk.hasFolderAt start = true → IsEntry piece →
      disk.entryAt? (start ++ [String.ofList piece]) = none → rest.all List.isEmpty = true →
      spot = .free (start ++ [String.ofList piece]) !rest.isEmpty →
      EndsAt disk follow jump spot start (piece :: rest)
  /-- A link at the very end, when it is not followed. -/
  | stay {start : Place} {piece : List Char} {rest : List (List Char)} {target : String} :
      disk.hasFolderAt start = true → IsEntry piece →
      disk.entryAt? (start ++ [String.ofList piece]) = some (.link target) →
      rest = [] → follow = false → spot = .taken (start ++ [String.ofList piece]) →
      EndsAt disk follow jump spot start (piece :: rest)
  | link {start : Place} {piece : List Char} {rest : List (List Char)} {target : String} :
      disk.hasFolderAt start = true → IsEntry piece →
      disk.entryAt? (start ++ [String.ofList piece]) = some (.link target) →
      (rest.isEmpty && !follow) = false →
      jump (startOf start target.toList) (Path.pieces target.toList ++ rest) = .ok spot →
      EndsAt disk follow jump spot start (piece :: rest)
  | name {start : Place} {piece : List Char} {rest : List (List Char)} {entry : Entry} :
      disk.hasFolderAt start = true → IsEntry piece →
      disk.entryAt? (start ++ [String.ofList piece]) = some entry → entry.isLink = false →
      EndsAt disk follow jump spot (start ++ [String.ofList piece]) rest →
      EndsAt disk follow jump spot start (piece :: rest)

variable {disk : Disk} {follow : Bool} {jump : Place → List (List Char) → Except DiskFault Spot}
  {spot : Spot} {start : Place} {piece : List Char} {pieces rest : List (List Char)}

/-! ### Single steps -/

theorem walkWith_of_isIdle (hfolder : disk.hasFolderAt start = true)
    (hidle : Path.isIdle piece = true) :
    disk.walkWith follow jump start (piece :: rest) = disk.walkWith follow jump start rest := by
  rw [walkWith, hfolder, Bool.not_true, if_neg Bool.false_ne_true, if_pos hidle]

theorem walkWith_up (hfolder : disk.hasFolderAt start = true) :
    disk.walkWith follow jump start (['.', '.'] :: rest) =
      disk.walkWith follow jump start.dropLast rest := by
  rw [walkWith, hfolder, Bool.not_true, if_neg Bool.false_ne_true, if_neg (by decide), if_pos rfl]

theorem walkWith_of_isEntry (hfolder : disk.hasFolderAt start = true) (hentry : IsEntry piece) :
    disk.walkWith follow jump start (piece :: rest) =
      match disk.entryAt? (start ++ [String.ofList piece]) with
      | none =>
        if rest.all List.isEmpty then .ok (.free (start ++ [String.ofList piece]) !rest.isEmpty)
        else .error .notFound
      | some (.link target) =>
        if rest.isEmpty && !follow then .ok (.taken (start ++ [String.ofList piece]))
        else jump (startOf start target.toList) (Path.pieces target.toList ++ rest)
      | some _ => disk.walkWith follow jump (start ++ [String.ofList piece]) rest := by
  rw [walkWith, hfolder, Bool.not_true, if_neg Bool.false_ne_true,
    if_neg (Bool.eq_false_iff.1 hentry.busy), if_neg hentry.forth]
  exact if_neg (Nat.not_lt.2 hentry.size)

theorem walkWith_of_entryAt? (hfolder : disk.hasFolderAt start = true) (hentry : IsEntry piece)
    {entry : Entry} (hstands : disk.entryAt? (start ++ [String.ofList piece]) = some entry)
    (hlink : entry.isLink = false) :
    disk.walkWith follow jump start (piece :: rest) =
      disk.walkWith follow jump (start ++ [String.ofList piece]) rest := by
  rw [walkWith_of_isEntry hfolder hentry, hstands]
  cases entry with
  | link target => cases hlink
  | folder => rfl
  | file content => rfl

/-- Idle pieces stay at a folder. -/
theorem walkWith_of_idle (hfolder : disk.hasFolderAt start = true)
    (hidle : ∀ piece ∈ pieces, Path.isIdle piece = true) :
    disk.walkWith follow jump start pieces = .ok (.taken start) := by
  induction pieces with
  | nil => rfl
  | cons piece rest ih =>
    obtain ⟨hpiece, hrest⟩ := List.forall_mem_cons.1 hidle
    rw [walkWith_of_isIdle hfolder hpiece, ih hrest]

/-! ### All steps -/

theorem endsAt_of_walkWith (h : disk.walkWith follow jump start pieces = .ok spot) :
    EndsAt disk follow jump spot start pieces := by
  induction pieces generalizing start with
  | nil => exact .here (Except.ok.inj h).symm
  | cons piece rest ih =>
    cases hfolder : disk.hasFolderAt start with
    | false =>
      rw [walkWith, hfolder] at h
      cases h
    | true =>
      -- each kind of piece has its constructor
      by_cases hidle : Path.isIdle piece = true
      · rw [walkWith_of_isIdle hfolder hidle] at h
        exact .idle hfolder hidle (ih h)
      by_cases hparent : piece = ['.', '.']
      · subst hparent
        rw [walkWith_up hfolder] at h
        exact .up hfolder (ih h)
      by_cases hsize : maxNameSize < size piece
      · rw [walkWith, hfolder, Bool.not_true, if_neg Bool.false_ne_true, if_neg hidle,
          if_neg hparent, if_pos hsize] at h
        cases h
      have hentry : IsEntry piece := ⟨Bool.eq_false_iff.2 hidle, hparent, Nat.le_of_not_lt hsize⟩
      cases hstands : disk.entryAt? (start ++ [String.ofList piece]) with
      | none =>
        rw [walkWith_of_isEntry hfolder hentry, hstands] at h
        dsimp only at h
        split at h
        · next hrest => exact .free hfolder hentry hstands hrest (Except.ok.inj h).symm
        · cases h
      | some entry =>
        cases hlink : entry.isLink with
        | false =>
          rw [walkWith_of_entryAt? hfolder hentry hstands hlink] at h
          exact .name hfolder hentry hstands hlink (ih h)
        | true =>
          obtain ⟨target, rfl⟩ : ∃ target, entry = .link target := by
            cases entry with
            | link target => exact ⟨target, rfl⟩
            | folder => cases hlink
            | file content => cases hlink
          rw [walkWith_of_isEntry hfolder hentry, hstands] at h
          dsimp only at h
          split at h
          · next hend =>
            rw [Bool.and_eq_true, List.isEmpty_iff, Bool.not_eq_true'] at hend
            obtain ⟨rfl, hfollow⟩ := hend
            exact .stay hfolder hentry hstands rfl hfollow (Except.ok.inj h).symm
          · next hend => exact .link hfolder hentry hstands (Bool.eq_false_iff.2 hend) h

/-- A walk ends at a spot when its steps do. -/
theorem endsAt_iff : disk.walkWith follow jump start pieces = .ok spot ↔
    EndsAt disk follow jump spot start pieces := by
  refine ⟨endsAt_of_walkWith, fun h => ?_⟩
  induction h with
  | here hspot => rw [walkWith, hspot]
  | idle hfolder hidle _ ih => rw [walkWith_of_isIdle hfolder hidle, ih]
  | up hfolder _ ih => rw [walkWith_up hfolder, ih]
  | free hfolder hentry hstands hrest hspot =>
    rw [walkWith_of_isEntry hfolder hentry, hstands, hspot]
    exact if_pos hrest
  | stay hfolder hentry hstands hrest hfollow hspot =>
    rw [walkWith_of_isEntry hfolder hentry, hstands, hspot, hrest, hfollow]
    rfl
  | link hfolder hentry hstands hend hjump =>
    rw [walkWith_of_isEntry hfolder hentry, hstands]
    dsimp only
    rw [hend, if_neg Bool.false_ne_true, hjump]
  | name hfolder hentry hstands hlink _ ih =>
    rw [walkWith_of_entryAt? hfolder hentry hstands hlink, ih]

/-- A walk with a piece ahead stands in a folder. -/
theorem EndsAt.folder (h : EndsAt disk follow jump spot start (piece :: rest)) :
    disk.hasFolderAt start = true := by
  cases h <;> assumption

end Disk

end Minipack
