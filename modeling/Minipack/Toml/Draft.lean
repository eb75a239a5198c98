/-
Documents that are being read.

A table is stated by a header of its own, implied by a header of a table below it, or made by a
dotted key.  Each table may be stated once, dotted keys go on only with tables that dotted keys have
made, and a value that is written in place is closed.
-/
import Minipack.Toml.Basic

namespace Minipack.Toml

/-- How a table came to be. -/
inductive Origin where
  | stated
  | implied
  | dotted
deriving DecidableEq, Repr

/-- What a name stands for in a document that is being read. -/
inductive Part where
  /-- A value written in place. -/
  | value (v : Toml)
  | table (origin : Origin) (members : List (String × Part))
  /-- Tables under one header, the last one open. -/
  | tables (before : List (List (String × Part))) (last : List (String × Part))

/-- The members of a table that is being read. -/
abbrev Draft := List (String × Part)

namespace Draft

/-- What a name stands for. -/
def get? (draft : Draft) (name : String) : Option Part :=
  (Keyed.find? Prod.fst name draft).map Prod.snd

/-- Lets a name stand for something. -/
def put (draft : Draft) (name : String) (part : Part) : Draft :=
  Keyed.insert Prod.fst (name, part) draft

/-- Changes the table that a list of names leads to; tables that are missing on the way are
implied. -/
def follow? (change : Draft → Option Draft) : List String → Draft → Option Draft
  | [], draft => change draft
  | name :: path, draft =>
    match draft.get? name with
    | none => (follow? change path []).map fun members => draft.put name (.table .implied members)
    | some (.table origin members) =>
      (follow? change path members).map fun members => draft.put name (.table origin members)
    | some (.tables before last) =>
      (follow? change path last).map fun last => draft.put name (.tables before last)
    | some (.value _) => none

/-- States a table. -/
def state? (name : String) (draft : Draft) : Option Draft :=
  match draft.get? name with
  | none => some (draft.put name (.table .stated []))
  | some (.table .implied members) => some (draft.put name (.table .stated members))
  | _ => none

/-- Adds a table to those under a name. -/
def append? (name : String) (draft : Draft) : Option Draft :=
  match draft.get? name with
  | none => some (draft.put name (.tables [] []))
  | some (.tables before last) => some (draft.put name (.tables (before ++ [last]) []))
  | _ => none

/-- Gives a name that is still free a value. -/
def add? (name : String) (value : Toml) (draft : Draft) : Option Draft :=
  match draft.get? name with
  | none => some (draft.put name (.value value))
  | some _ => none

/-- Gives the name at the end of a dotted key a value. -/
def set? (value : Toml) (name : String) : List String → Draft → Option Draft
  | [], draft => draft.add? name value
  | step :: path, draft =>
    match draft.get? step with
    | none => (set? value name path []).map fun members => draft.put step (.table .dotted members)
    | some (.table origin members) =>
      -- a header's table is closed, and an implied one takes no values from here
      if origin = .stated ∨ (path.isEmpty ∧ origin ≠ .dotted) then none
      else (set? value name path members).map fun members => draft.put step (.table origin members)
    | some (.tables before last) =>
      if path.isEmpty then none
      else (set? value name path last).map fun last => draft.put step (.tables before last)
    | some (.value _) => none

end Draft

mutual

/-- The value that a part has become. -/
def ofPart : Part → Toml
  | .value v => v
  | .table _ members => table (ofMembers members)
  | .tables before last => array (ofTables before ++ [table (ofMembers last)])

/-- The members of a table. -/
def ofMembers : List (String × Part) → List (String × Toml)
  | [] => []
  | (name, part) :: rest => (name, ofPart part) :: ofMembers rest

/-- Several tables. -/
def ofTables : List (List (String × Part)) → List Toml
  | [] => []
  | members :: rest => table (ofMembers members) :: ofTables rest

end

end Minipack.Toml
