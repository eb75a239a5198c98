/-
Lists kept in strictly increasing order of a key.

A collection of things, each known by a key, is a list without repetitions of a key, in the order of
the keys.  `insert` puts a new thing at its place or in place of the old thing with the same key,
`find?` looks a key up and `erase` drops it.  The list is the view: two collections with the same
things are the same list, and a listing needs no sorting.
-/

namespace Minipack.Keyed

variable {α κ : Type} [Ord κ]

/-- Puts `a` at the place of its key, in place of what has the same key. -/
def insert (key : α → κ) (a : α) : List α → List α
  | [] => [a]
  | b :: rest =>
    match compare (key a) (key b) with
    | .lt => a :: b :: rest
    | .eq => a :: rest
    | .gt => b :: insert key a rest

/-- What has the key `k`. -/
def find? (key : α → κ) (k : κ) : List α → Option α
  | [] => none
  | b :: rest =>
    match compare k (key b) with
    | .lt => none
    | .eq => some b
    | .gt => find? key k rest

/-- Drops what has the key `k`. -/
def erase (key : α → κ) (k : κ) : List α → List α
  | [] => []
  | b :: rest =>
    match compare k (key b) with
    | .lt => b :: rest
    | .eq => rest
    | .gt => b :: erase key k rest

/-- Collects the things of a list; of several with one key the last stays. -/
def ofList (key : α → κ) (things : List α) : List α :=
  things.foldl (fun collected a => insert key a collected) []

end Minipack.Keyed
