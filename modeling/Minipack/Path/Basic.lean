/-
Paths.  A path keeps the text it was written with, and is read as a list of components: the root,
the current folder (only at the very front of a relative path), parent steps and names.  Repeated
slashes, slashes at the end and inner `.` steps leave no component.

Two paths are the same when their components are, and paths are ordered by their components, so a
folder comes right before what it holds.  The text matters only when a path is shown or handed to
the disk.

Main definitions:

* `Path.components` is the view under which paths are compared;
* `Path.join`, `Path.parent?`, `Path.strip?` take paths apart and put them together, and keep the
  text that is not touched as it was written;
* `Path.fileName?`, `Path.stem?`, `Path.extension?`, `Path.withExtension` work on the last name;
* `Path.normalize` removes `.` and `..` without looking at a disk.
-/
import Minipack.Text.Quoted

namespace Minipack

/-- A step of a path. -/
inductive Component where
  /-- The slash at the front of an absolute path. -/
  | root
  /-- A `.` at the front of a relative path. -/
  | current
  /-- A `..` step. -/
  | parent
  /-- A step into the entry of that name. -/
  | name (text : String)
deriving DecidableEq, Repr

namespace Component

/-- Root before current folder before parent before names. -/
def rank : Component → Nat
  | root => 0
  | current => 1
  | parent => 2
  | name _ => 3

/-- The component as it is written. -/
def text : Component → String
  | root => "/"
  | current => "."
  | parent => ".."
  | name s => s

/-- The name, when the component is one. -/
def name? : Component → Option String
  | name s => some s
  | _ => none

/-- Components compare by rank, then by text. -/
instance : Ord Component where
  compare a b := (compare a.rank b.rank).then (compare a.text b.text)

end Component

/-- A path, known by the text it was written with. -/
structure Path where
  text : String
deriving Repr

namespace Path

/-- The pieces of a text between slashes. -/
def pieces (text : List Char) : List (List Char) :=
  text.splitOn '/'

/-- Whether a piece leaves no component: it is empty or a `.` step. -/
def isIdle (piece : List Char) : Bool :=
  piece.isEmpty || piece == ['.']

/-- The component of a piece that leaves one. -/
def componentOf (piece : List Char) : Component :=
  if piece = ['.', '.'] then .parent else .name (String.ofList piece)

/-- The components of the pieces after the front. -/
def bodyComponents (body : List (List Char)) : List Component :=
  (body.filter fun piece => !isIdle piece).map componentOf

/-- The fixed front of a path and the pieces after it. -/
def split (text : List Char) : Option Component × List (List Char) :=
  match pieces text with
  | [] => (none, [])
  | first :: rest =>
    if first.isEmpty then
      if rest.isEmpty then (none, []) else (some .root, rest)
    else if first = ['.'] then (some .current, rest)
    else (none, first :: rest)

/-- The text of a front followed by pieces. -/
def unsplit (front : Option Component) (body : List (List Char)) : Path :=
  let joined := ['/'].intercalate body
  match front with
  | some .root => ⟨String.ofList ('/' :: joined)⟩
  | some c => if body.isEmpty then ⟨c.text⟩ else ⟨String.ofList (c.text.toList ++ '/' :: joined)⟩
  | none => ⟨String.ofList joined⟩

/-- The steps of a path. -/
def components (p : Path) : List Component :=
  let (front, body) := split p.text.toList
  front.toList ++ bodyComponents body

/-- Paths with the same components are the same path. -/
instance : BEq Path where
  beq p q := p.components == q.components

/-- Paths compare as their components do. -/
instance : Ord Path where
  compare p q := compare p.components q.components

/-- Whether `p` and `q` have the same components, as a proposition. -/
def Same (p q : Path) : Prop :=
  p.components = q.components

theorem beq_iff_same {p q : Path} : (p == q) = true ↔ p.Same q :=
  show (p.components == q.components) = true ↔ p.components = q.components from beq_iff_eq

theorem same_refl (p : Path) : p.Same p := rfl

theorem Same.symm {p q : Path} (h : p.Same q) : q.Same p := Eq.symm h

theorem Same.trans {p q r : Path} (h : p.Same q) (k : q.Same r) : p.Same r := Eq.trans h k

/-- The path as messages show it. -/
def display (p : Path) : String := p.text

/-- The path as a quoted value. -/
def quoted (p : Path) : String := Text.quotePath p.text

/-- Whether the path starts at the root. -/
def isAbsolute (p : Path) : Bool :=
  p.text.toList.head? == some '/'

/-- Appends `q` to `p` with one slash between; an absolute `q` stands alone. -/
def joinText (p q : List Char) : List Char :=
  if q.head? = some '/' then q
  else if p.isEmpty || p.getLast? = some '/' then p ++ q
  else p ++ '/' :: q

/-- The path of `q` seen from `p`. -/
def join (p q : Path) : Path :=
  ⟨String.ofList (joinText p.text.toList q.text.toList)⟩

/-- The entry `name` of the folder `p`. -/
def child (p : Path) (name : String) : Path :=
  p.join ⟨name⟩

/-- The path of a list of components. -/
def ofComponents (cs : List Component) : Path :=
  cs.foldl (fun p c => p.join ⟨c.text⟩) ⟨""⟩

/-- Drops the idle pieces at the end. -/
def trimEnd (body : List (List Char)) : List (List Char) :=
  (body.reverse.dropWhile isIdle).reverse

/-- The path without its last step; none for the root and for the empty path. -/
def parent? (p : Path) : Option Path :=
  let (front, body) := split p.text.toList
  match trimEnd body with
  | [] => if front = some .current then some ⟨""⟩ else none
  | steps => some (unsplit front (trimEnd steps.dropLast))

/-- The name at the end; none when the path ends in the root or a parent step. -/
def fileName? (p : Path) : Option String :=
  p.components.getLast?.bind Component.name?

/-- Splits a name at its last dot; a dot at the front does not count. -/
def splitName (name : List Char) : List Char × Option (List Char) :=
  let after := (name.reverse.takeWhile (· != '.')).reverse
  let before := name.take (name.length - after.length - 1)
  if before.isEmpty then (name, none) else (before, some after)

/-- The last name without its extension. -/
def stem? (p : Path) : Option String :=
  p.fileName?.map fun name => String.ofList (splitName name.toList).1

/-- What follows the last dot of the last name. -/
def extension? (p : Path) : Option String :=
  p.fileName?.bind fun name => (splitName name.toList).2.map String.ofList

/-- Cuts the path off behind the stem of its last name and appends `ext` after a dot. -/
def replaceExtension (p : Path) (ext : String) : Path :=
  match p.fileName? with
  | none => p
  | some name =>
    let (front, body) := split p.text.toList
    let stem := (splitName name.toList).1
    let last := if ext.isEmpty then stem else stem ++ '.' :: ext.toList
    unsplit front ((trimEnd body).dropLast ++ [last])

/-- The path with the extension `ext` in place of its own, or with none when `ext` is empty. -/
def withExtension (p : Path) (ext : String) : Path :=
  match p.extension? with
  | none => p.replaceExtension ext
  | some old =>
    -- as many characters are dropped at the very end, even where slashes follow the name
    replaceExtension ⟨String.ofList (p.text.toList.take (p.text.length - old.length))⟩ ext

/-- The path with `name` in place of its last name. -/
def withFileName (p : Path) (name : String) : Path :=
  match p.fileName? with
  | none => p.child name
  | some _ => (p.parent?.getD p).child name

/-- Drops `n` pieces that leave a component, and the idle pieces before, between and after them. -/
def dropSteps : Nat → List (List Char) → List (List Char)
  | 0, body => body.dropWhile isIdle
  | _, [] => []
  | n + 1, piece :: rest => if isIdle piece then dropSteps (n + 1) rest else dropSteps n rest

/-- What is left of `p` below `base`; none when `p` does not lie there. -/
def strip? (p base : Path) : Option Path :=
  let steps := base.components
  if steps.isPrefixOf p.components then
    let (front, body) := split p.text.toList
    match steps.length, front with
    | 0, _ => some (unsplit front (trimEnd body))
    | n + 1, some _ => some (unsplit none (trimEnd (dropSteps n body)))
    | n + 1, none => some (unsplit none (trimEnd (dropSteps (n + 1) body)))
  else none

/-- Whether `p` is `base` or lies below it. -/
def startsWith (p base : Path) : Bool :=
  base.components.isPrefixOf p.components

/-- The parents of `p`, nearest first, at most `n` of them. -/
def parents : Nat → Path → List Path
  | 0, _ => []
  | n + 1, p =>
    match p.parent? with
    | none => []
    | some q => q :: parents n q

/-- The path and its parents, nearest first. -/
def ancestors (p : Path) : List Path :=
  p :: parents (p.components.length + 1) p

/-- Removes `.` steps and lets each `..` step cancel the name before it, on reversed components. -/
def cancel : List Component → List Component → List Component
  | done, [] => done
  | done, .current :: rest => cancel done rest
  | .name _ :: done, .parent :: rest => cancel done rest
  -- nothing lies above the root
  | [.root], .parent :: rest => cancel [.root] rest
  | done, c :: rest => cancel (c :: done) rest

/-- The components of a path without `.` steps and without `..` steps that can be cancelled. -/
def normalComponents (p : Path) : List Component :=
  (cancel [] p.components).reverse

/-- The path without `.` and `..`; a relative path may keep `..` steps at its front. -/
def normalize (p : Path) : Path :=
  let cs := p.normalComponents
  if cs.isEmpty then ⟨"."⟩ else ofComponents cs

/-- Drops what two lists share at the front. -/
def dropShared : List Component → List Component → List Component × List Component
  | a :: as, b :: bs => if a = b then dropShared as bs else (a :: as, b :: bs)
  | as, bs => (as, bs)

/-- The way from the folder `base` to `target`; relative paths are taken from the root. -/
def relativeTo (target base : Path) : Path :=
  let absolute (p : Path) : List Component := (join ⟨"/"⟩ p).normalComponents
  let (down, up) := dropShared (absolute target) (absolute base)
  ofComponents (up.map (fun _ => Component.parent) ++ down)

end Path

end Minipack
