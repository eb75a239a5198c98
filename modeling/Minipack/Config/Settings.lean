/-
Settings: the folders and switches of a build.

All folders are given as seen from the root.  Files below the source folder keep their way below the
folder they are written to; files of packages go to a folder of their own, by their way below the
innermost `node_modules` folder.
-/
import Minipack.Path.Specifier

namespace Minipack

/-- Folders and switches. -/
structure Settings where
  root : Path
  src : Path
  out : Path
  static : Path
  temp : Path
  /-- The address below which static files are served. -/
  publicPath : Option String := none
  host : String := "127.0.0.1"
  /-- The number of the socket on which static files are served. -/
  socket : Option Nat := none
  /-- The folder of packages in the output. -/
  npm : String := "npm"
  bundle : Bool := false
  sourceMap : Bool := true
  silence : Bool := false
  watching : Bool := false
deriving Repr

namespace Settings

/-- The default layout below a root. -/
def of (root : Path) : Settings where
  root := root
  src := root.child "src"
  out := root.child "app"
  static := root.child "static"
  temp := root.child ".temporary"

/-- The address of static files, empty when it is not settled. -/
def publicAddress (settings : Settings) : String :=
  settings.publicPath.getD ""

/-- The folder of packages in the output. -/
def npmOut (settings : Settings) : Path :=
  settings.out.child settings.npm

/-- The app descriptor. -/
def manifestFile (settings : Settings) : Path :=
  settings.src.child "app.json"

/-- The project descriptor. -/
def projectFile (settings : Settings) : Path :=
  settings.root.child "project.config.json"

/-- The folder of a file. -/
def folderOf (settings : Settings) (file : Path) : Path :=
  file.parent?.getD settings.src

/-- What follows the last `node_modules` step of a list of steps. -/
def afterPackages? : List Component → Option (List Component)
  | [] => none
  | c :: rest =>
    match afterPackages? rest with
    | some found => some found
    | none => if c = .name "node_modules" then some rest else none

/-- The way of a package file below its innermost `node_modules` folder. -/
def packageWay? (file : Path) : Option Path :=
  (afterPackages? file.components).map Path.ofComponents

/-- The place of a file below `target`, where package files go below `packages`. -/
def placeBelow (settings : Settings) (target packages file : Path) : Path :=
  match packageWay? file with
  | some way => packages.join way
  | none =>
    match file.rebase? settings.src target with
    | some path => path
    | none =>
      match file.rebase? settings.root target with
      | some path => path
      | none => target.child (file.fileName?.getD "")

/-- Where a compiled file is written, before a rule swaps its extension. -/
def outputFor (settings : Settings) (file : Path) : Path :=
  settings.placeBelow settings.out settings.npmOut file

/-- Where a resource named by its address is written. -/
def staticDestination (settings : Settings) (file : Path) : Path :=
  settings.placeBelow settings.static (settings.static.child settings.npm) file

/-- A text without the slashes at its front. -/
def dropSlashes (text : List Char) : List Char :=
  text.dropWhile (· == '/')

/-- The address of a file in the static folder. -/
def publicUrl (settings : Settings) (destination : Path) : String :=
  let way := (destination.strip? settings.static).getD destination
  let address := (dropSlashes settings.publicAddress.toList.reverse).reverse
  String.ofList (address ++ '/' :: dropSlashes way.text.toList)

end Settings

end Minipack
