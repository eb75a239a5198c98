/-
References of scripts.

What a script requires is looked up among the aliases first, then next to the script or as a
package, and is packed with it.  What a template script requires lies next to it and is written on
its own.
-/
import Minipack.Resolve.Lookup
import Minipack.Source.Comments

namespace Minipack.Resolve

/-! ### Aliases -/

/-- Whether a specifier matches the pattern of an alias; a faulty pattern matches nothing. -/
def matchesAlias (specifier pattern : String) : Bool :=
  match Glob.read pattern with
  | .ok glob => glob.isMatch specifier
  | .error _ => false

/-- Splits a text at its first star. -/
def splitStar? : List Char → Option (List Char × List Char)
  | [] => none
  | '*' :: rest => some ([], rest)
  | c :: rest => (splitStar? rest).map fun r => (c :: r.1, r.2)

/-- What the star of a pattern stands for in a specifier; nothing when the rest does not fit. -/
def captured (pattern specifier : List Char) : List Char :=
  match splitStar? pattern with
  | none => []
  | some (start, stop) =>
    let rest := specifier.drop start.length
    if start.isPrefixOf specifier && stop.isSuffixOf rest then rest.take (rest.length - stop.length)
    else []

/-- A candidate with a text in place of its first star. -/
def fillStar (candidate text : List Char) : List Char :=
  match splitStar? candidate with
  | none => candidate
  | some (start, stop) => start ++ text ++ stop

/-- Whether a path is a glob pattern. -/
def isGlobText (text : List Char) : Bool :=
  text.any fun c => c == '*' || c == '?' || c == '['

/-- The file that a candidate of an alias stands for. -/
def findCandidate (disk : Disk) (candidate : Path) : Option Path :=
  if isGlobText candidate.text.toList then disk.search candidate.text
  else findScript disk candidate

/-- The file that the first matching alias gives; later aliases are not asked. -/
def findAlias (config : Config) (disk : Disk) (specifier : String) : Option Path :=
  match config.aliases.find? fun entry => matchesAlias specifier entry.1 with
  | none => none
  | some (pattern, candidates) =>
    let text := captured pattern.toList specifier.toList
    candidates.findSome? fun candidate =>
      findCandidate disk
        (config.root.child (String.ofList (fillStar candidate.toList text)))

/-! ### Scripts -/

/-- The file that a script requires. -/
def findRequired (config : Config) (disk : Disk) (file : Path) (specifier : String) : Option Path :=
  match findAlias config disk specifier with
  | some target => some target
  | none =>
    if beginsWith specifier "." || beginsWith specifier "/" then
      findScript disk (locate config file specifier)
    else findPackage disk specifier (config.folderOf file)

/-- The reference to the file that a script requires. -/
def scriptReference (config : Config) (disk : Disk) (file : Path) (specifier : String) :
    Except Error Reference :=
  match findRequired config disk file specifier with
  | some target => .ok (compiledReference config file target specifier (some .bundle) "")
  | none => .error (.resolve file (.unresolvedRequire specifier))

/-- The file that a template script requires, with the extension that may be left out. -/
def findModuleScript (config : Config) (disk : Disk) (file : Path) (specifier : String) :
    Option Path :=
  let target := locate config file specifier
  if disk.isFile target then some target
  else if target.extension?.isSome then none
  else [target.withExtension "wxs"].find? disk.isFile

/-- The reference to the file that a template script requires. -/
def moduleScriptReference (config : Config) (disk : Disk) (file : Path) (specifier : String) :
    Except Error Reference :=
  match findModuleScript config disk file specifier with
  | some target => .ok (compiledReference config file target specifier (some .scatter) "")
  | none => .error (.resolve file (.unresolvedRequire specifier))

/-- Resolves all that a script without comments requires. -/
def resolveRequires (reference : String → Except Error Reference) (source : ByteArray) :
    Except Error Resolved := do
  let text := Source.stripScriptComments (← decodeSource source)
  let (text, dependencies) ← replaceReferences Source.required
    (fun hit => (reference hit.capturedText).map some) text
  return .ofText text dependencies

/-- Resolves a script. -/
def resolveScript (config : Config) (disk : Disk) (file : Path) (source : ByteArray) :
    Except Error Resolved :=
  resolveRequires (scriptReference config disk file) source

/-- Resolves a template script. -/
def resolveModuleScript (config : Config) (disk : Disk) (file : Path) (source : ByteArray) :
    Except Error Resolved :=
  resolveRequires (moduleScriptReference config disk file) source

end Minipack.Resolve
