/-
What can go wrong in a build.

Every error is a cause with what the message needs; the wording is in `Error.message` and the
functions it calls.  `Error.inspect` shows an error with the names of its parts, as a failed command
does.
-/
import Minipack.Disk.Basic
import Minipack.Glob.Basic
import Minipack.Json.Shape
import Minipack.Text.Lines

namespace Minipack

/-! ### Failures of loaders -/

/-- A failure that a loader reports, as far as the loader knows where it happened. -/
structure LoaderFailure where
  reason : String
  file : Option Path := none
  line : Option Nat := none
  column : Option Nat := none
  /-- The surroundings of the place. -/
  fragment : Option String := none

namespace LoaderFailure

/-- A failure with nothing but its reason. -/
def of (reason : String) : LoaderFailure :=
  { reason }

/-- The failure in a file. -/
def inFile (failure : LoaderFailure) (file : Path) : LoaderFailure :=
  { failure with file := some file }

/-- Up to ten characters before a column and a hundred after it, with a mark below. -/
def surroundings (text : List Char) (column : Nat) : String :=
  let start := column - 10
  let head := (text.drop start).take (column - start)
  let tail := (text.drop column).take 100
  String.ofList (head ++ ' ' :: tail ++ '\n' :: List.replicate head.length ' ' ++ ['^'])

/-- The failure at a line, counted from one, and a column of a source. -/
def located (failure : LoaderFailure) (source : String) (line column : Nat) : LoaderFailure :=
  { failure with
    line := some line
    column := some column
    fragment := (Text.lines source.toList)[line - 1]?.map fun text => surroundings text column }

/-- The failure in words. -/
def message (failure : LoaderFailure) : String :=
  let file := match failure.file with
    | some file => s!" in {file.display}"
    | none => ""
  let place := match failure.line, failure.column with
    | some line, some column => s!" ({line}:{column})"
    | _, _ => ""
  let fragment := match failure.fragment with
    | some fragment => "\n" ++ fragment
    | none => ""
  "Loader error" ++ file ++ place ++ ": " ++ failure.reason ++ fragment

/-- An optional value by its name. -/
def inspectOption : Option String → String
  | some text => s!"Some({text})"
  | none => "None"

/-- The failure with the names of its parts. -/
def inspect (failure : LoaderFailure) : String :=
  let parts := [
    "message: " ++ Text.quote failure.reason,
    "file: " ++ inspectOption (failure.file.map Path.quoted),
    "line: " ++ inspectOption (failure.line.map toString),
    "column: " ++ inspectOption (failure.column.map toString),
    "fragment: " ++ inspectOption (failure.fragment.map Text.quote)]
  "LoaderError \x7b " ++ ", ".intercalate parts ++ " \x7d"

end LoaderFailure

/-! ### Causes -/

/-- Why a disk or the system failed. -/
inductive SystemCause where
  | disk (fault : DiskFault)
  | invalidText
  | other (text : String)

/-- The cause in words. -/
def SystemCause.message : SystemCause → String
  | disk fault => fault.message
  | invalidText => "content is not valid UTF-8"
  | other text => text

/-- Why a configuration is refused. -/
inductive ConfigCause where
  | invalidPattern (pattern : String)
  /-- A rule without a pattern, shown by its parts. -/
  | emptyTest (rule : String)
  | noLoaders (test : String)
  | localPublicPath (path : String)
  | missingManifest (file : Path)
  | invalidManifest (file : Path)
  | noPages (file : Path)
  | invalidIgnore (pattern : String) (fault : GlobFault)
  | unknownLoader (name : String)
  | unknownLoaderIn (name test : String)
  | unknownPlugin (name : String)
  | cleanOptions (fault : ShapeFault)
  | noSocket
  | noIdleSocket
  | invalidProject
  /-- A cause in a project file. -/
  | inProject (file : Path) (cause : ConfigCause)
  | other (text : String)

/-- The cause in words. -/
def ConfigCause.message : ConfigCause → String
  | invalidPattern pattern => s!"invalid rule pattern /{pattern}/: regex parse error"
  | emptyTest rule => s!"rule test is not provided, please check this rule: {rule}"
  | noLoaders test => s!"rule /{test}/ has no loaders"
  | localPublicPath path =>
    s!"public path {path} is not a remote url, the mini program cannot load local static resources"
  | missingManifest file => s!"File {file.display} is not found, please ensure it is valid."
  | invalidManifest file =>
    s!"File {file.display} is invalid json, please check the json corrected."
  | noPages file => s!"No entry pages found, please check the pages field of {file.display}"
  | invalidIgnore pattern fault => s!"invalid ignore pattern {pattern}: {fault.message}"
  | unknownLoader name => s!"unknown loader {name}"
  | unknownLoaderIn name test => s!"unknown loader {name} in rule /{test}/"
  | unknownPlugin name => s!"unknown plugin {name}"
  | cleanOptions fault => s!"clean plugin: {fault.message}"
  | noSocket => "dev server has no port to listen on"
  | noIdleSocket => "no idle port found in 50000..60000"
  | invalidProject => "TOML parse error"
  | inProject file cause => s!"{file.display}: Config error: {cause.message}"
  | other text => text

/-- Why the references of a file cannot be followed. -/
inductive ResolveCause where
  | invalidJson
  | invalidManifest (fault : ShapeFault)
  | noPages
  | missingPageFolder (page : String)
  | unresolvedUrl (specifier : String)
  | missingUrl (specifier : String) (target : Path)
  | missingSource (tag required : String)
  | missingMedia (tag required : String) (target : Path)
  | unresolvedRequire (required : String)
  | other (text : String)

/-- The cause in a file, in words. -/
def ResolveCause.message (file : Path) : ResolveCause → String
  | invalidJson => s!"{file.display} is not valid json"
  | invalidManifest fault => s!"JSON Error: {fault.message}"
  | noPages => "No entry pages found, the pages field must list at least one page"
  | missingPageFolder page => s!"folder of page {page} does not exist"
  | unresolvedUrl specifier => s!"cannot resolve url({specifier})"
  | missingUrl specifier target =>
    s!"cannot resolve url({specifier}), {target.display} does not exist"
  | missingSource tag required => s!"<{tag} src=\x22{required}\x22> does not exist"
  | missingMedia tag required target =>
    s!"<{tag} src=\x22{required}\x22>, {target.display} does not exist"
  | unresolvedRequire required => s!"cannot resolve require(\x22{required}\x22)"
  | other text => text

/-! ### Errors -/

/-- What ends a build or a part of it. -/
inductive Error where
  | system (cause : SystemCause)
  | fileNotFound (file : String)
  /-- Bytes that are no text. -/
  | notText (content : ByteArray) (fault : Text.Utf8Fault)
  | json (fault : ShapeFault)
  /-- The system cannot report changes. -/
  | notify (reason : String)
  | config (cause : ConfigCause)
  | resolve (file : Path) (cause : ResolveCause)
  | loader (failure : LoaderFailure)
  | sourceMap (reason : String)
  | build (reason : String)
  | watcher (reason : String)
  /-- Something a build needs is missing. -/
  | precondition (what : String)
  | alreadyRunning
  /-- So many outputs could not be written. -/
  | flush (count : Nat) (first : Error)

namespace Error

/-- The error in words. -/
def message : Error → String
  | system cause => s!"I/O Error: {cause.message}"
  | fileNotFound file => s!"File not found: {file}"
  | notText _ fault => s!"UTF-8 Error: {fault.message}"
  | json fault => s!"JSON Error: {fault.message}"
  | notify reason => s!"Notify Error: {reason}"
  | config cause => s!"Config error: {cause.message}"
  | resolve file cause => s!"Resolve error in {file.display}: {cause.message file}"
  | loader failure => failure.message
  | sourceMap reason => s!"Source map error: {reason}"
  | build reason => s!"Build error: {reason}"
  | watcher reason => s!"Watcher error: {reason}"
  | precondition what => s!"{what} is not provided"
  | alreadyRunning => "Build is already running"
  | flush count first => s!"Write failed for {count} destination(s), first: {first.message}"

/-- Whether the error ends a watch session; others end only the current batch. -/
def isFatalInWatch : Error → Bool
  | notify _ => true
  | watcher _ => true
  | config _ => true
  | _ => false

/-- What a server answers when an error ends a request. -/
structure Response where
  status : Nat
  body : String
deriving DecidableEq, Repr

/-- A missing file is not found, and everything else is an internal error. -/
def response : Error → Response
  | system cause => ⟨500, cause.message⟩
  | fileNotFound file => ⟨404, s!"File not found: {file}"⟩
  | error => ⟨500, error.message⟩

/-- Bytes as a list of numbers. -/
def inspectBytes (content : ByteArray) : String :=
  "[" ++ ", ".intercalate (content.toList.map fun b => toString b.toNat) ++ "]"

/-- A fault of bytes with the names of its parts. -/
def inspectFault (fault : Text.Utf8Fault) : String :=
  s!"Utf8Error \x7b valid_up_to: {fault.index}, error_len: " ++
    LoaderFailure.inspectOption (fault.length.map toString) ++ " \x7d"

/-- The error with the names of its parts. -/
def inspect : Error → String
  | system cause => s!"IoError({cause.message})"
  | fileNotFound file => s!"FileNotFound({Text.quote file})"
  | notText content fault =>
    s!"Utf8Error(FromUtf8Error \x7b bytes: {inspectBytes content}, " ++
      s!"error: {inspectFault fault} \x7d)"
  | json fault => s!"JsonError(Error({Text.quote fault.message}, line: 0, column: 0))"
  | notify reason => s!"NotifyError({reason})"
  | config cause => s!"Config({Text.quote cause.message})"
  | resolve file cause =>
    s!"Resolve \x7b file: {file.quoted}, message: {Text.quote (cause.message file)} \x7d"
  | loader failure => s!"Loader({failure.inspect})"
  | sourceMap reason => s!"SourceMap({Text.quote reason})"
  | build reason => s!"Build({reason})"
  | watcher reason => s!"Watcher({Text.quote reason})"
  | precondition what => s!"Precondition({Text.quote what})"
  | alreadyRunning => "AlreadyRunning"
  | flush count first => s!"Flush \x7b count: {count}, first: {first.inspect} \x7d"

end Error

end Minipack
