/-
Rules: which loaders run on which files, and which extension the result gets.

A rule applies to the files whose path matches its pattern and none of its exclusions.  Of several
rules the first that applies counts.  A loader may be bound to some kinds of chunks only.
-/
import Minipack.Json.Writer
import Minipack.Loader.Basic
import Minipack.Regex.Reader

namespace Minipack

/-- A regular expression and the text it was read from. -/
structure Pattern where
  text : String
  regex : Regex

namespace Pattern

/-- Reads a pattern. -/
def read (text : String) : Except Error Pattern :=
  match Regex.read? text with
  | some regex => .ok ⟨text, regex⟩
  | none => .error (.config (.invalidPattern text))

/-- The pattern with the name of its kind. -/
def inspect (pattern : Pattern) : String :=
  s!"Regex({Text.quote pattern.text})"

end Pattern

/-- A loader with its options. -/
structure LoaderBinding where
  loader : Loader
  options : Json := .object []
  /-- The kinds that the loader is for; without a list it is for all. -/
  kinds : Option (List ChunkKind) := none

namespace LoaderBinding

/-- Whether the loader takes part when a chunk of that kind is compiled. -/
def appliesTo (binding : LoaderBinding) (kind : ChunkKind) : Bool :=
  match binding.kinds with
  | some kinds => kinds.contains kind
  | none => true

/-- Whether the binding lists the kind. -/
def targets (binding : LoaderBinding) (kind : ChunkKind) : Bool :=
  match binding.kinds with
  | some kinds => kinds.contains kind
  | none => false

/-- The binding with the names of its parts. -/
def inspect (binding : LoaderBinding) : String :=
  let kinds := match binding.kinds with
    | some kinds => "Some([" ++ ", ".intercalate (kinds.map ChunkKind.title) ++ "])"
    | none => "None"
  s!"LoaderBinding \x7b loader: {Text.quote binding.loader.name}, " ++
    s!"options: {binding.options.inspect}, for_types: {kinds} \x7d"

end LoaderBinding

/-- Loaders for the files of a pattern. -/
structure Rule where
  test : Pattern
  extname : Option String := none
  exclude : List Pattern := []
  loaders : List LoaderBinding := []

namespace Rule

/-- Whether the rule applies to a file. -/
def applies (rule : Rule) (file : Path) : Bool :=
  rule.test.regex.isMatch file.text && !rule.exclude.any fun p => p.regex.isMatch file.text

/-- The rule with the names of its parts. -/
def inspect (rule : Rule) : String :=
  let extname := match rule.extname with
    | some extname => s!"Some({Text.quote extname})"
    | none => "None"
  let exclude := ", ".intercalate (rule.exclude.map Pattern.inspect)
  let loaders := ", ".intercalate (rule.loaders.map LoaderBinding.inspect)
  s!"Rule \x7b test: {rule.test.inspect}, extname: {extname}, " ++
    s!"exclude: [{exclude}], loaders: [{loaders}] \x7d"

/-- A rule needs a pattern that is not empty and at least one loader. -/
def validate (rule : Rule) : Except Error Unit :=
  if rule.test.text.isEmpty then .error (.config (.emptyTest rule.inspect))
  else if rule.loaders.isEmpty then .error (.config (.noLoaders rule.test.text))
  else .ok ()

/-- The first rule that applies to a file. -/
def first? (rules : List Rule) (file : Path) : Option Rule :=
  rules.find? fun rule => rule.applies file

end Rule

end Minipack
