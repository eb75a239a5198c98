/-
The envify loader writes the values of environment variables into scripts.

A reference `process.env.NAME` becomes the value of the variable as a string literal.  Values come
from the `env` table of the options first and from the environment second; unknown names stay.
-/
import Minipack.Json.Writer
import Minipack.Loader.Basic
import Minipack.Source.References

namespace Minipack.Envify

/-- Names with values. -/
abbrev Environment := List (String × String)

/-- The value of a variable. -/
def valueOf? (environment : Environment) (options : Json) (name : String) : Option String :=
  match ((options.get? "env").bind fun env => env.get? name).bind Json.string? with
  | some value => some value
  | none => (environment.find? fun entry => entry.1 == name).map Prod.snd

/-- A part of a script with its variable replaced. -/
def inlined (environment : Environment) (options : Json) : Source.Segment Unit → List Char
  | .kept c => [c]
  | .hit hit =>
    match valueOf? environment options hit.capturedText with
    | some value => (Json.stringLiteral value).toList
    | none => hit.text

/-- A script with the values of its variables. -/
def inline (environment : Environment) (options : Json) (source : List Char) : List Char :=
  (Source.segments Source.environment none source).flatMap (inlined environment options)

/-- The loader for an environment. -/
def loader (environment : Environment) : Loader where
  name := "envify"
  transform input context :=
    match Text.decode input.content with
    | .error fault => .error (.of s!"source is not valid UTF-8: {fault.message}")
    | .ok source =>
      let code := inline environment context.options source.toList
      .ok { content := (String.ofList code).toUTF8 }

/-- The loader of a name. -/
def named? (environment : Environment) (name : String) : Option Loader :=
  if name = "envify" then some (loader environment) else none

end Minipack.Envify
