/-
The help and version texts of the command.
-/
import Minipack.Command.Arguments

namespace Minipack.Command

/-- The name of the command as it is typed. -/
def commandName : String := "tessera"

/-- The name and the version of the program. -/
def versionText : String := "Tessera 0.1.0"

/-- The verbs with what they do. -/
def verbLines : List String := [
  "Commands:",
  "  build  Build the project once, or keep rebuilding with --watch",
  "  dev    Watch the project and serve static resources on the public path",
  "  help   Print this message or the help of the given subcommand(s)"]

/-- Short help for the command. -/
def shortHelp : List String := [
  "Build tool for mini programs",
  "",
  s!"Usage: {commandName} [OPTIONS] <COMMAND>",
  ""] ++ verbLines ++ [
  "",
  "Options:",
  "  -v, --verbose...  Increase log verbosity (-v debug, -vv trace)",
  "  -h, --help        Print help (see more with \x27--help\x27)",
  "  -V, --version     Print version"]

/-- Help at length for the command. -/
def longHelp : List String := [
  "Tessera: compiles, bundles and watches mini program projects",
  "",
  s!"Usage: {commandName} [OPTIONS] <COMMAND>",
  ""] ++ verbLines ++ [
  "",
  "Options:",
  "  -v, --verbose...",
  "          Increase log verbosity (-v debug, -vv trace)",
  "",
  "  -h, --help",
  "          Print help (see a summary with \x27-h\x27)",
  "",
  "  -V, --version",
  "          Print version"]

/-- What a verb does. -/
def verbSummary : Verb → String
  | .build => "Build the project once, or keep rebuilding with --watch"
  | .dev => "Watch the project and serve static resources on the public path"

/-- Help for a verb. -/
def verbHelp (verb : Verb) : List String := [
  verbSummary verb,
  "",
  s!"Usage: {commandName} {verb.name} [OPTIONS]",
  "",
  "Options:",
  "      --root <ROOT>                Project root holding project.config.json [default: .]",
  "  -c, --config <CONFIG>            Configuration file, defaults to <root>/tessera.toml",
  "  -b, --bundle                     Pack scripts into a single bundler.js",
  "      --no-source-map              Do not inline source maps",
  "      --public-path <PUBLIC_PATH>  Public base URL of static resources",
  "  -s, --silence                    Only print warnings and errors"] ++
  (if verb = .build then ["  -w, --watch                      Rebuild on file changes"]
  else []) ++ [
  "  -v, --verbose...                 Increase log verbosity (-v debug, -vv trace)",
  "  -h, --help                       Print help"]

/-- Help for help. -/
def helpHelp : List String := [
  "Print this message or the help of the given subcommand(s)",
  "",
  s!"Usage: {commandName} help [COMMAND]...",
  "",
  "Arguments:",
  "  [COMMAND]...  Print help for the subcommand(s)"]

/-- Help for a topic, line by line. -/
def helpLines : Topic → List String
  | .command false => shortHelp
  | .command true => longHelp
  | .verb verb => verbHelp verb
  | .help => helpHelp

/-- A refusal in words, line by line. -/
def Refusal.lines : Refusal → List String
  | help topic => helpLines topic
  | version => [versionText]
  | nothing => shortHelp
  | noVerb => ["error: no command is given"]
  | unknownVerb word => [s!"error: unknown command \x27{word}\x27"]
  | unknownArgument word => [s!"error: unexpected argument \x27{word}\x27"]
  | noValue option => [s!"error: option --{option} needs a value"]
  | needlessValue option => [s!"error: option --{option} takes no value"]
  | repeated option => [s!"error: option --{option} is given more than once"]

end Minipack.Command
