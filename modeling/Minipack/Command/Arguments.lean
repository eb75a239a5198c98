/-
The arguments of the command.

A verb says what to do, and options say how.  Options with a value take it behind an equals sign or
from the next argument; short options may share a dash.  A value is looked at only when the next
option is met or the arguments end, so a mistake behind it may be told first.
-/

namespace Minipack.Command

/-- What the command is asked to do. -/
inductive Verb where
  | build
  | dev
deriving DecidableEq, Repr

namespace Verb

/-- All verbs. -/
def all : List Verb := [build, dev]

/-- The name of a verb. -/
def name : Verb → String
  | build => "build"
  | dev => "dev"

/-- The verb of a name. -/
def ofName? (name : String) : Option Verb :=
  all.find? fun verb => verb.name == name

end Verb

/-- What help is asked for. -/
inductive Topic where
  /-- The command, in short or at length. -/
  | command (long : Bool)
  | verb (verb : Verb)
  /-- Help itself. -/
  | help
deriving DecidableEq, Repr

/-- Why the arguments do not lead to a run. -/
inductive Refusal where
  | help (topic : Topic)
  | version
  /-- There is nothing to go by. -/
  | nothing
  | noVerb
  | unknownVerb (word : String)
  | unknownArgument (word : String)
  /-- An option lacks its value. -/
  | noValue (option : String)
  /-- An option has a value that it does not take. -/
  | needlessValue (option : String)
  | repeated (option : String)
deriving DecidableEq, Repr

/-- The code with which the command ends: help and version were asked for, all else is a mistake. -/
def Refusal.exitCode : Refusal → Nat
  | help _ => 0
  | version => 0
  | _ => 2

/-! ### Options -/

/-- An option without a value. -/
inductive Flag where
  | bundle
  | noSourceMap
  | silence
  | watch
  | verbose
  | help
  | version
deriving DecidableEq, Repr

/-- An option with a value. -/
inductive Setting where
  | root
  | config
  | publicPath
deriving DecidableEq, Repr

/-- An option of either sort. -/
inductive Choice where
  | flag (flag : Flag)
  | setting (setting : Setting)

/-- An option with its names, and where it may stand: in front of the verb, and behind which
verbs. -/
structure Declared where
  long : String
  short : Option Char
  choice : Choice
  atFront : Bool
  verbs : List Verb

/-- All options. -/
def declared : List Declared := [
  ⟨"root", none, .setting .root, false, [.build, .dev]⟩,
  ⟨"config", some 'c', .setting .config, false, [.build, .dev]⟩,
  ⟨"bundle", some 'b', .flag .bundle, false, [.build, .dev]⟩,
  ⟨"no-source-map", none, .flag .noSourceMap, false, [.build, .dev]⟩,
  ⟨"public-path", none, .setting .publicPath, false, [.build, .dev]⟩,
  ⟨"silence", some 's', .flag .silence, false, [.build, .dev]⟩,
  ⟨"watch", some 'w', .flag .watch, false, [.build]⟩,
  ⟨"verbose", some 'v', .flag .verbose, true, [.build, .dev]⟩,
  ⟨"help", some 'h', .flag .help, true, [.build, .dev]⟩,
  ⟨"version", some 'V', .flag .version, true, []⟩]

/-- The options that may stand in front of the verb, or behind a given one. -/
def optionsAt (verb : Option Verb) : List Declared :=
  declared.filter fun d =>
    match verb with
    | none => d.atFront
    | some verb => d.verbs.contains verb

/-! ### Reading -/

/-- What has been read behind a verb or in front of it. -/
structure Reading where
  flags : List Flag := []
  verbosity : Nat := 0
  values : List (Setting × String) := []
  /-- An option whose value has not been looked at; without a value it waits for one. -/
  pending : Option (Setting × Option String) := none

namespace Reading

/-- The value of an option. -/
def value? (reading : Reading) (setting : Setting) : Option String :=
  (reading.values.find? fun entry => entry.1 = setting).map Prod.snd

/-- The name of an option with a value. -/
def nameOf : Setting → String
  | .root => "root"
  | .config => "config"
  | .publicPath => "public-path"

/-- Takes the value of an option; a path must not be empty. -/
def store (reading : Reading) (setting : Setting) (value : String) : Except Refusal Reading :=
  if (reading.value? setting).isSome then .error (.repeated (nameOf setting))
  else if value.isEmpty && setting != .publicPath then .error (.noValue (nameOf setting))
  else .ok { reading with values := reading.values ++ [(setting, value)] }

/-- Looks at the value that is pending. -/
def settle (reading : Reading) : Except Refusal Reading :=
  match reading.pending with
  | none => .ok reading
  | some (setting, none) => .error (.noValue (nameOf setting))
  | some (setting, some value) => { reading with pending := none }.store setting value

/-- Whether an option waits for its value. -/
def isWaiting (reading : Reading) : Bool :=
  match reading.pending with
  | some (_, none) => true
  | _ => false

/-- What help is asked for behind a verb or in front of it. -/
def topicAt (verb : Option Verb) (long : Bool) : Topic :=
  match verb with
  | none => .command long
  | some verb => .verb verb

/-- Takes an option without a value. -/
def raise (reading : Reading) (verb : Option Verb) (option : Declared) (flag : Flag) (long : Bool) :
    Except Refusal Reading := do
  let reading ← reading.settle
  match flag with
  | .help => .error (.help (topicAt verb long))
  | .version => .error .version
  | .verbose => .ok { reading with verbosity := min (reading.verbosity + 1) 255 }
  | flag =>
    if reading.flags.contains flag then .error (.repeated option.long)
    else .ok { reading with flags := reading.flags ++ [flag] }

/-- Takes an option with a value, which may be given at once. -/
def begin (reading : Reading) (setting : Setting) (value : Option String) :
    Except Refusal Reading := do
  let reading ← reading.settle
  match value with
  | some value => reading.store setting value
  | none => .ok { reading with pending := some (setting, none) }

/-- Reads an option by its long name, after the dashes. -/
def readLong (reading : Reading) (verb : Option Verb) (text : List Char) : Except Refusal Reading :=
  let name := String.ofList (text.takeWhile (· != '='))
  let value := match text.dropWhile (· != '=') with
    | [] => none
    | _ :: value => some (String.ofList value)
  match (optionsAt verb).find? fun option => option.long == name with
  | none => .error (.unknownArgument ("--" ++ name))
  | some option =>
    match option.choice with
    | .setting setting => reading.begin setting value
    | .flag flag =>
      if value.isSome then .error (.needlessValue option.long)
      else reading.raise verb option flag true

/-- Reads options by their short names, after the dash. -/
def readShort (reading : Reading) (verb : Option Verb) : List Char → Except Refusal Reading
  | [] => .ok reading
  | c :: rest =>
    match (optionsAt verb).find? fun option => option.short == some c with
    | none => .error (.unknownArgument ("-" ++ String.singleton c))
    | some option =>
      match option.choice with
      | .flag flag => do
        let reading ← reading.raise verb option flag false
        reading.readShort verb rest
      | .setting setting =>
        match rest with
        | [] => reading.begin setting none
        | '=' :: value => reading.begin setting (some (String.ofList value))
        | value => reading.begin setting (some (String.ofList value))

/-- Reads one argument that is no verb; none when it is no option and no value. -/
def readOne? (reading : Reading) (verb : Option Verb) (argument : String) :
    Option (Except Refusal Reading) :=
  match argument.toList with
  | '-' :: '-' :: text => some (reading.readLong verb text)
  | '-' :: c :: text => some (reading.readShort verb (c :: text))
  | _ =>
    match reading.pending with
    | some (setting, none) => some (.ok { reading with pending := some (setting, some argument) })
    | _ => none

/-- Reads the arguments behind a verb. -/
def readBehind (verb : Verb) (reading : Reading) : List String → Except Refusal Reading
  | [] => reading.settle
  -- behind two dashes everything is a plain word, and no verb takes one
  | "--" :: word :: _ => .error (.unknownArgument word)
  | "--" :: [] => reading.settle
  | argument :: rest =>
    match reading.readOne? (some verb) argument with
    | some (.ok reading) => readBehind verb reading rest
    | some (.error refusal) => .error refusal
    | none => .error (.unknownArgument argument)

end Reading

/-! ### The whole line -/

/-- What the command is to do, and how. -/
structure Options where
  verb : Verb
  /-- Whether changes are followed. -/
  watch : Bool
  verbosity : Nat
  root : String
  config : Option String
  bundle : Bool
  noSourceMap : Bool
  publicPath : Option String
  silence : Bool
deriving DecidableEq, Repr

namespace Options

/-- The options that were read behind a verb; a verbosity in front of it counts when none is
behind. -/
def ofReading (verb : Verb) (front behind : Reading) : Options where
  verb := verb
  watch := verb == .dev || behind.flags.contains .watch
  verbosity := if behind.verbosity = 0 then front.verbosity else behind.verbosity
  root := (behind.value? .root).getD "."
  config := behind.value? .config
  bundle := behind.flags.contains .bundle
  noSourceMap := behind.flags.contains .noSourceMap
  publicPath := behind.value? .publicPath
  silence := behind.flags.contains .silence

end Options

/-- The help that a list of words asks for. -/
def topicOf : List String → Refusal
  | [] => .help (.command true)
  | word :: rest =>
    match Verb.ofName? word, rest with
    | some verb, [] => .help (.verb verb)
    | some _, next :: _ => .unknownVerb next
    | none, [] => if word = "help" then .help .help else .unknownVerb word
    | none, next :: _ => if word = "help" then .unknownVerb next else .unknownVerb word

/-- A word that stands behind two dashes in front of any verb. -/
def misplaced (word : String) : Refusal :=
  if (Verb.ofName? word).isSome || word == "help" then .unknownArgument word else .unknownVerb word

/-- The refusal when no verb was given. -/
def withoutVerb (front : Reading) : Refusal :=
  if front.verbosity = 0 then .nothing else .noVerb

/-- Reads arguments up to the verb, and then those behind it. -/
def readFront (front : Reading) : List String → Except Refusal Options
  | [] => .error (withoutVerb front)
  | "help" :: rest => .error (topicOf rest)
  | "--" :: word :: _ => .error (misplaced word)
  | "--" :: [] => .error (withoutVerb front)
  | argument :: rest =>
    match Verb.ofName? argument with
    | some verb => (Reading.readBehind verb {} rest).map (Options.ofReading verb front)
    | none =>
      match front.readOne? none argument with
      | some (.ok front) => readFront front rest
      | some (.error refusal) => .error refusal
      | none => .error (.unknownVerb argument)

/-- Reads the arguments of the command. -/
def Options.read (arguments : List String) : Except Refusal Options :=
  readFront {} arguments

end Minipack.Command
