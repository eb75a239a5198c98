/-
Reading regular expressions.

The parts are read from the front of a list of characters, and each reader gives what it read and
the characters after it.  Modes are set by `(?i)` up to the end of the group, or by `(?i:…)` for a
group of its own.  A pattern is refused when a group, a set or a count is not closed, when a
repetition has nothing to repeat, when a range or a count runs backwards, and when an escape, a
flag, a named set or a condition is unknown; groups that look around and references to groups are
refused as well.
-/
import Minipack.Regex.Basic

namespace Minipack.Regex

/-- How a part of a pattern is read. -/
structure Modes where
  caseless : Bool := false
  multiline : Bool := false
  dotAll : Bool := false
  unicode : Bool := true
  /-- A carriage return ends a line too. -/
  returns : Bool := false
  /-- Blanks and comments mean nothing. -/
  spaced : Bool := false
deriving DecidableEq, Repr

/-- Drops blanks and comments; `inside` says that a comment has begun. -/
def dropComments (inside : Bool) : List Char → List Char
  | [] => []
  | c :: rest =>
    if inside then dropComments (c != '\n') rest
    else if c = '#' then dropComments true rest
    else if Text.isBlank c then dropComments false rest
    else c :: rest

/-- Drops what means nothing at the front. -/
def Modes.skip (modes : Modes) (cs : List Char) : List Char :=
  if modes.spaced then dropComments false cs else cs

/-- The characters up to `stop`, without what means nothing. -/
def Modes.upTo? (modes : Modes) (stop : Char) : Nat → List Char → Option (List Char × List Char)
  | 0, _ => none
  | fuel + 1, cs =>
    match modes.skip cs with
    | [] => none
    | c :: rest =>
      if c = stop then some ([], rest)
      else (modes.upTo? stop fuel rest).map fun r => (c :: r.1, r.2)

/-! ### Numbers -/

/-- Decimal digits at the front. -/
def Modes.digits (modes : Modes) : Nat → List Char → List Char × List Char
  | 0, cs => ([], cs)
  | fuel + 1, cs =>
    match cs with
    | c :: rest =>
      if c.isDigit then
        let (digits, rest) := modes.digits fuel (modes.skip rest)
        (c :: digits, rest)
      else ([], cs)
    | [] => ([], [])

/-- A count at the front, with blanks around it. -/
def Modes.count? (modes : Modes) (cs : List Char) : Option (Nat × List Char) :=
  let (digits, rest) := modes.digits cs.length (cs.dropWhile Text.isBlank)
  let n := digits.foldl (fun n c => n * 10 + (c.toNat - 48)) 0
  if digits.isEmpty || n ≥ 0x100000000 then none
  else some (n, modes.skip (rest.dropWhile Text.isBlank))

/-- The counts of a repetition after its opening brace. -/
def Modes.counts? (modes : Modes) (cs : List Char) : Option ((Nat × Option Nat) × List Char) := do
  let (least, rest) ← modes.count? (modes.skip cs)
  match rest with
  | '\x7d' :: rest => return ((least, some least), rest)
  | ',' :: rest =>
    match modes.skip rest with
    | '\x7d' :: rest => return ((least, none), rest)
    | rest =>
      let (most, rest) ← modes.count? rest
      match rest with
      | '\x7d' :: rest => if least ≤ most then return ((least, some most), rest) else none
      | _ => none
  | _ => none

/-- The value of a hexadecimal digit. -/
def hexValue? (c : Char) : Option Nat :=
  if c.isDigit then some (c.toNat - 48)
  else if 'a' ≤ c ∧ c ≤ 'f' then some (c.toNat - 87)
  else if 'A' ≤ c ∧ c ≤ 'F' then some (c.toNat - 55)
  else none

/-- The character whose code is given in hexadecimal digits. -/
def hexChar? (digits : List Char) : Option Char := do
  let code ← digits.foldlM (fun n c => (hexValue? c).map (n * 16 + ·)) 0
  if digits.isEmpty then none
  else if h : code.isValidChar then some (Char.ofNatAux code h) else none

/-- So many characters at the front. -/
def Modes.taken? (modes : Modes) : Nat → List Char → Option (List Char × List Char)
  | 0, cs => some ([], cs)
  | n + 1, cs =>
    match modes.skip cs with
    | [] => none
    | c :: rest => (modes.taken? n rest).map fun r => (c :: r.1, r.2)

/-! ### Escapes -/

/-- What an escape or a character of a set stands for. -/
inductive Atom where
  /-- A character; `byte` says that it was given as a byte. -/
  | literal (c : Char) (byte : Bool)
  | set (s : CharClass)
  | condition (a : Anchor)

/-- The digits, blanks or word characters of ASCII or of all scripts. -/
def perlSet (unicode : Bool) (letter : Char) : CharClass :=
  if letter = 'd' then if unicode then .digit else .range '0' '9'
  else if letter = 's' then
    if unicode then .blank else .either (.range '\t' '\r') (.one ' ')
  else if unicode then .word
  else .either (.range '0' '9') (.either (.range 'A' 'Z') (.either (.one '_') (.range 'a' 'z')))

/-- The name of a set in lower case without separators. -/
def plainName (name : List Char) : String :=
  let kept := name.filter fun c => !(Text.isBlank c || c == '_' || c == '-')
  let lower := kept.map Char.toLower
  String.ofList (if lower.take 2 = ['i', 's'] && lower != "isc".toList then lower.drop 2 else lower)

/-- Splits a name at its relation and tells whether that negates. -/
def splitName? : List Char → Option (List Char × Bool × List Char)
  | [] => none
  | '!' :: '=' :: rest => some ([], true, rest)
  | c :: rest =>
    if c = '=' || c = ':' then some ([], false, rest)
    else (splitName? rest).map fun r => (c :: r.1, r.2)

/-- The set of characters that a name between braces stands for. -/
def namedSet? (name : List Char) : Option CharClass :=
  match splitName? name with
  | none => (Text.namedRanges? (plainName name)).map .named
  | some (key, negated, value) =>
    let set := (Text.valuedRanges? (plainName key) (plainName value)).map CharClass.named
    if negated then set.map .other else set

/-- A named set after its letter. -/
def Modes.named? (modes : Modes) (cs : List Char) : Option (CharClass × List Char) :=
  match modes.skip cs with
  | '\x7b' :: rest => do
    let (name, rest) ← modes.upTo? '\x7d' (rest.length + 1) rest
    return (← namedSet? name, rest)
  | c :: rest => if c = '\\' then none else (namedSet? [c]).map (·, rest)
  | [] => none

/-- A character given by its code after the letter `x`, `u` or `U`. -/
def Modes.coded? (modes : Modes) (letter : Char) (cs : List Char) : Option (Atom × List Char) :=
  match modes.skip cs with
  | '\x7b' :: rest => do
    let (digits, rest) ← modes.upTo? '\x7d' (rest.length + 1) rest
    return (.literal (← hexChar? digits) false, rest)
  | cs => do
    let (digits, rest) ← modes.taken? (if letter = 'x' then 2 else if letter = 'u' then 4 else 8) cs
    return (.literal (← hexChar? digits) (letter == 'x'), rest)

/-- Whether a character stands between the braces of a condition. -/
def isConditionChar (c : Char) : Bool :=
  c.isAlpha || c == '-'

/-- The condition after the letter `b`, which a name in braces makes more special. -/
def Modes.boundary? (modes : Modes) (cs : List Char) : Option (Anchor × List Char) :=
  match cs with
  | '\x7b' :: rest =>
    match modes.skip rest with
    | [] => none
    | c :: more =>
      if !isConditionChar c then some (.boundary, cs)
      else do
        let (name, rest) ← modes.upTo? '\x7d' (rest.length + 1) (c :: more)
        if name = "start".toList then return (.wordStart, rest)
        else if name = "end".toList then return (.wordEnd, rest)
        else if name = "start-half".toList then return (.halfStart, rest)
        else if name = "end-half".toList then return (.halfEnd, rest)
        else none
  | _ => some (.boundary, cs)

/-- What stands for a control character after a backslash. -/
def control? (c : Char) : Option Char :=
  if c = 'a' then some '\x07'
  else if c = 'f' then some '\x0c'
  else if c = 't' then some '\t'
  else if c = 'n' then some '\n'
  else if c = 'r' then some '\r'
  else if c = 'v' then some '\x0b'
  else none

/-- What a backslash and the characters after it stand for. -/
def Modes.escape? (modes : Modes) : List Char → Option (Atom × List Char)
  | [] => none
  | c :: rest =>
    if c = 'x' || c = 'u' || c = 'U' then modes.coded? c rest
    else if c = 'p' || c = 'P' then
      if modes.unicode then do
        let (set, rest) ← modes.named? rest
        let set := if modes.caseless then CharClass.anyCase set else set
        return (.set (if c = 'P' then .other set else set), rest)
      else none
    else if c = 'd' || c = 's' || c = 'w' then some (.set (perlSet modes.unicode c), rest)
    else if c = 'D' || c = 'S' || c = 'W' then
      if modes.unicode then some (.set (.other (perlSet true c.toLower)), rest) else none
    else if c = 'A' then some (.condition .textStart, rest)
    else if c = 'z' then some (.condition .textEnd, rest)
    else if c = 'b' then do
      let (condition, rest) ← modes.boundary? rest
      return (.condition condition, rest)
    else if c = 'B' then some (.condition .noBoundary, rest)
    else if c = '<' then some (.condition .wordStart, rest)
    else if c = '>' then some (.condition .wordEnd, rest)
    else
      match control? c with
      | some c => some (.literal c false, rest)
      | none => if c.isAlphanum || c.val ≥ 0x80 then none else some (.literal c false, rest)

/-! ### Sets -/

/-- The set of an atom that stands in a set. -/
def Modes.member? (modes : Modes) : Atom → Option CharClass
  | .literal c byte => if modes.unicode || c.val < 0x80 || byte then some (.one c) else none
  | .set s => some s
  | .condition _ => none

/-- A set with the variants of its characters, where letters of both cases are the same. -/
def Modes.fold (modes : Modes) (set : CharClass) : CharClass :=
  if !modes.caseless then set else if modes.unicode then .anyCase set else .anyAsciiCase set

/-- A set as it stands in the expression; without Unicode it must hold ASCII only. -/
def Modes.close? (modes : Modes) (negated : Bool) (set : CharClass) : Option CharClass :=
  let set := modes.fold set
  let set := if negated then .other set else set
  if modes.unicode then some set
  else if (List.range 128).any fun i => set.holds (Char.ofNat (128 + i)) then none
  else some (.both set (.range '\x00' '\x7f'))

/-- The ASCII characters of a named set. -/
def asciiSet? (name : String) : Option CharClass :=
  let capitals := CharClass.range 'A' 'Z'
  let smalls := CharClass.range 'a' 'z'
  let numerals := CharClass.range '0' '9'
  let graph := CharClass.range '!' '~'
  match name with
  | "alnum" => some (.either numerals (.either capitals smalls))
  | "alpha" => some (.either capitals smalls)
  | "ascii" => some (.range '\x00' '\x7f')
  | "blank" => some (.either (.one '\t') (.one ' '))
  | "cntrl" => some (.either (.range '\x00' '\x1f') (.one '\x7f'))
  | "digit" => some numerals
  | "graph" => some graph
  | "lower" => some smalls
  | "print" => some (.range ' ' '~')
  | "punct" => some (.minus graph (.either numerals (.either capitals smalls)))
  | "space" => some (.either (.range '\t' '\r') (.one ' '))
  | "upper" => some capitals
  | "word" => some (perlSet false 'w')
  | "xdigit" => some (.either numerals (.either (.range 'A' 'F') (.range 'a' 'f')))
  | _ => none

/-- A named set in brackets and colons, after its bracket. -/
def Modes.asciiNamed? (modes : Modes) : List Char → Option (CharClass × List Char)
  | ':' :: rest =>
    let (negated, rest) := match rest with
      | '^' :: rest => (true, rest)
      | rest => (false, rest)
    let name := rest.takeWhile (· != ':')
    match rest.drop name.length with
    | ':' :: ']' :: rest => do
      let set := modes.fold (← asciiSet? (String.ofList name))
      return (if negated then .other set else set, rest)
    | _ => none
  | _ => none

/-- How two parts of a set are put together. -/
inductive SetOperation where
  | both
  | minus
  | differing

/-- The set of two parts. -/
def SetOperation.apply : SetOperation → CharClass → CharClass → CharClass
  | both, a, b => .both a b
  | minus, a, b => .minus a b
  | differing, a, b => .differing a b

/-- The set of the parts read so far, where `before` is what an operation applies to. -/
def Modes.combine (modes : Modes) (before : Option (SetOperation × CharClass)) (set : CharClass) :
    CharClass :=
  match before with
  | none => set
  | some (operation, left) => operation.apply (modes.fold left) (modes.fold set)

/-- The hyphens at the front of a set. -/
def Modes.hyphens (modes : Modes) : Nat → Bool → List Char → Bool × List Char
  | 0, found, cs => (found, cs)
  | fuel + 1, found, cs =>
    match cs with
    | '-' :: rest => modes.hyphens fuel true (modes.skip rest)
    | _ => (found, cs)

/-- The beginning of a set after its bracket: whether it is negated, and its first characters. -/
def Modes.openSet (modes : Modes) (cs : List Char) : Bool × CharClass × List Char :=
  let (negated, cs) := match modes.skip cs with
    | '^' :: rest => (true, modes.skip rest)
    | cs => (false, cs)
  let (found, cs) := modes.hyphens cs.length false cs
  if found then (negated, .one '-', cs)
  else match cs with
    | ']' :: rest => (negated, .one ']', rest)
    | _ => (negated, .nothing, cs)

/-- A character or an escape in a set. -/
def Modes.atom? (modes : Modes) : List Char → Option (Atom × List Char)
  | '\\' :: rest => modes.escape? rest
  | c :: rest => some (.literal c false, rest)
  | [] => none

/-- A member or a range of a set. -/
def Modes.part? (modes : Modes) (cs : List Char) : Option (CharClass × List Char) := do
  let (first, rest) ← modes.atom? cs
  let rest := modes.skip rest
  match rest with
  | [] => none
  | '-' :: after =>
    match modes.skip after with
    | ']' :: _ => return (← modes.member? first, rest)
    | '-' :: _ => return (← modes.member? first, rest)
    | after =>
      let (last, rest) ← modes.atom? after
      match first, last with
      | .literal a _, .literal b _ =>
        let _ ← modes.member? first
        let _ ← modes.member? last
        if a ≤ b then return (.range a b, rest) else none
      | _, _ => none
  | _ => return (← modes.member? first, rest)

/-- The rest of a set after the parts in `set`. -/
def Modes.setRest? (modes : Modes) (fuel : Nat) (negated : Bool)
    (before : Option (SetOperation × CharClass)) (set : CharClass) (cs : List Char) :
    Option (CharClass × List Char) :=
  match fuel with
  | 0 => none
  | fuel + 1 =>
    match modes.skip cs with
    | [] => none
    | '[' :: rest =>
      match modes.asciiNamed? rest with
      | some (part, rest) => modes.setRest? fuel negated before (.either set part) rest
      | none =>
        let (inner, first, rest) := modes.openSet rest
        match modes.setRest? fuel inner none first rest with
        | some (part, rest) => modes.setRest? fuel negated before (.either set part) rest
        | none => none
    | ']' :: rest => (modes.close? negated (modes.combine before set)).map (·, rest)
    | '&' :: '&' :: rest =>
      modes.setRest? fuel negated (some (.both, modes.combine before set)) .nothing rest
    | '-' :: '-' :: rest =>
      modes.setRest? fuel negated (some (.minus, modes.combine before set)) .nothing rest
    | '~' :: '~' :: rest =>
      modes.setRest? fuel negated (some (.differing, modes.combine before set)) .nothing rest
    | cs =>
      match modes.part? cs with
      | some (part, rest) => modes.setRest? fuel negated before (.either set part) rest
      | none => none

/-- A set after its bracket. -/
def Modes.set? (modes : Modes) (cs : List Char) : Option (CharClass × List Char) :=
  let (negated, first, rest) := modes.openSet cs
  modes.setRest? (cs.length + 1) negated none first rest

/-! ### Groups -/

/-- Switches the mode of a letter. -/
def Modes.switch? (modes : Modes) (on : Bool) (letter : Char) : Option Modes :=
  if letter = 'i' then some { modes with caseless := on }
  else if letter = 'm' then some { modes with multiline := on }
  else if letter = 's' then some { modes with dotAll := on }
  else if letter = 'u' then some { modes with unicode := on }
  else if letter = 'R' then some { modes with returns := on }
  else if letter = 'x' then some { modes with spaced := on }
  else if letter = 'U' then some modes
  else none

/-- The modes that letters switch, each at most once; those after a hyphen are switched off. -/
def Modes.switches? (modes : Modes) (seen : List Char) : List Char → Option Modes
  | [] => if seen.head? = some '-' then none else some modes
  | c :: rest =>
    if seen.contains c then none
    else if c = '-' then modes.switches? (c :: seen) rest
    else do (← modes.switch? (!seen.contains '-') c).switches? (c :: seen) rest

/-- Whether a character can stand in the name of a group. -/
def isNameChar (c : Char) : Bool :=
  Text.isWord c || c == '.' || c == '[' || c == ']'

/-- The name of a group up to its closing bracket. -/
def groupName? (cs : List Char) : Option (List Char × List Char) :=
  let name := cs.takeWhile (· != '>')
  match name, cs.drop name.length with
  | first :: _, '>' :: rest =>
    if name.all isNameChar && Text.isWord first && !Text.isDecimalDigit first then some (name, rest)
    else none
  | _, _ => none

/-- What the parenthesis before a group's content says. -/
inductive GroupHead where
  | plain
  | named (name : List Char)
  /-- A group with modes of its own. -/
  | scoped (modes : Modes)
  /-- No group, but modes for what follows. -/
  | setting (modes : Modes)

/-- The head of a group after its parenthesis. -/
def Modes.groupHead? (modes : Modes) (cs : List Char) : Option (GroupHead × List Char) :=
  match modes.skip cs with
  | '?' :: '=' :: _ => none
  | '?' :: '!' :: _ => none
  | '?' :: '<' :: '=' :: _ => none
  | '?' :: '<' :: '!' :: _ => none
  | '?' :: 'P' :: '<' :: rest => (groupName? rest).map fun r => (.named r.1, r.2)
  | '?' :: '<' :: rest => (groupName? rest).map fun r => (.named r.1, r.2)
  | '?' :: rest =>
    let letters := rest.takeWhile fun c => c != ':' && c != ')'
    match rest.drop letters.length with
    | ':' :: rest => (modes.switches? [] letters).map (.scoped ·, rest)
    | ')' :: rest =>
      if letters.isEmpty then none else (modes.switches? [] letters).map (.setting ·, rest)
    | _ => none
  | cs => some (.plain, cs)

/-! ### Expressions -/

/-- A character of the pattern that stands for itself. -/
def Modes.literal? (modes : Modes) (c : Char) (byte : Bool) : Option Regex :=
  if !modes.unicode && byte && c.val ≥ 0x80 then none else some (.char (modes.fold (.one c)))

/-- The expression of an atom outside of sets. -/
def Modes.ofAtom? (modes : Modes) : Atom → Option Regex
  | .literal c byte => modes.literal? c byte
  | .set s => some (.char s)
  | .condition a => some (.anchor (!modes.unicode) a)

/-- The expression of a dot. -/
def Modes.dot? (modes : Modes) : Option Regex :=
  if !modes.unicode then none
  else if modes.dotAll then some (.char .anything)
  else if modes.returns then some (.char (.other (.either (.one '\n') (.one '\r'))))
  else some (.char (.other (.one '\n')))

/-- The start of the text, or of a line. -/
def Modes.startAnchor (modes : Modes) : Anchor :=
  if !modes.multiline then .textStart else if modes.returns then .returnStart else .lineStart

/-- The end of the text, or of a line. -/
def Modes.endAnchor (modes : Modes) : Anchor :=
  if !modes.multiline then .textEnd else if modes.returns then .returnEnd else .lineEnd

/-- An expression of parts in reverse order. -/
def ofParts : List Regex → Regex
  | [] => .nothing
  | part :: before => before.foldl (fun r p => .sequence p r) part

/-- An expression of alternatives in reverse order. -/
def ofAlternatives (last : Regex) (before : List Regex) : Regex :=
  before.foldl (fun r a => .either a r) last

/-- Drops the mark of a repetition that takes as little as it can. -/
def dropLazy : List Char → List Char
  | '?' :: rest => rest
  | cs => cs

/--
Reads alternatives up to the end of the pattern or of the group.  `parts` are the parts of the
current alternative in reverse order, `ready` says that the last of them may be repeated, and
`names` are the names of the groups.
-/
def expression? (fuel : Nat) (modes : Modes) (names : List (List Char)) (alternatives : List Regex)
    (parts : List Regex) (ready : Bool) (cs : List Char) :
    Option (Regex × List (List Char) × List Char) :=
  match fuel with
  | 0 => none
  | fuel + 1 =>
    let finish (rest : List Char) := some (ofAlternatives (ofParts parts) alternatives, names, rest)
    let put (r : Regex) (rest : List Char) :=
      expression? fuel modes names alternatives (r :: parts) true rest
    let repeated (least : Nat) (most : Option Nat) (rest : List Char) :=
      match ready, parts with
      | true, r :: before =>
        expression? fuel modes names alternatives (.repeated r least most :: before) true
          (dropLazy rest)
      | _, _ => none
    match modes.skip cs with
    | [] => finish []
    | ')' :: rest => finish (')' :: rest)
    | '|' :: rest => expression? fuel modes names (ofParts parts :: alternatives) [] false rest
    | '(' :: rest =>
      let group (modes' : Modes) (names : List (List Char)) (rest : List Char) :=
        match expression? fuel modes' names [] [] false rest with
        | some (r, names, ')' :: rest) =>
          expression? fuel modes names alternatives (r :: parts) true rest
        | _ => none
      match modes.groupHead? rest with
      | none => none
      | some (.plain, rest) => group modes names rest
      | some (.named name, rest) =>
        if names.contains name then none else group modes (name :: names) rest
      | some (.scoped modes, rest) => group modes names rest
      | some (.setting modes, rest) => expression? fuel modes names alternatives parts false rest
    | '[' :: rest =>
      match modes.set? rest with
      | some (set, rest) => put (.char set) rest
      | none => none
    | '?' :: rest => repeated 0 (some 1) rest
    | '*' :: rest => repeated 0 none rest
    | '+' :: rest => repeated 1 none rest
    | '\x7b' :: rest =>
      match modes.counts? rest with
      | some ((least, most), rest) => repeated least most (modes.skip rest)
      | none => none
    | '\\' :: rest =>
      match modes.escape? rest with
      | some (atom, rest) =>
        match modes.ofAtom? atom with
        | some r => put r rest
        | none => none
      | none => none
    | '.' :: rest =>
      match modes.dot? with
      | some r => put r rest
      | none => none
    | '^' :: rest => put (.anchor (!modes.unicode) modes.startAnchor) rest
    | '$' :: rest => put (.anchor (!modes.unicode) modes.endAnchor) rest
    | c :: rest => put (.char (modes.fold (.one c))) rest

/-- The expression that a pattern describes. -/
def read? (pattern : String) : Option Regex :=
  let cs := pattern.toList
  match expression? (cs.length + 1) {} [] [] [] false cs with
  | some (r, _, []) => some r
  | _ => none

end Minipack.Regex
