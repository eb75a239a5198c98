/-
Reading TOML documents.

The readers of the parts take the characters that are left and return what follows.  A document is
read line by line into a draft; the header read last says which table the next lines belong to.
Arrays and inline tables may stand in each other up to a fixed depth.
-/
import Minipack.Toml.Draft
import Minipack.Toml.Scalar

namespace Minipack.Toml

/-! ### Lines -/

/-- Whether a character may stand in a comment or in a string: all but control characters,
and tabs. -/
def isPlain (c : Char) : Bool :=
  c == '\t' || (' ' ≤ c && c != '\x7f')

/-- Drops spaces and tabs. -/
def skipBlanks (cs : List Char) : List Char :=
  cs.dropWhile fun c => c == ' ' || c == '\t'

/-- Drops the end of a line. -/
def lineEnd? : List Char → Option (List Char)
  | '\n' :: rest => some rest
  | '\r' :: '\n' :: rest => some rest
  | _ => none

/-- Drops a comment, up to the end of its line. -/
def skipComment : List Char → List Char
  | '#' :: rest => rest.dropWhile isPlain
  | cs => cs

/-- Drops blanks, a comment and the end of the line. -/
def endLine? (cs : List Char) : Option (List Char) :=
  match skipComment (skipBlanks cs) with
  | [] => some []
  | cs => lineEnd? cs

/-- Drops blanks, comments and ends of lines. -/
def skipGaps : Nat → List Char → List Char
  | 0, cs => cs
  | fuel + 1, cs =>
    let cs := skipComment (skipBlanks cs)
    match lineEnd? cs with
    | some rest => skipGaps fuel rest
    | none => cs

/-! ### Strings -/

/-- The character of a hexadecimal code of so many digits, and what follows. -/
def coded? (count : Nat) (cs : List Char) : Option (Char × List Char) := do
  let front := cs.take count
  if front.length < count then none
  let code := ofDigits 16 (← front.mapM (digitIn 16))
  if h : code.isValidChar then some (Char.ofNatAux code h, cs.drop count) else none

/-- The character that an escape stands for, after the backslash, and what follows. -/
def escape? : List Char → Option (Char × List Char)
  | 'b' :: rest => some ('\x08', rest)
  | 't' :: rest => some ('\t', rest)
  | 'n' :: rest => some ('\n', rest)
  | 'f' :: rest => some ('\x0c', rest)
  | 'r' :: rest => some ('\r', rest)
  | 'e' :: rest => some ('\x1b', rest)
  | '\x22' :: rest => some ('\x22', rest)
  | '\\' :: rest => some ('\\', rest)
  | 'x' :: rest => coded? 2 rest
  | 'u' :: rest => coded? 4 rest
  | 'U' :: rest => coded? 8 rest
  | _ => none

/-- A string with escapes on one line, after its opening quote, and what follows. -/
def basic? (fuel : Nat) (done : List Char) (cs : List Char) : Option (String × List Char) :=
  match fuel, cs with
  | 0, _ => none
  | _, '\x22' :: rest => some (String.ofList done.reverse, rest)
  | fuel + 1, '\\' :: rest => do
    let (c, rest) ← escape? rest
    basic? fuel (c :: done) rest
  | fuel + 1, c :: rest => if isPlain c then basic? fuel (c :: done) rest else none
  | _, [] => none

/-- A string as it is written on one line, after its opening quote, and what follows. -/
def literal? (cs : List Char) : Option (String × List Char) :=
  let isInside (c : Char) : Bool := isPlain c && c != '\x27'
  match cs.dropWhile isInside with
  | '\x27' :: rest => some (String.ofList (cs.takeWhile isInside), rest)
  | _ => none

/-- Drops blanks and ends of lines. -/
def skipLines : Nat → List Char → List Char
  | 0, cs => cs
  | fuel + 1, cs =>
    match lineEnd? (skipBlanks cs) with
    | some rest => skipLines fuel rest
    | none => skipBlanks cs

/-- What follows a backslash at the end of a line: the next line with something on it. -/
def joinLines? (fuel : Nat) (cs : List Char) : Option (List Char) :=
  (lineEnd? (skipBlanks cs)).map (skipLines fuel)

/--
A string of several lines, after its opening quotes, and what follows.  Up to two quotes may stand
before the three that close it.
-/
def long? (quote : Char) (fuel : Nat) (done : List Char) (cs : List Char) :
    Option (String × List Char) :=
  match fuel, cs with
  | 0, _ => none
  | _, [] => none
  | fuel + 1, c :: rest =>
    let quotes := ((c :: rest).takeWhile (· == quote)).length
    if 3 ≤ quotes then
      -- of four or five quotes in a row the first belong to the text
      let extra := min (quotes - 3) 2
      let text := String.ofList (done.reverse ++ List.replicate extra quote)
      some (text, (c :: rest).drop (3 + extra))
    else if c = '\\' ∧ quote = '\x22' then
      match joinLines? fuel rest with
      | some rest => long? quote fuel done rest
      | none => do
        let (c, rest) ← escape? rest
        long? quote fuel (c :: done) rest
    else
      match c, lineEnd? (c :: rest) with
      | '\r', some rest => long? quote fuel ('\n' :: '\r' :: done) rest
      | c, some rest => long? quote fuel (c :: done) rest
      | c, none => if isPlain c then long? quote fuel (c :: done) rest else none

/-- What follows the opening quotes of a string of several lines: its first line may be empty. -/
def afterOpening (cs : List Char) : List Char :=
  (lineEnd? cs).getD cs

/-- A string at the front, and what follows. -/
def string? (cs : List Char) : Option (String × List Char) :=
  match cs with
  | '\x22' :: '\x22' :: '\x22' :: rest => long? '\x22' (cs.length + 1) [] (afterOpening rest)
  | '\x27' :: '\x27' :: '\x27' :: rest => long? '\x27' (cs.length + 1) [] (afterOpening rest)
  | '\x22' :: rest => basic? (cs.length + 1) [] rest
  | '\x27' :: rest => literal? rest
  | _ => none

/-! ### Keys -/

/-- Whether a character may stand in a key without quotes. -/
def isKeyChar (c : Char) : Bool :=
  c.isAlphanum || c == '_' || c == '-'

/-- A key without dots, and what follows. -/
def simpleKey? (cs : List Char) : Option (String × List Char) :=
  match cs with
  | '\x22' :: rest => basic? (cs.length + 1) [] rest
  | '\x27' :: rest => literal? rest
  | cs =>
    let name := cs.takeWhile isKeyChar
    if name.isEmpty then none else some (String.ofList name, cs.dropWhile isKeyChar)

/-- The names of a key that dots set apart, the last one on its own, and what follows the key. -/
def key? (fuel : Nat) (cs : List Char) : Option (List String × String × List Char) :=
  match fuel with
  | 0 => none
  | fuel + 1 => do
    let (name, rest) ← simpleKey? cs
    match skipBlanks rest with
    | '.' :: rest =>
      let (path, last, rest) ← key? fuel (skipBlanks rest)
      return (name :: path, last, rest)
    | rest => return ([], name, rest)

/-! ### Values -/

/-- Whether a character may stand in a number, a date or a truth value. -/
def isWordChar (c : Char) : Bool :=
  c.isAlphanum || c == '_' || c == '-' || c == '+' || c == '.' || c == ':'

/-- The word at the front, and what follows; a space may stand between a date and a time. -/
def word (cs : List Char) : List Char × List Char :=
  let front := cs.takeWhile isWordChar
  let rest := cs.dropWhile isWordChar
  match afterDate? front, rest with
  | some [], ' ' :: c :: later =>
    if c.isDigit then
      (front ++ ' ' :: (c :: later).takeWhile isWordChar, (c :: later).dropWhile isWordChar)
    else (front, rest)
  | _, _ => (front, rest)

/-- How deep arrays and inline tables may stand in each other. -/
def maxDepth : Nat := 80

mutual

/-- A value at the front, and what follows. -/
def value? (fuel depth : Nat) (cs : List Char) : Option (Toml × List Char) :=
  match fuel with
  | 0 => none
  | fuel + 1 =>
    match cs, depth with
    | '\x22' :: _, _ => (string? cs).map fun (s, rest) => (string s, rest)
    | '\x27' :: _, _ => (string? cs).map fun (s, rest) => (string s, rest)
    | '[' :: rest, depth + 1 =>
      (items? fuel depth [] rest).map fun (items, rest) => (array items, rest)
    | '\x7b' :: rest, depth + 1 =>
      (entries? fuel depth [] rest).map fun (draft, rest) => (table (ofMembers draft), rest)
    | cs, _ =>
      let (front, rest) := word cs
      (ofWord? front).map fun value => (value, rest)

/-- The items of an array after those that are done, and what follows the array. -/
def items? (fuel depth : Nat) (done : List Toml) (cs : List Char) :
    Option (List Toml × List Char) :=
  match fuel with
  | 0 => none
  | fuel + 1 =>
    match skipGaps cs.length cs with
    | ']' :: rest => some (done.reverse, rest)
    | cs => do
      let (value, rest) ← value? fuel depth cs
      match skipGaps rest.length rest with
      | ',' :: rest => items? fuel depth (value :: done) rest
      | ']' :: rest => return ((value :: done).reverse, rest)
      | _ => none

/-- The entries of an inline table after those in the draft, and what follows the table. -/
def entries? (fuel depth : Nat) (draft : Draft) (cs : List Char) : Option (Draft × List Char) :=
  match fuel with
  | 0 => none
  | fuel + 1 =>
    match skipGaps cs.length cs with
    | '\x7d' :: rest => some (draft, rest)
    | cs => do
      let (path, name, rest) ← key? fuel cs
      let rest ← expect? '=' rest
      let (value, rest) ← value? fuel depth (skipBlanks rest)
      let draft ← draft.set? value name path
      match skipGaps rest.length rest with
      | ',' :: rest => entries? fuel depth draft rest
      | '\x7d' :: rest => return (draft, rest)
      | _ => none

end

/-! ### Documents -/

/-- A header after its opening brackets: the names on the way, the last name, and what follows. -/
def header? (closing : List Char) (cs : List Char) :
    Option (List String × String × List Char) := do
  let (path, name, rest) ← key? (cs.length + 1) (skipBlanks cs)
  if closing.isPrefixOf rest then return (path, name, ← endLine? (rest.drop closing.length))
  else none

/-- A line with a key and a value, and what follows. -/
def assignment? (cs : List Char) : Option (List String × String × Toml × List Char) := do
  let (path, name, rest) ← key? (cs.length + 1) cs
  let rest ← expect? '=' rest
  let (value, rest) ← value? (cs.length + 1) maxDepth (skipBlanks rest)
  return (path, name, value, ← endLine? rest)

/-- Reads the lines of a document that follow the given header. -/
def lines? (fuel : Nat) (draft : Draft) (header : List String) (cs : List Char) : Option Draft :=
  match fuel with
  | 0 => none
  | fuel + 1 =>
    match skipBlanks cs with
    | [] => some draft
    | '[' :: '[' :: rest => do
      let (path, name, rest) ← header? [']', ']'] rest
      lines? fuel (← draft.follow? (Draft.append? name) path) (path ++ [name]) rest
    | '[' :: rest => do
      let (path, name, rest) ← header? [']'] rest
      lines? fuel (← draft.follow? (Draft.state? name) path) (path ++ [name]) rest
    | cs =>
      match endLine? cs with
      | some rest => lines? fuel draft header rest
      | none => do
        let (path, name, value, rest) ← assignment? cs
        lines? fuel (← draft.follow? (Draft.set? value name path) header) header rest

/-- Reads a document, which may begin with a byte order mark. -/
def read? (source : String) : Option Toml :=
  let cs := match source.toList with
    | '\ufeff' :: rest => rest
    | cs => cs
  (lines? (cs.length + 1) [] [] cs).map fun draft => table (ofMembers draft)

end Minipack.Toml
