/-
The dev-server plugin prepares the static folder, which it serves while changes are watched.

It listens on the number in the public address or else on the configured one.
-/
import Minipack.Plugin.Clean

namespace Minipack.Plugin

/-- What follows the first `://` of an address. -/
def afterScheme? : List Char → Option (List Char)
  | ':' :: '/' :: '/' :: rest => some rest
  | _ :: rest => afterScheme? rest
  | [] => none

/-- The number below `2^16` that digits write, with an optional plus. -/
def socketOf? (text : List Char) : Option Nat :=
  let digits := match text with
    | '+' :: rest => rest
    | text => text
  if digits.isEmpty || !digits.all Char.isDigit then none
  else
    let n := digits.foldl (fun n c => n * 10 + (c.toNat - 48)) 0
    if n < 0x10000 then some n else none

/-- The number to listen on that an address gives. -/
def publicSocket? (address : String) : Option Nat := do
  let rest ← afterScheme? address.toList
  let authority := rest.takeWhile (· != '/')
  if authority.contains ':' then socketOf? (authority.reverse.takeWhile (· != ':')).reverse
  else none

/-- Makes the static folder while changes are watched. -/
def serveBackground (settings : Settings) : HookStep := fun disk =>
  if !settings.watching then { disk }
  else
    match (publicSocket? settings.publicAddress).or settings.socket with
    | none => { disk, error := some (.config .noSocket) }
    | some _ =>
      match disk.makeFolders settings.static with
      | (disk, none) =>
        let text := s!"serving {settings.static.display} on {settings.publicAddress}"
        { disk, log := [⟨.info, "dev-server", text⟩] }
      | (disk, some fault) => { disk, error := some (.system (.disk fault)) }

/-- The plugin that serves static files. -/
def devServer : Plugin where
  name := "dev-server"
  background := serveBackground

/-- The plugin of a name, with options. -/
def named (name : String) (options : Json) : Except Error Plugin :=
  match name with
  | "clean" => cleanWith options
  | "dev-server" => .ok devServer
  | _ => .error (.config (.unknownPlugin name))

end Minipack.Plugin
