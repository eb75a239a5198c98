/-
The server of static files: what it answers to a request.

A request names a file by its path below the served folder.  It is answered with the content only
when the file, with all links followed, lies in that folder.
-/
import Minipack.Error

namespace Minipack.StaticServer

/-! ### Escapes -/

/-- The value of a hexadecimal digit. -/
def hexValue? (b : UInt8) : Option UInt8 :=
  if 48 ≤ b && b ≤ 57 then some (b - 48)
  else if 65 ≤ b && b ≤ 70 then some (b - 55)
  else if 97 ≤ b && b ≤ 102 then some (b - 87)
  else none

/-- Bytes with each percent sign and the two hexadecimal digits after it replaced by their byte. -/
def unescape : List UInt8 → List UInt8
  | 37 :: high :: low :: rest =>
    match hexValue? high, hexValue? low with
    | some h, some l => (h * 16 + l) :: unescape rest
    | _, _ => 37 :: unescape (high :: low :: rest)
  | b :: rest => b :: unescape rest
  | [] => []

/-! ### Answers -/

/-- What is sent back. -/
structure Answer where
  status : Nat
  contentType : Option String := none
  body : ByteArray := .empty

/-- The type of content for an extension in lower case. -/
def contentType : String → String
  | "png" => "image/png"
  | "jpg" => "image/jpeg"
  | "jpeg" => "image/jpeg"
  | "gif" => "image/gif"
  | "svg" => "image/svg+xml"
  | "webp" => "image/webp"
  | "ico" => "image/x-icon"
  | "woff" => "font/woff"
  | "woff2" => "font/woff2"
  | "ttf" => "font/ttf"
  | "otf" => "font/otf"
  | "mp3" => "audio/mpeg"
  | "mp4" => "video/mp4"
  | "json" => "application/json"
  | "js" => "application/javascript"
  | "css" => "text/css"
  | "wxss" => "text/css"
  | _ => "application/octet-stream"

/-- The file below a folder that a request names, by its path without links. -/
def locate? (disk : Disk) (folder : Path) (file : String) : Option Path := do
  let root ← (disk.canonical folder).toOption
  let path ← (disk.canonical (root.child file)).toOption
  if path.startsWith root && disk.isFile path then some path else none

/-- The answer that an error ends in. -/
def refusal (error : Error) : Answer :=
  ⟨error.response.status, none, error.response.body.toUTF8⟩

/-- Answers with a file of a folder. -/
def serve (disk : Disk) (folder : Path) (file : String) : Answer :=
  match locate? disk folder file with
  | none => refusal (.fileNotFound file)
  | some path =>
    match disk.read path with
    | .ok content => ⟨200, some (contentType ((path.extension?.getD "").map Char.toLower)), content⟩
    | .error fault => refusal (.system (.disk fault))

/-! ### Requests -/

/-- How a request asks. -/
inductive Method where
  | get
  /-- Asks for the answer without its content. -/
  | head
  /-- Asks what another page may request. -/
  | options
  | other
deriving DecidableEq, Repr

/-- The path of an address, without a query. -/
def pathOf (address : List Char) : List Char :=
  address.takeWhile fun c => c != '?' && c != '#'

/-- The answer when an address cannot be read. -/
def invalidAddress : Answer :=
  ⟨400, some "text/plain; charset=utf-8", "Invalid URL: Invalid UTF-8 in \x60file\x60".toUTF8⟩

/-- What a way below the served folder is answered with, when it is asked for. -/
def find (disk : Disk) (folder : Path) (way : List Char) : Answer :=
  match Text.decode ⟨(unescape (String.ofList way).toUTF8.toList).toArray⟩ with
  | .ok file => serve disk folder file
  | .error _ => invalidAddress

/-- Answers a request; what other pages may request is told for every path, since all is allowed. -/
def answer (disk : Disk) (folder : Path) (method : Method) (address : String) : Answer :=
  match method, pathOf address.toList with
  | .options, _ => ⟨200, none, .empty⟩
  | .get, '/' :: c :: way => find disk folder (c :: way)
  | .head, '/' :: c :: way => { find disk folder (c :: way) with body := .empty }
  | .other, '/' :: _ :: _ => ⟨405, none, .empty⟩
  | _, _ => ⟨404, none, .empty⟩

end Minipack.StaticServer
