/-
The report of a build: every written file with its size, and the total.
-/
import Minipack.Build.Basic
import Minipack.Decimal.Fixed

namespace Minipack.Command

/-- A number of bytes with its unit; from a kilobyte on with two decimal places. -/
def sizeText (n : Nat) : String :=
  if n < 1024 then s!"{n} B"
  else if n < 1048576 then Decimal.twoPlaces n 1024 ++ " KiB"
  else Decimal.twoPlaces n 1048576 ++ " MiB"

/-- A number of nanoseconds in the largest unit that it fills, with two decimal places. -/
def durationText (nanos : Nat) : String :=
  if 1000000000 ≤ nanos then Decimal.twoPlaces nanos 1000000000 ++ "s"
  else if 1000000 ≤ nanos then Decimal.twoPlaces nanos 1000000 ++ "ms"
  else if 1000 ≤ nanos then Decimal.twoPlaces nanos 1000 ++ "µs"
  else Decimal.twoPlaces nanos 1 ++ "ns"

/-- Spaces that bring a text to a width. -/
def padding (width : Nat) (text : String) : String :=
  String.ofList (List.replicate (width - text.length) ' ')

/-- The line of a written file: its path below the root, and its size. -/
def fileLine (settings : Settings) (file : Written) : String :=
  let name := ((file.destination.strip? settings.root).getD file.destination).text
  let size := sizeText file.size
  name ++ padding 60 name ++ " " ++ padding 10 size ++ size

/-- The line of the total; `elapsed` says how long the build took. -/
def totalLine (stats : Build.Stats) (elapsed : String) : String :=
  s!"{stats.length} file(s), {sizeText (Build.totalSize stats)} written in {elapsed}"

/-- The topic of what the command itself tells. -/
def topic : String := "tessera"

/-- What there is to tell of a build. -/
def report (settings : Settings) (stats : Build.Stats) (elapsed : String) : List LogLine :=
  (stats.map (fileLine settings) ++ [totalLine stats elapsed]).map fun text => ⟨.info, topic, text⟩

end Minipack.Command
