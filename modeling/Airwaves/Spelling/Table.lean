import Airwaves.Compression.Inflate
/-!
# Spelling tables

For each code point of a block, the letters, digits and blanks of its spelling in lower case,
written packed.
-/
namespace Airwaves.Spelling

/-- The spellings of a run of code points from `start`. -/
structure Table where
  /-- The first code point. -/
  start : Nat
  /-- The spellings, one per code point. -/
  entries : Array String

/-- The rows of tables packed as a zlib stream in base 85: the tables in order, divided by blank
lines, and each table's rows one to a line. -/
def packedRows (packed : String) : Array (List String) :=
  ((Compression.inflateText packed).splitOn "\n\n").toArray.map (·.splitOn "\n")

namespace Table

/-- A table from its first code point and its rows of entries divided by `|`. -/
def ofRows (start : Nat) (rows : List String) : Table :=
  { start, entries := ((String.intercalate "|" rows).splitOn "|").toArray }

/-- The spelling of a code point in the table, if the table holds it. -/
def get? (t : Table) (n : Nat) : Option String :=
  if t.start ≤ n then t.entries[n - t.start]? else none

end Table

end Airwaves.Spelling
