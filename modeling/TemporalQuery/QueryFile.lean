import TemporalQuery.Text.Blank
import TemporalQuery.Text.Line
import TemporalQuery.Text.Utf8

/-!
# Query files

A query file holds one query a line. Blank lines and lines that start with `#` are skipped but
counted.
-/

namespace TemporalQuery.QueryFile

structure Item where
  source : String
  text : String
  deriving DecidableEq

def isQuery (line : List Char) : Bool := line ≠ [] ∧ line.head? ≠ some '#'

def ofLines (path : String) (lines : List (List Char × Nat)) : List Item :=
  (lines.map fun (line, n) => (Text.trim line, n)).filter (isQuery ·.1) |>.map fun (line, n) =>
    ⟨path ++ ":" ++ toString n, String.ofList line⟩

def ofText (path : String) (text : List Char) : List Item :=
  ofLines path ((Text.lines text).zipIdx 1)

/-- The queries of the file at `path` that holds `bytes`. -/
def ofBytes (path : String) (bytes : List UInt8) : Except Text.Utf8Fault (List Item) :=
  (Text.decodeUtf8 bytes).map (ofText path)

end TemporalQuery.QueryFile
