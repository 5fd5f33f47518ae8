import TemporalQuery.Failure
import TemporalQuery.Report.Verbosity
import TemporalQuery.Text.Title
import TemporalQuery.Value

/-!
# Report entries

What is told about a run, entry by entry: the level from which an entry is shown, and its lines.
-/

namespace TemporalQuery.Report

inductive Entry
  | debug (message : String) (details : List (String × Value))
  | info (message : String) (details : List (String × Value))
  /-- A query from `source` was read; `canonical` is its text. -/
  | accepted (source canonical : String)
  | rejected (source : String) (error : QueryError)
  | statistics (values : List (String × Value))

/-- The label of a statistic: blanks for underscores, in title case. -/
def statisticLabel (key : String) : String :=
  Text.titled (key.map fun c => if c = '_' then ' ' else c)

def detailLine (label : String) (v : Value) : String := "  " ++ label ++ ": " ++ v.shown

def statisticLines (values : List (String × Value)) : List String :=
  "=== Statistics ===" :: values.map fun (key, v) => detailLine (statisticLabel key) v

namespace Entry

def threshold : Entry → Verbosity
  | debug .. => .debug
  | info .. | statistics _ => .verbose
  | accepted .. | rejected .. => .normal

def lines : Entry → List String
  | debug message details => ("[DEBUG] " ++ message) :: details.map fun (k, v) => detailLine k v
  | info message details => ("[INFO] " ++ message) :: details.map fun (k, v) => detailLine k v
  | accepted source canonical => ["OK: " ++ source ++ ": " ++ canonical]
  | rejected source e => ["ERROR: " ++ source ++ ": " ++ e.kind.label ++ ": " ++ e.report]
  | statistics values => statisticLines values

def shown (e : Entry) (v : Verbosity) : List String := if v.shows e.threshold then e.lines else []

end Entry

def unlines (lines : List String) : String := String.join (lines.map (· ++ "\n"))

end TemporalQuery.Report
