/-!
# Verbosity

How much of a run is shown. The levels are ordered; what a level shows, every higher level shows.
-/

namespace TemporalQuery

inductive Verbosity
  /-- Nothing but the trees and the statistics that are asked for. -/
  | silent
  /-- One record a query; a line feed in a quoted text breaks its line. -/
  | normal
  /-- Progress and statistics as well. -/
  | verbose
  /-- Tokens as well. -/
  | debug
  deriving DecidableEq

namespace Verbosity

def rank : Verbosity → Nat
  | silent => 0
  | normal => 1
  | verbose => 2
  | debug => 3

def label : Verbosity → String
  | silent => "SILENT"
  | normal => "NORMAL"
  | verbose => "VERBOSE"
  | debug => "DEBUG"

def ofLabel? (s : String) : Option Verbosity :=
  [silent, normal, verbose, debug].find? (·.label = s)

/-- Whether the level `v` shows what is meant for `threshold` and above. -/
def shows (v threshold : Verbosity) : Bool := threshold.rank ≤ v.rank

/-- The level for an output word and a debug number; a debug number of at least 1 wins. -/
def resolve (output : String) (debugLevel : Int) : Verbosity :=
  if 3 ≤ debugLevel then debug
  else if output = "verbose" ∨ 1 ≤ debugLevel then verbose
  else if output = "silent" then silent
  else normal

end Verbosity

end TemporalQuery
