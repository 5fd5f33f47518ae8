import TemporalQuery.CommandLine.Options
import TemporalQuery.Parse
import TemporalQuery.QueryFile
import TemporalQuery.Report.Entry
import TemporalQuery.Tree
import TemporalQuery.Canonical

/-!
# Checking queries

`check` reads every query by itself and reports on it. The exit code is 0 if all are accepted, 1 if
some are rejected, and 2 if the checking ends early.
-/

namespace TemporalQuery.CommandLine

open Report

/-- How a run ends and what it writes, as texts: every character is taken to be written, whatever encoding the
output has. -/
structure Outcome where
  exitCode : Nat
  stdout : String
  stderr : String
  deriving DecidableEq

inductive Stored
  | missing
  | directory
  | file (bytes : List UInt8)
  | unreadable (reason : String)

inductive CheckError
  /-- A file option without a path. -/
  | noPath
  | notFound (path : String)
  | isDirectory (path : String)
  | undecodable (fault : Text.Utf8Fault)
  | unreadable (reason : String)
  | noQueries
  /-- A debug option without a number. -/
  | noDebugLevel
  deriving DecidableEq

def CheckError.message : CheckError → String
  | noPath => "'list' object has no attribute 'exists'"
  | notFound path => "Query file not found: " ++ path
  | isDirectory path => "[Errno 21] Is a directory: " ++ Text.quoted path
  | undecodable fault => fault.message
  | unreadable reason => reason
  | noQueries => "No queries given"
  | noDebugLevel => "'>=' not supported between instances of 'list' and 'int'"

def argumentItems (queries : List String) : List QueryFile.Item :=
  (queries.zipIdx 1).map fun (text, n) => ⟨"arg" ++ toString n, text⟩

/-- The queries of a file. -/
def fileItems (stored : String → Stored) : Option String → Except CheckError (List QueryFile.Item)
  | none => .error .noPath
  | some path =>
    match stored path with
    | .missing => .error (.notFound path)
    | .directory => .error (.isDirectory path)
    | .unreadable reason => .error (.unreadable reason)
    | .file bytes => (QueryFile.ofBytes path bytes).mapError .undecodable

def items (s : Settings) (stored : String → Stored) :
    Except CheckError (List QueryFile.Item) := do
  let ofFiles ← s.files.mapM (fileItems stored)
  let all := argumentItems s.queries ++ ofFiles.flatten
  if all.isEmpty then throw .noQueries
  return all

structure Tally where
  accepted : Nat := 0
  rejected : Nat := 0
  names : List String := []
  deriving DecidableEq

namespace Tally

def accept (t : Tally) (q : Query) : Tally :=
  { t with accepted := t.accepted + 1, names := t.names ++ q.names }

def reject (t : Tally) : Tally := { t with rejected := t.rejected + 1 }

def statistics (t : Tally) (queries : Nat) : List (String × Value) :=
  [("queries", .int queries), ("accepted", .int t.accepted), ("rejected", .int t.rejected),
    ("distinct_names", .int t.names.eraseDups.length)]

end Tally

/-- The labels of all tokens, or the error of a text that has a fault. -/
def tokenLabels (text : String) : Except QueryError String :=
  match (lex text).error text with
  | some e => .error e
  | none => .ok (" ".intercalate ((lex text).lexemes.map (·.token.label)))

/-- What was written and counted so far. -/
structure Journal where
  lines : List String := []
  tally : Tally := {}
  deriving DecidableEq

namespace Journal

def write (j : Journal) (lines : List String) : Journal := { j with lines := j.lines ++ lines }

/-- Checks one query. A query that is rejected is only reported, but the text of an accepted one is lexed
again for the labels of its tokens, and an error of that ends the checking. -/
def visit (v : Verbosity) (json : Bool) (j : Journal) (item : QueryFile.Item) :
    Except (Journal × QueryError) Journal :=
  let j := j.write ((Entry.debug ("Reading " ++ item.source) [("text", .text item.text)]).shown v)
  match Query.parse item.text with
  | .error failure =>
    .ok ({ j with tally := j.tally.reject }.write
      ((Entry.rejected item.source (failure.report item.text)).shown v))
  | .ok q =>
    let j := { j with tally := j.tally.accept q }
    match tokenLabels item.text with
    | .error e => .error (j, e)
    | .ok labels =>
      .ok (j.write ((Entry.debug "Tokens" [("types", .text labels)]).shown v ++
        (Entry.accepted item.source q.text).shown v ++ if json then [q.tree.indented 0] else []))

def ofItems (v : Verbosity) (json : Bool) (items : List QueryFile.Item) :
    Except (Journal × QueryError) Journal :=
  items.foldlM (visit v json)
    { lines := (Entry.info ("Checking " ++ toString items.length ++ " queries") []).shown v }

end Journal

/-- Statistics are told once, whether the level shows them or they are asked for. -/
def closingLines (v : Verbosity) (asked : Bool) (statistics : List (String × Value)) :
    List String :=
  (Entry.statistics statistics).shown v ++
    if asked && !v.shows .verbose then "" :: statisticLines statistics else []

def level (s : Settings) : Except CheckError Verbosity :=
  match s.debugLevel with
  | none => .error .noDebugLevel
  | some n => .ok (.resolve s.output n)

/-- The queries are had before the level is found, and both before anything is written. -/
def check (s : Settings) (stored : String → Stored) : Outcome :=
  match do return (← items s stored, ← level s) with
  | .error e => ⟨2, "", "Error: " ++ e.message ++ "\n"⟩
  | .ok (items, v) =>
    match Journal.ofItems v s.json items with
    | .error (j, e) => ⟨2, unlines j.lines, "Error: " ++ e.report ++ "\n"⟩
    | .ok j =>
      let statistics := closingLines v s.stats (j.tally.statistics items.length)
      ⟨if j.tally.rejected = 0 then 0 else 1, unlines (j.lines ++ statistics), ""⟩

/-- What the program does with its arguments; `stored` tells what is found at a path. -/
def run (arguments : List String) (stored : String → Stored) : Outcome :=
  match Settings.parse arguments with
  | .ok s => check s stored
  | .error .help => ⟨0, unlines helpLines, ""⟩
  | .error .version => ⟨0, unlines [versionLine], ""⟩
  | .error (.usage e) => ⟨2, "", unlines e.lines⟩

end TemporalQuery.CommandLine
