import TemporalQuery.Text.Quoted

/-!
# Usage

The options of the command line, the texts about them, and the errors of using them wrongly.
-/

namespace TemporalQuery.CommandLine

inductive Switch
  | help
  | file
  | output
  | debug
  | json
  | stats
  | version
  deriving DecidableEq

namespace Switch

def all : List Switch := [help, file, output, debug, json, stats, version]

def short? : Switch → Option Char
  | help => some 'h'
  | file => some 'f'
  | output => some 'o'
  | debug => some 'd'
  | json | stats | version => none

def long : Switch → String
  | help => "--help"
  | file => "--file"
  | output => "--output"
  | debug => "--debug"
  | json => "--json"
  | stats => "--stats"
  | version => "--version"

def takesValue : Switch → Bool
  | file | output | debug => true
  | help | json | stats | version => false

def label (s : Switch) : String :=
  match s.short? with
  | some c => "-" ++ String.singleton c ++ "/" ++ s.long
  | none => s.long

def ofShort? (c : Char) : Option Switch := all.find? (·.short? = some c)

def ofLong? (s : String) : Option Switch := all.find? (·.long = s)

end Switch

inductive UsageError
  | ambiguous (argument : String) (candidates : List Switch)
  | noValue (s : Switch)
  | ignoredValue (s : Switch) (value : String)
  | notAnInt (s : Switch) (value : String)
  | noChoice (s : Switch) (shown : String) (choices : List String)
  | unrecognized (arguments : List String)
  deriving DecidableEq

def UsageError.message : UsageError → String
  | ambiguous argument candidates =>
    "ambiguous option: " ++ argument ++ " could match " ++
      ", ".intercalate (candidates.map (·.long))
  | noValue s => "argument " ++ s.label ++ ": expected one argument"
  | ignoredValue s value =>
    "argument " ++ s.label ++ ": ignored explicit argument " ++ Text.quoted value
  | notAnInt s value => "argument " ++ s.label ++ ": invalid int value: " ++ Text.quoted value
  | noChoice s shown choices =>
    "argument " ++ s.label ++ ": invalid choice: " ++ shown ++ " (choose from " ++
      ", ".intercalate choices ++ ")"
  | unrecognized arguments => "unrecognized arguments: " ++ " ".intercalate arguments

def programName : String := "mcquery"

def versionLine : String := programName ++ " 0.1.0"

def usageLines : List String :=
  ["usage: mcquery [-h] [-f FILE] [-o \x7bsilent,normal,verbose\x7d] [-d \x7b0,1,2,3\x7d]",
    "               [--json] [--stats] [--version]",
    "               [QUERY ...]"]

def helpLines : List String :=
  usageLines ++ ["",
    "MCQUERY: Model-Checking QUERY parser - Check model-checking queries and print",
    "their syntax trees",
    "",
    "positional arguments:",
    "  QUERY                 Query text, e.g. 'E F [t<=100] x > 5'",
    "",
    "options:",
    "  -h, --help            show this help message and exit",
    "  -f FILE, --file FILE  Path to a query file (.q), one query per line; may be",
    "                        repeated",
    "  -o \x7bsilent,normal,verbose\x7d, --output \x7bsilent,normal,verbose\x7d",
    "                        Output level (default: normal)",
    "  -d \x7b0,1,2,3\x7d, --debug \x7b0,1,2,3\x7d",
    "                        Debug level 0-3 (default: 0)",
    "  --json                Print the syntax tree of each accepted query as JSON",
    "  --stats               Print statistics after checking",
    "  --version             show program's version number and exit"]

def UsageError.lines (e : UsageError) : List String :=
  usageLines ++ [programName ++ ": error: " ++ e.message]

end TemporalQuery.CommandLine
