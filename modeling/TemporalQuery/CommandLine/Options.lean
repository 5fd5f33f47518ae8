import TemporalQuery.CommandLine.Path
import TemporalQuery.CommandLine.Usage
import TemporalQuery.Text.Integer

/-!
# Options

`Settings.parse` reads the arguments of the command line. Every argument is first marked as an
option or a word; then they are taken from left to right, and only the first run of words holds
queries.
-/

namespace TemporalQuery.CommandLine

structure Settings where
  queries : List String := []
  /-- Normalized paths; `none` where the option was given without one. -/
  files : List (Option String) := []
  output : String := "normal"
  /-- `none` if the option was given without a number. -/
  debugLevel : Option Nat := some 0
  json : Bool := false
  stats : Bool := false
  deriving DecidableEq

inductive Stop
  | help
  | version
  | usage (e : UsageError)
  deriving DecidableEq

structure Found where
  switch : Switch
  isShort : Bool
  value : Option String := none
  deriving DecidableEq

inductive Mark
  | word
  | option (f : Found)
  | unknownOption
  deriving DecidableEq

/-- The text before the first `=` and, if there is one, the text after it. -/
def splitSign (cs : List Char) : String × Option String :=
  let before := cs.takeWhile (· ≠ '=')
  match cs.drop before.length with
  | [] => (String.ofList before, none)
  | _ :: after => (String.ofList before, some (String.ofList after))

/-- A negative number, which is a word although it starts with a dash. A line feed may end it. -/
def isNegativeNumber (cs : List Char) : Bool :=
  let isDecimal (c : Char) : Bool := (Text.decimalDigit? c).isSome
  let body := if cs.getLast? = some '\n' then cs.dropLast else cs
  match body with
  | '-' :: ds =>
    let whole := ds.takeWhile isDecimal
    match ds.drop whole.length with
    | [] => !whole.isEmpty
    | '.' :: fraction => !fraction.isEmpty && fraction.all isDecimal
    | _ => false
  | _ => false

def markUnknown (cs : List Char) : Mark :=
  if isNegativeNumber cs || ' ' ∈ cs then .word else .unknownOption

/-- An argument that starts with two dashes. A long switch may be cut short. -/
def markLong (argument : String) : Except UsageError Mark :=
  let (name, value) := splitSign argument.toList
  match Switch.ofLong? name with
  | some s => .ok (.option ⟨s, false, value⟩)
  | none =>
    match Switch.all.filter fun s => name.toList.isPrefixOf s.long.toList with
    | [] => .ok (markUnknown argument.toList)
    | [s] => .ok (.option ⟨s, false, value⟩)
    | candidates => .error (.ambiguous argument candidates)

/-- An argument that starts with a single dash and the character `c`. -/
def markShort (c : Char) (cs : List Char) : Mark :=
  match Switch.ofShort? c, cs with
  | some s, [] => .option ⟨s, true, none⟩
  | some s, '=' :: value => .option ⟨s, true, some (String.ofList value)⟩
  | some s, value => .option ⟨s, true, some (String.ofList value)⟩
  | none, _ => markUnknown ('-' :: c :: cs)

def mark (argument : String) : Except UsageError Mark :=
  match argument.toList with
  | '-' :: '-' :: _ => markLong argument
  | '-' :: c :: cs => .ok (markShort c cs)
  | _ => .ok .word

/-- Marks all arguments; after two dashes alone all are words. -/
def markAll : List String → Except UsageError (List (String × Mark))
  | [] => .ok []
  | a :: as =>
    if a = "--" then .ok ((a :: as).map (·, .word))
    else do
      let m ← mark a
      return (a, m) :: (← markAll as)

/-- The switches of one argument: flags, then a switch that may still need a value. -/
structure Cluster where
  flags : List Switch
  last : Switch
  value : Option String
  deriving DecidableEq

/-- Reads the value of a flag as more short switches. An equals sign inside it is no separator: it
belongs to the value of the switch before it. -/
def clusterFrom (s : Switch) (value : List Char) : Except UsageError Cluster :=
  if s.takesValue then .ok ⟨[], s, some (String.ofList value)⟩
  else match value with
    | [] => .error (.ignoredValue s "")
    | c :: cs =>
      match Switch.ofShort? c with
      | none => .error (.ignoredValue s (String.ofList (c :: cs)))
      | some next =>
        if cs.isEmpty then .ok ⟨[s], next, none⟩
        else do
          let more ← clusterFrom next cs
          return { more with flags := s :: more.flags }

def Found.cluster (f : Found) : Except UsageError Cluster :=
  match f.value with
  | none => .ok ⟨[], f.switch, none⟩
  | some value =>
    if f.switch.takesValue then .ok ⟨[], f.switch, some value⟩
    else if f.isShort then clusterFrom f.switch value.toList
    else .error (.ignoredValue f.switch value)

def outputWords : List String := ["silent", "normal", "verbose"]

/-- The value that is given by a text; two dashes alone give none. -/
def given? (text : String) : Option String := if text = "--" then none else some text

def Settings.apply (s : Settings) (switch : Switch) (text : String) : Except Stop Settings :=
  match switch with
  | .help => .error .help
  | .version => .error .version
  | .json => .ok { s with json := true }
  | .stats => .ok { s with stats := true }
  | .file => .ok { s with files := s.files ++ [(given? text).map normalizePath] }
  | .output =>
    match given? text with
    | none => .ok { s with output := "normal" }
    | some value =>
      if value ∈ outputWords then .ok { s with output := value }
      else .error (.usage (.noChoice .output (Text.quoted value) (outputWords.map Text.quoted)))
  | .debug =>
    match given? text with
    | none => .ok { s with debugLevel := none }
    | some value =>
      match Text.parseInt? value with
      | none => .error (.usage (.notAnInt .debug value))
      | some n =>
        if 0 ≤ n ∧ n ≤ 3 then .ok { s with debugLevel := some n.toNat }
        else .error (.usage (.noChoice .debug (toString n) ["0", "1", "2", "3"]))

structure Progress where
  settings : Settings := {}
  /-- Whether a run of words was taken for the queries. -/
  hasQueries : Bool := false
  extras : List String := []

namespace Progress

/-- A run of words; two dashes alone, the first time, only mark that no options follow. -/
def takeWords (p : Progress) (words : List String) : Progress :=
  if words.isEmpty then p
  else if p.hasQueries then { p with extras := p.extras ++ words }
  else { p with settings.queries := words.erase "--", hasQueries := true }

def applyAll (p : Progress) (switches : List (Switch × String)) : Except Stop Progress := do
  let settings ← switches.foldlM (fun s (switch, value) => s.apply switch value) p.settings
  return { p with settings }

/-- Takes an option; `following` is the next argument if it is a word that may be a value. Tells
whether that was used. -/
def takeOption (p : Progress) (f : Found) (following : Option String) :
    Except Stop (Progress × Bool) := do
  let c ← f.cluster.mapError .usage
  let flags := c.flags.map (·, "")
  match c.value with
  | some value => return (← p.applyAll (flags ++ [(c.last, value)]), false)
  | none =>
    if c.last.takesValue then
      match following with
      | some value => return (← p.applyAll (flags ++ [(c.last, value)]), true)
      | none => throw (.usage (.noValue c.last))
    else return (← p.applyAll (flags ++ [(c.last, "")]), false)

end Progress

/-- The next argument as the value of an option: a word other than two dashes alone. -/
def valueOf : List (String × Mark) → Option String
  | (a, .word) :: _ => if a = "--" then none else some a
  | _ => none

/-- Takes the marked arguments; `words` is the run of words just before them. -/
def takeAll (p : Progress) (words : List String) : List (String × Mark) → Except Stop Progress
  | [] => .ok (p.takeWords words)
  | (a, .word) :: as => takeAll p (words ++ [a]) as
  | (a, .unknownOption) :: as =>
    let p := p.takeWords words
    takeAll { p with extras := p.extras ++ [a] } [] as
  | (_, .option f) :: as => do
    let (p, used) ← (p.takeWords words).takeOption f (valueOf as)
    takeAll p [] (as.drop (if used then 1 else 0))
termination_by as => as.length
decreasing_by all_goals simp only [List.length_cons, List.length_drop]; omega

def Settings.parse (arguments : List String) : Except Stop Settings := do
  let marked ← (markAll arguments).mapError .usage
  let p ← takeAll {} [] marked
  if p.extras.isEmpty then return p.settings
  else throw (.usage (.unrecognized p.extras))

end TemporalQuery.CommandLine
