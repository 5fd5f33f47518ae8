import TemporalQuery.Debug

/-!
# Loose values

What a query can be built from before anything is checked: plain data and parts of queries.
-/

namespace TemporalQuery

inductive Value
  | none
  | bool (b : Bool)
  | int (n : Int)
  /-- A number with a fractional part, as it is shown. -/
  | decimal (shown : String)
  | text (s : String)
  | list (items : List Value)
  | record (entries : List (String × Value))
  | expr (e : Expr)
  | condition (c : Condition)
  | bound (b : Bound)
  | quantifier (q : Quantifier)
  | modality (m : Modality)
  | query (q : Query)

namespace Value

mutual

def debug : Value → String
  | none => "None"
  | bool b => if b then "True" else "False"
  | int n => toString n
  | decimal s => s
  | text s => Text.quoted s
  | list items => "[" ++ ", ".intercalate (debugItems items) ++ "]"
  | record entries => "\x7b" ++ ", ".intercalate (debugEntries entries) ++ "\x7d"
  | expr e => e.debug
  | condition c => c.debug
  | bound b => b.debug
  | quantifier q => q.debug
  | modality m => m.debug
  | query q => q.debug

def debugItems : List Value → List String
  | [] => []
  | v :: vs => v.debug :: debugItems vs

def debugEntries : List (String × Value) → List String
  | [] => []
  | (k, v) :: vs => (Text.quoted k ++ ": " ++ v.debug) :: debugEntries vs

end

/-- The value as a log line shows it: a text as it is. -/
def shown : Value → String
  | text s => s
  | v => v.debug

inductive SetError
  | unhashable (kind : String)
  deriving DecidableEq

def SetError.message : SetError → String
  | unhashable kind => "unhashable type: " ++ Text.quoted kind

/-- Equality of values without items: structural, and a truth value equals its number. -/
def equals : Value → Value → Bool
  | none, none => true
  | bool a, bool b => a = b
  | bool a, int n | int n, bool a => a.toInt = n
  | int m, int n => m = n
  | decimal s, decimal t => s = t
  | text s, text t => s = t
  | expr a, expr b => a.equals b
  | condition a, condition b => a.equals b
  | bound a, bound b => a = b
  | quantifier a, quantifier b => a = b
  | modality a, modality b => a = b
  | query a, query b => a.equals b
  | _, _ => false

/-- Lists and records cannot be members of a set. -/
def setError? : Value → Option SetError
  | list _ => some (.unhashable "list")
  | record _ => some (.unhashable "dict")
  | _ => Option.none

def sameMember (a b : Value) : Except SetError Bool :=
  match a.setError?, b.setError? with
  | some e, _ | Option.none, some e => .error e
  | Option.none, Option.none => .ok (a.equals b)

inductive ChangeError
  | immutableNode (kind : String)
  | frozenField (field : String) (deleting : Bool)
  | noField (kind field : String)
  deriving DecidableEq

def ChangeError.message : ChangeError → String
  | immutableNode kind => kind ++ " nodes are immutable"
  | frozenField field deleting =>
    "cannot " ++ (if deleting then "delete" else "assign to") ++ " field " ++ Text.quoted field
  | noField kind field => Text.quoted kind ++ " object has no attribute " ++ Text.quoted field

def kind : Value → String
  | none => "NoneType"
  | bool _ => "bool"
  | int _ => "int"
  | decimal _ => "float"
  | text _ => "str"
  | list _ => "list"
  | record _ => "dict"
  | quantifier _ => "Quantifier"
  | modality _ => "Modality"
  | expr e => e.nodeKind
  | condition c => c.nodeKind
  | bound b => b.nodeKind
  | query _ => "Query"

/-- Every value is immutable; the error says what an attempt to set or delete `field` meets. -/
def changeError (v : Value) (field : String) (deleting : Bool) : ChangeError :=
  match v with
  | expr e => .immutableNode e.nodeKind
  | condition c => .immutableNode c.nodeKind
  | bound _ | query _ => .frozenField field deleting
  | v => .noField v.kind field

end Value

end TemporalQuery
