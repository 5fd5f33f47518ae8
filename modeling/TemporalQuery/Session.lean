import TemporalQuery.Listing
import TemporalQuery.Recipe
import TemporalQuery.Transform.Dual
import TemporalQuery.Transform.Simplify

/-!
# Sessions

A session works on one query, one condition and a store of saved conditions. A step that fails
leaves the session as it was (`Session.run`).
-/

namespace TemporalQuery

structure Session where
  query : Option Query := none
  condition : Option Condition := none
  /-- The last saved condition of a name comes first. -/
  saved : List (String × Option Condition) := []

namespace Session

inductive Step
  | parse (text : String)
  /-- Reads the canonical text of the query again. -/
  | reparse
  | asModality (symbol : Value)
  | asQuantifier (symbol : Value)
  | build (r : Recipe)
  | load (name : String)
  | save (name : String)
  | negate
  | simplify
  | unary (op : UnaryOp)
  | group
  | combine (op : Connective) (name : String)
  /-- A query over the condition; a part that is not given is kept from the old query. -/
  | wrap (quantifier modality bound : Option Recipe)
  | equal (name : String)
  | names
  | check

inductive Answer
  | equal (b : Bool)
  | names (xs : List String)
  | check (isPure containsUntil : Bool) (subformulas : Nat)

inductive StepError
  | build (e : BuildError)
  | dual (e : DualError)
  | unsaved (name : String)
  /-- The step needs a query or a condition and there is none to take the part from. -/
  | absent (part : String)

def StepError.message : StepError → String
  | build e => e.message
  | dual e => e.message
  | unsaved name => Text.quoted name
  | absent part => "'NoneType' object has no attribute " ++ Text.quoted part

/-- A query becomes the current one together with its condition. -/
def adopt (s : Session) (q : Query) : Session :=
  { s with query := some q, condition := some q.condition }

def readInto (s : Session) (text : String) : Except StepError Session :=
  match Query.parse text with
  | .ok q => .ok (s.adopt q)
  | .error failure => .error (.build (.unreadable text failure))

def load? (s : Session) (name : String) : Except StepError (Option Condition) :=
  match s.saved.lookup name with
  | some c => .ok c
  | none => .error (.unsaved name)

/-- The condition, or an error if there is none. -/
def require (c : Option Condition) (part : String) : Except StepError Condition :=
  match c with
  | some c => .ok c
  | none => .error (.absent part)

def mapCondition (s : Session) (f : Condition → Condition) : Except StepError Session := do
  return { s with condition := some (f (← require s.condition "to_dict")) }

/-- Converts the query; `part` is what the conversion asks for first. -/
def convert (s : Session) (part : String) (f : Query → Except DualError Query) :
    Except StepError Session := do
  let some q := s.query | throw (.absent part)
  return s.adopt (← (f q).mapError .dual)

/-- A part of the query to be wrapped: the one given, or else the old one. -/
def givenOr {α : Type} (given : Option Recipe) (old : Option α) (value : α → Value) :
    Except StepError Value :=
  match given with
  | some r => r.build.mapError .build
  | none => .ok (old.elim .none value)

def wrapped (s : Session) (quantifier modality bound : Option Recipe) :
    Except StepError Session := do
  let k ← givenOr quantifier (s.query.bind (·.quantifier)) .quantifier
  let m ← givenOr modality (s.query.bind (·.modality)) .modality
  let b ← givenOr bound (s.query.bind (·.bound)) .bound
  let q ← (Query.ofValues (s.condition.elim .none .condition) k m b).mapError .build
  return { s with query := some q }

def change (s : Session) : Step → Except StepError Session
  | .parse text => s.readInto text
  | .reparse => s.readInto (Text.optional (s.query.map (·.text)))
  | .asModality symbol => do
    let m ← (Modality.ofValue symbol).mapError .build
    s.convert "modality" (·.withModality m)
  | .asQuantifier symbol => do
    let k ← (Quantifier.ofValue symbol).mapError .build
    if k.dual? = none then throw (.dual (.noTarget k))
    s.convert "quantifier" (·.withQuantifier k)
  | .build r => do
    match ← r.build.mapError .build with
    | .none => return { s with condition := none }
    | v => return { s with condition := some (← (v.toCondition "condition").mapError .build) }
  | .load name => return { s with condition := ← s.load? name }
  | .save name => return { s with saved := (name, s.condition) :: s.saved }
  | .negate => s.mapCondition (·.negate)
  | .simplify => return { s with condition := s.condition.map (·.simplify) }
  | .unary op => s.mapCondition (.unary op)
  | .group => s.mapCondition .group
  | .combine op name => do
    let right ← s.load? name
    let left ← require s.condition "to_dict"
    return { s with condition := some (.binary op left (← require right "to_dict")) }
  | .wrap quantifier modality bound => s.wrapped quantifier modality bound
  | .equal _ | .names | .check => return s

def answer (s : Session) : Step → Except StepError (Option Answer)
  | .equal name => return some (.equal (s.condition = (← s.load? name)))
  | .names => do
    let some q := s.query | throw (.absent "names")
    return some (.names (distinctNames q.names))
  | .check => do
    let c ← require s.condition "subformulas"
    return some (.check c.isPure c.containsUntil c.subformulas.eraseDups.length)
  | _ => return none

def step (s : Session) (step : Step) : Except StepError (Session × Option Answer) := do
  return (← s.change step, ← s.answer step)

def run (s : Session) : List Step → List (Except StepError (Session × Option Answer))
  | [] => []
  | step :: steps =>
    match s.step step with
    | .ok (s, a) => .ok (s, a) :: s.run steps
    | .error e => .error e :: s.run steps

end Session

end TemporalQuery
