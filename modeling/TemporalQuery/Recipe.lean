import TemporalQuery.Parse
import TemporalQuery.Value

/-!
# Recipes

A recipe describes a value to be built step by step from loose values. `build` checks every step and
stops at the first that fails; what it builds holds only integers in range and names that are not
empty, apart from recipes that read a text, which hold what reading gives.
-/

namespace TemporalQuery

inductive Recipe
  | raw (v : Value)
  | read (text : String)
  | quantifier (symbol : Value)
  | modality (symbol : Value)
  | int (value : Value)
  | name (identifier : Value)
  | minus (operand : Recipe)
  | groupExpr (inner : Recipe)
  | arith (op : ArithOp) (left right : Recipe)
  | constant (k : Constant)
  /-- Without relation and right side, both `Value.none`, a bare expression. -/
  | compare (left : Recipe) (relation : Value) (right : Recipe)
  | unary (op : UnaryOp) (operand : Recipe)
  | groupCondition (inner : Recipe)
  | connective (op : Connective) (left right : Recipe)
  | time (max : Value)
  | steps (max : Value)
  | query (condition quantifier modality bound : Recipe)

inductive IntPart
  | constant
  | time
  | steps
  deriving DecidableEq

def IntPart.label : IntPart → String
  | constant => "IntConstant value"
  | time => "TimeBound max"
  | steps => "StepsBound max"

inductive BuildError
  | unreadable (text : String) (failure : Failure)
  | notAnInt (part : IntPart) (got : Value)
  | outOfRange (part : IntPart) (got : Int)
  | emptyName
  /-- A name that is no text has no letters to decide its quotes by. -/
  | notText (got : Value)
  | unknownRelation (symbol : Value)
  | halfComparison
  | unknownQuantifier (symbol : Value)
  | unknownModality (symbol : Value)
  | wrongPart (part expected : String) (got : Value)

def BuildError.message : BuildError → String
  | unreadable text failure => (failure.report text).report
  | notAnInt part got => part.label ++ " must be an int, got " ++ got.debug
  | outOfRange part got =>
    part.label ++ " must be in [0, " ++ toString maxInt ++ "], got " ++ toString got
  | emptyName => "Name identifier must not be empty"
  | notText got => Text.quoted got.kind ++ " object has no attribute 'isdigit'"
  | unknownRelation s => s.debug
  | halfComparison => "Comparison needs both relop and right, or neither"
  | unknownQuantifier s => s.debug ++ " is not a valid Quantifier"
  | unknownModality s => s.debug ++ " is not a valid Modality"
  | wrongPart part expected got => part ++ " must be " ++ expected ++ ", got " ++ got.debug

namespace Value

def toInt (v : Value) (part : IntPart) : Except BuildError Nat :=
  match v with
  | int n => if 0 ≤ n ∧ n ≤ maxInt then .ok n.toNat else .error (.outOfRange part n)
  | v => .error (.notAnInt part v)

def toIdentifier : Value → Except BuildError String
  | none | bool false | int 0 | list [] | record [] => .error .emptyName
  | text s => if s.isEmpty then .error .emptyName else .ok s
  | v => .error (.notText v)

def toExpr (part : String) : Value → Except BuildError Expr
  | expr e => .ok e
  | v => .error (.wrongPart part "an Expr" v)

def toCondition (part : String) : Value → Except BuildError Condition
  | condition c => .ok c
  | v => .error (.wrongPart part "a Condition" v)

def toQuantifier? : Value → Except BuildError (Option Quantifier)
  | none => .ok .none
  | quantifier q => .ok q
  | v => .error (.wrongPart "quantifier" "a Quantifier" v)

def toModality? : Value → Except BuildError (Option Modality)
  | none => .ok .none
  | modality m => .ok m
  | v => .error (.wrongPart "modality" "a Modality" v)

def toBound? : Value → Except BuildError (Option Bound)
  | none => .ok .none
  | bound b => .ok b
  | v => .error (.wrongPart "bound" "a TimeBound or StepsBound" v)

end Value

/-- A query from four values, checked in this order. -/
def Query.ofValues (condition quantifier modality bound : Value) : Except BuildError Query := do
  let condition ← condition.toCondition "condition"
  let quantifier ← quantifier.toQuantifier?
  let modality ← modality.toModality?
  let bound ← bound.toBound?
  return { condition, quantifier, modality, bound }

/-- A comparison, or a bare expression if there is neither relation nor right side. -/
def Condition.ofComparison (left : Expr) (op : Option RelOp) (right : Value) :
    Except BuildError Condition :=
  match op, right with
  | none, .none => .ok (.bare left)
  | some op, .expr right => .ok (.compare left op right)
  | some _, .none | none, _ => .error .halfComparison
  | some _, v => .error (.wrongPart "right" "an Expr" v)

def RelOp.ofValue : Value → Except BuildError RelOp
  | .text s =>
    match RelOp.ofSymbol? s with
    | some op => .ok op
    | none => .error (.unknownRelation (.text s))
  | v => .error (.unknownRelation v)

def Quantifier.ofValue : Value → Except BuildError Quantifier
  | .text s =>
    match Quantifier.ofSymbol? s with
    | some q => .ok q
    | none => .error (.unknownQuantifier (.text s))
  | v => .error (.unknownQuantifier v)

def Modality.ofValue : Value → Except BuildError Modality
  | .text s =>
    match Modality.ofSymbol? s with
    | some m => .ok m
    | none => .error (.unknownModality (.text s))
  | v => .error (.unknownModality v)

def RelOp.ofValue? : Value → Except BuildError (Option RelOp)
  | .none => .ok none
  | v => (RelOp.ofValue v).map some

namespace Recipe

def build : Recipe → Except BuildError Value
  | raw v => .ok v
  | read text =>
    match Query.parse text with
    | .ok q => .ok (.query q)
    | .error failure => .error (.unreadable text failure)
  | quantifier v => return .quantifier (← Quantifier.ofValue v)
  | modality v => return .modality (← Modality.ofValue v)
  | int v => return .expr (.int (← v.toInt .constant))
  | name v => return .expr (.name (← v.toIdentifier))
  | minus r => return .expr (.minus (← (← r.build).toExpr "operand"))
  | groupExpr r => return .expr (.group (← (← r.build).toExpr "inner"))
  | arith op l r => do
    let left ← (← l.build).toExpr "left"
    let right ← (← r.build).toExpr "right"
    return .expr (.binary op left right)
  | constant k => .ok (.condition (.constant k))
  | compare l relation r => do
    let left ← (← l.build).toExpr "left"
    let op ← RelOp.ofValue? relation
    let right ← r.build
    return .condition (← Condition.ofComparison left op right)
  | unary op r => return .condition (.unary op (← (← r.build).toCondition "operand"))
  | groupCondition r => return .condition (.group (← (← r.build).toCondition "inner"))
  | connective op l r => do
    let left ← (← l.build).toCondition "left"
    let right ← (← r.build).toCondition "right"
    return .condition (.binary op left right)
  | time v => return .bound (.time (← v.toInt .time))
  | steps v => return .bound (.steps (← v.toInt .steps))
  | query c q m b => do
    let condition ← c.build
    let quantifier ← q.build
    let modality ← m.build
    let bound ← b.build
    return .query (← Query.ofValues condition quantifier modality bound)

end Recipe

end TemporalQuery
