import TemporalQuery.Syntax.Query
import TemporalQuery.Token

/-!
# Reading a condition

The part of a condition to the left of the next token, kept as what is still open around it. `step`
takes one token; a modality symbol apart, it is defined exactly where some continuation makes a
condition.

Chains are flat: an operator closes all that stands to its left in the same group. A parenthesis at
the start of a condition may hold an expression or a condition; it is an expression if it closes
around a bare one.
-/

namespace TemporalQuery.Reading

/-- What the next condition is put into: the chain to its left and the operator in front of it. -/
structure CondHole where
  chain : Option (Condition × Connective) := none
  unary : Option UnaryOp := none
  deriving DecidableEq

/-- What the next expression is put into: the chain to its left and the minus sign in front of it. -/
structure ExprHole where
  chain : Option (Expr × ArithOp) := none
  minus : Bool := false
  deriving DecidableEq

/-- An open parenthesis at an offset, and the hole its group goes into. -/
structure Opened (α : Type) where
  hole : α
  index : Nat
  deriving DecidableEq

/-- Where a condition stands; the open groups are innermost first. -/
structure CondPlace where
  groups : List (Opened CondHole) := []
  hole : CondHole := {}
  deriving DecidableEq

/-- Where an expression stands: in which condition, on the right of which relation if any, and inside
which groups that hold expressions only. -/
structure ExprPlace where
  cond : CondPlace
  compared : Option (Expr × RelOp) := none
  groups : List (Opened ExprHole) := []
  deriving DecidableEq

inductive Body
  /-- A primary expression is due and, where nothing but groups is open, a condition may be. -/
  | operand (place : ExprPlace) (hole : ExprHole)
  /-- An expression was read; an operator may extend it. -/
  | expr (place : ExprPlace) (e : Expr)
  /-- A condition was read that no arithmetic or relation can extend. -/
  | cond (groups : List (Opened CondHole)) (c : Condition)
  /-- A modality symbol stands where a name is due. -/
  | symbol (spelling : String) (index : Nat)
  deriving DecidableEq

namespace CondHole

def fill (h : CondHole) (c : Condition) : Condition :=
  let c := match h.unary with
    | some op => .unary op c
    | none => c
  match h.chain with
  | some (left, op) => .binary op left c
  | none => c

end CondHole

namespace ExprHole

def fill (h : ExprHole) (e : Expr) : Expr :=
  let e := if h.minus then .minus e else e
  match h.chain with
  | some (left, op) => .binary op left e
  | none => e

end ExprHole

namespace ExprPlace

/-- Whether an expression that fills `hole` would be the first thing of a condition. -/
def opensCondition (p : ExprPlace) (hole : ExprHole) : Bool :=
  p.compared = none ∧ p.groups = [] ∧ hole = {}

def close (p : ExprPlace) (e : Expr) : Condition :=
  p.cond.hole.fill <| match p.compared with
    | some (left, op) => .compare left op e
    | none => .bare e

def isBare (p : ExprPlace) : Bool := p.cond.hole = {} ∧ p.compared = none

end ExprPlace

namespace Body

/-- The start of a condition in the given groups, to the right of the given chain. -/
def opening (groups : List (Opened CondHole)) (chain : Option (Condition × Connective)) : Body :=
  .operand { cond := { groups, hole := { chain } } } {}

def start : Body := opening [] none

def stepOperand (p : ExprPlace) (hole : ExprHole) (t : Token) (index : Nat) : Option Body :=
  match t with
  | .int n => some (.expr p (hole.fill (.int n)))
  | .ident x | .quoted x => some (.expr p (hole.fill (.name x)))
  | .quantifier _ x => some (.expr p (hole.fill (.name x)))
  | .modality m x =>
    if x = m.symbol then some (.expr p (hole.fill (.name x))) else some (.symbol x index)
  | .arith .subtract => if hole.minus then none else some (.operand p { hole with minus := true })
  | .openParen =>
    if p.opensCondition hole then some (opening (⟨p.cond.hole, index⟩ :: p.cond.groups) none)
    else some (.operand { p with groups := ⟨hole, index⟩ :: p.groups } {})
  | .constant k _ =>
    if p.opensCondition hole then some (.cond p.cond.groups (p.cond.hole.fill (.constant k)))
    else none
  | .unary op _ =>
    if p.opensCondition hole ∧ p.cond.hole.unary = none then
      some (.operand { p with cond.hole.unary := some op } {})
    else none
  | _ => none

def stepExpr (p : ExprPlace) (e : Expr) (t : Token) : Option Body :=
  match t with
  | .arith op => some (.operand p { chain := some (e, op) })
  | .relation op _ =>
    if p.groups = [] ∧ p.compared = none then
      some (.operand { p with compared := some (e, op) } {})
    else none
  | .connective op _ =>
    if p.groups = [] then some (opening p.cond.groups (some (p.close e, op))) else none
  | .closeParen =>
    match p.groups, p.cond.groups with
    | g :: gs, _ => some (.expr { p with groups := gs } (g.hole.fill (.group e)))
    | [], g :: gs =>
      if p.isBare then some (.expr { cond := ⟨gs, g.hole⟩ } (.group e))
      else some (.cond gs (g.hole.fill (.group (p.close e))))
    | [], [] => none
  | _ => none

def stepCond (groups : List (Opened CondHole)) (c : Condition) (t : Token) : Option Body :=
  match t with
  | .connective op _ => some (opening groups (some (c, op)))
  | .closeParen =>
    match groups with
    | g :: gs => some (.cond gs (g.hole.fill (.group c)))
    | [] => none
  | _ => none

def step (b : Body) (t : Token) (index : Nat) : Option Body :=
  match b with
  | operand p hole => stepOperand p hole t index
  | expr p e => stepExpr p e t
  | cond groups c => stepCond groups c t
  | symbol .. => none

def finish? : Body → Option Condition
  | expr p e => if p.groups = [] ∧ p.cond.groups = [] then some (p.close e) else none
  | cond [] c => some c
  | _ => none

def innermost? : Body → Option Nat
  | operand p _ | expr p _ =>
    (p.groups.head?.map (·.index)).or (p.cond.groups.head?.map (·.index))
  | cond groups _ => groups.head?.map (·.index)
  | symbol .. => none

end Body

end TemporalQuery.Reading
