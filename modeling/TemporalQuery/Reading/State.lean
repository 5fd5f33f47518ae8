import TemporalQuery.Reading.Body
import TemporalQuery.Failure

/-!
# Reading a query

A query is read a token at a time. `State.advance` says which tokens may come next; `State.refusal`
and `State.endFailure` say why another token, or the end, may not.

Two mistakes are told only after the next token, which must be one that could follow: a run bound
over another letter than `t`, and a modality symbol in place of a name.
-/

namespace TemporalQuery.Reading

inductive BoundLetter
  | word (w : String)
  | hash
  deriving DecidableEq

inductive BoundPart
  | opened
  | lettered (l : BoundLetter)
  | related (l : BoundLetter)
  | measured (l : BoundLetter) (max : Nat)
  deriving DecidableEq

inductive State
  /-- At most a quantifier and a modality were read. -/
  | heading (q : Option Quantifier) (m : Option Modality)
  /-- Inside a run bound that opened at `start`. -/
  | bound (q : Option Quantifier) (m : Option Modality) (start : Nat) (part : BoundPart)
  /-- After a run bound over a letter that is none. -/
  | misnamed (word : String) (start : Nat)
  | body (q : Option Quantifier) (m : Option Modality) (b : Option Bound) (body : Body)
  deriving DecidableEq

namespace BoundPart

/-- One token inside a run bound that does not close it. -/
def advance (part : BoundPart) (t : Token) : Option BoundPart :=
  match part, t with
  | opened, .ident w => some (lettered (.word w))
  | opened, .hash => some (lettered .hash)
  | lettered l, .relation .le _ => some (related l)
  | related l, .int n => some (measured l n)
  | _, _ => none

end BoundPart

namespace State

def start : State := heading none none

def enter (q : Option Quantifier) (m : Option Modality) (t : Token) (index : Nat) : Option State :=
  (Body.start.step t index).map (body q m none)

def advance (s : State) (t : Token) (index : Nat) : Option State :=
  match s with
  | heading q m =>
    match t with
    | .quantifier k _ => if q = none ∧ m = none then some (heading (some k) none) else enter q m t index
    | .modality k _ => if m = none then some (heading q (some k)) else enter q m t index
    | .openBracket => some (bound q m index .opened)
    | _ => enter q m t index
  | bound q m start part =>
    match part, t with
    | .measured .hash n, .closeBracket => some (body q m (some (.steps n)) Body.start)
    | .measured (.word w) n, .closeBracket =>
      if w = "t" then some (body q m (some (.time n)) Body.start) else some (misnamed w start)
    | _, _ => (part.advance t).map (bound q m start)
  | misnamed .. => none
  | body q m b c => (c.step t index).map (body q m b)

def finish? : State → Option Query
  | body q m b c => c.finish?.map (⟨·, q, m, b⟩)
  | _ => none

def followsName : Token → Bool
  | .arith _ | .relation .. | .connective .. | .closeParen => true
  | _ => false

def refusal (s : State) (t : Token) (index : Nat) : Failure :=
  let unexpected := ⟨if s.finish?.isSome then .trailing t else .unexpected t, index⟩
  match s with
  | misnamed w start =>
    if (Body.start.step t index).isSome then ⟨.boundLetter w, start⟩ else unexpected
  | body _ _ _ (.symbol spelling at_) =>
    if followsName t then ⟨.symbolForName spelling, at_⟩ else unexpected
  | _ => unexpected

def step (s : State) (l : Lexeme) : Except Failure State :=
  match s.advance l.token l.start with
  | some s => .ok s
  | none => .error (s.refusal l.token l.start)

/-- Why the text cannot end here, at offset `length`. -/
def endFailure (s : State) (length : Nat) : Failure :=
  match s with
  | body _ _ _ (.symbol spelling index) => ⟨.symbolForName spelling, index⟩
  | body _ _ _ c =>
    match c.innermost? with
    | some index => ⟨.unclosedParen, index⟩
    | none => ⟨.unexpectedEnd, length⟩
  | _ => ⟨.unexpectedEnd, length⟩

def finish (s : State) (length : Nat) : Except Failure Query :=
  match s.finish? with
  | some q => .ok q
  | none => .error (s.endFailure length)

def run (s : State) (lexemes : List Lexeme) : Except Failure State := lexemes.foldlM step s

end State

end TemporalQuery.Reading
