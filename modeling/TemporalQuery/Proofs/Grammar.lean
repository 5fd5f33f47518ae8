import TemporalQuery.Lexeme
import TemporalQuery.Syntax.Query

/-!
# The grammar of queries

Parse trees over tokens. A tree knows its tokens and what it means; `Derivation ts` holds the
readings of `ts` as a query.
-/

namespace TemporalQuery

/-- The name that the token is where a primary expression is due. -/
def Token.name? : Token → Option String
  | ident x | quoted x | quantifier _ x => some x
  | modality m x => if x = m.symbol then some x else none
  | _ => none

/-- A chain is made of atoms, an atom of a primary and at most one operator in front of it. -/
inductive Layer
  | primary
  | atom
  | chain

inductive ExprTree : Layer → Type
  | int (n : Nat) : ExprTree .primary
  | name (t : Token) (x : String) (h : t.name? = some x) : ExprTree .primary
  | group (inner : ExprTree .chain) : ExprTree .primary
  | minus (operand : ExprTree .primary) : ExprTree .atom
  | plain (operand : ExprTree .primary) : ExprTree .atom
  | single (a : ExprTree .atom) : ExprTree .chain
  | link (left : ExprTree .chain) (op : ArithOp) (right : ExprTree .atom) : ExprTree .chain

namespace ExprTree

def tokens {l : Layer} : ExprTree l → List Token
  | int n => [.int n]
  | name t _ _ => [t]
  | group e => .openParen :: (e.tokens ++ [.closeParen])
  | minus e => .arith .subtract :: e.tokens
  | plain e => e.tokens
  | single a => a.tokens
  | link e op a => e.tokens ++ .arith op :: a.tokens

def expr {l : Layer} : ExprTree l → Expr
  | int n => .int n
  | name _ x _ => .name x
  | group e => .group e.expr
  | minus e => .minus e.expr
  | plain e => e.expr
  | single a => a.expr
  | link e op a => .binary op e.expr a.expr

theorem tokens_ne_nil {l : Layer} (t : ExprTree l) : t.tokens ≠ [] := by
  induction t <;> simp_all [tokens]

theorem openBracket_notMem {l : Layer} (t : ExprTree l) : .openBracket ∉ t.tokens := by
  induction t with
  | name t x h =>
    intro mem
    rw [← List.mem_singleton.mp mem] at h
    exact absurd h nofun
  | _ => simp_all [tokens]

end ExprTree

inductive CondTree : Layer → Type
  | constant (k : Constant) (spelling : String) : CondTree .primary
  | bare (e : ExprTree .chain) : CondTree .primary
  | compare (left : ExprTree .chain) (op : RelOp) (spelling : String) (right : ExprTree .chain) :
      CondTree .primary
  | group (inner : CondTree .chain) : CondTree .primary
  | unary (op : UnaryOp) (spelling : String) (operand : CondTree .primary) : CondTree .atom
  | plain (operand : CondTree .primary) : CondTree .atom
  | single (a : CondTree .atom) : CondTree .chain
  | link (left : CondTree .chain) (op : Connective) (spelling : String) (right : CondTree .atom) :
      CondTree .chain

def Condition.isBare : Condition → Bool
  | bare _ => true
  | _ => false

namespace CondTree

def tokens {l : Layer} : CondTree l → List Token
  | constant k s => [.constant k s]
  | bare e => e.tokens
  | compare e op s e' => e.tokens ++ .relation op s :: e'.tokens
  | group c => .openParen :: (c.tokens ++ [.closeParen])
  | unary op s c => .unary op s :: c.tokens
  | plain c => c.tokens
  | single a => a.tokens
  | link c op s a => c.tokens ++ .connective op s :: a.tokens

def cond {l : Layer} : CondTree l → Condition
  | constant k _ => .constant k
  | bare e => .bare e.expr
  | compare e op _ e' => .compare e.expr op e'.expr
  | group c => .group c.cond
  | unary op _ c => .unary op c.cond
  | plain c => c.cond
  | single a => a.cond
  | link c op _ a => .binary op c.cond a.cond

/-- Parentheses around a bare expression are part of the expression, never of a condition. -/
def Settled {l : Layer} : CondTree l → Prop
  | constant .. | bare _ | compare .. => True
  | group c => ¬ c.cond.isBare ∧ c.Settled
  | unary _ _ c => c.Settled
  | plain c => c.Settled
  | single a => a.Settled
  | link c _ _ a => c.Settled ∧ a.Settled

theorem tokens_ne_nil {l : Layer} (t : CondTree l) : t.tokens ≠ [] := by
  induction t <;> simp_all [tokens, ExprTree.tokens_ne_nil]

theorem openBracket_notMem {l : Layer} (t : CondTree l) : .openBracket ∉ t.tokens := by
  induction t <;> simp_all [tokens, ExprTree.openBracket_notMem]

end CondTree

/-! ### Headings -/

/-- The first token if it is one that `make` makes, else nothing. -/
inductive HeadSpan {α : Type} (make : α → String → Token) (rest : List Token) :
    List Token → Option α → Prop
  | present (a : α) (spelling : String) : HeadSpan make rest [make a spelling] (some a)
  | absent (h : ∀ a spelling, rest.head? ≠ some (make a spelling)) : HeadSpan make rest [] none

abbrev QuantifierSpan : List Token → List Token → Option Quantifier → Prop :=
  HeadSpan Token.quantifier

abbrev ModalitySpan : List Token → List Token → Option Modality → Prop := HeadSpan Token.modality

/-- The bound is a whole pair of brackets if the next token opens one, else nothing. -/
inductive BoundSpan (rest : List Token) : List Token → Option Bound → Prop
  | time (spelling : String) (n : Nat) :
      BoundSpan rest [.openBracket, .ident "t", .relation .le spelling, .int n, .closeBracket]
        (some (.time n))
  | steps (spelling : String) (n : Nat) :
      BoundSpan rest [.openBracket, .hash, .relation .le spelling, .int n, .closeBracket]
        (some (.steps n))
  | absent (h : rest.head? ≠ some .openBracket) : BoundSpan rest [] none

theorem HeadSpan.eq_nil {α : Type} {make : α → String → Token} {rest ts : List Token}
    (h : HeadSpan make rest ts none) : ts = [] := by
  cases h with
  | absent none => rfl

theorem HeadSpan.head?_ne {α : Type} {make : α → String → Token} {rest ts : List Token}
    (h : HeadSpan make rest ts none) (a : α) (spelling : String) :
    rest.head? ≠ some (make a spelling) := by
  cases h with
  | absent none => exact none a spelling

theorem BoundSpan.eq_nil {rest ts : List Token} (h : BoundSpan rest ts none) : ts = [] := by
  cases h with
  | absent none => rfl

@[ext]
structure Derivation (ts : List Token) where
  quantifierTokens : List Token
  modalityTokens : List Token
  boundTokens : List Token
  body : CondTree .chain
  quantifier : Option Quantifier
  modality : Option Modality
  bound : Option Bound
  split : ts = quantifierTokens ++ (modalityTokens ++ (boundTokens ++ body.tokens))
  quantifierSpan :
    QuantifierSpan (modalityTokens ++ (boundTokens ++ body.tokens)) quantifierTokens quantifier
  modalitySpan : ModalitySpan (boundTokens ++ body.tokens) modalityTokens modality
  boundSpan : BoundSpan body.tokens boundTokens bound
  settled : body.Settled

def Derivation.query {ts : List Token} (d : Derivation ts) : Query :=
  ⟨d.body.cond, d.quantifier, d.modality, d.bound⟩

def Lexed.tokens (lexed : Lexed) : List Token := lexed.lexemes.map (·.token)

end TemporalQuery
