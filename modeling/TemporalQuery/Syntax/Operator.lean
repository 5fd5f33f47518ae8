/-!
# Operators

The operators of the query language, each with the symbol that its canonical form uses.
-/

namespace TemporalQuery

/-- The largest integer a literal or a run bound may hold; values are signed 32-bit. -/
def maxInt : Nat := 2147483647

/-- Binary arithmetic. All operators share one level and associate to the left. -/
inductive ArithOp
  | add
  | subtract
  | multiply
  | modulo
  | power
  deriving DecidableEq

/-- Binary connectives of conditions. All share one level and associate to the left. -/
inductive Connective
  | conjunction
  | disjunction
  /-- The right side holds at some later or equal position, the left side at every one before. -/
  | strongUntil
  | implication
  deriving DecidableEq

/-- Operators that stand in front of one primary condition. -/
inductive UnaryOp
  | negation
  | nextState
  deriving DecidableEq

inductive RelOp
  | eq
  | ne
  | lt
  | le
  | gt
  | ge
  deriving DecidableEq

/-- Conditions without parts; `deadlock` holds in a state with no outgoing transition. -/
inductive Constant
  | truth
  | falsity
  | deadlock
  deriving DecidableEq

/-- Path quantifiers. `P` and `Pr` mean the same and are kept apart, as they are written. -/
inductive Quantifier
  | universal
  | existential
  | probability
  | probabilityR
  deriving DecidableEq

inductive Modality
  | eventually
  | globally
  deriving DecidableEq

namespace ArithOp

def symbol : ArithOp → String
  | add => "+"
  | subtract => "-"
  | multiply => "*"
  | modulo => "%"
  | power => "^"

def label : ArithOp → String
  | add => "ADD"
  | subtract => "SUBTRACT"
  | multiply => "MULTIPLY"
  | modulo => "MODULO"
  | power => "POW"

def nodeKind : ArithOp → String
  | add => "Addition"
  | subtract => "Subtraction"
  | multiply => "Multiplication"
  | modulo => "Modulo"
  | power => "Power"

end ArithOp

namespace Connective

def symbol : Connective → String
  | conjunction => "&"
  | disjunction => "|"
  | strongUntil => "until"
  | implication => "=>"

def label : Connective → String
  | conjunction => "AND"
  | disjunction => "OR"
  | strongUntil => "UNTIL"
  | implication => "IMPLIES"

/-- The word that names the connective in a syntax tree. -/
def word : Connective → String
  | conjunction => "and"
  | disjunction => "or"
  | strongUntil => "until"
  | implication => "implies"

def nodeKind : Connective → String
  | conjunction => "Conjunction"
  | disjunction => "Disjunction"
  | strongUntil => "Until"
  | implication => "Implication"

end Connective

namespace UnaryOp

/-- What is written in front of the operand, with the blank that a word needs. -/
def symbol : UnaryOp → String
  | negation => "!"
  | nextState => "next "

def nodeKind : UnaryOp → String
  | negation => "Negation"
  | nextState => "Next"

end UnaryOp

namespace RelOp

def symbol : RelOp → String
  | eq => "="
  | ne => "!="
  | lt => "<"
  | le => "<="
  | gt => ">"
  | ge => ">="

def label : RelOp → String
  | eq => "EQ"
  | ne => "NE"
  | lt => "LT"
  | le => "LE"
  | gt => "GT"
  | ge => "GE"

def spellings : List (String × RelOp) :=
  [("=", eq), ("==", eq), ("!=", ne), ("/=", ne), ("<", lt), ("<=", le), (">", gt), (">=", ge)]

def ofSymbol? (s : String) : Option RelOp := spellings.lookup s

end RelOp

namespace Constant

def symbol : Constant → String
  | truth => "true"
  | falsity => "false"
  | deadlock => "deadlock"

def nodeKind : Constant → String
  | truth => "TrueConstant"
  | falsity => "FalseConstant"
  | deadlock => "Deadlock"

end Constant

namespace Quantifier

def symbol : Quantifier → String
  | universal => "A"
  | existential => "E"
  | probability => "P"
  | probabilityR => "Pr"

def label : Quantifier → String
  | universal => "ALWAYS"
  | existential => "EXISTS"
  | probability => "PROBABILITY"
  | probabilityR => "PROBABILITY_R"

/-- Reads the canonical symbol only. -/
def ofSymbol? (s : String) : Option Quantifier :=
  [universal, existential, probability, probabilityR].find? (·.symbol = s)

def isProbabilistic : Quantifier → Bool
  | probability | probabilityR => true
  | universal | existential => false

/-- Whether the quantifier is the probabilistic one written with its `r`. -/
def hasExplicitR (q : Quantifier) : Bool := q = probabilityR

/-- `A` and `E` are dual to each other; a probability has no dual. -/
def dual? : Quantifier → Option Quantifier
  | universal => some existential
  | existential => some universal
  | probability | probabilityR => none

end Quantifier

namespace Modality

def symbol : Modality → String
  | eventually => "F"
  | globally => "G"

def label : Modality → String
  | eventually => "FINALLY"
  | globally => "GLOBALLY"

/-- Reads the canonical symbol only. -/
def ofSymbol? (s : String) : Option Modality :=
  [eventually, globally].find? (·.symbol = s)

def dual : Modality → Modality
  | eventually => globally
  | globally => eventually

end Modality

end TemporalQuery
