import TemporalQuery.Syntax.Query
import TemporalQuery.Token
import TemporalQuery.Text.Digit

/-!
# Canonical text

The one text that each expression, condition, bound and query is written as. Parentheses are added
only where reading would group otherwise, quotes only where a name would not be read as one.
-/

namespace TemporalQuery

namespace Identifier

/-- Whether the bare identifier is never read as a name, at no place of a query. -/
def needsQuotes (x : String) : Bool :=
  (!x.isEmpty && x.toList.all Text.isDigit) || Token.isReserved x

def quoted (x : String) : String := "\"" ++ x ++ "\""

def text (x : String) : String := if needsQuotes x then quoted x else x

end Identifier

def parenthesized (s : String) : String := "(" ++ s ++ ")"

namespace Expr

def text : Expr → String
  | int n => toString n
  | name x => Identifier.text x
  | minus e => "-" ++ if e.isPrimary then e.text else parenthesized e.text
  | group e => parenthesized e.text
  | binary op l r =>
    l.text ++ " " ++ op.symbol ++ " " ++ if r.isBinary then parenthesized r.text else r.text

def leadingName? : Expr → Option String
  | name x => some x
  | binary _ l _ => l.leadingName?
  | _ => none

end Expr

namespace Condition

def text : Condition → String
  | constant k => k.symbol
  | bare e => e.text
  | compare l op r => l.text ++ " " ++ op.symbol ++ " " ++ r.text
  | unary op c => op.symbol ++ if c.isPrimary then c.text else parenthesized c.text
  | group c => parenthesized c.text
  | binary op l r =>
    l.text ++ " " ++ op.symbol ++ " " ++ if r.isBinary then parenthesized r.text else r.text

/-- The name that the text of `c` starts with, if it starts with one. -/
def leadingName? : Condition → Option String
  | bare e => e.leadingName?
  | compare l _ _ => l.leadingName?
  | binary _ l _ => l.leadingName?
  | _ => none

end Condition

def Bound.text : Bound → String
  | time n => "[t<=" ++ toString n ++ "]"
  | steps n => "[#<=" ++ toString n ++ "]"

namespace Query

/-- Whether the bare word `x` at the start of the condition would be read as part of the heading. -/
def readsAsHeading (q : Query) (x : String) : Bool :=
  match Token.keyword? x with
  | some (.quantifier ..) => q.quantifier = none ∧ q.modality = none ∧ q.bound = none
  | some (.modality ..) => q.modality = none ∧ q.bound = none
  | _ => false

/-- The text of the condition, its first word between quotes if it would be read as heading. -/
def conditionText (q : Query) : String :=
  match q.condition.leadingName? with
  | some x =>
    if q.readsAsHeading x then
      Identifier.quoted x ++ String.ofList (q.condition.text.toList.drop x.length)
    else q.condition.text
  | none => q.condition.text

def text (q : Query) : String :=
  let heading := [q.quantifier.map (·.symbol), q.modality.map (·.symbol), q.bound.map (·.text)]
  " ".intercalate (heading.filterMap id ++ [q.conditionText])

end Query

end TemporalQuery
