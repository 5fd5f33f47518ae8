import TemporalQuery.Syntax.Operator

/-!
# Tokens

A token holds its meaning and, where several spellings have one meaning, its spelling. `keyword?`
says which words are reserved.
-/

namespace TemporalQuery

inductive Token
  | int (value : Nat)
  | ident (name : String)
  /-- A name between quotes, which never is a keyword. -/
  | quoted (name : String)
  | quantifier (q : Quantifier) (spelling : String)
  | modality (m : Modality) (spelling : String)
  | constant (c : Constant) (spelling : String)
  | unary (op : UnaryOp) (spelling : String)
  | connective (op : Connective) (spelling : String)
  | relation (op : RelOp) (spelling : String)
  | arith (op : ArithOp)
  | openParen
  | closeParen
  | openBracket
  | closeBracket
  | hash
  deriving DecidableEq

namespace Token

/-- Lower case as far as a keyword can tell: ASCII letters, and the Kelvin sign, which lowers to `k`.
No other character lowers to a letter of a keyword alone. -/
def foldChar (c : Char) : Char := if c = '\u212a' then 'k' else c.toLower

def fold (word : String) : String := String.ofList (word.toList.map foldChar)

/-- Keywords in exactly this spelling. -/
def exactKeywords : List (String × (String → Token)) :=
  [("A", quantifier .universal), ("E", quantifier .existential), ("F", modality .eventually),
    ("G", modality .globally)]

/-- Keywords in any mix of cases. -/
def foldedKeywords : List (String × (String → Token)) :=
  [("true", constant .truth), ("false", constant .falsity), ("deadlock", constant .deadlock),
    ("and", connective .conjunction), ("or", connective .disjunction),
    ("until", connective .strongUntil), ("not", unary .negation), ("next", unary .nextState),
    ("p", quantifier .probability), ("pr", quantifier .probabilityR)]

def keyword? (word : String) : Option Token :=
  ((exactKeywords.lookup word).or (foldedKeywords.lookup (fold word))).map (· word)

/-- Words that open a query. Inside a condition they are names. -/
def isOpening : Token → Bool
  | quantifier .. | modality .. => true
  | _ => false

/-- Whether `word` is read as something else than a name even inside a condition. -/
def isReserved (word : String) : Bool := (keyword? word).any (!·.isOpening)

def label : Token → String
  | int _ => "INT"
  | ident _ => "IDENT"
  | quoted _ => "QUOTED"
  | quantifier .probabilityR _ => "PROBABILITY"
  | quantifier q _ => q.label
  | modality m _ => m.label
  | constant .truth _ => "TRUE"
  | constant .falsity _ => "FALSE"
  | constant .deadlock _ => "DEADLOCK"
  | unary .negation _ => "NOT"
  | unary .nextState _ => "NEXT"
  | connective op _ => op.label
  | relation op _ => op.label
  | arith .add => "PLUS"
  | arith .subtract => "MINUS"
  | arith .multiply => "TIMES"
  | arith .modulo => "MOD"
  | arith .power => "POW"
  | openParen => "LPAREN"
  | closeParen => "RPAREN"
  | openBracket => "LBRACKET"
  | closeBracket => "RBRACKET"
  | hash => "HASH"

/-- What the token says: the spelling, a name without its quotes, an integer in decimal. -/
def text : Token → String
  | int n => toString n
  | ident s | quoted s => s
  | quantifier _ s | modality _ s | constant _ s | unary _ s | connective _ s | relation _ s => s
  | arith op => op.symbol
  | openParen => "("
  | closeParen => ")"
  | openBracket => "["
  | closeBracket => "]"
  | hash => "#"

def described (t : Token) : String :=
  match t with
  | openParen | closeParen | openBracket | closeBracket => "'" ++ t.text ++ "'"
  | _ => "'" ++ t.text ++ "' (type: " ++ t.label ++ ")"

end Token

end TemporalQuery
