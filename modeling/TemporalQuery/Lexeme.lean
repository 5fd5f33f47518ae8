import TemporalQuery.Token

/-!
# Lexemes

`lex` cuts a text into placed tokens. At each place it takes the longest spelling there; blanks
separate. Where no spelling starts it stops with a fault and keeps the lexemes before it.
-/

namespace TemporalQuery

/-- A token, the line it is on, and the offsets of its first character and of what follows it. -/
structure Lexeme where
  token : Token
  line : Int
  start : Nat
  stop : Nat
  deriving DecidableEq

inductive LexFault
  | unterminatedQuote (quote : Char)
  /-- What stands between the quotes is no name; the text holds both quotes. -/
  | malformedQuote (text : String)
  | strayCharacter (c : Char)
  | intTooLarge (digits : String)
  deriving DecidableEq

/-- The lexemes of a text up to its end or up to the first fault, which comes with its offset. -/
structure Lexed where
  lexemes : List Lexeme
  fault : Option (LexFault × Nat)
  deriving DecidableEq

namespace Lexeme

/-- Characters of words: ASCII letters, digits and the dot. -/
def isWordChar (c : Char) : Bool := c.isAlphanum || c = '.'

def isSkipped (c : Char) : Bool := c = ' ' || c = '\t' || c = '\r'

def decimal (digits : List Char) : Nat := Nat.ofDigitChars 10 digits 0

/-- A word of digits is a number, however many digits it has. A runtime may limit how many it reads at all
(4300 by default) and end the whole run over a longer one, with an error that has no position and exit code 2.
No such limit is modelled: the value alone decides, and if it is too large only its query is rejected. -/
def ofWord (w : List Char) : Except LexFault Token :=
  if w.all Char.isDigit then
    if decimal w ≤ maxInt then .ok (.int (decimal w)) else .error (.intTooLarge (String.ofList w))
  else
    .ok ((Token.keyword? (String.ofList w)).getD (.ident (String.ofList w)))

/-- The longest symbol that starts with `c` and goes on in `cs`, and how much of `cs` it takes. -/
def symbol? (c : Char) (cs : List Char) : Option (Token × Nat) :=
  match c, cs with
  | '=', '>' :: _ => some (.connective .implication "=>", 1)
  | '=', '=' :: _ => some (.relation .eq "==", 1)
  | '=', _ => some (.relation .eq "=", 0)
  | '!', '=' :: _ => some (.relation .ne "!=", 1)
  | '!', _ => some (.unary .negation "!", 0)
  | '/', '=' :: _ => some (.relation .ne "/=", 1)
  | '<', '>' :: _ => some (.modality .eventually "<>", 1)
  | '<', '=' :: _ => some (.relation .le "<=", 1)
  | '<', _ => some (.relation .lt "<", 0)
  | '>', '=' :: _ => some (.relation .ge ">=", 1)
  | '>', _ => some (.relation .gt ">", 0)
  | '&', '&' :: _ => some (.connective .conjunction "&&", 1)
  | '&', _ => some (.connective .conjunction "&", 0)
  | '|', '|' :: _ => some (.connective .disjunction "||", 1)
  | '|', _ => some (.connective .disjunction "|", 0)
  | '[', ']' :: _ => some (.modality .globally "[]", 1)
  | '[', _ => some (.openBracket, 0)
  | ']', _ => some (.closeBracket, 0)
  | '+', _ => some (.arith .add, 0)
  | '-', _ => some (.arith .subtract, 0)
  | '*', _ => some (.arith .multiply, 0)
  | '%', _ => some (.arith .modulo, 0)
  | '^', _ => some (.arith .power, 0)
  | '(', _ => some (.openParen, 0)
  | ')', _ => some (.closeParen, 0)
  | '#', _ => some (.hash, 0)
  | _, _ => none

/-- The name that the quote `q` opens, and how much of `cs` it takes with its closing quote. -/
def quoted (q : Char) (cs : List Char) : Except LexFault (Token × Nat) :=
  let word := cs.takeWhile isWordChar
  if word ≠ [] ∧ (cs.drop word.length).head? = some q then
    .ok (.quoted (String.ofList word), word.length + 1)
  else if q ∈ cs then
    .error (.malformedQuote (String.ofList (q :: cs.takeWhile (· ≠ q) ++ [q])))
  else
    .error (.unterminatedQuote q)

/-- The longest token that starts with `c` and goes on in `cs`, and how much of `cs` it takes. -/
def longest (c : Char) (cs : List Char) : Except LexFault (Token × Nat) :=
  if c = '"' ∨ c = '\'' then
    quoted c cs
  else if isWordChar c then
    let word := cs.takeWhile isWordChar
    (ofWord (c :: word)).map (·, word.length)
  else
    match symbol? c cs with
    | some r => .ok r
    | none => .error (.strayCharacter c)

/-- Lexes `cs`, which stands at offset `start` on line `line`. -/
def lexFrom (line : Int) (start : Nat) (cs : List Char) : Lexed :=
  match cs with
  | [] => ⟨[], none⟩
  | c :: cs =>
    if c = '\n' then lexFrom (line + 1) (start + 1) cs
    else if isSkipped c then lexFrom line (start + 1) cs
    else
      match longest c cs with
      | .error fault => ⟨[], some (fault, start)⟩
      | .ok (token, taken) =>
        let stop := start + taken + 1
        let rest := lexFrom line stop (cs.drop taken)
        ⟨⟨token, line, start, stop⟩ :: rest.lexemes, rest.fault⟩
termination_by cs.length
decreasing_by all_goals simp only [List.length_cons, List.length_drop]; omega

end Lexeme

/-- The lexemes of `text` from offset `start` on, the line there being number `line`. -/
def lexAt (text : String) (line : Int) (start : Nat) : Lexed :=
  Lexeme.lexFrom line start (text.toList.drop start)

def lex (text : String) : Lexed := lexAt text 1 0

end TemporalQuery
