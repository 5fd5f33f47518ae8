import TemporalQuery.Lexeme
import TemporalQuery.Position

/-!
# Failures of reading

A failure is a cause and the offset it is found at. `Failure.report` puts it into words, with the
position of the offset in the text.
-/

namespace TemporalQuery

inductive ErrorKind
  | query
  | lexer
  | parse
  /-- A parse error: a whole query was read and something follows it. -/
  | trailingInput
  | literalRange
  deriving DecidableEq

namespace ErrorKind

def label : ErrorKind → String
  | query => "QueryError"
  | lexer => "LexerError"
  | parse => "ParseError"
  | trailingInput => "TrailingInputError"
  | literalRange => "LiteralRangeError"

def ofLabel? (s : String) : Option ErrorKind :=
  [query, lexer, parse, trailingInput, literalRange].find? (·.label = s)

end ErrorKind

/-- An error in words. The offset is kept as it was given, even outside the text. -/
structure QueryError where
  kind : ErrorKind
  message : String
  index : Int
  position : Position
  deriving DecidableEq

namespace QueryError

def ofIndex (kind : ErrorKind) (message text : String) (index : Int) : QueryError :=
  ⟨kind, message, index, TemporalQuery.position text index⟩

def report (e : QueryError) : String :=
  e.message ++ " (line " ++ toString e.position.line ++ ", column " ++ toString e.position.column
    ++ ")"

end QueryError

namespace LexFault

def kind : LexFault → ErrorKind
  | intTooLarge _ => .literalRange
  | _ => .lexer

def message : LexFault → String
  | unterminatedQuote q => "Unterminated quoted identifier starting with " ++ String.singleton q
  | malformedQuote s => "Invalid quoted identifier " ++ s
  | strayCharacter c => "Invalid character '" ++ String.singleton c ++ "'"
  | intTooLarge digits => "Integer literal " ++ digits ++ " exceeds " ++ toString maxInt

end LexFault

inductive Cause
  | lexical (fault : LexFault)
  | emptyQuery
  | unexpectedEnd
  /-- The text ends inside the parentheses that open at the failure. -/
  | unclosedParen
  | unexpected (token : Token)
  /-- A modality written as a symbol stands where only its letter is a name. -/
  | symbolForName (spelling : String)
  | boundLetter (word : String)
  | trailing (token : Token)
  deriving DecidableEq

namespace Cause

def kind : Cause → ErrorKind
  | lexical fault => fault.kind
  | trailing _ => .trailingInput
  | _ => .parse

def message : Cause → String
  | lexical fault => fault.message
  | emptyQuery => "Syntax error: empty query"
  | unexpectedEnd => "Syntax error: unexpected end of query"
  | unclosedParen => "Syntax error: unexpected end of query, unmatched '('"
  | unexpected t => "Syntax error at " ++ t.described
  | symbolForName s => "Syntax error at '" ++ s ++ "'"
  | boundLetter w => "Expected 't' or '#' in run bound, found '" ++ w ++ "'"
  | trailing .closeParen => "Unexpected trailing input after query: unmatched ')'"
  | trailing t => "Unexpected trailing input after query: " ++ t.described

end Cause

structure Failure where
  cause : Cause
  index : Nat
  deriving DecidableEq

def Failure.report (f : Failure) (text : String) : QueryError :=
  .ofIndex f.cause.kind f.cause.message text f.index

/-- The error of a text that is lexed alone. -/
def Lexed.error (lexed : Lexed) (text : String) : Option QueryError :=
  lexed.fault.map fun r => Failure.report ⟨.lexical r.1, r.2⟩ text

end TemporalQuery
