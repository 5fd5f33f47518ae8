import TemporalQuery.Reading.State
import TemporalQuery.Text.Blank

/-!
# Parsing

`Query.parse` reads a whole text. The first failure decides: a fault of the lexer counts only when
the tokens before it may go on.
-/

namespace TemporalQuery

open Reading

/-- Reads lexemes that stand in a text of the given length. Queries nest to any depth: what stack a runtime has
for deep ones is not modelled. -/
def Lexed.parse (lexed : Lexed) (length : Nat) : Except Failure Query :=
  match State.start.run lexed.lexemes, lexed.fault with
  | .error failure, _ => .error failure
  | .ok _, some (fault, index) => .error ⟨.lexical fault, index⟩
  | .ok s, none => s.finish length

def Query.parse (text : String) : Except Failure Query :=
  if text.toList.all Text.isBlank then .error ⟨.emptyQuery, text.length⟩
  else (lex text).parse text.length

end TemporalQuery
