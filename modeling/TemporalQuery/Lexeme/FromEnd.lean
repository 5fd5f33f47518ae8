import TemporalQuery.Lexeme

/-!
# Lexing from a place counted from the end

A place before the end is used to skip blanks only. If they reach to the end, or a line starts the
text, the text is lexed as a whole; else its first token is taken and placed where the blanks ended.
-/

namespace TemporalQuery.Lexeme

/-- The fault of a text that starts with `c` where no token is looked for. -/
def faultAt (c : Char) (cs : List Char) : LexFault :=
  if c = '"' ∨ c = '\'' then
    if c ∈ cs then .malformedQuote (String.ofList (c :: cs.takeWhile (· ≠ c) ++ [c]))
    else .unterminatedQuote c
  else .strayCharacter c

/-- Lexes the text `cs` from `back` characters before its end. With the lexemes comes the place, if it
is not the start of the text, that the first of them or their fault is to be shown at. -/
def lexBack (line : Int) (back : Nat) (cs : List Char) : Lexed × Option Int :=
  let behind := (cs.drop (cs.length - back)).dropWhile isSkipped
  match cs, behind with
  | c :: rest, c' :: rest' =>
    let place := -(behind.length : Int)
    if back > cs.length then (⟨[], none⟩, none)
    else if c = '\n' then (lexFrom line 0 cs, none)
    else if isSkipped c then (⟨[], some (faultAt c' rest', 0)⟩, some place)
    else match longest c rest with
      | .ok _ => (lexFrom line 0 cs, some place)
      | .error (.intTooLarge digits) => (⟨[], some (.intTooLarge digits, 0)⟩, some place)
      | .error _ => (⟨[], some (faultAt c' rest', 0)⟩, some place)
  | _, _ => if back > cs.length then (⟨[], none⟩, none) else (lexFrom line 0 cs, none)

end TemporalQuery.Lexeme
