import TemporalQuery.Proofs.Lexing.Forms

/-!
# Texts with blanks between them

Blanks end every token, so two texts with blanks between them are lexed each by itself
(`lex_across_blanks`): what the second one gives, a fault included, is only moved.
-/

namespace TemporalQuery

open Lexeme

namespace Lexeme

variable {line : Int} {start : Nat} {u w v : List Char}

/-- Blanks set apart what stands on their two sides. -/
theorem apart_blanks (gap : w ≠ []) (blank : ∀ c ∈ w, IsSpace c) : Apart u w ∧ Apart (u ++ w) v := by
  constructor
  · cases w with
    | nil => exact absurd rfl gap
    | cons c w => exact .of_isLoose_head (blank c List.mem_cons_self).isLoose
  · intro c last d _
    have inside : w.getLast? = some (w.getLast gap) := List.getLast?_eq_some_getLast gap
    rw [List.getLast?_append, inside, Option.some_or] at last
    obtain rfl := Option.some.inj last
    exact joins_of_isLoose (.inl (blank _ (List.getLast_mem gap)).isLoose)

theorem lexFrom_blanks_behind (clean : (lexFrom line start u).fault = none) (gap : w ≠ [])
    (blank : ∀ c ∈ w, IsSpace c) : lexFrom line start (u ++ w) = lexFrom line start u := by
  obtain ⟨tokens, none⟩ := spells_gap blank (line + u.count '\n') (start + u.length)
  have noLexeme := List.map_eq_nil_iff.mp tokens
  rw [lexFrom_append clean (apart_blanks gap blank (v := [])).1]
  simp only [noLexeme, none, List.append_nil, ← clean]

theorem lexFrom_across_blanks (clean : (lexFrom line start u).fault = none) (gap : w ≠ [])
    (blank : ∀ c ∈ w, IsSpace c) :
    lexFrom line start (u ++ w ++ v) =
      let rest := lexFrom (line + (u ++ w).count '\n') (start + (u ++ w).length) v
      ⟨(lexFrom line start u).lexemes ++ rest.lexemes, rest.fault⟩ := by
  have same := lexFrom_blanks_behind clean gap blank
  rw [lexFrom_append (same ▸ clean) (apart_blanks gap blank).2, same]

end Lexeme

/-- A fault is told at its place in the text it stands in. -/
theorem Lexed.error_moved (lexed : Lexed) (text whole : String) (lines : Int) (offset : Nat) :
    (lexed.moved lines offset).error whole =
      (lexed.error text).map fun e => .ofIndex e.kind e.message whole (e.index + offset) := by
  unfold Lexed.error Lexed.moved
  rw [Option.map_map, Option.map_map]
  rfl

/-- Behind a text without fault and blanks, a text is lexed as it is alone. Its lexemes come after those of
the text in front, so much further on as that and the blanks are long and have line feeds. There is an
error if and only if the text alone has one, of the same class, with the same message, behind the same
lexemes. -/
theorem lex_across_blanks {u w : String} (clean : (lex u).fault = none) (gap : w ≠ "")
    (blank : ∀ c ∈ w.toList, IsSpace c) (v : String) :
    (lex (u ++ w ++ v)).lexemes = (lex u).lexemes ++
      (lex v).lexemes.map (·.moved ((u ++ w).toList.count '\n') (u.length + w.length)) ∧
    (lex (u ++ w ++ v)).error (u ++ w ++ v) = ((lex v).error v).map fun e =>
      .ofIndex e.kind e.message (u ++ w ++ v) (e.index + (u.length + w.length)) := by
  have nonempty : w.toList ≠ [] := fun empty => gap (String.toList_eq_nil_iff.mp empty)
  have length : u.toList.length + w.toList.length = u.length + w.length := by
    rw [String.length_toList, String.length_toList]
  have cut : lex (u ++ w ++ v) = ⟨(lex u).lexemes ++
      ((lex v).moved ((u ++ w).toList.count '\n') (u.length + w.length)).lexemes,
      ((lex v).moved ((u ++ w).toList.count '\n') (u.length + w.length)).fault⟩ := by
    rw [lex_eq_lexFrom] at clean ⊢
    rw [String.toList_append, String.toList_append, lexFrom_across_blanks clean nonempty blank,
      List.length_append, length, lexFrom_moved]
    rfl
  rw [cut]
  refine ⟨rfl, ?_⟩
  exact Lexed.error_moved (lex v) v (u ++ w ++ v) ((u ++ w).toList.count '\n') (u.length + w.length)

/-- Without the blanks the two relations would be one, and the quote is told at its place. -/
theorem lex_across_lineFeeds :
    ((lex "x <").fault = none ∧ "\n \n" ≠ "" ∧ ∀ c ∈ "\n \n".toList, IsSpace c) ∧
    (lex "x <\n \n= 1 'y").lexemes =
      [⟨.ident "x", 1, 0, 1⟩, ⟨.relation .lt "<", 1, 2, 3⟩, ⟨.relation .eq "=", 3, 6, 7⟩,
        ⟨.int 1, 3, 8, 9⟩] ∧
    (lex "x <\n \n= 1 'y").error "x <\n \n= 1 'y" =
      some ⟨.lexer, "Unterminated quoted identifier starting with '", 10, ⟨3, 5⟩⟩ := by
  have clean : (lex "x <").fault = none := by decide +kernel
  have gap : "\n \n" ≠ "" := by decide
  have blank : ∀ c ∈ "\n \n".toList, IsSpace c := by simp [IsSpace]
  obtain ⟨lexemes, error⟩ := lex_across_blanks clean gap blank "= 1 'y"
  refine ⟨⟨clean, gap, blank⟩, ?_, ?_⟩
  · have whole : "x <\n \n= 1 'y" = "x <" ++ "\n \n" ++ "= 1 'y" := by decide
    rw [whole, lexemes]
    decide +kernel
  · have whole : "x <\n \n= 1 'y" = "x <" ++ "\n \n" ++ "= 1 'y" := by decide
    rw [whole, error]
    decide +kernel

end TemporalQuery
