import TemporalQuery.Failure

/-!
# What errors tell

A fault of the lexer has a kind of its own (`LexFault.kind_eq`). Each message starts with a text that
depends on the sort of cause alone (`Cause.stem_prefix`), so that a message tells its cause from others.
-/

namespace TemporalQuery

theorem LexFault.kind_eq (fault : LexFault) : fault.kind = .lexer ∨ fault.kind = .literalRange := by
  cases fault with
  | intTooLarge digits => exact .inr rfl
  | _ => exact .inl rfl

theorem prefix_toList_append {w : List Char} {s : String} (h : w <+: s.toList) (s' : String) :
    w <+: (s ++ s').toList := by
  rw [String.toList_append]
  exact h.trans (List.prefix_append _ _)

theorem Token.quote_prefix_described (t : Token) : ['\''] <+: t.described.toList := by
  have quote : ['\''] <+: "'".toList := by decide +kernel
  unfold described
  split
  · exact prefix_toList_append (prefix_toList_append quote _) _
  · exact prefix_toList_append (prefix_toList_append quote _) _
  · exact prefix_toList_append (prefix_toList_append quote _) _
  · exact prefix_toList_append (prefix_toList_append quote _) _
  · exact prefix_toList_append (prefix_toList_append (prefix_toList_append
      (prefix_toList_append quote _) _) _) _

namespace Cause

/-- The text that the message starts with, whatever the cause is about. -/
def stem : Cause → String
  | lexical (.unterminatedQuote _) => "Unterminated quoted identifier starting with "
  | lexical (.malformedQuote _) => "Invalid quoted identifier "
  | lexical (.strayCharacter _) => "Invalid character '"
  | lexical (.intTooLarge _) => "Integer literal "
  | emptyQuery => "Syntax error: empty query"
  | unexpectedEnd | unclosedParen => "Syntax error: unexpected end of query"
  | unexpected _ | symbolForName _ => "Syntax error at '"
  | boundLetter _ => "Expected 't' or '#' in run bound, found '"
  | trailing .closeParen => "Unexpected trailing input after query: unmatched ')'"
  | trailing _ => "Unexpected trailing input after query: '"

theorem stem_trailing {t : Token} (h : t ≠ .closeParen) :
    (trailing t).stem = "Unexpected trailing input after query: '" := by
  cases t with
  | closeParen => exact absurd rfl h
  | _ => rfl

theorem message_trailing {t : Token} (h : t ≠ .closeParen) :
    (trailing t).message = "Unexpected trailing input after query: " ++ t.described := by
  cases t with
  | closeParen => exact absurd rfl h
  | _ => rfl

theorem stem_prefix (c : Cause) : c.stem.toList <+: c.message.toList := by
  have quoted (w : String) (t : Token) : (w ++ "'").toList <+: (w ++ t.described).toList := by
    rw [String.toList_append, String.toList_append]
    exact (List.prefix_append_right_inj _).mpr t.quote_prefix_described
  cases c with
  | lexical fault =>
    cases fault with
    | unterminatedQuote q => exact prefix_toList_append (List.prefix_refl _) _
    | malformedQuote s => exact prefix_toList_append (List.prefix_refl _) _
    | strayCharacter x => exact prefix_toList_append (prefix_toList_append (List.prefix_refl _) _) _
    | intTooLarge digits =>
      exact prefix_toList_append (prefix_toList_append (prefix_toList_append (List.prefix_refl _) _) _) _
  | emptyQuery => exact List.prefix_refl _
  | unexpectedEnd => exact List.prefix_refl _
  | unclosedParen => decide +kernel
  | unexpected t => exact quoted "Syntax error at " t
  | symbolForName s => exact prefix_toList_append (prefix_toList_append (List.prefix_refl _) _) _
  | boundLetter w => exact prefix_toList_append (prefix_toList_append (List.prefix_refl _) _) _
  | trailing t =>
    by_cases closing : t = .closeParen
    · rw [closing]
      exact List.prefix_refl _
    · rw [stem_trailing closing, message_trailing closing]
      exact quoted "Unexpected trailing input after query: " t

/-- All texts that a message can start with. -/
def stems : List String :=
  ["Unterminated quoted identifier starting with ", "Invalid quoted identifier ", "Invalid character '",
    "Integer literal ", "Syntax error: empty query", "Syntax error: unexpected end of query",
    "Syntax error at '", "Expected 't' or '#' in run bound, found '",
    "Unexpected trailing input after query: unmatched ')'", "Unexpected trailing input after query: '"]

theorem stem_mem (c : Cause) : c.stem ∈ stems := by
  cases c with
  | lexical fault => cases fault <;> simp [stem, stems]
  | trailing t =>
    by_cases closing : t = .closeParen
    · simp [closing, stem, stems]
    · simp [stem_trailing closing, stems]
  | _ => simp [stem, stems]

/-- Only a parenthesis that closes nothing is told as one. -/
theorem eq_of_message {c : Cause}
    (h : c.message = "Unexpected trailing input after query: unmatched ')'") :
    c = .trailing .closeParen := by
  have table : stems.all (fun s => decide
      (s.toList <+: "Unexpected trailing input after query: unmatched ')'".toList →
        s = "Unexpected trailing input after query: unmatched ')'")) = true := by decide +kernel
  have found := c.stem_prefix
  rw [h] at found
  have stem_eq := of_decide_eq_true (List.all_eq_true.mp table _ c.stem_mem) found
  cases c with
  | lexical fault => cases fault <;> simp [stem] at stem_eq
  | trailing t =>
    by_cases closing : t = .closeParen
    · rw [closing]
    · simp [stem_trailing closing] at stem_eq
  | _ => simp [stem] at stem_eq

/-- Only the end of a text is told as one. -/
theorem isUnexpectedEnd_of_message {c : Cause}
    (h : "Syntax error: unexpected end of query".toList <+: c.message.toList) :
    c = .unexpectedEnd ∨ c = .unclosedParen := by
  have table : stems.all (fun s => decide
      ("Syntax error: unexpected end of query".toList <+: s.toList ∨
        s.toList <+: "Syntax error: unexpected end of query".toList →
        s = "Syntax error: unexpected end of query")) = true := by decide +kernel
  -- Of two texts that one message starts with, one starts with the other.
  have either := List.prefix_or_prefix_of_prefix h c.stem_prefix
  have stem_eq := of_decide_eq_true (List.all_eq_true.mp table _ c.stem_mem) either
  cases c with
  | unexpectedEnd => exact .inl rfl
  | unclosedParen => exact .inr rfl
  | lexical fault => cases fault <;> simp [stem] at stem_eq
  | trailing t =>
    by_cases closing : t = .closeParen
    · simp [closing, stem] at stem_eq
    · simp [stem_trailing closing] at stem_eq
  | _ => simp [stem] at stem_eq

/-- Reading never ends without a query and without a cause. -/
theorem message_ne_unknown (c : Cause) : c.message ≠ "Syntax error: could not parse query" := by
  intro h
  have table : stems.all (fun s => decide
      (¬ s.toList <+: "Syntax error: could not parse query".toList)) = true := by decide +kernel
  have found := c.stem_prefix
  rw [h] at found
  exact of_decide_eq_true (List.all_eq_true.mp table _ c.stem_mem) found

theorem kind_mem (c : Cause) :
    c.kind ∈ [ErrorKind.lexer, .literalRange, .parse, .trailingInput] := by
  cases c with
  | lexical fault => rcases fault.kind_eq with kind | kind <;> simp [Cause.kind, kind]
  | _ => simp [Cause.kind]

end Cause

end TemporalQuery
