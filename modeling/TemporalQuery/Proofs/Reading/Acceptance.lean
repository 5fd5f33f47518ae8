import TemporalQuery.Proofs.Lexing.Boundary
import TemporalQuery.Proofs.Reading.Soundness
import TemporalQuery.Proofs.Reading.Uniqueness

/-!
# What is accepted

A text is read as a query exactly if its tokens have a reading in the grammar, and then as what that
reading means (`Query.parse_eq_ok_iff`). There is never a second one (`accepts_exactly_derivations`).
-/

namespace TemporalQuery

open Reading

theorem Derivation.tokens_ne_nil {ts : List Token} (d : Derivation ts) : ts ≠ [] := by
  intro empty
  have split := empty.symm.trans d.split
  simp [d.body.tokens_ne_nil] at split

theorem Lexed.parse_eq_ok_iff (lexed : Lexed) (length : Nat) (q : Query) :
    lexed.parse length = .ok q ↔
      lexed.fault = none ∧ ∃ d : Derivation lexed.tokens, d.query = q := by
  constructor
  · intro parsed
    unfold Lexed.parse at parsed
    split at parsed
    · exact absurd parsed nofun
    · exact absurd parsed nofun
    · rename_i s ran clean
      refine ⟨clean, ?_⟩
      cases finished : s.finish? with
      | none => simp [State.finish, finished] at parsed
      | some r =>
        rw [State.finish, finished] at parsed
        obtain rfl := Except.ok.inj parsed
        exact (State.taken_run State.taken_initial ran).derivation finished
  · rintro ⟨clean, d, rfl⟩
    obtain ⟨s, ran, finished⟩ := reads_derivation d lexed.lexemes rfl
    simp only [Lexed.parse, ran, clean, State.finish, finished]

theorem Query.parse_of_tokens {text : String} (nonempty : (lex text).tokens ≠ []) :
    Query.parse text = (lex text).parse text.length := by
  unfold Query.parse
  split
  · rename_i blank
    have none : (lex text).lexemes = [] := Lexeme.lexFrom_blank (by simpa using blank)
    exact absurd (congrArg (List.map Lexeme.token) none) nonempty
  · rfl

theorem Query.parse_eq_ok_iff {text : String} {q : Query} :
    Query.parse text = .ok q ↔
      (lex text).fault = none ∧ ∃ d : Derivation (lex text).tokens, d.query = q := by
  constructor
  · intro parsed
    unfold Query.parse at parsed
    split at parsed
    · exact absurd parsed nofun
    · exact (Lexed.parse_eq_ok_iff _ _ _).mp parsed
  · rintro ⟨clean, d, same⟩
    rw [parse_of_tokens d.tokens_ne_nil]
    exact (Lexed.parse_eq_ok_iff _ _ _).mpr ⟨clean, d, same⟩

/-- Reading accepts exactly the grammar, and no tokens have two readings. -/
theorem accepts_exactly_derivations (text : String) (q : Query) :
    (Query.parse text = .ok q ↔
      (lex text).fault = none ∧ ∃ d : Derivation (lex text).tokens, d.query = q) ∧
    ∀ ts, Subsingleton (Derivation ts) :=
  ⟨Query.parse_eq_ok_iff, Derivation.subsingleton⟩

end TemporalQuery
