import TemporalQuery.Proofs.Lexing.Cut
import TemporalQuery.Proofs.Messages
import TemporalQuery.Proofs.Reading.Nesting

/-!
# Where failures stand

A failure of reading stands at the end of the text, at the fault of the lexer or at a lexeme
(`Query.stands_of_parse`). The text in front of that place is a query exactly if the failure is about
trailing input (`Query.parse_error_classifies`).
-/

namespace TemporalQuery

namespace Reading.State

variable {s s' : State} {t : Token} {index : Nat} {ls us vs : List Lexeme} {l : Lexeme}

/-- A whole query goes on only with a token that may follow a name. -/
theorem followsName_of_advance (complete : s.finish?.isSome) (advanced : s.advance t index = some s') :
    followsName t := by
  cases s with
  | body q m b c =>
    obtain ⟨c', stepped, _⟩ := Option.map_eq_some_iff.mp advanced
    cases c with
    | expr p e =>
      replace stepped : Body.stepExpr p e t = some c' := stepped
      unfold Body.stepExpr at stepped
      split at stepped
      · rfl
      · rfl
      · rfl
      · rfl
      · cases stepped
    | cond groups c =>
      replace stepped : Body.stepCond groups c t = some c' := stepped
      unfold Body.stepCond at stepped
      split at stepped
      · rfl
      · rfl
      · cases stepped
    | _ => cases complete
  | _ => cases complete

theorem exists_of_run_append (ran : s.run (us ++ vs) = .ok s') :
    ∃ s₁, s.run us = .ok s₁ ∧ s₁.run vs = .ok s' := by
  cases first : s.run us with
  | error f => cases (run_append_error first vs).symm.trans ran
  | ok s₁ => exact ⟨s₁, rfl, (run_append first vs).symm.trans ran⟩

theorem exists_advance_of_run (ran : s.run (us ++ l :: vs) = .ok s') :
    ∃ s₁ s₂, s.run us = .ok s₁ ∧ s₁.advance l.token l.start = some s₂ := by
  obtain ⟨s₁, before, ran⟩ := exists_of_run_append ran
  cases advanced : s₁.advance l.token l.start with
  | none => cases (run_cons_refused advanced vs).symm.trans ran
  | some s₂ => exact ⟨s₁, s₂, before, advanced⟩

end Reading.State

open Reading

/-- The place a failure is told at. -/
inductive Stands (text : String) (f : Failure) : Prop
  | atEnd (kind : f.cause.kind = .parse) (index : f.index = text.length) : Stands text f
  | atFault {fault : LexFault} (cause : f.cause = .lexical fault)
      (found : (lex text).fault = some (fault, f.index)) : Stands text f
  | atLexeme {us vs : List Lexeme} {l : Lexeme} {s : State} (split : (lex text).lexemes = us ++ l :: vs)
      (index : l.start = f.index) (ran : State.start.run us = .ok s)
      (kind : f.cause.kind = if s.finish?.isSome then .trailingInput else .parse) : Stands text f

variable {text : String} {f : Failure}

/-- A failure about a token that was read, and that no whole query goes on with. -/
theorem Stands.of_read {ls ws : List Lexeme} {s : State} {l : Lexeme}
    (split : (lex text).lexemes = ls ++ ws) (ran : State.start.run ls = .ok s) (mem : l ∈ ls)
    (opens : State.followsName l.token = false) (index : l.start = f.index)
    (kind : f.cause.kind = .parse) : Stands text f := by
  obtain ⟨us, vs, rfl⟩ := List.append_of_mem mem
  obtain ⟨s₁, s₂, before, advanced⟩ := State.exists_advance_of_run ran
  have incomplete : ¬ s₁.finish?.isSome := by
    intro complete
    simp [State.followsName_of_advance complete advanced] at opens
  rw [List.append_assoc] at split
  refine .atLexeme split index before ?_
  rw [kind, if_neg incomplete]

theorem Stands.of_pending {ls ws : List Lexeme} {s : State} {x : String} {at_ : Nat}
    (split : (lex text).lexemes = ls ++ ws) (ran : State.start.run ls = .ok s)
    (pending : s.pending? = some (x, at_)) : Stands text ⟨.symbolForName x, at_⟩ := by
  obtain ⟨us, l, _, m, rfl, _, _, start, symbol, _⟩ := State.exists_of_pending ran pending
  exact .of_read split ran (List.mem_append_right us List.mem_cons_self) (by rw [symbol]; rfl) start rfl

theorem Query.stands_of_parse (h : parse text = .error f) : Stands text f := by
  cases parseFails_of_parse h with
  | blank blank => exact .atEnd rfl rfl
  | fault ran found => exact .atFault rfl found
  | pending ran pending => exact .of_pending (List.append_nil _).symm ran pending
  | ended ran settled unfinished failure =>
    rw [State.endFailure_eq settled] at failure
    split at failure
    · rename_i index innermost
      subst failure
      -- The parenthesis is still open, so it is one of those that were read.
      have opened := State.unclosed_of_run ran settled
      obtain ⟨l, mem, paren, start⟩ := exists_of_mem_unclosed opened (List.mem_of_head? innermost)
      exact .of_read (List.append_nil _).symm ran mem (by rw [paren]; rfl) start rfl
    · subst failure
      exact .atEnd rfl rfl
  | refused split ran failed refused =>
    cases refused with
    | unexpected incomplete unrelated => exact .atLexeme split rfl ran (by simp [incomplete, Cause.kind])
    | trailing complete => exact .atLexeme split rfl ran (by simp [complete, Cause.kind])
    | symbolForName pending follows => exact .of_pending split ran pending
    | boundLetter misnamed starts =>
      rw [misnamed] at ran
      -- The failure stands at the bracket of the run bound, which no whole query goes on with.
      obtain ⟨q, m, us, o, vs, s, n, rfl, _, start, tokens, _⟩ := State.run_eq_misnamed_iff.mp ran
      have bracket : o.token = .openBracket := (List.cons.inj tokens).1
      exact .of_read split ran (List.mem_append_right us List.mem_cons_self) (by rw [bracket]; rfl) start rfl

/-- A text without fault is a query exactly if its lexemes leave a whole query. -/
theorem Query.exists_parse_iff_of_lex {ls : List Lexeme} {s : State} (lexed : lex text = ⟨ls, none⟩)
    (ran : State.start.run ls = .ok s) : (∃ q, parse text = .ok q) ↔ s.finish?.isSome := by
  have lexemes : (lex text).lexemes = ls := by rw [lexed]
  rw [Option.isSome_iff_exists]
  refine exists_congr fun q => ?_
  constructor
  · intro parsed
    obtain ⟨_, d, rfl⟩ := parse_eq_ok_iff.mp parsed
    obtain ⟨s', ran', finished⟩ := reads_derivation d (lex text).lexemes rfl
    rw [lexemes, ran] at ran'
    obtain rfl := Except.ok.inj ran'
    exact finished
  · intro finished
    rw [← lexemes] at ran
    obtain ⟨d, same⟩ := (State.taken_run State.taken_initial ran).derivation finished
    exact parse_eq_ok_iff.mpr ⟨by rw [lexed], d, same⟩

/-- The text in front of a failure of reading is a query exactly if the failure is about what follows. -/
theorem Query.exists_parse_before_iff (h : parse text = .error f)
    (within : f.cause.kind = .trailingInput ∨ f.cause.kind = .parse) :
    (∃ q, parse (Text.before text f.index) = .ok q) ↔ f.cause.kind = .trailingInput := by
  cases stands_of_parse h with
  | atEnd kind index =>
    rw [index, Text.before_length, h, kind]
    simp
  | @atFault fault cause =>
    rw [cause, Cause.kind] at within
    rcases fault.kind_eq with lexical | lexical <;> simp [lexical] at within
  | @atLexeme us vs l s split index ran kind =>
    rw [← index, exists_parse_iff_of_lex (lex_before_start split) ran, kind]
    by_cases complete : s.finish?.isSome
    · simp [complete]
    · simp [complete]

theorem Query.balanced_of_trailing {index : Nat}
    (h : parse text = .error ⟨.trailing .closeParen, index⟩) :
    ∃ us l vs, (lex text).lexemes = us ++ l :: vs ∧ l.token = .closeParen ∧ l.start = index ∧
      Balanced us := by
  generalize cause : Cause.trailing .closeParen = c at h
  cases parseFails_of_parse h with
  | refused split ran failed refused =>
    cases refused with
    | trailing complete =>
      exact ⟨_, _, _, split, (Cause.trailing.inj cause).symm, rfl, State.balanced_of_finish? ran complete⟩
    | _ => cases cause
  | @ended s _ ran settled unfinished failure =>
    rcases s.endFailure_cause settled text.length with other | other <;>
      rw [failure, ← cause] at other <;> cases other
  | _ => cases cause

/-- A failure is about trailing input exactly if a whole query stands in front of it, and about a
parenthesis that closes nothing only behind balanced ones. -/
theorem Query.parse_error_classifies (h : parse text = .error f) :
    (f.cause.kind = .trailingInput → ∃ q, parse (Text.before text f.index) = .ok q) ∧
    (f.cause.kind = .parse → ∀ q, parse (Text.before text f.index) ≠ .ok q) ∧
    (f.cause.message = "Unexpected trailing input after query: unmatched ')'" →
      ∃ us l vs, (lex text).lexemes = us ++ l :: vs ∧ l.token = .closeParen ∧ l.start = f.index ∧
        Balanced us) := by
  refine ⟨fun trailing => (exists_parse_before_iff h (.inl trailing)).mpr trailing,
    fun within q parsed => ?_, fun told => ?_⟩
  · have trailing := (exists_parse_before_iff h (.inr within)).mp ⟨q, parsed⟩
    rw [within] at trailing
    cases trailing
  · obtain ⟨c, index⟩ := f
    obtain rfl : c = .trailing .closeParen := Cause.eq_of_message told
    exact balanced_of_trailing h

/-- One failure of each sort: a parenthesis too much, and one too few. -/
theorem Query.parse_error_classified :
    (parse "(x) and y) z" = .error ⟨.trailing .closeParen, 9⟩ ∧
      (∃ q, parse (Text.before "(x) and y) z" 9) = .ok q) ∧
      ∃ us l vs, (lex "(x) and y) z").lexemes = us ++ l :: vs ∧ l.token = .closeParen ∧ l.start = 9 ∧
        Balanced us) ∧
    parse "A (x" = .error ⟨.unclosedParen, 2⟩ ∧ ∀ q, parse (Text.before "A (x" 2) ≠ .ok q := by
  have surplus : parse "(x) and y) z" = .error ⟨.trailing .closeParen, 9⟩ := by decide +kernel
  have missing : parse "A (x" = .error ⟨.unclosedParen, 2⟩ := by decide +kernel
  obtain ⟨whole, _, balanced⟩ := parse_error_classifies surplus
  obtain ⟨_, broken, _⟩ := parse_error_classifies missing
  exact ⟨⟨surplus, whole rfl, balanced rfl⟩, missing, broken rfl⟩

end TemporalQuery
