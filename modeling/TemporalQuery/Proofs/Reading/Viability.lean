import TemporalQuery.Proofs.Reading.Refusal
import Mathlib.Data.List.Basic

/-!
# Viable prefixes

Tokens are viable if some others make a query of them, up to the letter of a run bound. What was read
is viable (`viable_of_run`) and what was refused is not (`not_viable_of_run_error`), a modality symbol
for a name apart: it is read, and nothing goes on from it (`not_viable_of_pending`). Hence
`Query.parse_error_locates` says where each failure points.
-/

namespace TemporalQuery

open Reading

/-- The tokens of a text that is read as a query. -/
def Accepted (ts : List Token) : Prop := ∃ text q, (lex text).tokens = ts ∧ Query.parse text = .ok q

/-- Accepted, or accepted once the letter of the run bound is `t`. -/
def AcceptedUpToLetter (ts : List Token) : Prop :=
  Accepted ts ∨ ∃ us w vs, ts = us ++ .openBracket :: .ident w :: vs ∧
    Accepted (us ++ .openBracket :: .ident "t" :: vs)

def Viable (ts : List Token) : Prop := ∃ rest, AcceptedUpToLetter (ts ++ rest)

theorem accepted_iff {ts : List Token} :
    Accepted ts ↔ (∀ t ∈ ts, t.Spelled) ∧ Nonempty (Derivation ts) := by
  constructor
  · rintro ⟨text, q, rfl, read⟩
    obtain ⟨clean, d, _⟩ := Query.parse_eq_ok_iff.mp read
    exact ⟨Lexeme.spelled_of_mem_lexFrom, ⟨d⟩⟩
  · rintro ⟨spelled, ⟨d⟩⟩
    obtain ⟨text, clean, rfl⟩ := exists_lex_iff.mpr spelled
    exact ⟨text, d.query, rfl, Query.parse_eq_ok_iff.mpr ⟨clean, d, rfl⟩⟩

/-! ### What is accepted is read -/

theorem Derivation.exists_bound {us vs : List Token} {w : String}
    (d : Derivation (us ++ .openBracket :: .ident w :: vs)) :
    ∃ q m s n, ∃ t : CondTree .chain, t.Settled ∧ HeadingTaken q m us ∧
      vs = .relation .le s :: .int n :: .closeBracket :: t.tokens := by
  obtain ⟨qs, ms, bs, t, q, m, b, split, quantifier, modality, bound, settled⟩ := d
  have heading : HeadingTaken q m (qs ++ ms) := by
    refine ⟨qs, ms, rfl, ?_, ?_⟩
    · cases quantifier with
      | present k s => exact ⟨s, rfl⟩
      | absent => rfl
    · cases modality with
      | present k s => exact ⟨s, rfl⟩
      | absent => rfl
  have noneBefore : .openBracket ∉ qs ++ ms := by
    cases quantifier <;> cases modality <;> simp
  have noneBehind := t.openBracket_notMem
  rw [← List.append_assoc] at split
  rcases eq_tokens_of_boundSpan bound with rfl | ⟨l, s, n, rfl⟩
  · have here : Token.openBracket ∈ us ++ .openBracket :: .ident w :: vs := by simp
    rw [split, List.nil_append, List.mem_append] at here
    exact absurd here (not_or.mpr ⟨noneBefore, noneBehind⟩)
  · have noneInside : Token.openBracket ∉
        [l.token, .relation .le s, .int n, .closeBracket] ++ t.tokens := by
      cases l <;> simp [BoundLetter.token, noneBehind]
    obtain ⟨rfl, _, rest⟩ := (List.append_cons_inj_of_notMem noneBefore noneInside).mp split.symm
    exact ⟨q, m, s, n, t, settled, heading, (List.cons.inj rest).2.symm⟩

theorem CondTree.startsCondition {t : CondTree .chain} (settled : t.Settled) {l : Lexeme}
    {ls : List Lexeme} (tokens : (l :: ls).map (·.token) = t.tokens) : l.token.startsCondition := by
  obtain ⟨b, fed, _⟩ := reads_cond t settled [] {} rfl (l :: ls) tokens
  rw [Body.feed_cons] at fed
  obtain ⟨b', stepped, _⟩ := Option.bind_eq_some_iff.mp fed
  rw [← Body.isSome_step_start l.token l.start]
  exact Option.isSome_of_eq_some stepped

theorem Accepted.run {ls : List Lexeme} (h : Accepted (ls.map (·.token))) :
    ∃ s, State.start.run ls = .ok s ∧ s.finish?.isSome := by
  obtain ⟨_, ⟨d⟩⟩ := accepted_iff.mp h
  obtain ⟨s, ran, finished⟩ := reads_derivation d ls rfl
  exact ⟨s, ran, Option.isSome_of_eq_some finished⟩

theorem AcceptedUpToLetter.run {ls : List Lexeme} (h : AcceptedUpToLetter (ls.map (·.token))) :
    (∃ s, State.start.run ls = .ok s ∧ s.finish?.isSome) ∨
      ∃ w index, State.start.run ls = .error ⟨.boundLetter w, index⟩ := by
  rcases h with accepted | ⟨us, w, vs, split, accepted⟩
  · exact .inl accepted.run
  by_cases time : w = "t"
  · rw [time] at split
    exact .inl (Accepted.run (split ▸ accepted))
  -- The bound is read whatever its letter, and the condition behind it starts with the refused token.
  obtain ⟨_, ⟨d⟩⟩ := accepted_iff.mp accepted
  obtain ⟨q, m, s, n, t, settled, heading, rfl⟩ := d.exists_bound
  have parts : ls.map (·.token) = us ++ ((BoundLetter.word w).tokens s n ++ t.tokens) := split
  obtain ⟨hs, rest, rfl, rfl, behind⟩ := List.map_eq_append_iff.mp parts
  obtain ⟨bs, cs, rfl, boundTokens, bodyTokens⟩ := List.map_eq_append_iff.mp behind
  obtain ⟨o, bs, rfl, _⟩ := List.map_eq_cons_iff.mp boundTokens
  cases cs with
  | nil => exact absurd bodyTokens.symm t.tokens_ne_nil
  | cons l cs =>
    have starts := CondTree.startsCondition settled bodyTokens
    have misnamed : State.MisnamesBound (hs ++ o :: bs) w o.start :=
      ⟨q, m, hs, o, bs, s, n, rfl, heading, rfl, boundTokens, time⟩
    refine .inr ⟨w, o.start, ?_⟩
    rw [← List.append_assoc]
    exact misnamed.run_refused starts cs

/-! ### What is refused is not viable -/

theorem not_viable_of_run_error {ls : List Lexeme} {f : Failure}
    (h : State.start.run ls = .error f) (other : ∀ w, f.cause ≠ .boundLetter w) :
    ¬ Viable (ls.map (·.token)) := by
  rintro ⟨rest, accepted⟩
  rw [← Lexeme.map_token_ofToken rest, ← List.map_append] at accepted
  have failed := State.run_append_error h (rest.map Lexeme.ofToken)
  rcases accepted.run with ⟨s, ran, _⟩ | ⟨w, index, ran⟩
  · cases failed.symm.trans ran
  · obtain rfl := Except.error.inj (failed.symm.trans ran)
    exact other w rfl

theorem not_viable_of_pending {ls : List Lexeme} {s : State} (ran : State.start.run ls = .ok s)
    (pending : s.pending?.isSome) : ¬ Viable (ls.map (·.token)) := by
  rintro ⟨rest, accepted⟩
  cases rest with
  | nil =>
    rw [List.append_nil] at accepted
    rcases accepted.run with ⟨s', ran', finished⟩ | ⟨w, index, failed⟩
    · obtain rfl := Except.ok.inj (ran.symm.trans ran')
      simp [State.finish?_of_pending pending] at finished
    · cases ran.symm.trans failed
  | cons t rest =>
    have viable : Viable ((ls ++ [Lexeme.ofToken t]).map (·.token)) := by
      refine ⟨rest, ?_⟩
      rwa [List.map_append, List.append_assoc]
    have refused : State.start.run (ls ++ [Lexeme.ofToken t]) = .error (s.refusal t 0) := by
      rw [State.run_append ran]
      exact State.run_cons_refused (State.advance_of_pending pending t 0) []
    refine not_viable_of_run_error refused ((s.refused_refusal t 0).cause_ne ?_) viable
    rintro w start rfl
    cases pending

/-! ### What is read is viable -/

theorem accepted_of_reads {s : State} {ts us : List Token} (taken : s.Taken ts)
    (reads : s.Reads us (·.finish?.isSome)) (spelled : ∀ t ∈ ts ++ us, t.Spelled) :
    Accepted (ts ++ us) :=
  accepted_iff.mpr ⟨spelled, taken.derivation_of_reads reads⟩

theorem acceptedUpToLetter_bound {q : Option Quantifier} {m : Option Modality} {us : List Token}
    (heading : HeadingTaken q m us) {l : BoundLetter} {s : String} {n : Nat}
    (spelled : ∀ t ∈ us ++ (l.tokens s n ++ [.int 0]), t.Spelled) :
    AcceptedUpToLetter (us ++ (l.tokens s n ++ [.int 0])) := by
  have taken : (State.heading q m).Taken us := heading
  cases l with
  | hash => exact .inl (accepted_of_reads taken (State.reads_number (.steps s n)) spelled)
  | word w =>
    refine .inr ⟨us, w, [.relation .le s, .int n, .closeBracket, .int 0], rfl, ?_⟩
    refine accepted_of_reads taken (State.reads_number (.time s n)) ?_
    simp only [BoundLetter.tokens, List.cons_append, List.nil_append, List.forall_mem_append,
      List.forall_mem_cons] at spelled ⊢
    obtain ⟨before, bracket, _, behind⟩ := spelled
    exact ⟨before, bracket, State.spelled_letter, behind⟩

theorem viable_of_run {ls : List Lexeme} {s : State} (ran : State.start.run ls = .ok s)
    (settled : s.pending? = none) (spelled : ∀ t ∈ ls.map (·.token), t.Spelled) :
    Viable (ls.map (·.token)) := by
  have taken : s.Taken (ls.map (·.token)) := State.taken_run State.taken_initial ran
  have spelledAll := List.forall_mem_append.mpr ⟨spelled, s.spelled_completion⟩
  refine ⟨s.completion, ?_⟩
  cases s with
  | heading q m => exact .inl (accepted_of_reads taken (State.reads_number (.absent nofun)) spelledAll)
  | bound q m start part =>
    obtain ⟨us, vs, split, heading, partTaken⟩ := taken
    obtain ⟨l, s, n, completed⟩ := partTaken.completed
    rw [split, State.completion, List.append_assoc, completed] at spelledAll ⊢
    exact acceptedUpToLetter_bound heading spelledAll
  | misnamed w start =>
    obtain ⟨q, m, us, s, n, heading, _, split⟩ := taken
    rw [split, List.append_assoc] at spelledAll ⊢
    exact acceptedUpToLetter_bound (l := .word w) heading spelledAll
  | body q m b c =>
    refine .inl (accepted_of_reads taken ?_ spelledAll)
    have reads := Body.reads_completion (b := c) fun x at_ symbol => by
      rw [symbol] at settled
      cases settled
    intro ls same
    obtain ⟨_, ran, c', rfl, finished⟩ := State.reads_body (q := q) (m := m) (b := b) reads ls same
    exact ⟨_, ran, by simpa [State.finish?] using finished⟩

/-! ### Where failures point -/

/-- A modality symbol ends the tokens where a name is due: they go on without it and not with it. -/
def EndsInSymbol (ts : List Token) : Prop :=
  ∃ us m x, ts = us ++ [.modality m x] ∧ x ≠ m.symbol ∧ Viable us ∧ ¬ Viable ts

section

variable {text : String} {f : Failure}

theorem spelled_of_append {us vs : List Lexeme} (split : (lex text).lexemes = us ++ vs) :
    ∀ t ∈ us.map (·.token), t.Spelled := by
  have all : ∀ t ∈ (lex text).tokens, t.Spelled := Lexeme.spelled_of_mem_lexFrom
  rw [Lexed.tokens, split, List.map_append, List.forall_mem_append] at all
  exact all.1

theorem exists_symbol_of_pending {ls vs : List Lexeme} {s : State} {x : String} {at_ : Nat}
    (split : (lex text).lexemes = ls ++ vs) (ran : State.start.run ls = .ok s)
    (pending : s.pending? = some (x, at_)) :
    ∃ us l m, ls = us ++ [l] ∧ l.token = .modality m x ∧ x ≠ m.symbol ∧ l.start = at_ ∧
      Viable (us.map (·.token)) ∧ ¬ Viable (ls.map (·.token)) := by
  have stuck := not_viable_of_pending ran (Option.isSome_of_eq_some pending)
  obtain ⟨us, l, s₁, m, rfl, ranBefore, settled, start, symbol, notName⟩ :=
    State.exists_of_pending ran pending
  rw [List.append_assoc] at split
  have viable := viable_of_run ranBefore settled (spelled_of_append split)
  exact ⟨us, l, m, rfl, symbol, notName, start, viable, stuck⟩

theorem viable_or_endsInSymbol {ls vs : List Lexeme} {s : State}
    (split : (lex text).lexemes = ls ++ vs) (ran : State.start.run ls = .ok s) :
    Viable (ls.map (·.token)) ∨ EndsInSymbol (ls.map (·.token)) ∧ s.pending?.isSome := by
  cases pending : s.pending? with
  | none => exact .inl (viable_of_run ran pending (spelled_of_append split))
  | some p =>
    obtain ⟨us, l, m, rfl, symbol, notName, _, viable, stuck⟩ :=
      exists_symbol_of_pending split ran pending
    refine .inr ⟨⟨us.map (·.token), m, p.1, ?_, notName, viable, stuck⟩, rfl⟩
    rw [List.map_append, List.map_singleton, symbol]

theorem Query.exists_of_unexpected (h : parse text = .error f) {t : Token}
    (cause : f.cause = .unexpected t ∨ f.cause = .trailing t) :
    ∃ us l vs, (lex text).lexemes = us ++ l :: vs ∧ l.token = t ∧ l.start = f.index ∧
      ¬ Viable ((us ++ [l]).map (·.token)) ∧ (Viable (us.map (·.token)) ∨
        EndsInSymbol (us.map (·.token)) ∧ State.followsName t = false) := by
  cases parseFails_of_parse h with
  | blank | fault | pending => simp at cause
  | @ended s _ ran settled unfinished failure =>
    subst failure
    rcases s.endFailure_cause settled text.length with other | other <;> simp [other] at cause
  | @refused us vs l s _ split ran failed refused =>
    have located : l.token = t ∧ l.start = f.index ∧
        (s.pending?.isSome → State.followsName t = false) := by
      cases refused with
      | unexpected incomplete unrelated =>
        obtain rfl : l.token = t := by simpa using cause
        exact ⟨rfl, rfl, unrelated⟩
      | trailing complete =>
        obtain rfl : l.token = t := by simpa using cause
        refine ⟨rfl, rfl, fun pending => ?_⟩
        simp [State.finish?_of_pending pending] at complete
      | symbolForName | boundLetter => simp at cause
    obtain ⟨token, start, unrelated⟩ := located
    have notViable : ¬ Viable ((us ++ [l]).map (·.token)) :=
      not_viable_of_run_error failed fun w => by rcases cause with same | same <;> simp [same]
    refine ⟨us, l, vs, split, token, start, notViable, ?_⟩
    rcases viable_or_endsInSymbol split ran with viable | ⟨ends, pending⟩
    · exact .inl viable
    · exact .inr ⟨ends, unrelated pending⟩

theorem Query.exists_of_symbolForName {x : String} {index : Nat}
    (h : parse text = .error ⟨.symbolForName x, index⟩) :
    ∃ us l vs m, (lex text).lexemes = us ++ l :: vs ∧ l.token = .modality m x ∧ l.start = index ∧
      Viable (us.map (·.token)) ∧ ¬ Viable ((us ++ [l]).map (·.token)) := by
  have located {ls vs : List Lexeme} {s : State} (split : (lex text).lexemes = ls ++ vs)
      (ran : State.start.run ls = .ok s) (pending : s.pending? = some (x, index)) :
      ∃ us l vs m, (lex text).lexemes = us ++ l :: vs ∧ l.token = .modality m x ∧ l.start = index ∧
        Viable (us.map (·.token)) ∧ ¬ Viable ((us ++ [l]).map (·.token)) := by
    obtain ⟨us, l, m, rfl, symbol, _, start, viable, stuck⟩ :=
      exists_symbol_of_pending split ran pending
    exact ⟨us, l, vs, m, by simpa using split, symbol, start, viable, stuck⟩
  cases parseFails_of_parse h with
  | refused split ran failed refused =>
    cases refused with
    | symbolForName pending follows => exact located split ran pending
  | pending ran pending => exact located (List.append_nil _).symm ran pending
  | @ended s _ ran settled unfinished failure =>
    rcases s.endFailure_cause settled text.length with other | other <;> simp [failure] at other

theorem Query.viable_of_end (h : parse text = .error f)
    (cause : f.cause = .unexpectedEnd ∨ f.cause = .unclosedParen) :
    Viable (lex text).tokens ∧ ¬ Accepted (lex text).tokens := by
  cases parseFails_of_parse h with
  | blank | fault | pending => simp at cause
  | refused split ran failed refused => cases refused <;> simp at cause
  | ended ran settled unfinished failure =>
    refine ⟨viable_of_run ran settled Lexeme.spelled_of_mem_lexFrom, fun accepted => ?_⟩
    obtain ⟨s', ran', finished⟩ := Accepted.run accepted
    obtain rfl := Except.ok.inj (ran.symm.trans ran')
    simp [unfinished] at finished

theorem Query.parse_eq_boundLetter_iff {w : String} {index : Nat} :
    parse text = .error ⟨.boundLetter w, index⟩ ↔
      ∃ us l vs, (lex text).lexemes = us ++ l :: vs ∧ State.MisnamesBound us w index ∧
        l.token.startsCondition := by
  constructor
  · intro h
    cases parseFails_of_parse h with
    | refused split ran failed refused =>
      cases refused with
      | boundLetter misnamed starts =>
        rw [misnamed] at ran
        exact ⟨_, _, _, split, State.run_eq_misnamed_iff.mp ran, starts⟩
    | @ended s _ ran settled unfinished failure =>
      rcases s.endFailure_cause settled text.length with other | other <;> simp [failure] at other
  · rintro ⟨us, l, vs, split, misnamed, starts⟩
    refine parse_of_run_error ?_
    rw [split]
    exact misnamed.run_refused starts vs

end

/-- An unexpected token is the first one that the tokens before it do not go on with, or comes right
behind that one, which then is a modality symbol. At an unexpected end the tokens go on. The letter of a
run bound is told exactly if a condition starts behind the bound. -/
theorem Query.parse_error_locates (text : String) :
    (∀ f t, parse text = .error f → f.cause = .unexpected t ∨ f.cause = .trailing t →
      ∃ us l vs, (lex text).lexemes = us ++ l :: vs ∧ l.token = t ∧ l.start = f.index ∧
        ¬ Viable ((us ++ [l]).map (·.token)) ∧ (Viable (us.map (·.token)) ∨
          EndsInSymbol (us.map (·.token)) ∧ State.followsName t = false)) ∧
    (∀ x index, parse text = .error ⟨.symbolForName x, index⟩ →
      ∃ us l vs m, (lex text).lexemes = us ++ l :: vs ∧ l.token = .modality m x ∧ l.start = index ∧
        Viable (us.map (·.token)) ∧ ¬ Viable ((us ++ [l]).map (·.token))) ∧
    (∀ f, parse text = .error f → f.cause = .unexpectedEnd ∨ f.cause = .unclosedParen →
      Viable (lex text).tokens ∧ ¬ Accepted (lex text).tokens) ∧
    ∀ w index, parse text = .error ⟨.boundLetter w, index⟩ ↔
      ∃ us l vs, (lex text).lexemes = us ++ l :: vs ∧ State.MisnamesBound us w index ∧
        l.token.startsCondition :=
  ⟨fun _ _ h => exists_of_unexpected h, fun _ _ => exists_of_symbolForName, fun _ => viable_of_end,
    fun _ _ => parse_eq_boundLetter_iff⟩

/-- Neither the symbol nor the letter is told where it stands: the token behind the symbol is, and the
end behind the bound. -/
theorem Query.parse_error_late :
    (parse "[t<=5] [] x" = .error ⟨.unexpected (.ident "x"), 10⟩ ∧
      (lex "[t<=5] [] x").lexemes.map (·.start) = [0, 1, 2, 4, 5, 7, 10] ∧
      ¬ Viable ((lex "[t<=5] [] x").tokens.take 6)) ∧
    parse "[s<=5]" = .error ⟨.unexpectedEnd, 6⟩ ∧
      State.MisnamesBound (lex "[s<=5]").lexemes "s" 0 := by
  refine ⟨⟨by decide +kernel, by decide +kernel, ?_⟩, by decide +kernel, ?_⟩
  · have ran : State.start.run ((lex "[t<=5] [] x").lexemes.take 6) =
        .ok (.body none none (some (.time 5)) (.symbol "[]" 7)) := by decide +kernel
    rw [Lexed.tokens, ← List.map_take]
    exact not_viable_of_pending ran rfl
  · exact State.run_eq_misnamed_iff.mp (by decide +kernel)

end TemporalQuery
