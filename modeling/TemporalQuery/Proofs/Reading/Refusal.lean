import TemporalQuery.Proofs.Reading.Acceptance
import TemporalQuery.Proofs.Reading.Completion

/-!
# Where reading stops

A run that fails has read some lexemes and refuses the next one (`State.exists_of_run_error`). `Refused`
says what the refusals are, `ParseFails` where the failure of a text comes from. Two refusals are about
what was read before: about a modality symbol, the last token that was read (`State.exists_of_pending`),
and about a run bound, the last tokens that were (`State.run_eq_misnamed_iff`).
-/

namespace TemporalQuery

/-- Whether a condition may start with the token. -/
def Token.startsCondition : Token → Bool
  | int _ | ident _ | quoted _ | quantifier .. | modality .. | constant .. | unary .. | openParen => true
  | arith op => op = .subtract
  | _ => false

namespace Reading

theorem Body.isSome_step_start (t : Token) (index : Nat) :
    (Body.start.step t index).isSome = t.startsCondition := by
  cases t with
  | arith op => cases op <;> rfl
  | modality m x =>
    by_cases symbol : x = m.symbol
    · simp [start, opening, step, stepOperand, symbol, Token.startsCondition]
    · simp [start, opening, step, stepOperand, symbol, Token.startsCondition]
  | _ => rfl

namespace State

variable {s s' : State} {t : Token} {index : Nat} {ls : List Lexeme} {f : Failure}

/-! ### Runs -/

theorem run_append (h : s.run ls = .ok s') (ms : List Lexeme) : s.run (ls ++ ms) = s'.run ms := by
  simp only [run, List.foldlM_append] at h ⊢
  rw [h]
  rfl

theorem run_append_error (h : s.run ls = .error f) (ms : List Lexeme) :
    s.run (ls ++ ms) = .error f := by
  simp only [run, List.foldlM_append] at h ⊢
  rw [h]
  rfl

theorem run_concat {l : Lexeme} (h : s.run (ls ++ [l]) = .ok s') :
    ∃ s₁, s.run ls = .ok s₁ ∧ s₁.advance l.token l.start = some s' := by
  cases ran : s.run ls with
  | error f => cases (run_append_error ran [l]).symm.trans h
  | ok s₁ =>
    rw [run_append ran] at h
    cases advanced : s₁.advance l.token l.start with
    | none => cases (run_cons_refused advanced []).symm.trans h
    | some s₂ =>
      rw [run_cons advanced] at h
      obtain rfl := Except.ok.inj h
      exact ⟨s₁, rfl, advanced⟩

theorem exists_of_run_error (h : s.run ls = .error f) :
    ∃ us l vs s₁, ls = us ++ l :: vs ∧ s.run us = .ok s₁ ∧ s₁.advance l.token l.start = none ∧
      s₁.refusal l.token l.start = f := by
  induction ls generalizing s with
  | nil => cases h
  | cons l ls ih =>
    cases advanced : s.advance l.token l.start with
    | none =>
      rw [run_cons_refused advanced] at h
      exact ⟨[], l, ls, s, rfl, rfl, advanced, Except.error.inj h⟩
    | some s' =>
      rw [run_cons advanced] at h
      obtain ⟨us, m, vs, s₁, rfl, ran, refused, failure⟩ := ih h
      exact ⟨l :: us, m, vs, s₁, rfl, (run_cons advanced us).trans ran, refused, failure⟩

/-! ### Refusals -/

/-- The modality symbol that stands where a name is due, and its offset. -/
def pending? : State → Option (String × Nat)
  | body _ _ _ (.symbol x at_) => some (x, at_)
  | _ => none

/-- Why a state may refuse a token. -/
inductive Refused (s : State) (t : Token) (index : Nat) : Failure → Prop
  | unexpected (incomplete : s.finish? = none) (unrelated : s.pending?.isSome → followsName t = false) :
      Refused s t index ⟨.unexpected t, index⟩
  | trailing (complete : s.finish?.isSome) : Refused s t index ⟨.trailing t, index⟩
  | symbolForName {x : String} {at_ : Nat} (pending : s.pending? = some (x, at_))
      (follows : followsName t) : Refused s t index ⟨.symbolForName x, at_⟩
  | boundLetter {w : String} {start : Nat} (misnamed : s = misnamed w start)
      (starts : t.startsCondition) : Refused s t index ⟨.boundLetter w, start⟩

theorem refused_refusal (s : State) (t : Token) (index : Nat) :
    Refused s t index (s.refusal t index) := by
  have unexpected (unrelated : s.pending?.isSome → followsName t = false) : Refused s t index
      ⟨if s.finish?.isSome then .trailing t else .unexpected t, index⟩ := by
    by_cases complete : s.finish?.isSome
    · rw [if_pos complete]
      exact .trailing complete
    · rw [if_neg complete]
      exact .unexpected (by simpa using complete) unrelated
  cases s with
  | heading q m => exact unexpected nofun
  | bound q m start part => exact unexpected nofun
  | misnamed w start =>
    simp only [refusal, Body.isSome_step_start]
    split
    · exact .boundLetter rfl ‹_›
    · exact unexpected nofun
  | body q m b c =>
    cases c with
    | symbol x at_ =>
      simp only [refusal]
      split
      · exact .symbolForName rfl ‹_›
      · exact unexpected fun _ => Bool.eq_false_iff.mpr ‹_›
    | _ => exact unexpected nofun

theorem Refused.cause_ne (h : s.Refused t index f) (noBound : ∀ w start, s ≠ misnamed w start)
    (w : String) : f.cause ≠ .boundLetter w := by
  cases h with
  | boundLetter misnamed starts => exact absurd misnamed (noBound _ _)
  | _ => simp

theorem endFailure_of_pending {x : String} {at_ : Nat} (h : s.pending? = some (x, at_)) (length : Nat) :
    s.endFailure length = ⟨.symbolForName x, at_⟩ := by
  unfold pending? at h
  split at h
  · obtain ⟨rfl, rfl⟩ := Prod.mk.inj (Option.some.inj h)
    rfl
  · cases h

theorem endFailure_cause (h : s.pending? = none) (length : Nat) :
    (s.endFailure length).cause = .unexpectedEnd ∨ (s.endFailure length).cause = .unclosedParen := by
  unfold endFailure
  split
  · cases h
  · split
    · exact .inr rfl
    · exact .inl rfl
  · exact .inl rfl

/-! ### Symbols for names -/

theorem advance_of_pending (h : s.pending?.isSome) (t : Token) (index : Nat) :
    s.advance t index = none := by
  unfold pending? at h
  split at h
  · rfl
  · cases h

theorem finish?_of_pending (h : s.pending?.isSome) : s.finish? = none := by
  unfold pending? at h
  split at h
  · rfl
  · cases h

end State

namespace Body

theorem stepOperand_eq_symbol {p : ExprPlace} {hole : ExprHole} {t : Token} {index at_ : Nat}
    {x : String} (h : stepOperand p hole t index = some (symbol x at_)) :
    at_ = index ∧ ∃ m, t = .modality m x ∧ x ≠ m.symbol := by
  cases t with
  | modality m y =>
    simp only [stepOperand] at h
    split at h
    · cases h
    · rename_i notName
      obtain ⟨rfl, rfl⟩ := symbol.inj (Option.some.inj h)
      exact ⟨rfl, m, rfl, notName⟩
  | openParen | constant | unary =>
    simp only [stepOperand] at h
    split at h <;> cases h
  | arith op =>
    cases op with
    | subtract =>
      simp only [stepOperand] at h
      split at h <;> cases h
    | _ => cases h
  | _ => cases h

theorem stepExpr_ne_symbol (p : ExprPlace) (e : Expr) (t : Token) (x : String) (at_ : Nat) :
    stepExpr p e t ≠ some (symbol x at_) := by
  intro h
  unfold stepExpr at h
  split at h
  · cases h
  · split at h <;> cases h
  · split at h <;> cases h
  · split at h
    · cases h
    · split at h <;> cases h
    · cases h
  · cases h

theorem stepCond_ne_symbol (groups : List (Opened CondHole)) (c : Condition) (t : Token) (x : String)
    (at_ : Nat) : stepCond groups c t ≠ some (symbol x at_) := by
  intro h
  unfold stepCond at h
  split at h
  · cases h
  · split at h <;> cases h
  · cases h

theorem step_eq_symbol {b : Body} {t : Token} {index at_ : Nat} {x : String}
    (h : b.step t index = some (symbol x at_)) :
    at_ = index ∧ ∃ m, t = .modality m x ∧ x ≠ m.symbol := by
  cases b with
  | operand p hole => exact stepOperand_eq_symbol h
  | expr p e => exact absurd h (stepExpr_ne_symbol p e t x at_)
  | cond groups c => exact absurd h (stepCond_ne_symbol groups c t x at_)
  | symbol y i => cases h

end Body

namespace State

variable {s s' : State} {t : Token} {index : Nat} {ls : List Lexeme}

theorem pending_of_map {q : Option Quantifier} {m : Option Modality} {b : Option Bound}
    {o : Option Body} {x : String} {at_ : Nat} (h : o.map (body q m b) = some s)
    (pending : s.pending? = some (x, at_)) : o = some (.symbol x at_) := by
  obtain ⟨c, rfl, rfl⟩ := Option.map_eq_some_iff.mp h
  unfold pending? at pending
  split at pending
  · rename_i same
    obtain ⟨rfl, rfl⟩ := Prod.mk.inj (Option.some.inj pending)
    obtain ⟨_, _, _, rfl⟩ := body.inj same
    rfl
  · cases pending

theorem pending_of_advance {x : String} {at_ : Nat} (advanced : s.advance t index = some s')
    (pending : s'.pending? = some (x, at_)) :
    at_ = index ∧ ∃ m, t = .modality m x ∧ x ≠ m.symbol := by
  have entered {q : Option Quantifier} {m : Option Modality} (h : enter q m t index = some s') :
      at_ = index ∧ ∃ m, t = .modality m x ∧ x ≠ m.symbol :=
    Body.step_eq_symbol (pending_of_map h pending)
  cases s with
  | heading q m =>
    simp only [advance] at advanced
    split at advanced
    · split at advanced
      · obtain rfl := Option.some.inj advanced
        cases pending
      · exact entered advanced
    · split at advanced
      · obtain rfl := Option.some.inj advanced
        cases pending
      · exact entered advanced
    · obtain rfl := Option.some.inj advanced
      cases pending
    · exact entered advanced
  | bound q m start part =>
    simp only [advance] at advanced
    split at advanced
    · obtain rfl := Option.some.inj advanced
      cases pending
    · split at advanced <;> obtain rfl := Option.some.inj advanced <;> cases pending
    · obtain ⟨part', _, rfl⟩ := Option.map_eq_some_iff.mp advanced
      cases pending
  | misnamed w start => cases advanced
  | body q m b c => exact Body.step_eq_symbol (pending_of_map advanced pending)

/-- The symbol is the last token that was read, and nothing stood in its way before. -/
theorem exists_of_pending {x : String} {at_ : Nat} (ran : start.run ls = .ok s)
    (pending : s.pending? = some (x, at_)) :
    ∃ us l s₁ m, ls = us ++ [l] ∧ start.run us = .ok s₁ ∧ s₁.pending? = none ∧ l.start = at_ ∧
      l.token = .modality m x ∧ x ≠ m.symbol := by
  rcases List.eq_nil_or_concat ls with rfl | ⟨us, l, rfl⟩
  · obtain rfl := Except.ok.inj ran
    cases pending
  · rw [List.concat_eq_append] at ran ⊢
    obtain ⟨s₁, ranBefore, advanced⟩ := run_concat ran
    obtain ⟨start, m, symbol, notName⟩ := pending_of_advance advanced pending
    have settled : s₁.pending? = none := by
      rw [← Option.not_isSome_iff_eq_none]
      intro before
      rw [advance_of_pending before] at advanced
      cases advanced
    exact ⟨us, l, s₁, m, rfl, ranBefore, settled, start.symm, symbol, notName⟩

/-! ### Run bounds -/

/-- The lexemes are an optional quantifier, an optional modality and, from `index` on, a run bound over
a letter that is none. -/
def MisnamesBound (ls : List Lexeme) (w : String) (index : Nat) : Prop :=
  ∃ q m us o vs s n, ls = us ++ o :: vs ∧ HeadingTaken q m (us.map (·.token)) ∧ o.start = index ∧
    (o :: vs).map (·.token) = (BoundLetter.word w).tokens s n ∧ w ≠ "t"

theorem reads_heading {q : Option Quantifier} {m : Option Modality} {ts : List Token}
    (h : HeadingTaken q m ts) : start.Reads ts (· = heading q m) := by
  obtain ⟨us, vs, rfl, quantifier, modality⟩ := h
  cases q with
  | none =>
    obtain rfl := quantifier
    cases m with
    | none =>
      obtain rfl := modality
      exact .nil rfl
    | some k =>
      obtain ⟨x, rfl⟩ := modality
      exact .cons fun _ => ⟨_, rfl, .nil rfl⟩
  | some j =>
    obtain ⟨y, rfl⟩ := quantifier
    cases m with
    | none =>
      obtain rfl := modality
      exact .cons fun _ => ⟨_, rfl, .nil rfl⟩
    | some k =>
      obtain ⟨x, rfl⟩ := modality
      exact .cons fun _ => ⟨_, rfl, .cons fun _ => ⟨_, rfl, .nil rfl⟩⟩

theorem MisnamesBound.run {w : String} {index : Nat} (h : MisnamesBound ls w index) :
    start.run ls = .ok (misnamed w index) := by
  obtain ⟨q, m, us, o, vs, s, n, rfl, heading, rfl, tokens, notTime⟩ := h
  obtain ⟨_, ran, rfl⟩ := reads_heading heading us rfl
  obtain ⟨opening, rest⟩ := List.cons.inj tokens
  have bracket : o.token = .openBracket := opening
  have opened : (State.heading q m).advance o.token o.start = some (bound q m o.start .opened) := by
    rw [bracket]
    rfl
  have reads : (bound q m o.start .opened).Reads
      [.ident w, .relation .le s, .int n, .closeBracket] (· = misnamed w o.start) := by
    iterate 3 refine .cons fun _ => ⟨_, rfl, ?_⟩
    exact .cons fun _ => ⟨_, if_neg notTime, .nil rfl⟩
  obtain ⟨_, ranBound, rfl⟩ := reads vs rest
  rw [run_append ran, run_cons opened, ranBound]

theorem MisnamesBound.run_refused {w : String} {index : Nat} (h : MisnamesBound ls w index) {l : Lexeme}
    (starts : l.token.startsCondition) (vs : List Lexeme) :
    start.run (ls ++ l :: vs) = .error ⟨.boundLetter w, index⟩ := by
  have refusal : (misnamed w index).refusal l.token l.start = ⟨.boundLetter w, index⟩ := by
    simp [State.refusal, Body.isSome_step_start, starts]
  rw [run_append h.run, run_cons_refused rfl, refusal]

theorem run_eq_misnamed_iff {w : String} {index : Nat} :
    start.run ls = .ok (misnamed w index) ↔ MisnamesBound ls w index := by
  constructor
  · intro ran
    obtain ⟨q, m, us, s, n, heading, notTime, split⟩ := taken_run taken_initial ran
    obtain ⟨hs, os, rfl, rfl, tokens⟩ := List.map_eq_append_iff.mp split
    obtain ⟨o, vs, rfl, _⟩ := List.map_eq_cons_iff.mp tokens
    have found : MisnamesBound (hs ++ o :: vs) w o.start :=
      ⟨q, m, hs, o, vs, s, n, rfl, heading, rfl, tokens, notTime⟩
    -- The offset is that of the bracket, because the lexemes lead to one state only.
    obtain ⟨_, rfl⟩ := misnamed.inj (Except.ok.inj (ran.symm.trans found.run))
    exact found
  · exact MisnamesBound.run

end State

end Reading

/-! ### Texts -/

open Reading

/-- Where the failure of a text comes from. -/
inductive ParseFails (text : String) : Failure → Prop
  | blank (blank : text.toList.all Text.isBlank) : ParseFails text ⟨.emptyQuery, text.length⟩
  | refused {us vs : List Lexeme} {l : Lexeme} {s : State} {f : Failure}
      (split : (lex text).lexemes = us ++ l :: vs) (ran : State.start.run us = .ok s)
      (failed : State.start.run (us ++ [l]) = .error f) (refused : s.Refused l.token l.start f) :
      ParseFails text f
  | fault {s : State} {fault : LexFault} {index : Nat}
      (ran : State.start.run (lex text).lexemes = .ok s) (found : (lex text).fault = some (fault, index)) :
      ParseFails text ⟨.lexical fault, index⟩
  | pending {s : State} {x : String} {at_ : Nat} (ran : State.start.run (lex text).lexemes = .ok s)
      (pending : s.pending? = some (x, at_)) : ParseFails text ⟨.symbolForName x, at_⟩
  | ended {s : State} {f : Failure} (ran : State.start.run (lex text).lexemes = .ok s)
      (settled : s.pending? = none) (unfinished : s.finish? = none)
      (failure : s.endFailure text.length = f) : ParseFails text f

theorem Query.parseFails_of_parse {text : String} {f : Failure} (h : parse text = .error f) :
    ParseFails text f := by
  unfold parse at h
  split at h
  · obtain rfl := Except.error.inj h
    exact .blank ‹_›
  · unfold Lexed.parse at h
    split at h
    · rename_i ran
      obtain rfl := Except.error.inj h
      obtain ⟨us, l, vs, s, split, ranBefore, stuck, rfl⟩ := State.exists_of_run_error ran
      have failed : State.start.run (us ++ [l]) = .error (s.refusal l.token l.start) := by
        rw [State.run_append ranBefore, State.run_cons_refused stuck]
      exact .refused split ranBefore failed (s.refused_refusal _ _)
    · rename_i ran found
      obtain rfl := Except.error.inj h
      exact .fault ran found
    · rename_i s ran clean
      cases unfinished : s.finish? with
      | some q => simp [State.finish, unfinished] at h
      | none =>
        rw [State.finish, unfinished] at h
        obtain rfl := Except.error.inj h
        cases pending : s.pending? with
        | some p =>
          rw [State.endFailure_of_pending pending]
          exact .pending ran pending
        | none => exact .ended ran pending unfinished rfl

theorem Query.parse_of_run_error {text : String} {f : Failure}
    (h : State.start.run (lex text).lexemes = .error f) : parse text = .error f := by
  have nonempty : (lex text).tokens ≠ [] := by
    intro none
    rw [List.map_eq_nil_iff.mp none] at h
    cases h
  rw [parse_of_tokens nonempty, Lexed.parse, h]

end TemporalQuery
