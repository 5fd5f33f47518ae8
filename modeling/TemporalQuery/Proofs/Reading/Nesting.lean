import TemporalQuery.Proofs.Reading.Refusal
import Mathlib.Data.List.Induction

/-!
# Parentheses

`unclosed` matches the parentheses of a list of lexemes by themselves. A run keeps open just those that
are unclosed (`State.unclosed_of_run`), so a query can end only where the parentheses are balanced.
-/

namespace TemporalQuery

/-- The offsets of the open parentheses, innermost first, one lexeme further on. -/
def Lexeme.nest (opened : List Nat) (l : Lexeme) : Option (List Nat) :=
  match l.token, opened with
  | .openParen, _ => some (l.start :: opened)
  | .closeParen, [] => none
  | .closeParen, _ :: outer => some outer
  | _, _ => some opened

/-- The parentheses that the lexemes leave open; `none` if one closes that was not open. -/
def unclosed (ls : List Lexeme) : Option (List Nat) := ls.foldlM Lexeme.nest []

def Balanced (ls : List Lexeme) : Prop := unclosed ls = some []

theorem unclosed_concat (ls : List Lexeme) (l : Lexeme) :
    unclosed (ls ++ [l]) = (unclosed ls).bind fun opened => l.nest opened := by
  simp [unclosed]

theorem Lexeme.mem_of_nest {l : Lexeme} {opened outer : List Nat} (h : l.nest outer = some opened)
    {index : Nat} (mem : index ∈ opened) : index ∈ outer ∨ l.token = .openParen ∧ l.start = index := by
  unfold Lexeme.nest at h
  split at h
  · obtain rfl := Option.some.inj h
    rcases List.mem_cons.mp mem with rfl | mem
    · exact .inr ⟨‹_›, rfl⟩
    · exact .inl mem
  · cases h
  · obtain rfl := Option.some.inj h
    exact .inl (List.mem_cons_of_mem _ mem)
  · obtain rfl := Option.some.inj h
    exact .inl mem

theorem exists_of_mem_unclosed {ls : List Lexeme} {opened : List Nat} (h : unclosed ls = some opened)
    {index : Nat} (mem : index ∈ opened) : ∃ l ∈ ls, l.token = .openParen ∧ l.start = index := by
  induction ls using List.reverseRecOn generalizing opened with
  | nil =>
    obtain rfl := Option.some.inj h
    cases mem
  | append_singleton ls l ih =>
    rw [unclosed_concat] at h
    obtain ⟨outer, before, nested⟩ := Option.bind_eq_some_iff.mp h
    rcases Lexeme.mem_of_nest nested mem with mem | here
    · obtain ⟨m, front, found⟩ := ih before mem
      exact ⟨m, List.mem_append_left _ front, found⟩
    · exact ⟨l, by simp, here⟩

namespace Reading

namespace Body

/-- The offsets of the open groups, innermost first. -/
def opened : Body → List Nat
  | operand p _ | expr p _ => p.groups.map (·.index) ++ p.cond.groups.map (·.index)
  | cond groups _ => groups.map (·.index)
  | symbol .. => []

variable {b b' : Body} {l : Lexeme}

theorem innermost?_eq (b : Body) : b.innermost? = b.opened.head? := by
  cases b <;> simp [innermost?, opened]

theorem opened_of_finish? (h : b.finish?.isSome) : b.opened = [] := by
  cases b with
  | expr p e =>
    have done : p.groups = [] ∧ p.cond.groups = [] := by
      simpa [finish?] using h
    simp [opened, done]
  | cond groups c =>
    cases groups with
    | nil => rfl
    | cons g gs => cases h
  | _ => cases h

theorem nest_stepOperand {p : ExprPlace} {hole : ExprHole}
    (stepped : stepOperand p hole l.token l.start = some b') (noSymbol : ∀ x i, b' ≠ symbol x i) :
    l.nest (operand p hole).opened = some b'.opened := by
  obtain ⟨t, line, start, stop⟩ := l
  cases t with
  | openParen =>
    simp only [stepOperand] at stepped
    split at stepped
    · rename_i opens
      obtain rfl := Option.some.inj stepped
      simp only [ExprPlace.opensCondition, decide_eq_true_eq] at opens
      simp [Lexeme.nest, opened, opening, opens]
    · obtain rfl := Option.some.inj stepped
      rfl
  | modality m x =>
    simp only [stepOperand] at stepped
    split at stepped
    · obtain rfl := Option.some.inj stepped
      rfl
    · obtain rfl := Option.some.inj stepped
      exact absurd rfl (noSymbol _ _)
  | constant k s =>
    simp only [stepOperand, Option.ite_none_right_eq_some] at stepped
    obtain ⟨opens, stepped⟩ := stepped
    obtain rfl := Option.some.inj stepped
    simp only [ExprPlace.opensCondition, decide_eq_true_eq] at opens
    simp [Lexeme.nest, opened, opens]
  | unary op s =>
    simp only [stepOperand, Option.ite_none_right_eq_some] at stepped
    obtain ⟨_, stepped⟩ := stepped
    obtain rfl := Option.some.inj stepped
    rfl
  | arith op =>
    cases op with
    | subtract =>
      simp only [stepOperand, Option.ite_none_left_eq_some] at stepped
      obtain ⟨_, stepped⟩ := stepped
      obtain rfl := Option.some.inj stepped
      rfl
    | _ => cases stepped
  | int | ident | quoted | quantifier =>
    obtain rfl := Option.some.inj stepped
    rfl
  | _ => cases stepped

theorem nest_stepExpr {p : ExprPlace} {e : Expr} (stepped : stepExpr p e l.token = some b') :
    l.nest (expr p e).opened = some b'.opened := by
  obtain ⟨t, line, start, stop⟩ := l
  cases t with
  | arith op =>
    obtain rfl := Option.some.inj stepped
    rfl
  | relation op s =>
    simp only [stepExpr, Option.ite_none_right_eq_some] at stepped
    obtain ⟨_, stepped⟩ := stepped
    obtain rfl := Option.some.inj stepped
    rfl
  | connective op s =>
    simp only [stepExpr, Option.ite_none_right_eq_some] at stepped
    obtain ⟨inner, stepped⟩ := stepped
    obtain rfl := Option.some.inj stepped
    simp [Lexeme.nest, opened, opening, inner]
  | closeParen =>
    simp only [stepExpr] at stepped
    split at stepped
    · rename_i g gs found
      obtain rfl := Option.some.inj stepped
      simp [Lexeme.nest, opened, found]
    · rename_i g gs inner outer
      split at stepped <;> obtain rfl := Option.some.inj stepped <;>
        simp [Lexeme.nest, opened, inner, outer]
    · cases stepped
  | _ => cases stepped

theorem nest_stepCond {groups : List (Opened CondHole)} {c : Condition}
    (stepped : stepCond groups c l.token = some b') :
    l.nest (cond groups c).opened = some b'.opened := by
  obtain ⟨t, line, start, stop⟩ := l
  cases t with
  | connective op s =>
    obtain rfl := Option.some.inj stepped
    rfl
  | closeParen =>
    cases groups with
    | nil => cases stepped
    | cons g gs =>
      obtain rfl := Option.some.inj stepped
      rfl
  | _ => cases stepped

theorem nest_step (stepped : b.step l.token l.start = some b') (noSymbol : ∀ x i, b' ≠ symbol x i) :
    l.nest b.opened = some b'.opened := by
  cases b with
  | operand p hole => exact nest_stepOperand stepped noSymbol
  | expr p e => exact nest_stepExpr stepped
  | cond groups c => exact nest_stepCond stepped
  | symbol x i => cases stepped

end Body

namespace State

def opened : State → List Nat
  | body _ _ _ b => b.opened
  | _ => []

variable {s s' : State} {ls : List Lexeme} {l : Lexeme}

theorem opened_of_finish? (h : s.finish?.isSome) : s.opened = [] := by
  cases s with
  | body q m b c => exact Body.opened_of_finish? (by simpa [finish?] using h)
  | _ => cases h

theorem nest_body {q : Option Quantifier} {m : Option Modality} {b : Option Bound} {c : Body}
    (advanced : (c.step l.token l.start).map (body q m b) = some s') (settled : s'.pending? = none) :
    l.nest c.opened = some s'.opened := by
  obtain ⟨c', stepped, rfl⟩ := Option.map_eq_some_iff.mp advanced
  refine Body.nest_step stepped fun x i symbol => ?_
  rw [symbol] at settled
  cases settled

theorem nest_advance (advanced : s.advance l.token l.start = some s') (settled : s'.pending? = none) :
    l.nest s.opened = some s'.opened := by
  cases s with
  | body q m b c => exact nest_body advanced settled
  | misnamed w start => cases advanced
  | heading q m =>
    have entered (h : enter q m l.token l.start = some s') : l.nest [] = some s'.opened :=
      nest_body (c := Body.start) h settled
    obtain ⟨t, line, start, stop⟩ := l
    cases t with
    | quantifier k x =>
      simp only [advance] at advanced
      split at advanced
      · obtain rfl := Option.some.inj advanced
        rfl
      · exact entered advanced
    | modality k x =>
      simp only [advance] at advanced
      split at advanced
      · obtain rfl := Option.some.inj advanced
        rfl
      · exact entered advanced
    | openBracket =>
      obtain rfl := Option.some.inj advanced
      rfl
    | _ => exact entered advanced
  | bound q m start part =>
    obtain ⟨t, line, from_, stop⟩ := l
    simp only [advance] at advanced
    split at advanced
    · obtain rfl := Option.some.inj advanced
      rfl
    · split at advanced <;> obtain rfl := Option.some.inj advanced <;> rfl
    · obtain ⟨part', within, rfl⟩ := Option.map_eq_some_iff.mp advanced
      unfold BoundPart.advance at within
      split at within
      · rfl
      · rfl
      · rfl
      · rfl
      · cases within

/-- The open groups of the state are the parentheses that the lexemes leave open. -/
theorem unclosed_of_run (ran : start.run ls = .ok s) (settled : s.pending? = none) :
    unclosed ls = some s.opened := by
  induction ls using List.reverseRecOn generalizing s with
  | nil =>
    obtain rfl := Except.ok.inj ran
    rfl
  | append_singleton ls l ih =>
    obtain ⟨s₁, ranBefore, advanced⟩ := run_concat ran
    have settledBefore : s₁.pending? = none := by
      rw [← Option.not_isSome_iff_eq_none]
      intro pending
      rw [advance_of_pending pending] at advanced
      cases advanced
    rw [unclosed_concat, ih ranBefore settledBefore]
    exact nest_advance advanced settled

/-- An end inside parentheses is told at the innermost of them. -/
theorem endFailure_eq (settled : s.pending? = none) (length : Nat) :
    s.endFailure length =
      match s.opened.head? with
      | some index => ⟨.unclosedParen, index⟩
      | none => ⟨.unexpectedEnd, length⟩ := by
  cases s with
  | body q m b c =>
    cases c with
    | symbol x at_ => cases settled
    | _ =>
      simp only [endFailure, Body.innermost?_eq]
      rfl
  | _ => rfl

theorem balanced_of_finish? (ran : start.run ls = .ok s) (complete : s.finish?.isSome) :
    Balanced ls := by
  have settled : s.pending? = none := by
    rw [← Option.not_isSome_iff_eq_none]
    intro pending
    simp [finish?_of_pending pending] at complete
  rw [Balanced, unclosed_of_run ran settled, opened_of_finish? complete]

end State

end Reading

end TemporalQuery
