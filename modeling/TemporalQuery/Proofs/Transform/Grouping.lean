import TemporalQuery.Proofs.Transform.NormalForm
import Mathlib.Logic.Basic

/-!
# Parentheses do not influence simplification

Conditions that differ in parentheses only are simplified to conditions that differ in parentheses only
(`Condition.simplify_ignores_groups`). The rules compare operands with constants and do not look into
parentheses; that is right because none are ever left around a constant.
-/

namespace TemporalQuery.Condition

/-- The condition without the parentheses around conditions, at all depths. -/
def stripped : Condition → Condition
  | group c => c.stripped
  | unary op c => unary op c.stripped
  | binary op l r => binary op l.stripped r.stripped
  | c => c

/-- Both conditions are reduced, and they differ in parentheses only. -/
structure Alike (c d : Condition) : Prop where
  reduced_left : c.Reduced
  reduced_right : d.Reduced
  stripped_eq : c.stripped = d.stripped

theorem stripped_stripped (c : Condition) : c.stripped.stripped = c.stripped := by
  induction c with
  | constant k | bare e | compare e op e' => rfl
  | unary op c ih => exact congrArg (unary op) ih
  | group c ih => exact ih
  | binary op l r ihl ihr => exact congrArg₂ (binary op) ihl ihr

theorem stripped_asPrimary (c : Condition) : c.asPrimary.stripped = c.stripped := by
  unfold asPrimary
  split <;> rfl

theorem stripped_asOperand (c : Condition) : c.asOperand.stripped = c.stripped := by
  unfold asOperand
  split <;> rfl

/-- Inside its parentheses a condition is complemented as it is without any. -/
theorem stripped_complement_unwrap (c : Condition) :
    c.unwrap.complement.stripped = c.stripped.complement.stripped := by
  induction c with
  | constant k | bare e | compare e op e' => rfl
  | group c ih => exact ih
  | unary op c ih =>
    cases op with
    | negation => exact (stripped_stripped c).symm
    | nextState =>
      have again : (unary .nextState c).stripped.stripped = (unary .nextState c).stripped :=
        stripped_stripped _
      exact congrArg (unary .negation) again.symm
  | binary op l r ihl ihr =>
    have again : (binary op l r).stripped.stripped = (binary op l r).stripped := stripped_stripped _
    exact congrArg (unary .negation) again.symm

theorem Reduced.stripped_eq_constant_iff {c : Condition} (h : c.Reduced) (k : Constant) :
    c.stripped = constant k ↔ c = constant k := by
  cases c with
  | group d =>
    obtain ⟨compound, _, _⟩ := h
    cases d with
    | unary op d => simp only [stripped, reduceCtorEq]
    | binary op l r => simp only [stripped, reduceCtorEq]
    | _ => exact absurd rfl compound
  | constant k' => rfl
  | _ => simp only [stripped, reduceCtorEq]

namespace Alike

variable {c d l l' r r' : Condition}

theorem eq_constant_iff (h : Alike c d) (k : Constant) : c = constant k ↔ d = constant k := by
  rw [← h.reduced_left.stripped_eq_constant_iff, h.stripped_eq, h.reduced_right.stripped_eq_constant_iff]

theorem binary (op : Connective) (hl : Alike l l') (hr : Alike r r') :
    (binary op l r.asOperand).stripped = (binary op l' r'.asOperand).stripped := by
  have right : r.asOperand.stripped = r'.asOperand.stripped := by
    rw [stripped_asOperand, stripped_asOperand, hr.stripped_eq]
  exact congrArg₂ (Condition.binary op) hl.stripped_eq right

theorem meet (hl : Alike l l') (hr : Alike r r') : (meet l r).stripped = (meet l' r').stripped := by
  simp only [Condition.meet, hl.eq_constant_iff, hr.eq_constant_iff]
  split
  · exact hr.stripped_eq
  · split
    · exact hl.stripped_eq
    · split
      · rfl
      · exact hl.binary .conjunction hr

theorem join (hl : Alike l l') (hr : Alike r r') : (join l r).stripped = (join l' r').stripped := by
  simp only [Condition.join, hl.eq_constant_iff, hr.eq_constant_iff]
  split
  · rfl
  · split
    · exact hr.stripped_eq
    · split
      · exact hl.stripped_eq
      · exact hl.binary .disjunction hr

theorem complement (h : Alike c d) :
    c.unwrap.complement.stripped = d.unwrap.complement.stripped := by
  rw [stripped_complement_unwrap, stripped_complement_unwrap, h.stripped_eq]

end Alike

theorem alike_simplify_of_eq {c d : Condition} (same : c.simplify.stripped = d.simplify.stripped) :
    Alike c.simplify d.simplify :=
  ⟨reduced_simplify c, reduced_simplify d, same⟩

/-- A condition is simplified as it is without its parentheses. -/
theorem stripped_simplify (c : Condition) : c.simplify.stripped = c.stripped.simplify.stripped := by
  induction c with
  | constant k | bare e | compare e op e' => rfl
  | group c ih => exact (stripped_asOperand c.simplify).trans ih
  | unary op c ih =>
    cases op with
    | negation => exact (alike_simplify_of_eq ih).complement
    | nextState =>
      have operand : c.simplify.asPrimary.stripped = c.stripped.simplify.asPrimary.stripped := by
        rw [stripped_asPrimary, stripped_asPrimary, ih]
      exact congrArg (unary .nextState) operand
  | binary op l r ihl ihr =>
    have left := alike_simplify_of_eq ihl
    have right := alike_simplify_of_eq ihr
    cases op with
    | conjunction => exact left.meet right
    | disjunction => exact left.join right
    | strongUntil => exact left.binary .strongUntil right
    | implication => exact left.binary .implication right

/-- What is simplified from conditions that are the same without parentheses is the same without
parentheses. -/
theorem simplify_ignores_groups {c d : Condition} (same : c.stripped = d.stripped) :
    c.simplify.stripped = d.simplify.stripped :=
  calc c.simplify.stripped
    _ = c.stripped.simplify.stripped := stripped_simplify c
    _ = d.stripped.simplify.stripped := by rw [same]
    _ = d.simplify.stripped := (stripped_simplify d).symm

/-- `((true) & ((x | y))) & z` -/
def crowded : Condition :=
  binary .conjunction
    (group (binary .conjunction (group (constant .truth))
      (group (group (binary .disjunction (bare (.name "x")) (bare (.name "y")))))))
    (bare (.name "z"))

/-- `true & (x | y) & z`, without parentheses in the tree. -/
def uncrowded : Condition :=
  binary .conjunction
    (binary .conjunction (constant .truth)
      (binary .disjunction (bare (.name "x")) (bare (.name "y"))))
    (bare (.name "z"))

/-- They are simplified to `(x | y) & z` and to `x | y & z`, whose trees differ in the parentheses. -/
theorem crowded_ignores_groups :
    crowded.stripped = uncrowded.stripped ∧ crowded.simplify ≠ uncrowded.simplify ∧
      crowded.simplify.stripped = uncrowded.simplify.stripped :=
  have same : crowded.stripped = uncrowded.stripped := rfl
  ⟨same, by decide, simplify_ignores_groups same⟩

end TemporalQuery.Condition
