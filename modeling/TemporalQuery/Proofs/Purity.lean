import TemporalQuery.Proofs.Occurrence
import TemporalQuery.Proofs.Semantics

/-!
# State formulas

No path operator occurs anywhere in a pure condition, so all that counts is the state it is asked at:
neither the rest of the run nor the position in it (`Condition.holds_iff_of_isPure`).
-/

namespace TemporalQuery.Condition

universe u

variable {c d : Condition}

theorem isPure_of_mem (pure : c.isPure) (occurs : d ∈ c.subformulas) : d.isPure := by
  rw [isPure_iff] at pure ⊢
  intro part inside
  exact pure part (listsParts.subset occurs inside)

theorem not_isPure_nextState (c : Condition) : ¬ (unary .nextState c).isPure := by
  intro pure
  rw [isPure_iff] at pure
  exact (pure _ (listsParts.mem_self _)).1 rfl

theorem not_isPure_strongUntil (l r : Condition) : ¬ (binary .strongUntil l r).isPure := by
  intro pure
  rw [isPure_iff] at pure
  exact (pure _ (listsParts.mem_self _)).2 rfl

/-! ### Operands of a pure condition -/

theorem isPure_unary {op : UnaryOp} (pure : (unary op c).isPure) : c.isPure :=
  isPure_of_mem pure (List.mem_cons_of_mem _ (listsParts.mem_self c))

theorem isPure_group (pure : (group c).isPure) : c.isPure :=
  isPure_of_mem pure (List.mem_cons_of_mem _ (listsParts.mem_self c))

theorem isPure_binary {op : Connective} {l r : Condition} (pure : (binary op l r).isPure) :
    l.isPure ∧ r.isPure := by
  constructor
  · apply isPure_of_mem pure
    exact List.mem_cons_of_mem _ (List.mem_append_left _ (listsParts.mem_self l))
  · apply isPure_of_mem pure
    exact List.mem_cons_of_mem _ (List.mem_append_right _ (listsParts.mem_self r))

/-! ### One state decides -/

/-- Wherever two runs are in the same state, a pure condition holds on both or on neither. -/
theorem holds_iff_of_isPure {S : Type u} (I : Interpretation S) {σ τ : Nat → S} {i j : Nat}
    (pure : c.isPure) (same : σ i = τ j) : Holds I σ i c ↔ Holds I τ j c := by
  induction c with
  | constant k =>
    cases k with
    | truth | falsity => exact Iff.rfl
    | deadlock => simp only [Holds, same]
  | bare e | compare e op e' => simp only [Holds, same]
  | group c ih => exact ih (isPure_group pure)
  | unary op c ih =>
    cases op with
    | negation => exact not_congr (ih (isPure_unary pure))
    | nextState => exact absurd pure (not_isPure_nextState c)
  | binary op l r ihl ihr =>
    obtain ⟨left, right⟩ := isPure_binary pure
    cases op with
    | conjunction => exact and_congr (ihl left) (ihr right)
    | disjunction => exact or_congr (ihl left) (ihr right)
    | implication => exact imp_congr (ihl left) (ihr right)
    | strongUntil => exact absurd pure (not_isPure_strongUntil l r)

/-- `(x & !deadlock) => (y < 3 | false)` -/
def guarded : Condition :=
  binary .implication
    (group (binary .conjunction (bare (.name "x")) (unary .negation (constant .deadlock))))
    (group (binary .disjunction (compare (.name "y") .lt (.int 3)) (constant .falsity)))

/-- States are numbers: `x` says that the number is odd, a comparison that it is below 3, and the only
deadlock is at 0. -/
def counting : Interpretation Nat where
  bare _ s := s % 2 = 1
  compare _ _ _ s := s < 3
  deadlock s := s = 0

def upwards (i : Nat) : Nat := i

def downwards (i : Nat) : Nat := 8 - i

/-- The two runs meet in state 3 and part again, so that `next (y < 3)` holds on one of them only. -/
theorem guarded_decided :
    (guarded.isPure ∧ upwards 3 = downwards 5) ∧
      (Holds counting upwards 3 guarded ↔ Holds counting downwards 5 guarded) ∧
      ¬ (Holds counting upwards 3 (unary .nextState (compare (.name "y") .lt (.int 3))) ↔
        Holds counting downwards 5 (unary .nextState (compare (.name "y") .lt (.int 3)))) := by
  have pure : guarded.isPure := by decide
  have same : upwards 3 = downwards 5 := rfl
  refine ⟨⟨pure, same⟩, holds_iff_of_isPure counting pure same, ?_⟩
  simp [Holds, counting, upwards, downwards]

end TemporalQuery.Condition
