import TemporalQuery.Proofs.Transform.Duality
import TemporalQuery.Proofs.Transform.Irreducible

/-!
# Converting back

A query that is converted to its dual and back is the same but for its condition, which is negated
twice; simplified, and without parentheses around it, the condition is the same too
(`Query.converted_back`).
-/

namespace TemporalQuery

namespace Condition

theorem not_isGroup_unwrap (c : Condition) : ¬ c.unwrap.isGroup := by
  induction c with
  | group c ih => exact ih
  | _ => exact Bool.false_ne_true

theorem unwrap_simplify_asPrimary (c : Condition) : c.asPrimary.simplify.unwrap = c.simplify.unwrap := by
  unfold asPrimary
  split
  · rfl
  · exact unwrap_of_asOperand c.simplify

theorem simplify_negate (c : Condition) : c.negate.simplify = c.simplify.unwrap.complement :=
  congrArg complement (unwrap_simplify_asPrimary c)

/-- Parentheses around an operand are the ones it needs in front of an operator. -/
theorem Reduced.asPrimary_unwrap {c : Condition} (h : c.Reduced) (primary : c.isPrimary) :
    c.unwrap.asPrimary = c := by
  cases c with
  | group d =>
    obtain ⟨compound, _, _⟩ := h
    rw [unwrap, unwrap_of_compound compound, asPrimary, if_neg compound]
  | constant k | bare e | compare e op e' => rfl
  | unary op d | binary op l r => cases primary

theorem Reduced.complement_operand {c : Condition} (h : (unary .negation c).Reduced) :
    c.unwrap.complement = unary .negation c := by
  have irreducible := h.irreducible_negation
  obtain ⟨primary, _, reduced⟩ := h
  rw [complement_of_ordinary irreducible.1 irreducible.2, negate, reduced.asPrimary_unwrap primary]

theorem unwrap_asPrimary {c : Condition} (single : ¬ c.isGroup) : c.asPrimary.unwrap = c := by
  cases c with
  | group d => exact absurd rfl single
  | _ => rfl

/-- The complement of the complement, each looked at inside its parentheses. -/
theorem Reduced.complement_complement {c : Condition} (h : c.Reduced) (single : ¬ c.isGroup) :
    c.complement.unwrap.complement.unwrap = c := by
  by_cases value : c.isTruthValue
  · rcases of_decide_eq_true value with rfl | rfl <;> rfl
  · by_cases negation : c.isNegation
    · cases c with
      | unary op d =>
        cases op with
        | negation => exact congrArg unwrap h.complement_operand
        | nextState => cases negation
      | _ => cases negation
    · rw [complement_of_ordinary value negation]
      exact unwrap_asPrimary single

theorem unwrap_simplify_negate_negate (c : Condition) :
    c.negate.negate.simplify.unwrap = c.simplify.unwrap := by
  rw [simplify_negate, simplify_negate]
  exact (reduced_unwrap (reduced_simplify c)).complement_complement (not_isGroup_unwrap c.simplify)

end Condition

namespace Query

variable {q : Query} {k k' : Quantifier} {m m' : Modality}

/-- Whichever prefix a conversion is asked to change, it changes both. -/
theorem converted (quantifier : q.quantifier = some k) (overRuns : ¬ k.isProbabilistic)
    (modality : q.modality = some m) (otherModality : m' ≠ m) (otherQuantifier : k' ≠ k)
    (targeted : ¬ k'.isProbabilistic) :
    q.withModality m' = .ok ⟨q.condition.negate, some k', some m', q.bound⟩ ∧
      q.withQuantifier k' = .ok ⟨q.condition.negate, some k', some m', q.bound⟩ := by
  have turned := dual_eq_ok m quantifier (Quantifier.dual?_eq_of_ne overRuns targeted otherQuantifier)
  rw [Modality.dual_eq_of_ne otherModality] at turned
  rw [withModality_of_ne modality otherModality,
    withQuantifier_of_ne quantifier targeted modality otherQuantifier]
  exact ⟨turned, turned⟩

/-- Either conversion to the other value can be undone by either conversion, apart from two negations
that simplification cancels. -/
theorem converted_back (quantifier : q.quantifier = some k) (overRuns : ¬ k.isProbabilistic)
    (modality : q.modality = some m) (otherModality : m' ≠ m) (otherQuantifier : k' ≠ k)
    (targeted : ¬ k'.isProbabilistic) :
    ∃ r d, (q.withModality m' = .ok r ∧ q.withQuantifier k' = .ok r) ∧
      (r.quantifier = some k' ∧ r.modality = some m') ∧
      (r.withModality m = .ok d ∧ r.withQuantifier k = .ok d) ∧
      d.quantifier = q.quantifier ∧ d.modality = q.modality ∧ d.bound = q.bound ∧
      d.condition.simplify.unwrap = q.condition.simplify.unwrap := by
  have there := converted quantifier overRuns modality otherModality otherQuantifier targeted
  have back := converted (q := ⟨q.condition.negate, some k', some m', q.bound⟩) rfl targeted rfl
    otherModality.symm otherQuantifier.symm overRuns
  exact ⟨_, _, there, ⟨rfl, rfl⟩, back, quantifier.symm, modality.symm, rfl,
    Condition.unwrap_simplify_negate_negate q.condition⟩

/-- `E G [#<=3] true & next x` -/
def nextHolds : Query where
  condition := .binary .conjunction (.constant .truth) (.unary .nextState (.bare (.name "x")))
  quantifier := some .existential
  modality := some .globally
  bound := some (.steps 3)

/-- `A F [#<=3] !(true & next x)` -/
def nextFails : Query where
  condition := .unary .negation (.group nextHolds.condition)
  quantifier := some .universal
  modality := some .eventually
  bound := some (.steps 3)

/-- Back again the condition is simplified to `(next x)`; at first it was to `next x`. -/
theorem nextHolds_converted_back :
    (nextHolds.quantifier = some .existential ∧ nextHolds.modality = some .globally) ∧
      nextHolds.withModality .eventually = .ok nextFails ∧
      nextHolds.withQuantifier .universal = .ok nextFails ∧
      ∃ d, (nextFails.withModality .globally = .ok d ∧ nextFails.withQuantifier .existential = .ok d) ∧
        d.bound = nextHolds.bound ∧ d.condition.simplify ≠ nextHolds.condition.simplify ∧
        d.condition.simplify.unwrap = nextHolds.condition.simplify.unwrap := by
  have otherModality : Modality.eventually ≠ .globally := by decide
  have otherQuantifier : Quantifier.universal ≠ .existential := by decide
  obtain ⟨r, d, there, _, back, _, _, bound, condition⟩ := converted_back (q := nextHolds) rfl
    (by decide) rfl otherModality otherQuantifier (by decide)
  have turned : nextHolds.withModality .eventually = .ok nextFails := rfl
  obtain rfl : nextFails = r := Except.ok.inj (turned.symm.trans there.1)
  have again : nextFails.withModality .globally =
    .ok { nextHolds with condition := nextHolds.condition.negate.negate } := rfl
  obtain rfl := Except.ok.inj (again.symm.trans back.1)
  exact ⟨⟨rfl, rfl⟩, there.1, there.2, _, back, bound, by decide, condition⟩

end Query

end TemporalQuery
