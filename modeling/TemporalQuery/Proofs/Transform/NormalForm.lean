import TemporalQuery.Transform.Simplify

/-!
# What one pass leaves over

One pass applies all rules but one to the end: a double negation gives back its condition in the
parentheses that `!` needed, and around a next condition nothing needs them any more. A second pass
drops these and does nothing else, a third does nothing (`Condition.simplify_exhausts`).
-/

namespace TemporalQuery

/-- Whether a constant operand settles the connective or drops out of it. -/
def Connective.absorbs : Connective → Bool
  | conjunction | disjunction => true
  | strongUntil | implication => false

namespace Condition

def isNegation : Condition → Bool
  | unary .negation _ => true
  | _ => false

def isGroup : Condition → Bool
  | group _ => true
  | _ => false

def isTruthValue (c : Condition) : Bool := c = constant .truth ∨ c = constant .falsity

/-- No rule applies at any place, and every operand can be written where it stands. Parentheses
around a next condition pass. -/
def Reduced : Condition → Prop
  | constant _ | bare _ | compare .. => True
  | group c => ¬ c.isPrimary ∧ ¬ c.isNegation ∧ c.Reduced
  | unary .negation c => c.isPrimary ∧ ¬ c.isTruthValue ∧ c.Reduced
  | unary .nextState (group c) => ¬ c.isPrimary ∧ c.Reduced
  | unary .nextState c => c.isPrimary ∧ c.Reduced
  | binary op l r =>
    (l.Reduced ∧ r.Reduced ∧ ¬ r.isBinary) ∧ (op.absorbs → ¬ l.isTruthValue ∧ ¬ r.isTruthValue)

theorem Reduced.of_group {c : Condition} (h : (group c).Reduced)
    (noNext : ∀ d, c ≠ unary .nextState d) : ∃ op l r, c = binary op l r := by
  obtain ⟨compound, noNegation, _⟩ := h
  cases c with
  | binary op l r => exact ⟨op, l, r, rfl⟩
  | unary op c =>
    cases op with
    | negation => exact absurd rfl noNegation
    | nextState => exact absurd rfl (noNext c)
  | _ => exact absurd rfl compound

theorem Reduced.of_unary_group {op : UnaryOp} {c : Condition} (h : (unary op (group c)).Reduced) :
    ¬ c.isPrimary ∧ (op = .negation → ¬ c.isNegation) ∧ c.Reduced := by
  cases op with
  | negation => exact ⟨h.2.2.1, fun _ => h.2.2.2.1, h.2.2.2.2⟩
  | nextState => exact ⟨h.1, nofun, h.2⟩

/-- In front of anything but parentheses stands an operator only if no condition is inside. -/
theorem Reduced.of_unary {op : UnaryOp} {c : Condition} (h : (unary op c).Reduced)
    (noGroup : ∀ d, c ≠ group d) :
    (∃ k, c = constant k) ∨ (∃ e, c = bare e) ∨ ∃ l r op, c = compare l op r := by
  have primary : c.isPrimary := by
    cases op with
    | negation => exact h.1
    | nextState =>
      cases c with
      | group d => exact absurd rfl (noGroup d)
      | _ => exact h.1
  cases c with
  | constant k => exact .inl ⟨k, rfl⟩
  | bare e => exact .inr (.inl ⟨e, rfl⟩)
  | compare l op r => exact .inr (.inr ⟨l, r, op, rfl⟩)
  | group d => exact absurd rfl (noGroup d)
  | _ => cases primary

/-- The condition without parentheses around next conditions, but for those an operator needs. -/
def tightened : Condition → Condition
  | group (unary .nextState c) => (unary .nextState c).tightened
  | group c => group c.tightened
  | unary op (group c) => unary op (group c.tightened)
  | unary op c => unary op c.tightened
  | binary op l r => binary op l.tightened r.tightened
  | c => c

/-- Whether parentheses that no operator needs are around a next condition. -/
def hasLooseNext : Condition → Bool
  | group (unary .nextState _) => true
  | group c | unary _ (group c) | unary _ c => c.hasLooseNext
  | binary _ l r => l.hasLooseNext || r.hasLooseNext
  | _ => false

/-! ### What becomes of a connective -/

/-- The conditions that a connective with the operands `l` and `r` can be simplified to. -/
inductive Combined (op : Connective) (l r : Condition) : Condition → Prop
  | constant (k : Constant) : Combined op l r (constant k)
  | left : Combined op l r l
  | right : Combined op l r r
  | both (ordinary : op.absorbs → ¬ l.isTruthValue ∧ ¬ r.isTruthValue) :
    Combined op l r (binary op l r.asOperand)

theorem combined_meet (l r : Condition) : Combined .conjunction l r (meet l r) := by
  unfold meet
  split
  · exact .right
  · split
    · exact .left
    · split
      · exact .constant .falsity
      · exact .both fun _ => by simp_all [isTruthValue]

theorem combined_join (l r : Condition) : Combined .disjunction l r (join l r) := by
  unfold join
  split
  · exact .constant .truth
  · split
    · exact .right
    · split
      · exact .left
      · exact .both fun _ => by simp_all [isTruthValue]

theorem combined_simplify (op : Connective) (l r : Condition) :
    Combined op l.simplify r.simplify (binary op l r).simplify := by
  cases op with
  | conjunction => exact combined_meet l.simplify r.simplify
  | disjunction => exact combined_join l.simplify r.simplify
  | strongUntil | implication => exact .both nofun

/-! ### One pass reduces -/

theorem reduced_asOperand {c : Condition} (h : c.Reduced) : c.asOperand.Reduced := by
  unfold asOperand
  split
  · rename_i chain
    cases c with
    | binary op l r => exact ⟨nofun, nofun, h⟩
    | _ => cases chain
  · exact h

theorem not_isBinary_asOperand (c : Condition) : ¬ c.asOperand.isBinary := by
  unfold asOperand
  split
  · exact nofun
  · assumption

theorem isTruthValue_asOperand (c : Condition) : c.asOperand.isTruthValue = c.isTruthValue := by
  cases c <;> rfl

theorem reduced_unwrap {c : Condition} (h : c.Reduced) : c.unwrap.Reduced := by
  induction c with
  | group c ih => exact ih h.2.2
  | _ => exact h

theorem reduced_negate {c : Condition} (h : c.Reduced) (noTruthValue : ¬ c.isTruthValue)
    (noNegation : ¬ c.isNegation) : c.negate.Reduced := by
  unfold negate asPrimary
  split
  · rename_i primary
    exact ⟨primary, noTruthValue, h⟩
  · rename_i compound
    exact ⟨rfl, nofun, compound, noNegation, h⟩

theorem reduced_complement {c : Condition} (h : c.Reduced) : c.complement.Reduced := by
  unfold complement
  split
  · trivial
  · trivial
  · exact h.2.2
  · rename_i noTruth noFalsity noNegation
    refine reduced_negate h (fun value => (of_decide_eq_true value).elim noTruth noFalsity) ?_
    cases c with
    | unary op c =>
      cases op with
      | negation => exact absurd rfl (noNegation c)
      | nextState => exact Bool.false_ne_true
    | _ => exact Bool.false_ne_true

theorem reduced_next {c : Condition} (h : c.Reduced) : (unary .nextState c.asPrimary).Reduced := by
  unfold asPrimary
  split
  · rename_i primary
    cases c with
    | group c => exact ⟨h.1, h.2.2⟩
    | constant k | bare e | compare e op e' => exact ⟨rfl, h⟩
    | _ => cases primary
  · rename_i compound
    exact ⟨compound, h⟩

theorem reduced_binary {op : Connective} {l r : Condition} (hl : l.Reduced) (hr : r.Reduced)
    (noTruthValue : op.absorbs → ¬ l.isTruthValue ∧ ¬ r.isTruthValue) :
    (binary op l r.asOperand).Reduced := by
  refine ⟨⟨hl, reduced_asOperand hr, not_isBinary_asOperand r⟩, fun absorbs => ?_⟩
  rw [isTruthValue_asOperand]
  exact noTruthValue absorbs

theorem Combined.reduced {op : Connective} {l r c : Condition} (h : Combined op l r c) (hl : l.Reduced)
    (hr : r.Reduced) : c.Reduced := by
  cases h with
  | constant k => trivial
  | left => exact hl
  | right => exact hr
  | both ordinary => exact reduced_binary hl hr ordinary

theorem reduced_simplify (c : Condition) : c.simplify.Reduced := by
  induction c with
  | constant k | bare e | compare e op e' => trivial
  | group c ih => exact reduced_asOperand ih
  | unary op c ih =>
    cases op with
    | negation => exact reduced_complement (reduced_unwrap ih)
    | nextState => exact reduced_next ih
  | binary op l r ihl ihr => exact (combined_simplify op l r).reduced ihl ihr

/-! ### A second pass tightens -/

theorem exists_tightened_unary (op : UnaryOp) (c : Condition) :
    ∃ d, (unary op c).tightened = unary op d := by
  cases c <;> exact ⟨_, rfl⟩

theorem isBinary_tightened (c : Condition) : c.tightened.isBinary = c.isBinary := by
  fun_cases tightened c with
  | case1 c =>
    obtain ⟨d, same⟩ := exists_tightened_unary .nextState c
    rw [same]
    rfl
  | _ => rfl

theorem isTruthValue_tightened (c : Condition) : c.tightened.isTruthValue = c.isTruthValue := by
  fun_cases tightened c with
  | case1 c =>
    obtain ⟨d, same⟩ := exists_tightened_unary .nextState c
    rw [same]
    rfl
  | _ => rfl

/-- Where parentheses are needed, they still are after tightening inside them. -/
theorem tightened_compound {c : Condition} (h : ¬ c.isPrimary) :
    ¬ c.tightened.isPrimary ∧ c.tightened.isNegation = c.isNegation := by
  cases c with
  | unary op c =>
    obtain ⟨d, same⟩ := exists_tightened_unary op c
    rw [same]
    exact ⟨Bool.false_ne_true, by cases op <;> rfl⟩
  | binary op l r => exact ⟨Bool.false_ne_true, rfl⟩
  | _ => exact absurd rfl h

theorem unwrap_of_compound {c : Condition} (h : ¬ c.isPrimary) : c.unwrap = c := by
  cases c with
  | group c => exact absurd rfl h
  | _ => rfl

theorem asOperand_cases (c : Condition) : c.asOperand = c ∨ c.asOperand = group c := by
  unfold asOperand
  split
  · exact .inr rfl
  · exact .inl rfl

theorem unwrap_of_asOperand (c : Condition) : c.asOperand.unwrap = c.unwrap := by
  rcases c.asOperand_cases with same | same
  · rw [same]
  · rw [same, unwrap]

theorem unwrap_asOperand {c : Condition} (h : ¬ c.isPrimary) : c.asOperand.unwrap = c :=
  c.unwrap_of_asOperand.trans (unwrap_of_compound h)

theorem asPrimary_asOperand {c : Condition} (h : ¬ c.isPrimary) : c.asOperand.asPrimary = group c := by
  rcases c.asOperand_cases with same | same
  · rw [same, asPrimary, if_neg h]
  · rw [same]
    rfl

theorem complement_of_ordinary {c : Condition} (noTruthValue : ¬ c.isTruthValue)
    (noNegation : ¬ c.isNegation) : c.complement = c.negate := by
  unfold complement
  split
  · exact absurd rfl noTruthValue
  · exact absurd rfl noTruthValue
  · exact absurd rfl noNegation
  · rfl

theorem not_isTruthValue_of_compound {c : Condition} (h : ¬ c.isPrimary) : ¬ c.isTruthValue := by
  cases c with
  | constant k => exact absurd rfl h
  | _ => exact Bool.false_ne_true

theorem meet_of_not_isTruthValue {l r : Condition} (hl : ¬ l.isTruthValue) (hr : ¬ r.isTruthValue) :
    meet l r = binary .conjunction l r.asOperand := by
  simp_all [isTruthValue, meet]

theorem join_of_not_isTruthValue {l r : Condition} (hl : ¬ l.isTruthValue) (hr : ¬ r.isTruthValue) :
    join l r = binary .disjunction l r.asOperand := by
  simp_all [isTruthValue, join]

theorem simplify_unary_group (op : UnaryOp) {c : Condition} (h : ¬ c.simplify.isPrimary)
    (noNegation : op = .negation → ¬ c.simplify.isNegation) :
    (unary op (group c)).simplify = unary op (group c.simplify) := by
  cases op with
  | negation =>
    show c.simplify.asOperand.unwrap.complement = _
    rw [unwrap_asOperand h,
      complement_of_ordinary (not_isTruthValue_of_compound h) (noNegation rfl), negate, asPrimary,
      if_neg h]
  | nextState =>
    show unary .nextState c.simplify.asOperand.asPrimary = _
    rw [asPrimary_asOperand h]

theorem simplify_of_reduced {c : Condition} (h : c.Reduced) : c.simplify = c.tightened := by
  fun_induction tightened c with
  | case1 c ih =>
    obtain ⟨d, same⟩ := exists_tightened_unary .nextState c
    show (unary .nextState c).simplify.asOperand = _
    rw [ih h.2.2, same]
    rfl
  | case2 c noNext ih =>
    obtain ⟨op, l, r, rfl⟩ := h.of_group noNext
    show (binary op l r).simplify.asOperand = _
    rw [ih h.2.2]
    rfl
  | case3 op c ih =>
    obtain ⟨compound, noNegation, reduced⟩ := h.of_unary_group
    obtain ⟨compound', sameNegation⟩ := tightened_compound compound
    rw [← ih reduced] at compound' sameNegation ⊢
    rw [← sameNegation] at noNegation
    exact simplify_unary_group op compound' noNegation
  | case4 op c noGroup ih =>
    cases op with
    | negation =>
      show c.simplify.unwrap.complement = _
      rcases h.of_unary noGroup with ⟨k, rfl⟩ | ⟨e, rfl⟩ | ⟨l, r, rel, rfl⟩
      · exact complement_of_ordinary h.2.1 Bool.false_ne_true
      · rfl
      · rfl
    | nextState =>
      show unary .nextState c.simplify.asPrimary = _
      rcases h.of_unary noGroup with ⟨k, rfl⟩ | ⟨e, rfl⟩ | ⟨l, r, rel, rfl⟩ <;> rfl
  | case5 op l r ihl ihr =>
    obtain ⟨⟨hl, hr, noChain⟩, noTruthValue⟩ := h
    have operand : r.tightened.asOperand = r.tightened := by
      rw [asOperand, isBinary_tightened, if_neg noChain]
    rw [← isTruthValue_tightened l, ← isTruthValue_tightened r] at noTruthValue
    cases op with
    | conjunction =>
      show meet l.simplify r.simplify = _
      rw [ihl hl, ihr hr, meet_of_not_isTruthValue (noTruthValue rfl).1 (noTruthValue rfl).2, operand]
    | disjunction =>
      show join l.simplify r.simplify = _
      rw [ihl hl, ihr hr, join_of_not_isTruthValue (noTruthValue rfl).1 (noTruthValue rfl).2, operand]
    | strongUntil =>
      show binary .strongUntil l.simplify r.simplify.asOperand = _
      rw [ihl hl, ihr hr, operand]
    | implication =>
      show binary .implication l.simplify r.simplify.asOperand = _
      rw [ihl hl, ihr hr, operand]
  | case6 c noNext noGroup noUnaryGroup noUnary noBinary =>
    cases c with
    | constant k => rfl
    | bare e => rfl
    | compare e op e' => rfl
    | group c => exact (noGroup c rfl).elim
    | unary op c => exact (noUnary op c rfl).elim
    | binary op l r => exact (noBinary op l r rfl).elim

theorem hasLooseNext_tightened {c : Condition} (h : c.Reduced) : c.tightened.hasLooseNext = false := by
  fun_induction tightened c with
  | case1 c ih => exact ih h.2.2
  | case2 c noNext ih =>
    obtain ⟨op, l, r, rfl⟩ := h.of_group noNext
    exact ih h.2.2
  | case3 op c ih => exact ih h.of_unary_group.2.2
  | case4 op c noGroup ih =>
    rcases h.of_unary noGroup with ⟨k, rfl⟩ | ⟨e, rfl⟩ | ⟨l, r, rel, rfl⟩ <;> rfl
  | case5 op l r ihl ihr =>
    rw [hasLooseNext, ihl h.1.1, ihr h.1.2.1]
    rfl
  | case6 c noNext noGroup noUnaryGroup noUnary noBinary =>
    cases c with
    | group c => exact (noGroup c rfl).elim
    | unary op c => exact (noUnary op c rfl).elim
    | binary op l r => exact (noBinary op l r rfl).elim
    | _ => rfl

theorem tightened_eq_self_iff (c : Condition) : c.tightened = c ↔ c.hasLooseNext = false := by
  fun_induction hasLooseNext c with
  | case1 c =>
    obtain ⟨d, same⟩ := exists_tightened_unary .nextState c
    simp [tightened, same]
  | case2 c noNext ih => simp [tightened, ih]
  | case3 op c ih => simp [tightened, ih]
  | case4 op c noGroup ih => simp [tightened, ih]
  | case5 op l r ihl ihr => simp [tightened, ihl, ihr]
  | case6 c noNext noGroup noUnaryGroup noUnary noBinary => simp [tightened, *]

/-- The pass exhausts its rules but for parentheses around next conditions. Exactly if it leaves such
parentheses, a second pass finds work: to drop them. A third pass never does. -/
theorem simplify_exhausts (c : Condition) :
    c.simplify.Reduced ∧ c.simplify.simplify = c.simplify.tightened ∧
      (c.simplify.simplify = c.simplify ↔ c.simplify.hasLooseNext = false) ∧
      c.simplify.simplify.simplify = c.simplify.simplify := by
  have reduced := reduced_simplify c
  have second : c.simplify.simplify = c.simplify.tightened := simplify_of_reduced reduced
  refine ⟨reduced, second, ?_, ?_⟩
  · rw [second]
    exact tightened_eq_self_iff c.simplify
  · have tight : c.simplify.simplify.hasLooseNext = false := by
      rw [second]
      exact hasLooseNext_tightened reduced
    have third := simplify_of_reduced (reduced_simplify c.simplify)
    exact third.trans ((tightened_eq_self_iff _).mpr tight)

/-- A next condition, negated twice. -/
def doublyNegatedNext : Condition :=
  (unary .nextState (bare (.name "x"))).negate.negate

/-- One pass takes away the double negation, a second one the parentheses. -/
theorem simplify_doublyNegatedNext :
    doublyNegatedNext.simplify = group (unary .nextState (bare (.name "x"))) ∧
      doublyNegatedNext.simplify.simplify = unary .nextState (bare (.name "x")) ∧
      doublyNegatedNext.simplify.simplify ≠ doublyNegatedNext.simplify := by
  refine ⟨rfl, rfl, ?_⟩
  exact nofun

end Condition

end TemporalQuery
