import TemporalQuery.Canonical
import TemporalQuery.Proofs.Transform.NormalForm

/-!
# Nothing is left to simplify

At no node of a simplified condition is there a constant to absorb, a double negation or a doubled pair
of parentheses, and none is written with parentheses added (`Condition.simplify_irreducible`).
Parentheses hide nothing: operands are looked at inside them.
-/

namespace TemporalQuery.Condition

/-- No constant is absorbed and no negation cancelled at the node, were the parentheses around its
operands taken away, and it is not a pair of parentheses around another. -/
def Irreducible : Condition → Prop
  | unary .negation c => ¬ c.unwrap.isTruthValue ∧ ¬ c.unwrap.isNegation
  | binary .conjunction l r | binary .disjunction l r =>
    ¬ l.unwrap.isTruthValue ∧ ¬ r.unwrap.isTruthValue
  | group c => ¬ c.isGroup
  | _ => True

/-- The node is written with the texts of its operands as they are, no parentheses added to them. -/
def WrittenPlainly : Condition → Prop
  | unary op c => (unary op c).text = op.symbol ++ c.text
  | binary op l r => (binary op l r).text = l.text ++ " " ++ op.symbol ++ " " ++ r.text
  | _ => True

variable {c : Condition}

theorem writtenPlainly_unary (op : UnaryOp) (primary : c.isPrimary) : (unary op c).WrittenPlainly := by
  simp only [WrittenPlainly, text, if_pos primary]

theorem writtenPlainly_binary (op : Connective) (l : Condition) {r : Condition} (single : ¬ r.isBinary) :
    (binary op l r).WrittenPlainly := by
  simp only [WrittenPlainly, text, if_neg single]

theorem not_isGroup_of_compound (h : ¬ c.isPrimary) : ¬ c.isGroup := by
  cases c with
  | group d => exact absurd rfl h
  | _ => exact Bool.false_ne_true

theorem Reduced.not_isTruthValue_unwrap (h : c.Reduced) (ordinary : ¬ c.isTruthValue) :
    ¬ c.unwrap.isTruthValue := by
  cases c with
  | group d =>
    obtain ⟨compound, _, _⟩ := h
    rw [unwrap, unwrap_of_compound compound]
    exact not_isTruthValue_of_compound compound
  | _ => exact ordinary

theorem Reduced.not_isNegation_unwrap (h : c.Reduced) (primary : c.isPrimary) :
    ¬ c.unwrap.isNegation := by
  cases c with
  | group d =>
    obtain ⟨compound, noNegation, _⟩ := h
    rw [unwrap, unwrap_of_compound compound]
    exact noNegation
  | constant k | bare e | compare e op e' => exact Bool.false_ne_true
  | unary op d | binary op l r => cases primary

theorem Reduced.irreducible_negation (h : (unary .negation c).Reduced) :
    (unary .negation c).Irreducible := by
  obtain ⟨primary, ordinary, reduced⟩ := h
  exact ⟨reduced.not_isTruthValue_unwrap ordinary, reduced.not_isNegation_unwrap primary⟩

theorem Reduced.irreducible_binary {op : Connective} {l r : Condition} (h : (binary op l r).Reduced) :
    (binary op l r).Irreducible := by
  obtain ⟨⟨left, right, _⟩, ordinary⟩ := h
  cases op with
  | conjunction | disjunction =>
    obtain ⟨ordinaryLeft, ordinaryRight⟩ := ordinary rfl
    exact ⟨left.not_isTruthValue_unwrap ordinaryLeft, right.not_isTruthValue_unwrap ordinaryRight⟩
  | strongUntil | implication => trivial

/-- What one pass reaches holds at every node. -/
theorem Reduced.irreducible (h : c.Reduced) :
    ∀ d ∈ c.subformulas, d.Irreducible ∧ d.WrittenPlainly := by
  -- Not on the constructors: parentheses may be around a negation where `next` is in front of them.
  induction c using Reduced.induct with
  | case1 k | case2 e | case3 e op e' =>
    rw [subformulas, List.forall_mem_singleton]
    exact ⟨trivial, trivial⟩
  | case4 c ih =>
    obtain ⟨compound, _, reduced⟩ := h
    rw [subformulas, List.forall_mem_cons]
    exact ⟨⟨not_isGroup_of_compound compound, trivial⟩, ih reduced⟩
  | case5 c ih =>
    rw [subformulas, List.forall_mem_cons]
    exact ⟨⟨h.irreducible_negation, writtenPlainly_unary .negation h.1⟩, ih h.2.2⟩
  | case6 c ih =>
    obtain ⟨compound, reduced⟩ := h
    rw [subformulas, subformulas, List.forall_mem_cons, List.forall_mem_cons]
    exact ⟨⟨trivial, writtenPlainly_unary .nextState rfl⟩,
      ⟨not_isGroup_of_compound compound, trivial⟩, ih reduced⟩
  | case7 c noGroup ih =>
    obtain ⟨primary, reduced⟩ : c.isPrimary ∧ c.Reduced := by
      cases c with
      | group d => exact (noGroup d rfl).elim
      | _ => exact h
    rw [subformulas, List.forall_mem_cons]
    exact ⟨⟨trivial, writtenPlainly_unary .nextState primary⟩, ih reduced⟩
  | case8 op l r ihl ihr =>
    have irreducible := h.irreducible_binary
    obtain ⟨⟨left, right, single⟩, _⟩ := h
    rw [subformulas, List.forall_mem_cons, List.forall_mem_append]
    exact ⟨⟨irreducible, writtenPlainly_binary op l single⟩, ihl left, ihr right⟩

/-- No rule applies at any node of a simplified condition, nor does any operand have to be put in
parentheses to be written. -/
theorem simplify_irreducible (c : Condition) :
    ∀ d ∈ c.simplify.subformulas, d.Irreducible ∧ d.WrittenPlainly :=
  (reduced_simplify c).irreducible

/-- `!((!(!(true) | x) & !y))` -/
def knotted : Condition :=
  unary .negation (group (group (binary .conjunction
    (unary .negation (group (binary .disjunction
      (unary .negation (group (constant .truth))) (bare (.name "x")))))
    (unary .negation (bare (.name "y"))))))

/-- `!x & !y` -/
def untied : Condition :=
  binary .conjunction (unary .negation (bare (.name "x"))) (unary .negation (bare (.name "y")))

theorem knotted_irreducible :
    knotted.simplify = unary .negation (group untied) ∧ untied ∈ knotted.simplify.subformulas ∧
      untied.Irreducible ∧ untied.WrittenPlainly :=
  have mem : untied ∈ knotted.simplify.subformulas := by decide
  ⟨rfl, mem, simplify_irreducible knotted untied mem⟩

end TemporalQuery.Condition
