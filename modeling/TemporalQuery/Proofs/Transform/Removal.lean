import TemporalQuery.Proofs.Canonical.ParseTree
import TemporalQuery.Proofs.Occurrence
import TemporalQuery.Proofs.Transform.NormalForm
import Mathlib.Data.List.Flatten

/-!
# Simplification only removes

Constants, negations and parentheses apart, a simplified condition is made of what the condition was
made of, in the same order and with some of it left out (`Condition.sublist_pieces_simplify`). So it
says nothing new, and in the shape that is read it does not grow (`Condition.simplify_only_removes`):
there the parentheses around an operand pay for those that are put in.
-/

namespace TemporalQuery

/-- A part of a condition that is neither a constant nor a negation nor a pair of parentheses. -/
inductive Piece
  | comparison (c : Condition)
  | next
  | connective (op : Connective)

namespace Condition

def isComparison : Condition → Bool
  | bare _ | compare .. => true
  | _ => false

/-- Every expression that occurs in `c`; repeated if it occurs repeatedly. -/
def subexpressions : Condition → List Expr
  | constant _ => []
  | bare e => e.subexpressions
  | compare l _ r => l.subexpressions ++ r.subexpressions
  | unary _ c => c.subexpressions
  | group c => c.subexpressions
  | binary _ l r => l.subexpressions ++ r.subexpressions

/-- The number of nodes in the tree of `c`, those of its expressions included. -/
def size (c : Condition) : Nat := c.subformulas.length + c.subexpressions.length

/-- The piece that the root of `c` is. -/
def piece? : Condition → Option Piece
  | bare e => some (.comparison (bare e))
  | compare l op r => some (.comparison (compare l op r))
  | unary .nextState _ => some .next
  | binary op _ _ => some (.connective op)
  | _ => none

def pieces (c : Condition) : List Piece := c.subformulas.filterMap piece?

end Condition

/-- What `f` lists of the comparison that the piece is. -/
def Piece.listed {α : Type} (f : Condition → List α) : Piece → List α
  | comparison c => f c
  | next | connective _ => []

namespace Condition

variable {c d : Condition}

/-! ### What the pieces tell -/

theorem piece?_of_isComparison (h : d.isComparison) : d.piece? = some (.comparison d) := by
  cases d with
  | bare e | compare e op e' => rfl
  | _ => cases h

theorem eq_of_piece? (h : c.piece? = some (.comparison d)) : c = d := by
  cases c with
  | bare e | compare e op e' => exact Piece.comparison.inj (Option.some.inj h)
  | unary op c => cases op <;> cases h
  | _ => cases h

theorem isNext_iff (c : Condition) : c.isNext ↔ c.piece? = some .next := by
  cases c with
  | unary op c => cases op <;> simp [isNext, piece?]
  | _ => simp [isNext, piece?]

theorem isUntil_iff (c : Condition) : c.isUntil ↔ c.piece? = some (.connective .strongUntil) := by
  cases c with
  | unary op c => cases op <;> simp [isUntil, piece?]
  | binary op l r => cases op <;> simp [isUntil, piece?]
  | _ => simp [isUntil, piece?]

theorem pieces_unary_nextState (c : Condition) :
    (unary .nextState c).pieces = .next :: c.pieces := rfl

theorem pieces_binary (op : Connective) (l r : Condition) :
    (binary op l r).pieces = .connective op :: (l.pieces ++ r.pieces) := by
  simp only [pieces, subformulas, List.filterMap_cons, piece?, List.filterMap_append]

/-- What is listed of a condition is listed of its comparisons, from left to right. -/
structure Lists {α : Type} (f : Condition → List α) : Prop where
  constant : ∀ k, f (constant k) = []
  unary : ∀ op c, f (unary op c) = f c
  group : ∀ c, f (group c) = f c
  binary : ∀ op l r, f (binary op l r) = f l ++ f r

theorem lists_names : Lists names :=
  ⟨fun _ => rfl, fun _ _ => rfl, fun _ => rfl, fun _ _ _ => rfl⟩

theorem lists_subexpressions : Lists subexpressions :=
  ⟨fun _ => rfl, fun _ _ => rfl, fun _ => rfl, fun _ _ _ => rfl⟩

theorem Lists.eq_flatMap {α : Type} {f : Condition → List α} (h : Lists f) (c : Condition) :
    f c = c.pieces.flatMap (Piece.listed f) := by
  induction c with
  | constant k => exact h.constant k
  | bare e | compare e op e' => exact (List.append_nil _).symm
  | unary op c ih =>
    rw [h.unary, ih]
    cases op <;> rfl
  | group c ih =>
    rw [h.group, ih]
    rfl
  | binary op l r ihl ihr =>
    rw [h.binary, pieces_binary, List.flatMap_cons, List.flatMap_append, ← ihl, ← ihr]
    rfl

/-! ### No piece is added -/

theorem pieces_asPrimary (c : Condition) : c.asPrimary.pieces = c.pieces := by
  unfold asPrimary
  split <;> rfl

theorem pieces_asOperand (c : Condition) : c.asOperand.pieces = c.pieces := by
  unfold asOperand
  split <;> rfl

theorem pieces_unwrap (c : Condition) : c.unwrap.pieces = c.pieces := by
  induction c with
  | group c ih => exact ih
  | _ => rfl

theorem pieces_complement (c : Condition) : c.complement.pieces = c.pieces := by
  unfold complement
  split
  · rfl
  · rfl
  · rfl
  · exact pieces_asPrimary c

theorem Combined.sublist_pieces {op : Connective} {l r : Condition} (h : Combined op l r c) :
    c.pieces.Sublist (binary op l r).pieces := by
  rw [pieces_binary]
  cases h with
  | constant k => exact List.nil_sublist _
  | left => exact (List.sublist_append_left _ _).cons (Piece.connective op)
  | right => exact (List.sublist_append_right _ _).cons (Piece.connective op)
  | both _ => simp only [pieces_binary, pieces_asOperand, List.Sublist.refl]

/-- Simplification leaves pieces out and keeps the order of the others. -/
theorem sublist_pieces_simplify (c : Condition) : c.simplify.pieces.Sublist c.pieces := by
  induction c with
  | constant k | bare e | compare e op e' => exact List.Sublist.refl _
  | group c ih =>
    rw [simplify, pieces_asOperand]
    exact ih
  | unary op c ih =>
    cases op with
    | negation =>
      rw [simplify, pieces_complement, pieces_unwrap]
      exact ih
    | nextState =>
      rw [simplify, pieces_unary_nextState, pieces_asPrimary]
      exact ih.cons_cons .next
  | binary op l r ihl ihr =>
    have operands : (binary op l.simplify r.simplify).pieces.Sublist (binary op l r).pieces := by
      rw [pieces_binary, pieces_binary]
      exact (ihl.append ihr).cons_cons (.connective op)
    exact (combined_simplify op l r).sublist_pieces.trans operands

/-- Each part of a simplified condition is a piece that the condition has. -/
theorem exists_of_mem_simplify {p : Piece} (mem : d ∈ c.simplify.subformulas)
    (piece : d.piece? = some p) : ∃ s ∈ c.subformulas, s.piece? = some p := by
  have kept : p ∈ c.simplify.pieces := List.mem_filterMap.mpr ⟨d, mem, piece⟩
  exact List.mem_filterMap.mp ((sublist_pieces_simplify c).subset kept)

theorem mem_subformulas_of_simplify (mem : d ∈ c.simplify.subformulas) (comparison : d.isComparison) :
    d ∈ c.subformulas := by
  obtain ⟨s, memS, piece⟩ := exists_of_mem_simplify mem (piece?_of_isComparison comparison)
  rw [← eq_of_piece? piece]
  exact memS

theorem Lists.sublist_simplify {α : Type} {f : Condition → List α} (h : Lists f) (c : Condition) :
    (f c.simplify).Sublist (f c) := by
  rw [h.eq_flatMap, h.eq_flatMap]
  exact (sublist_pieces_simplify c).flatMap (Piece.listed f)

theorem containsUntil_of_simplify (h : c.simplify.containsUntil) : c.containsUntil := by
  obtain ⟨d, mem, isUntil⟩ := List.any_eq_true.mp h
  obtain ⟨s, memS, piece⟩ := exists_of_mem_simplify mem (d.isUntil_iff.mp isUntil)
  exact List.any_eq_true.mpr ⟨s, memS, s.isUntil_iff.mpr piece⟩

theorem isPure_simplify (h : c.isPure) : c.simplify.isPure := by
  rw [isPure_iff] at h ⊢
  intro d mem
  constructor
  · intro isNext
    obtain ⟨s, memS, piece⟩ := exists_of_mem_simplify mem (d.isNext_iff.mp isNext)
    exact (h s memS).1 (s.isNext_iff.mpr piece)
  · intro isUntil
    obtain ⟨s, memS, piece⟩ := exists_of_mem_simplify mem (d.isUntil_iff.mp isUntil)
    exact (h s memS).2 (s.isUntil_iff.mpr piece)

/-! ### No node is added -/

theorem length_asPrimary_le (c : Condition) :
    c.asPrimary.subformulas.length ≤ c.subformulas.length + 1 := by
  unfold asPrimary
  split
  · exact Nat.le_succ _
  · exact Nat.le_refl _

theorem length_asOperand_le (c : Condition) :
    c.asOperand.subformulas.length ≤ c.subformulas.length + 1 := by
  unfold asOperand
  split
  · exact Nat.le_refl _
  · exact Nat.le_succ _

theorem length_unwrap_le (c : Condition) : c.unwrap.subformulas.length ≤ c.subformulas.length := by
  induction c with
  | group c ih => exact Nat.le_succ_of_le ih
  | _ => exact Nat.le_refl _

theorem length_complement_le (c : Condition) :
    c.complement.subformulas.length ≤ c.subformulas.length + 2 := by
  unfold complement
  split
  · exact Nat.le_add_right 1 2
  · exact Nat.le_add_right 1 2
  · rw [subformulas, List.length_cons]
    omega
  · have operand := length_asPrimary_le c
    rw [negate, subformulas, List.length_cons]
    omega

theorem length_binary (op : Connective) (l r : Condition) :
    (binary op l r).subformulas.length = l.subformulas.length + r.subformulas.length + 1 := by
  rw [subformulas, List.length_cons, List.length_append]

theorem Combined.length_le {op : Connective} {l r : Condition} (h : Combined op l r c)
    (single : ¬ r.isBinary) : c.subformulas.length ≤ (binary op l r).subformulas.length := by
  have operands := length_binary op l r
  cases h with
  | constant k => exact Nat.le_add_left 1 _
  | left | right => omega
  | both _ => rw [asOperand, if_neg single]

theorem Reduced.not_isBinary_complement (h : c.Reduced) : ¬ c.complement.isBinary := by
  unfold complement
  split
  · exact Bool.false_ne_true
  · exact Bool.false_ne_true
  · rename_i operand
    obtain ⟨primary, _, _⟩ := h
    cases operand with
    | binary op l r => cases primary
    | _ => exact Bool.false_ne_true
  · exact Bool.false_ne_true

/-- A chain comes from a chain only. -/
theorem not_isBinary_simplify (single : ¬ c.isBinary) : ¬ c.simplify.isBinary := by
  cases c with
  | constant k | bare e | compare e op e' => exact Bool.false_ne_true
  | group c => exact not_isBinary_asOperand c.simplify
  | unary op c =>
    cases op with
    | negation => exact (reduced_unwrap (reduced_simplify c)).not_isBinary_complement
    | nextState => exact Bool.false_ne_true
  | binary op l r => exact absurd rfl single

/-- The condition does not grow, and if it is in parentheses what is inside them gets no longer. -/
structure Shrinks (c : Condition) : Prop where
  le : c.simplify.subformulas.length ≤ c.subformulas.length
  inside : c.isGroup → c.simplify.unwrap.subformulas.length < c.subformulas.length

theorem Shrinks.group (h : c.Shrinks) : (group c).Shrinks := by
  have le := h.le
  have added := length_asOperand_le c.simplify
  have inside := length_unwrap_le c.simplify
  constructor
  · rw [simplify, subformulas, List.length_cons]
    omega
  · intro _
    rw [simplify, unwrap_of_asOperand, subformulas, List.length_cons]
    omega

/-- Parentheses around the operand pay for those that the complement needs. -/
theorem Shrinks.negation (h : c.Shrinks) (primary : c.isPrimary) : (unary .negation c).Shrinks := by
  refine ⟨?_, fun isGroup => absurd isGroup Bool.false_ne_true⟩
  cases c with
  | constant k => cases k <;> decide
  | bare e | compare e op e' => exact Nat.le_refl _
  | group d =>
    have inside := h.inside rfl
    have complement := length_complement_le (Condition.group d).simplify.unwrap
    rw [simplify, subformulas, List.length_cons]
    omega
  | unary op d | binary op l r => cases primary

/-- Parentheses around the operand pay for those that it needs once it is simplified. -/
theorem Shrinks.next (h : c.Shrinks) (primary : c.isPrimary) : (unary .nextState c).Shrinks := by
  refine ⟨?_, fun isGroup => absurd isGroup Bool.false_ne_true⟩
  have le := h.le
  rw [simplify, subformulas, subformulas, List.length_cons, List.length_cons]
  by_cases stays : c.simplify.isPrimary
  · rw [asPrimary, if_pos stays]
    omega
  · have operand := length_asPrimary_le c.simplify
    cases c with
    | group d =>
      have inside := h.inside rfl
      rw [unwrap_of_compound stays] at inside
      omega
    | constant k | bare e | compare e op e' => exact absurd rfl stays
    | unary op d | binary op l r => cases primary

theorem Shrinks.binary {l r : Condition} (op : Connective) (hl : l.Shrinks) (hr : r.Shrinks)
    (single : ¬ r.isBinary) : (binary op l r).Shrinks := by
  refine ⟨?_, fun isGroup => absurd isGroup Bool.false_ne_true⟩
  have left := hl.le
  have right := hr.le
  have combined := (combined_simplify op l r).length_le (not_isBinary_simplify single)
  rw [length_binary] at combined ⊢
  omega

theorem Shaped.shrinks (h : c.Shaped) : c.Shrinks := by
  induction c with
  | constant k | bare e | compare e op e' =>
    exact ⟨Nat.le_refl _, fun isGroup => absurd isGroup Bool.false_ne_true⟩
  | group c ih => exact (ih h.2).group
  | unary op c ih =>
    obtain ⟨primary, shaped⟩ := h
    cases op with
    | negation => exact (ih shaped).negation primary
    | nextState => exact (ih shaped).next primary
  | binary op l r ihl ihr =>
    obtain ⟨left, right, single⟩ := h
    exact (ihl left).binary op (ihr right) single

/-- No comparison, no name and no path operator is in a simplified condition that was not in the
condition, and no node is added to one in the shape that is read. -/
theorem simplify_only_removes (c : Condition) :
    (∀ d ∈ c.simplify.subformulas, d.isComparison → d ∈ c.subformulas) ∧
      c.simplify.names ⊆ c.names ∧
      (c.simplify.containsUntil → c.containsUntil) ∧
      (c.isPure → c.simplify.isPure) ∧
      (c.Shaped → c.simplify.subformulas.length ≤ c.subformulas.length ∧
        c.simplify.size ≤ c.size) := by
  refine ⟨fun d mem comparison => mem_subformulas_of_simplify mem comparison,
    (lists_names.sublist_simplify c).subset, containsUntil_of_simplify, isPure_simplify,
    fun shaped => ?_⟩
  have conditions := shaped.shrinks.le
  have expressions := (lists_subexpressions.sublist_simplify c).length_le
  exact ⟨conditions, Nat.add_le_add conditions expressions⟩

/-- `!(true & !(next x)) | y until z` -/
def cluttered : Condition :=
  binary .strongUntil
    (binary .disjunction
      (unary .negation (group (binary .conjunction (constant .truth)
        (unary .negation (group (unary .nextState (bare (.name "x"))))))))
      (bare (.name "y")))
    (bare (.name "z"))

/-- Of its 15 nodes, 10 are left in `(next x) | y until z`. -/
theorem cluttered_only_removes :
    cluttered.Shaped ∧ cluttered.size = 15 ∧ cluttered.simplify.size = 10 ∧
      cluttered.simplify.size ≤ cluttered.size ∧ cluttered.simplify.names ⊆ cluttered.names := by
  have shaped : cluttered.Shaped := by
    simp [cluttered, Shaped, Expr.Shaped, isPrimary, isBare, isBinary]
  obtain ⟨_, names, _, _, nodes⟩ := simplify_only_removes cluttered
  exact ⟨shaped, rfl, rfl, (nodes shaped).2, names⟩

end Condition

end TemporalQuery
